import TrafficPlane.Text.Case

/-!
# Requests

The parts of a request that routes look at.

## Main definitions

* `Request`: a path and headers
* `Request.withHeader`, `Request.header?`: headers by name, without regard to case
-/

namespace TrafficPlane

/-- A request. The names of its headers are in lower case, and the header set last comes first. -/
structure Request where
  path : String
  headers : List (String × String) := []
deriving Repr, DecidableEq, Inhabited

namespace Request

/-- The request with one more header, which takes the place of an earlier one of its name. -/
def withHeader (request : Request) (name value : String) : Request :=
  { request with headers := (Text.toLower name, value) :: request.headers }

/-- The request with these headers, set one after the other. -/
def ofHeaders (path : String) (headers : List (String × String)) : Request :=
  headers.foldl (fun request header => request.withHeader header.1 header.2) { path }

/-- The value of a header. -/
def header? (request : Request) (name : String) : Option String :=
  request.headers.lookup (Text.toLower name)

end Request

end TrafficPlane
