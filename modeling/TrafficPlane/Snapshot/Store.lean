import TrafficPlane.Snapshot.Basic

/-!
# The snapshot store

The store holds the one snapshot that is live. A new one takes its place whole, and only if its
references are sound and its version is newer.

## Main definitions

* `Store.reserve`: hands out a version
* `Store.publish`: puts a snapshot in the place of the live one
* `Subscription`: what one reader has seen of the versions that were announced
-/

namespace TrafficPlane

/-- The live snapshot, the version that is handed out next, and the version that subscribers are
told of. -/
structure Store where
  live : Snapshot := .empty
  nextVersion : Nat := 1
  announced : Nat := 0

namespace Store

/-- Hands out a version. None is handed out twice. -/
def reserve (store : Store) : Nat × Store :=
  (store.nextVersion, { store with nextVersion := store.nextVersion + 1 })

/-- A snapshot may take the place of the live one. -/
def accepts (store : Store) (snapshot : Snapshot) : Except InternalCause Unit :=
  match snapshot.check with
  | .error cause => .error cause
  | .ok () =>
    if snapshot.version ≤ store.live.version then
      .error (.staleVersion snapshot.version store.live.version)
    else .ok ()

/-- Puts a snapshot in the place of the live one and announces its version. -/
def publish (store : Store) (snapshot : Snapshot) : Except InternalCause Store :=
  match store.accepts snapshot with
  | .error cause => .error cause
  | .ok () => .ok { store with live := snapshot, announced := snapshot.version }

end Store

/-- The last announced version that a reader has looked at. -/
structure Subscription where
  seen : Nat := 0
deriving DecidableEq, Repr, Inhabited

namespace Subscription

/-- A version has been announced since the reader last looked. -/
def changed (subscription : Subscription) (store : Store) : Bool :=
  subscription.seen != store.announced

/-- The reader looks at the announced version. -/
def look (store : Store) : Subscription where
  seen := store.announced

end Subscription

end TrafficPlane
