import TrafficPlane.Snapshot.Store

/-!
# A store that clients share

Any number of clients use one store. To hand out a version and to read are single moves, which may
come at any time. To publish takes several moves: the client takes a lock first, checks the snapshot,
compares its version with the live one, puts it in place, announces its version, and gives the lock
back. No two clients publish at once, but others may move in between.

## Main definitions

* `Publication`: what the client that has the lock publishes, and how far it has got
* `SharedStore.step`: one client moves
* `SharedStore.after`, `SharedStore.answer`: what a schedule of moves comes to
-/

namespace TrafficPlane

/-- How far a publication has got. -/
inductive PublishStage where
  | locked
  /-- The references of the snapshot are sound. -/
  | checked
  /-- The snapshot is newer than the live one. -/
  | admitted
  /-- The snapshot is live. -/
  | inPlace
  | announced
deriving DecidableEq, Repr

/-- What the client that has the lock publishes, and how far it has got. -/
structure Publication where
  client : Nat
  snapshot : Snapshot
  stage : PublishStage := .locked

/-- A store with the publication in progress, if there is one. -/
structure SharedStore where
  store : Store := {}
  publication : Option Publication := none

/-- What a client does next. -/
inductive Action where
  | reserve
  /-- Takes the lock to publish a snapshot. While it is taken, the client waits. -/
  | publish (snapshot : Snapshot)
  /-- Gets on with its publication. -/
  | proceed
  | readLive
  /-- Looks at the announced version. -/
  | look

/-- One client does something. -/
structure Move where
  client : Nat
  action : Action

/-- What a client is told. -/
inductive Answer where
  | reserved (version : Nat)
  | published (verdict : Except InternalCause Snapshot)
  | live (snapshot : Snapshot)
  | looked (subscription : Subscription)

namespace SharedStore

/-- The client that has the lock gets on with its publication. -/
def proceed (shared : SharedStore) (publication : Publication) : Option Answer × SharedStore :=
  let snapshot := publication.snapshot
  match publication.stage with
  | .locked =>
    match snapshot.check with
    | .error cause => (some (.published (.error cause)), { shared with publication := none })
    | .ok () => (none, { shared with publication := some { publication with stage := .checked } })
  | .checked =>
    if snapshot.version ≤ shared.store.live.version then
      (some (.published (.error (.staleVersion snapshot.version shared.store.live.version))),
        { shared with publication := none })
    else (none, { shared with publication := some { publication with stage := .admitted } })
  | .admitted =>
    (none, {
      store := { shared.store with live := snapshot }
      publication := some { publication with stage := .inPlace } })
  | .inPlace =>
    (none, {
      store := { shared.store with announced := snapshot.version }
      publication := some { publication with stage := .announced } })
  | .announced => (some (.published (.ok snapshot)), { shared with publication := none })

/-- One client moves. -/
def step (shared : SharedStore) (move : Move) : Option Answer × SharedStore :=
  match move.action with
  | .reserve =>
    let (version, store) := shared.store.reserve
    (some (.reserved version), { shared with store })
  | .publish snapshot =>
    match shared.publication with
    | some _ => (none, shared)
    | none => (none, { shared with publication := some { client := move.client, snapshot } })
  | .proceed =>
    match shared.publication with
    | some publication =>
      if publication.client = move.client then shared.proceed publication else (none, shared)
    | none => (none, shared)
  | .readLive => (some (.live shared.store.live), shared)
  | .look => (some (.looked (.look shared.store)), shared)

/-- A new store after as many moves of a schedule. -/
def after (schedule : Nat → Move) : Nat → SharedStore
  | 0 => {}
  | t + 1 => ((after schedule t).step (schedule t)).2

/-- What a client is told that moves after as many other moves. -/
def answer (schedule : Nat → Move) (t : Nat) : Option Answer :=
  ((after schedule t).step (schedule t)).1

end SharedStore

end TrafficPlane
