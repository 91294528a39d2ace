import Mathlib.Logic.Relation
import TrafficPlane.Pass.Run

/-!
# Making bundles side by side

A pass hands each spec to a task of its own. No more of them make bundles at once than there are
permits, and they get on in any order. Their results are collected as they finish, each under the
name of the spec that the task was given. Only then are the specs decided, in the order of their
names, so the store is not touched before all tasks are done. What tasks warn of comes in the order
in which they make their bundles.

## Main definitions

* `Pool`: the tasks of a pass, and what has been collected from them
* `Pool.Step`: one task gets on
* `Pool.Reaches`: the pool that has been made of the specs of a pass may come to another one
* `assembleFrom`: decides all specs by the results that were collected
-/

namespace TrafficPlane

/-- How far a task has got. -/
inductive TaskStage where
  /-- It waits for a permit. -/
  | waiting
  | running
  /-- It has given its permit back, and its result may be collected. -/
  | finished (result : Except Fault Bundle)

/-- The task holds a permit. -/
def TaskStage.isRunning : TaskStage → Bool
  | running => true
  | _ => false

/-- A task that makes the bundle of a spec. -/
structure Task where
  id : Nat
  spec : RoutingSpec
  stage : TaskStage := .waiting

/-- The tasks of a pass, and what has been collected from them. -/
structure Pool where
  /-- The specs that have not been given to a task yet. -/
  unspawned : List (QualifiedName × RoutingSpec)
  /-- The tasks whose results have not been collected yet. -/
  tasks : List Task := []
  /-- The names of the specs that tasks were given, by the numbers of the tasks. -/
  names : List (Nat × QualifiedName) := []
  results : KeyMap (Except Fault Bundle) := .empty
  /-- What the tasks have warned of. -/
  warnings : List Warning := []

namespace Pool

/-- The number of permits that are in use. -/
def running (pool : Pool) : Nat :=
  pool.tasks.countP (·.stage.isRunning)

/-- The results with one more, if it is known whose result it is. -/
def resultsWith (pool : Pool) (id : Nat) (result : Except Fault Bundle) :
    KeyMap (Except Fault Bundle) :=
  match pool.names.lookup id with
  | some key => pool.results.insert key result
  | none => pool.results

/-- One task gets on. -/
inductive Step (permits : Nat) (index : MembershipIndex) (pool : Pool) : Pool → Prop
  /-- The next spec is given to a new task, under a number that no task has at present. -/
  | spawn (key : QualifiedName) (spec : RoutingSpec) (rest : List (QualifiedName × RoutingSpec))
      (id : Nat) (hnext : pool.unspawned = (key, spec) :: rest)
      (hfresh : ∀ task ∈ pool.tasks, task.id ≠ id) :
    Step permits index pool { pool with
      unspawned := rest
      tasks := pool.tasks ++ [{ id, spec }]
      names := (id, key) :: pool.names }
  /-- A task gets a permit, while there is one. -/
  | start (before after : List Task) (task : Task) (htasks : pool.tasks = before ++ task :: after)
      (hstage : task.stage = .waiting) (hfree : pool.running < permits) :
    Step permits index pool { pool with
      tasks := before ++ { task with stage := .running } :: after }
  | finish (before after : List Task) (task : Task) (htasks : pool.tasks = before ++ task :: after)
      (hstage : task.stage = .running) :
    Step permits index pool { pool with
      tasks := before ++
        { task with stage := .finished (Bundle.synthesize task.spec index) } :: after
      warnings := pool.warnings ++ task.spec.warnings }
  /-- A result is collected. This begins when all specs have been given to tasks. -/
  | collect (before after : List Task) (task : Task) (result : Except Fault Bundle)
      (hspawned : pool.unspawned = []) (htasks : pool.tasks = before ++ task :: after)
      (hstage : task.stage = .finished result) :
    Step permits index pool { pool with
      tasks := before ++ after
      names := pool.names.filter (·.1 ≠ task.id)
      results := pool.resultsWith task.id result }

/-- The results of all specs have been collected. -/
def Done (pool : Pool) : Prop :=
  pool.unspawned = [] ∧ pool.tasks = []

/-- A pass over these specs may have this pool at some time. There is one permit at least. -/
def Reaches (parallelism : Nat) (index : MembershipIndex) (specs : KeyMap RoutingSpec) :
    Pool → Prop :=
  Relation.ReflTransGen (Step (max parallelism 1) index) { unspawned := specs.entries }

end Pool

/-- The fault of a spec that no result was collected for. -/
def Fault.resultMissing : Fault :=
  .internal (.reported "synthesis result missing")

/-- Decides one spec after the other by the results that were collected for them, each of which is
taken out as its turn comes. -/
def Tally.addAll (previous : Snapshot) (tally : Tally) (results : KeyMap (Except Fault Bundle)) :
    List QualifiedName → Tally
  | [] => tally
  | key :: rest =>
    let fresh := (results.find? key).getD (.error .resultMissing)
    Tally.addAll previous (tally.add previous key fresh) (results.erase key) rest

/-- Decides all specs by the results that were collected for them, in the order of their names. -/
def assembleFrom (previous : Snapshot) (results : KeyMap (Except Fault Bundle))
    (specs : KeyMap RoutingSpec) : Tally :=
  Tally.addAll previous {} results specs.keys

end TrafficPlane
