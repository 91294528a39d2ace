import Mathlib.Data.Fintype.EquivFin
import TrafficPlane.Pass.Pool
import TrafficPlane.Proofs.Assembly

/-!
# Tasks side by side

How many tasks make bundles at once, and which of them gets on when, is decided outside of a pass.
It makes no difference to what is decided: each spec is decided by the result of its own task,
whenever that one was collected, and the specs are decided in the order of their names.

## Main definitions

* `Pool.Keeps`: no spec is lost in a pool, and none gets the result of another
* `Pool.work`: how much is left to be done
* `Pool.pending`: what is left to be warned of
* `Pool.AllFinished`: no task is at work

## Main results

* `Pool.Step.keeps`, `Pool.Step.work_lt`, `Pool.exists_step`: what a step does, and that there is one
* `Pool.find?_results_of_done`: when all tasks are done, each spec has the result of its own task
* `Pool.Reaches.warnings_perm`: when all tasks are done, each spec has been warned of once
* `Pool.exists_done_in_turn`: bundles may be made in turn, in the order of the names of the specs
* `assembleFrom_eq`: specs are decided as if their bundles were made in turn
-/

namespace TrafficPlane

variable {specs : KeyMap RoutingSpec} {index : MembershipIndex} {permits : Nat}

/-! ### One step of a pool -/

/-- Names of other numbers are found as before when those of one number are taken out. -/
theorem lookup_filter_of_ne {names : List (Nat × QualifiedName)} {id other : Nat}
    (h : other ≠ id) : (names.filter (·.1 ≠ id)).lookup other = names.lookup other := by
  induction names with
  | nil => rfl
  | cons first rest ih =>
    obtain ⟨number, name⟩ := first
    by_cases hid : number = id
    · have hother : (other == number) = false := by simpa [hid] using h
      rw [List.filter_cons_of_neg (by simpa using hid), List.lookup_cons, hother]
      exact ih
    · rw [List.filter_cons_of_pos (by simpa using hid), List.lookup_cons, List.lookup_cons, ih]

namespace Pool

variable {pool next : Pool} {before after : List Task} {task : Task}

/-- A task among others is one of all tasks, and so are the others. -/
theorem mem_of_split {tasks : List Task} (h : tasks = before ++ task :: after) :
    task ∈ tasks ∧ ∀ other ∈ before ++ after, other ∈ tasks := by
  subst h
  refine ⟨List.mem_append_right _ List.mem_cons_self, fun other hother => ?_⟩
  exact ((List.sublist_cons_self task after).append_left before).subset hother

/-- Each spec of a pass waits for a task, or a task has it, or its result has been collected. What
is known of tasks is right: whose spec they have, and what their result is. -/
structure Keeps (pool : Pool) (index : MembershipIndex) (specs : KeyMap RoutingSpec) : Prop where
  unspawned_listed : ∀ entry ∈ pool.unspawned, specs.find? entry.1 = some entry.2
  nodup_ids : (pool.tasks.map (·.id)).Nodup
  named : ∀ task ∈ pool.tasks, ∃ key, pool.names.lookup task.id = some key ∧
    specs.find? key = some task.spec
  finished : ∀ task ∈ pool.tasks, ∀ result, task.stage = .finished result →
    result = Bundle.synthesize task.spec index
  accounted : ∀ key spec, specs.find? key = some spec → (key, spec) ∈ pool.unspawned ∨
    (∃ task ∈ pool.tasks, pool.names.lookup task.id = some key) ∨
      pool.results.find? key = some (Bundle.synthesize spec index)

/-- At first all specs wait for tasks. -/
theorem keeps_start : Keeps { unspawned := specs.entries } index specs where
  unspawned_listed := fun _ hentry => KeyMap.mem_entries_iff.mp hentry
  nodup_ids := List.nodup_nil
  named := nofun
  finished := nofun
  accounted := fun _ _ hspec => .inl (KeyMap.mem_entries_iff.mpr hspec)

/-- A new task has its own number, so the names of the others are found as before. -/
theorem Keeps.spawn (h : pool.Keeps index specs) {key : QualifiedName} {spec : RoutingSpec}
    {rest : List (QualifiedName × RoutingSpec)} {id : Nat}
    (hnext : pool.unspawned = (key, spec) :: rest) (hfresh : ∀ task ∈ pool.tasks, task.id ≠ id) :
    Keeps { pool with
      unspawned := rest
      tasks := pool.tasks ++ [{ id, spec }]
      names := (id, key) :: pool.names } index specs := by
  have hlookup : ∀ task ∈ pool.tasks,
      ((id, key) :: pool.names).lookup task.id = pool.names.lookup task.id := by
    intro task htask
    have hne : (task.id == id) = false := by simpa using hfresh task htask
    rw [List.lookup_cons, hne]
  constructor
  case unspawned_listed =>
    intro entry hentry
    exact h.unspawned_listed entry (hnext ▸ List.mem_cons_of_mem _ hentry)
  case nodup_ids =>
    rw [List.map_append]
    refine h.nodup_ids.append (List.nodup_singleton _) ?_
    intro number hold hnew
    obtain ⟨task, htask, rfl⟩ := List.mem_map.mp hold
    exact hfresh task htask (List.mem_singleton.mp hnew)
  case named =>
    intro task htask
    rcases List.mem_append.mp htask with hold | hnew
    · rw [hlookup task hold]
      exact h.named task hold
    · obtain rfl := List.mem_singleton.mp hnew
      refine ⟨key, by simp, ?_⟩
      exact h.unspawned_listed (key, spec) (hnext ▸ List.mem_cons_self)
  case finished =>
    intro task htask result hresult
    rcases List.mem_append.mp htask with hold | hnew
    · exact h.finished task hold result hresult
    · obtain rfl := List.mem_singleton.mp hnew
      cases hresult
  case accounted =>
    intro key' spec' hspec
    rcases h.accounted key' spec' hspec with hwaits | ⟨task, htask, hname⟩ | hresult
    · rw [hnext] at hwaits
      rcases List.mem_cons.mp hwaits with heq | hrest
      · -- this is the spec that the new task has
        obtain ⟨rfl, rfl⟩ := Prod.mk.inj heq
        exact .inr (.inl ⟨_, List.mem_append_right _ List.mem_cons_self, by simp⟩)
      · exact .inl hrest
    · refine .inr (.inl ⟨task, List.mem_append_left _ htask, ?_⟩)
      exact (hlookup task htask).trans hname
    · exact .inr (.inr hresult)

/-- How far a task has got and what it warns of is its own concern, as long as its result is that of
its spec. -/
theorem Keeps.setStage (h : pool.Keeps index specs) (htasks : pool.tasks = before ++ task :: after)
    {stage : TaskStage} (hstage : ∀ result, stage = .finished result →
      result = Bundle.synthesize task.spec index) (warnings : List Warning) :
    Keeps { pool with tasks := before ++ { task with stage } :: after, warnings } index specs := by
  obtain ⟨htask, hothers⟩ := mem_of_split htasks
  have hcases : ∀ other ∈ before ++ { task with stage } :: after,
      other ∈ before ++ after ∨ other = { task with stage } := by
    intro other hother
    rcases List.mem_append.mp hother with hbefore | hrest
    · exact .inl (List.mem_append_left _ hbefore)
    · rcases List.mem_cons.mp hrest with rfl | hafter
      · exact .inr rfl
      · exact .inl (List.mem_append_right _ hafter)
  constructor
  case unspawned_listed => exact h.unspawned_listed
  case nodup_ids =>
    have hids := h.nodup_ids
    rw [htasks] at hids
    simpa using hids
  case named =>
    intro other hother
    rcases hcases other hother with hsame | rfl
    · exact h.named other (hothers other hsame)
    · exact h.named task htask
  case finished =>
    intro other hother result hresult
    rcases hcases other hother with hsame | rfl
    · exact h.finished other (hothers other hsame) result hresult
    · exact hstage result hresult
  case accounted =>
    intro key spec hspec
    refine (h.accounted key spec hspec).imp_right (Or.imp_left ?_)
    rintro ⟨other, hother, hname⟩
    rw [htasks] at hother
    rcases List.mem_append.mp hother with hbefore | hrest
    · exact ⟨other, List.mem_append_left _ hbefore, hname⟩
    · rcases List.mem_cons.mp hrest with rfl | hafter
      · exact ⟨_, List.mem_append_right _ List.mem_cons_self, hname⟩
      · exact ⟨other, List.mem_append_right _ (List.mem_cons_of_mem _ hafter), hname⟩

/-- A result is collected under the name of its own spec, and no other task goes by its number. -/
theorem Keeps.collect (h : pool.Keeps index specs) (htasks : pool.tasks = before ++ task :: after)
    {result : Except Fault Bundle} (hresult : task.stage = .finished result) :
    Keeps { pool with
      tasks := before ++ after
      names := pool.names.filter (·.1 ≠ task.id)
      results := pool.resultsWith task.id result } index specs := by
  obtain ⟨htask, hothers⟩ := mem_of_split htasks
  obtain ⟨hnumber, hids⟩ : task.id ∉ (before ++ after).map (·.id) ∧
      ((before ++ after).map (·.id)).Nodup := by
    have hids := h.nodup_ids
    rw [htasks, List.map_append, List.map_cons, List.nodup_middle, ← List.map_append] at hids
    exact List.nodup_cons.mp hids
  have hlookup : ∀ other ∈ before ++ after,
      (pool.names.filter (·.1 ≠ task.id)).lookup other.id = pool.names.lookup other.id := by
    intro other hother
    refine lookup_filter_of_ne fun heq => hnumber ?_
    exact heq ▸ List.mem_map_of_mem hother
  obtain ⟨owner, hname, howned⟩ := h.named task htask
  have hresults : pool.resultsWith task.id result = pool.results.insert owner result := by
    rw [resultsWith, hname]
  constructor
  case unspawned_listed => exact h.unspawned_listed
  case nodup_ids => exact hids
  case named =>
    intro other hother
    rw [hlookup other hother]
    exact h.named other (hothers other hother)
  case finished => exact fun other hother => h.finished other (hothers other hother)
  case accounted =>
    intro key spec hspec
    rw [hresults, KeyMap.find?_insert]
    by_cases hkey : key = owner
    · -- the collected result is that of the spec, as its task had this spec
      subst hkey
      obtain rfl := Option.some.inj (howned.symm.trans hspec)
      rw [if_pos rfl, h.finished task htask result hresult]
      exact .inr (.inr rfl)
    · rw [if_neg hkey]
      refine (h.accounted key spec hspec).imp_right (Or.imp_left ?_)
      rintro ⟨other, hother, hother'⟩
      have hmem : other ∈ before ++ after := by
        rw [htasks, List.mem_append, List.mem_cons] at hother
        rw [List.mem_append]
        refine hother.imp_right (Or.resolve_left · ?_)
        rintro rfl
        exact hkey (Option.some.inj (hother'.symm.trans hname))
      exact ⟨other, hmem, (hlookup other hmem).trans hother'⟩

theorem Step.keeps (hstep : Step permits index pool next) (h : pool.Keeps index specs) :
    next.Keeps index specs := by
  cases hstep with
  | spawn key spec rest id hnext hfresh => exact h.spawn hnext hfresh
  | start before after task htasks hstage hfree =>
    refine h.setStage htasks ?_ pool.warnings
    exact fun _ hresult => nomatch hresult
  | finish before after task htasks hstage =>
    refine h.setStage htasks (fun result hresult => ?_) _
    exact (TaskStage.finished.inj hresult).symm
  | collect before after task result hspawned htasks hstage => exact h.collect htasks hstage

theorem Reaches.keeps {parallelism : Nat} (h : Reaches parallelism index specs pool) :
    pool.Keeps index specs := by
  induction h with
  | refl => exact keeps_start
  | tail _ hstep ih => exact hstep.keeps ih

/-! ### The end of a pool -/

/-- When all tasks are done, each spec has the result of its own task. -/
theorem find?_results_of_done {parallelism : Nat} (h : Reaches parallelism index specs pool)
    (hdone : pool.Done) {key : QualifiedName} {spec : RoutingSpec}
    (hspec : specs.find? key = some spec) :
    pool.results.find? key = some (Bundle.synthesize spec index) := by
  obtain ⟨hunspawned, htasks⟩ := hdone
  rcases h.keeps.accounted key spec hspec with hwaits | ⟨task, htask, -⟩ | hresult
  · exact absurd (hunspawned ▸ hwaits) List.not_mem_nil
  · exact absurd (htasks ▸ htask) List.not_mem_nil
  · exact hresult

end Pool

/-- The number of steps that a task still has to take. -/
def TaskStage.work : TaskStage → Nat
  | waiting => 3
  | running => 2
  | finished _ => 1

namespace Pool

variable {pool next : Pool}

/-- The number of steps that are left until all tasks are done. -/
def work (pool : Pool) : Nat :=
  4 * pool.unspawned.length + (pool.tasks.map (·.stage.work)).foldr (· + ·) 0

/-- What one task still has to do counts beside what the others have. -/
theorem foldr_work_split (before after : List Task) (task : Task) :
    ((before ++ task :: after).map (·.stage.work)).foldr (· + ·) 0 =
      task.stage.work + ((before ++ after).map (·.stage.work)).foldr (· + ·) 0 := by
  induction before with
  | nil => rfl
  | cons first rest ih =>
    simp only [List.cons_append, List.map_cons, List.foldr_cons, ih]
    omega

/-- There is less to do after each step, so no schedule goes on forever. -/
theorem Step.work_lt (hstep : Step permits index pool next) : next.work < pool.work := by
  cases hstep with
  | spawn key spec rest id hnext hfresh =>
    -- a spec that has no task yet counts for more than a task that waits
    rw [work, work, hnext, foldr_work_split, List.append_nil, List.length_cons]
    dsimp only [TaskStage.work]
    omega
  | start before after task htasks hstage hfree =>
    rw [work, work, htasks, foldr_work_split, foldr_work_split, hstage]
    dsimp only [TaskStage.work]
    omega
  | finish before after task htasks hstage =>
    rw [work, work, htasks, foldr_work_split, foldr_work_split, hstage]
    dsimp only [TaskStage.work]
    omega
  | collect before after task result hspawned htasks hstage =>
    rw [work, work, htasks, foldr_work_split, hstage]
    dsimp only [TaskStage.work]
    omega

/-- While there is a permit at all, tasks that are not done never wait for each other. -/
theorem exists_step (hpermits : 0 < permits) (h : ¬ pool.Done) :
    ∃ next, Step permits index pool next := by
  cases hunspawned : pool.unspawned with
  | cons entry rest =>
    obtain ⟨id, hfresh⟩ := Infinite.exists_notMem_finset (pool.tasks.map (·.id)).toFinset
    rw [List.mem_toFinset] at hfresh
    refine ⟨_, .spawn entry.1 entry.2 rest id hunspawned fun task htask heq => hfresh ?_⟩
    exact heq ▸ List.mem_map_of_mem htask
  | nil =>
    obtain ⟨task, htask⟩ := List.exists_mem_of_ne_nil _ fun hnil => h ⟨hunspawned, hnil⟩
    obtain ⟨before, after, htasks⟩ := List.append_of_mem htask
    cases hstage : task.stage with
    | finished result => exact ⟨_, .collect before after task result hunspawned htasks hstage⟩
    | running => exact ⟨_, .finish before after task htasks hstage⟩
    | waiting =>
      by_cases hfree : pool.running < permits
      · exact ⟨_, .start before after task htasks hstage hfree⟩
      · -- all permits are in use, so some other task is running and can finish
        have hrunning : 0 < pool.running := Nat.lt_of_lt_of_le hpermits (Nat.not_lt.mp hfree)
        obtain ⟨other, hother, hruns⟩ := List.countP_pos_iff.mp hrunning
        obtain ⟨before, after, htasks⟩ := List.append_of_mem hother
        cases hstage : other.stage with
        | running => exact ⟨_, .finish before after other htasks hstage⟩
        | waiting => simp [hstage, TaskStage.isRunning] at hruns
        | finished result => simp [hstage, TaskStage.isRunning] at hruns

/-- Wherever the tasks have got, they may all come to be done. -/
theorem exists_done (hpermits : 0 < permits) (pool : Pool) :
    ∃ last, Relation.ReflTransGen (Step permits index) pool last ∧ last.Done := by
  induction hwork : pool.work using Nat.strong_induction_on generalizing pool with
  | _ work ih =>
    by_cases hdone : pool.Done
    · exact ⟨pool, .refl, hdone⟩
    · obtain ⟨next, hstep⟩ : ∃ next, Step permits index pool next := exists_step hpermits hdone
      obtain ⟨last, hreaches, hlast⟩ := ih next.work (hwork ▸ hstep.work_lt) next rfl
      exact ⟨last, .head hstep hreaches, hlast⟩

/-! ### What tasks warn of -/

end Pool

/-- What a task warns of when it makes its bundle, if that is still to come. -/
def Task.pending (task : Task) : List Warning :=
  match task.stage with
  | .finished _ => []
  | _ => task.spec.warnings

namespace Pool

variable {pool next : Pool}

/-- What is left to be warned of until all tasks are done. -/
def pending (pool : Pool) : List Warning :=
  pool.tasks.flatMap Task.pending ++ pool.unspawned.flatMap (·.2.warnings)

/-- A task warns when it makes its bundle, of what was left to be warned of until then. -/
theorem Step.warnings_perm (hstep : Step permits index pool next) :
    (next.warnings ++ next.pending).Perm (pool.warnings ++ pool.pending) := by
  cases hstep with
  | spawn key spec rest id hnext hfresh =>
    simp [pending, hnext, Task.pending]
  | start before after task htasks hstage hfree =>
    simp [pending, htasks, Task.pending, hstage]
  | finish before after task htasks hstage =>
    simp only [pending, htasks, Task.pending, hstage, List.flatMap_append, List.flatMap_cons,
      List.nil_append, List.append_assoc]
    exact (List.perm_append_comm_assoc _ _ _).append_left pool.warnings
  | collect before after task result hspawned htasks hstage =>
    simp [pending, htasks, Task.pending, hstage]

/-- When all tasks are done, each spec has been warned of once. -/
theorem Reaches.warnings_perm {parallelism : Nat} (h : Reaches parallelism index specs pool)
    (hdone : pool.Done) : pool.warnings.Perm (specs.values.flatMap RoutingSpec.warnings) := by
  have hall : (pool.warnings ++ pool.pending).Perm
      (specs.values.flatMap RoutingSpec.warnings) := by
    clear hdone
    induction h with
    | refl => simp [pending, KeyMap.values, List.flatMap_map]
    | tail _ hstep ih => exact hstep.warnings_perm.trans ih
  simpa [pending, hdone.1, hdone.2] using hall

/-- No task is at work, nor waits for a permit. -/
def AllFinished (pool : Pool) : Prop :=
  ∀ task ∈ pool.tasks, ∃ result, task.stage = .finished result

theorem AllFinished.running_eq_zero (h : pool.AllFinished) : pool.running = 0 := by
  refine List.countP_eq_zero.mpr fun task htask => ?_
  obtain ⟨result, hstage⟩ := h task htask
  simp [hstage, TaskStage.isRunning]

/-- The next spec may get its task, which makes its bundle at once. -/
theorem AllFinished.exists_finished_next (h : pool.AllFinished) (index : MembershipIndex)
    (hpermits : 0 < permits) {key : QualifiedName} {spec : RoutingSpec}
    {rest : List (QualifiedName × RoutingSpec)} (hunspawned : pool.unspawned = (key, spec) :: rest) :
    ∃ next, Relation.ReflTransGen (Step permits index) pool next ∧ next.unspawned = rest ∧
      next.AllFinished ∧ next.warnings = pool.warnings ++ spec.warnings := by
  obtain ⟨id, hfresh⟩ := Infinite.exists_notMem_finset (pool.tasks.map (·.id)).toFinset
  rw [List.mem_toFinset] at hfresh
  let spawned : Pool := { pool with
    unspawned := rest, tasks := pool.tasks ++ [{ id, spec }], names := (id, key) :: pool.names }
  let started : Pool := { spawned with tasks := pool.tasks ++ [{ id, spec, stage := .running }] }
  let made : Task := { id, spec, stage := .finished (Bundle.synthesize spec index) }
  let finished : Pool := { spawned with
    tasks := pool.tasks ++ [made], warnings := pool.warnings ++ spec.warnings }
  have hspawn : Step permits index pool spawned :=
    .spawn key spec rest id hunspawned fun task htask heq =>
      hfresh (heq ▸ List.mem_map_of_mem htask)
  have hfree : spawned.running < permits := by
    have hnone : spawned.running = pool.running := by
      simp [running, spawned, TaskStage.isRunning]
    rwa [hnone, h.running_eq_zero]
  have hstart : Step permits index spawned started :=
    .start pool.tasks [] { id, spec } rfl rfl hfree
  have hfinish : Step permits index started finished :=
    .finish pool.tasks [] { id, spec, stage := .running } rfl rfl
  refine ⟨finished, .head hspawn (.head hstart (.single hfinish)), rfl, fun task htask => ?_, rfl⟩
  rcases List.mem_append.mp htask with hold | hnew
  · exact h task hold
  · obtain rfl := List.mem_singleton.mp hnew
    exact ⟨_, rfl⟩

/-- As long as no task is at work, the specs that are left may get their tasks in turn, each of which
makes its bundle at once. -/
theorem AllFinished.exists_finished (h : pool.AllFinished) (index : MembershipIndex)
    (hpermits : 0 < permits) :
    ∃ last, Relation.ReflTransGen (Step permits index) pool last ∧ last.unspawned = [] ∧
      last.AllFinished ∧ last.warnings = pool.warnings ++ pool.unspawned.flatMap (·.2.warnings) := by
  induction hunspawned : pool.unspawned generalizing pool with
  | nil => exact ⟨pool, .refl, hunspawned, h, by simp⟩
  | cons entry rest ih =>
    obtain ⟨next, hnext, hrest, hfinished, hwarned⟩ :=
      h.exists_finished_next index hpermits hunspawned
    obtain ⟨last, hreaches, hnone, hlast, hwarnings⟩ := ih hfinished hrest
    refine ⟨last, hnext.trans hreaches, hnone, hlast, ?_⟩
    rw [hwarnings, hwarned, List.flatMap_cons, List.append_assoc]

/-- When all bundles are made, their results may be collected one after the other. -/
theorem AllFinished.exists_collected (h : pool.AllFinished) (hspawned : pool.unspawned = []) :
    ∃ last, Relation.ReflTransGen (Step permits index) pool last ∧ last.Done ∧
      last.warnings = pool.warnings := by
  induction htasks : pool.tasks generalizing pool with
  | nil => exact ⟨pool, .refl, ⟨hspawned, htasks⟩, rfl⟩
  | cons task rest ih =>
    obtain ⟨result, hstage⟩ := h task (htasks ▸ List.mem_cons_self)
    let collected : Pool := { pool with
      tasks := rest
      names := pool.names.filter (·.1 ≠ task.id)
      results := pool.resultsWith task.id result }
    have hcollect : Step permits index pool collected :=
      .collect [] rest task result hspawned htasks hstage
    have hcollected : collected.AllFinished := fun other hother =>
      h other (htasks ▸ List.mem_cons_of_mem _ hother)
    obtain ⟨last, hreaches, hdone, hwarnings⟩ := ih hcollected hspawned rfl
    exact ⟨last, .head hcollect hreaches, hdone, hwarnings⟩

/-- Bundles may be made in turn, in the order of the names of the specs. -/
theorem exists_done_in_turn (parallelism : Nat) (index : MembershipIndex)
    (specs : KeyMap RoutingSpec) : ∃ last, Reaches parallelism index specs last ∧ last.Done ∧
      last.warnings = specs.values.flatMap RoutingSpec.warnings := by
  have hnone : AllFinished { unspawned := specs.entries } := fun _ htask =>
    absurd htask List.not_mem_nil
  obtain ⟨made, hmade, hspawned, hfinished, hwarnings⟩ :=
    hnone.exists_finished index (Nat.le_max_right parallelism 1)
  obtain ⟨last, hlast, hdone, hkept⟩ := hfinished.exists_collected hspawned
  refine ⟨last, hmade.trans hlast, hdone, (hkept.trans hwarnings).trans ?_⟩
  simp [KeyMap.values, List.flatMap_map]

end Pool

/-! ### Deciding by results -/

/-- Results that are those of the specs lead to the same decisions as bundles made in turn. -/
theorem Tally.addAll_eq {previous : Snapshot} {listed : List (QualifiedName × RoutingSpec)}
    (hascending : listed.Pairwise (fun a b => a.1 < b.1)) (tally : Tally)
    {results : KeyMap (Except Fault Bundle)} (hresults : ∀ entry ∈ listed,
      results.find? entry.1 = some (Bundle.synthesize entry.2 index)) :
    Tally.addAll previous tally results (listed.map (·.1)) =
      listed.foldl (fun tally entry =>
        tally.add previous entry.1 (Bundle.synthesize entry.2 index)) tally := by
  induction listed generalizing tally results with
  | nil => rfl
  | cons entry rest ih =>
    obtain ⟨hlater, hrest⟩ := List.pairwise_cons.mp hascending
    have hfirst := hresults entry List.mem_cons_self
    rw [List.map_cons, addAll, List.foldl_cons, hfirst]
    -- what is taken out for this spec is not needed for any later one
    refine ih hrest _ fun later hmem => ?_
    have hne : later.1 ≠ entry.1 := fun heq =>
      QualifiedName.lt_irrefl entry.1 (heq ▸ hlater later hmem)
    rw [KeyMap.find?_erase_of_ne hne]
    exact hresults later (List.mem_cons_of_mem _ hmem)

/-- When all tasks are done, specs are decided as if their bundles were made in turn. -/
theorem assembleFrom_eq {parallelism : Nat} {pool : Pool} {previous : Snapshot}
    (h : Pool.Reaches parallelism index specs pool) (hdone : pool.Done) :
    assembleFrom previous pool.results specs = assemble previous index specs :=
  Tally.addAll_eq specs.ascending {} fun _ hentry =>
    Pool.find?_results_of_done h hdone (KeyMap.mem_entries_iff.mp hentry)

end TrafficPlane
