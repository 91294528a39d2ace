import TrafficPlane.Snapshot.Shared

/-!
# Publications in progress

A client that publishes into a store that others use as well takes several moves. While it has the
lock, nobody else changes the live snapshot or the announced version. So what is known of its
publication is known relative to the store of which it took the lock, and what it is told in the end
is what a client would be told that publishes in a single move.

## Main definitions

* `Store.Admits`: a snapshot may take the place of the live one
* `Store.Settled`: the live snapshot is consistent, and its version has been announced
* `Store.verdict`: what a client is told that publishes in a single move
* `PublishStage.work`: how many moves a publication still takes
* `Publication.Since`: what a publication has done to the store of which it took the lock

## Main results

* `Publication.Since.cases`: what is seen while a publication is in progress
* `SharedStore.step_cases`, `SharedStore.step_shows`: what one move does
* `SharedStore.proceed_eq_cases`, `SharedStore.proceed_cases`: what the move of a publication does
-/

namespace TrafficPlane

variable {store held : Store} {snapshot : Snapshot} {publication : Publication}
  {shared : SharedStore} {move : Move}

/-! ### Stores -/

namespace Store

/-- The live snapshot and the announced version are these. -/
structure Shows (store : Store) (live : Snapshot) (announced : Nat) : Prop where
  live_eq : store.live = live
  announced_eq : store.announced = announced

/-- A snapshot may take the place of the live one: it is consistent and newer. -/
structure Admits (store : Store) (snapshot : Snapshot) : Prop where
  consistent : snapshot.check = .ok ()
  newer : store.live.version < snapshot.version

/-- The live snapshot is consistent, and its version has been announced. -/
structure Settled (store : Store) : Prop where
  consistent : store.live.check = .ok ()
  announced_eq : store.announced = store.live.version

theorem settled_new : ({} : Store).Settled where
  consistent := rfl
  announced_eq := rfl

theorem Shows.settled (h : store.Shows held.live held.announced) (hheld : held.Settled) :
    store.Settled where
  consistent := h.live_eq ▸ hheld.consistent
  announced_eq := by rw [h.live_eq, h.announced_eq, hheld.announced_eq]

/-- A snapshot that was admitted settles the store that shows it. -/
theorem Admits.settled (h : held.Admits snapshot) (hshows : store.Shows snapshot snapshot.version) :
    store.Settled where
  consistent := hshows.live_eq ▸ h.consistent
  announced_eq := by rw [hshows.live_eq, hshows.announced_eq]

theorem accepts_eq_ok_iff : store.accepts snapshot = .ok () ↔ store.Admits snapshot := by
  rw [accepts]
  constructor
  · intro h
    cases hcheck : snapshot.check with
    | error cause => simp [hcheck] at h
    | ok _ =>
      refine ⟨hcheck, Nat.lt_of_not_le fun hle => ?_⟩
      simp [hcheck, hle] at h
  · rintro ⟨hcheck, hnewer⟩
    simp [hcheck, Nat.not_le.mpr hnewer]

/-- What a client is told whose publication finds the store like this. -/
def verdict (store : Store) (snapshot : Snapshot) : Except InternalCause Snapshot :=
  (store.publish snapshot).map fun _ => snapshot

theorem verdict_of_admits (h : store.Admits snapshot) : store.verdict snapshot = .ok snapshot := by
  rw [verdict, publish, accepts_eq_ok_iff.mpr h]
  rfl

theorem verdict_of_accepts_error {cause : InternalCause}
    (h : store.accepts snapshot = .error cause) : store.verdict snapshot = .error cause := by
  rw [verdict, publish, h]
  rfl

end Store

/-! ### A publication in progress -/

/-- The number of moves that a publication takes at most from here. -/
def PublishStage.work : PublishStage → Nat
  | locked => 5
  | checked => 4
  | admitted => 3
  | inPlace => 2
  | announced => 1

theorem PublishStage.work_pos (stage : PublishStage) : 0 < stage.work := by
  cases stage <;> exact Nat.succ_pos _

/-- What a publication has done to the store of which it took the lock. -/
def Publication.Since (publication : Publication) (held store : Store) : Prop :=
  match publication.stage with
  | .locked => store.Shows held.live held.announced
  | .checked => publication.snapshot.check = .ok () ∧ store.Shows held.live held.announced
  | .admitted => held.Admits publication.snapshot ∧ store.Shows held.live held.announced
  | .inPlace => held.Admits publication.snapshot ∧ store.Shows publication.snapshot held.announced
  | .announced => held.Admits publication.snapshot ∧
      store.Shows publication.snapshot publication.snapshot.version

namespace Publication

/-- While a publication is in progress, its snapshot is not seen yet or it was admitted. -/
theorem Since.cases (h : publication.Since held store) :
    store.Shows held.live held.announced ∨ held.Admits publication.snapshot ∧
      (store.Shows publication.snapshot held.announced ∨
        store.Shows publication.snapshot publication.snapshot.version) := by
  rw [Since] at h
  cases hstage : publication.stage with
  | locked =>
    simp only [hstage] at h
    exact .inl h
  | checked | admitted =>
    simp only [hstage] at h
    exact .inl h.2
  | inPlace =>
    simp only [hstage] at h
    exact .inr ⟨h.1, .inl h.2⟩
  | announced =>
    simp only [hstage] at h
    exact .inr ⟨h.1, .inr h.2⟩

/-- Moves that leave the live snapshot and the announced version alone make no difference. -/
theorem Since.of_shows (h : publication.Since held store) {store' : Store}
    (hshows : store'.Shows store.live store.announced) : publication.Since held store' := by
  have hkeep : ∀ live announced, store.Shows live announced → store'.Shows live announced :=
    fun live announced hstore =>
      ⟨hshows.live_eq.trans hstore.live_eq, hshows.announced_eq.trans hstore.announced_eq⟩
  rw [Since] at h ⊢
  cases hstage : publication.stage with
  | locked =>
    simp only [hstage] at h ⊢
    exact hkeep _ _ h
  | checked | admitted | inPlace | announced =>
    simp only [hstage] at h ⊢
    exact ⟨h.1, hkeep _ _ h.2⟩

end Publication

/-- The client asks for a version. -/
def Action.isReserve : Action → Bool
  | reserve => true
  | _ => false

/-- The client gets on with its publication. -/
def Move.proceeds (move : Move) (client : Nat) : Bool :=
  match move.action with
  | .proceed => move.client = client
  | _ => false

namespace SharedStore

/-! ### One move -/

/-- A move gets a publication on, begins one, hands out a version, or changes nothing. -/
theorem step_cases (shared : SharedStore) (move : Move) :
    (∃ publication, shared.publication = some publication ∧
      move = { client := publication.client, action := .proceed } ∧
      shared.step move = shared.proceed publication) ∨
    (∃ snapshot, shared.publication = none ∧
      move = { client := move.client, action := .publish snapshot } ∧
      shared.step move =
        (none, { shared with publication := some { client := move.client, snapshot } })) ∨
    (move.action.isReserve ∧ shared.step move = (some (.reserved shared.store.nextVersion),
      { shared with store := shared.store.reserve.2 })) ∨
    (¬ move.action.isReserve ∧ (shared.step move).2 = shared ∧
      ∀ answer, (shared.step move).1 = some answer →
        answer = .live shared.store.live ∨ answer = .looked (.look shared.store)) := by
  obtain ⟨client, action⟩ := move
  cases action with
  | reserve => exact .inr (.inr (.inl ⟨rfl, rfl⟩))
  | readLive =>
    exact .inr (.inr (.inr ⟨nofun, rfl, fun answer h => .inl (Option.some.inj h).symm⟩))
  | look => exact .inr (.inr (.inr ⟨nofun, rfl, fun answer h => .inr (Option.some.inj h).symm⟩))
  | publish snapshot =>
    cases hpublication : shared.publication with
    | none => exact .inr (.inl ⟨snapshot, rfl, rfl, by simp only [step, hpublication]⟩)
    | some publication =>
      -- the lock is taken, so the client waits
      have hstep : shared.step { client, action := .publish snapshot } = (none, shared) := by
        simp only [step, hpublication]
      rw [hstep]
      exact .inr (.inr (.inr ⟨nofun, rfl, nofun⟩))
  | proceed =>
    cases hpublication : shared.publication with
    | none =>
      have hstep : shared.step { client, action := .proceed } = (none, shared) := by
        simp only [step, hpublication]
      rw [hstep]
      exact .inr (.inr (.inr ⟨nofun, rfl, nofun⟩))
    | some publication =>
      by_cases hclient : publication.client = client
      · subst hclient
        exact .inl ⟨publication, rfl, rfl, by simp only [step, hpublication, if_pos]⟩
      · -- the publication is that of another client
        have hstep : shared.step { client, action := .proceed } = (none, shared) := by
          simp only [step, hpublication, if_neg hclient]
        rw [hstep]
        exact .inr (.inr (.inr ⟨nofun, rfl, nofun⟩))

/-- A move gets a publication on, begins one, or leaves alone what the store shows. -/
theorem step_shows (shared : SharedStore) (move : Move) :
    (∃ publication, shared.publication = some publication ∧
      move = { client := publication.client, action := .proceed } ∧
      shared.step move = shared.proceed publication) ∨
    (∃ snapshot, shared.publication = none ∧
      move = { client := move.client, action := .publish snapshot } ∧
      shared.step move =
        (none, { shared with publication := some { client := move.client, snapshot } })) ∨
    ((shared.step move).2.publication = shared.publication ∧
      (shared.step move).2.store.Shows shared.store.live shared.store.announced ∧
      ∀ verdict, (shared.step move).1 ≠ some (.published verdict)) := by
  refine (shared.step_cases move).imp_right (Or.imp_right ?_)
  rintro (⟨-, hstep⟩ | ⟨-, hsame, hanswer⟩)
  · rw [hstep]
    exact ⟨rfl, ⟨rfl, rfl⟩, nofun⟩
  · rw [hsame]
    refine ⟨rfl, ⟨rfl, rfl⟩, fun verdict hpublished => ?_⟩
    rcases hanswer _ hpublished with hlive | hlooked
    · cases hlive
    · cases hlooked

/-- A publication in progress gets to a later stage, or it gives the lock back and its client is told
what one would be told that publishes in a single move. -/
theorem proceed_cases (h : publication.Since held shared.store) :
    (∃ stage store, shared.proceed publication =
        (none, { store, publication := some { publication with stage } }) ∧
      stage.work < publication.stage.work ∧
      ({ publication with stage } : Publication).Since held store) ∨
    (shared.proceed publication = (some (.published (held.verdict publication.snapshot)),
        { shared with publication := none }) ∧
      (held.verdict publication.snapshot = .ok publication.snapshot ∧
          held.Admits publication.snapshot ∧
          shared.store.Shows publication.snapshot publication.snapshot.version ∨
        (∃ cause, held.verdict publication.snapshot = .error cause) ∧
          ¬ held.Admits publication.snapshot ∧
          shared.store.Shows held.live held.announced)) := by
  obtain ⟨client, snapshot, stage⟩ := publication
  cases stage with
  | locked =>
    have hshows : shared.store.Shows held.live held.announced := h
    cases hcheck : snapshot.check with
    | error cause =>
      have haccepts : held.accepts snapshot = .error cause := by rw [Store.accepts, hcheck]
      have hverdict := Store.verdict_of_accepts_error haccepts
      refine .inr ⟨by simp only [proceed, hcheck, hverdict], .inr ⟨⟨cause, hverdict⟩, ?_, hshows⟩⟩
      exact fun hadmits => absurd (hcheck.symm.trans hadmits.consistent) nofun
    | ok _ =>
      exact .inl ⟨.checked, shared.store, by simp only [proceed, hcheck], Nat.lt_succ_self 4,
        hcheck, hshows⟩
  | checked =>
    obtain ⟨hcheck, hshows⟩ : snapshot.check = .ok () ∧
        shared.store.Shows held.live held.announced := h
    by_cases hstale : snapshot.version ≤ shared.store.live.version
    · have hheld : snapshot.version ≤ held.live.version := hshows.live_eq ▸ hstale
      have haccepts : held.accepts snapshot =
          .error (.staleVersion snapshot.version shared.store.live.version) := by
        rw [Store.accepts, hcheck, hshows.live_eq]
        exact if_pos hheld
      have hverdict := Store.verdict_of_accepts_error haccepts
      refine .inr ⟨by simp only [proceed, if_pos hstale, hverdict],
        .inr ⟨⟨_, hverdict⟩, ?_, hshows⟩⟩
      exact fun hadmits => Nat.not_le.mpr hadmits.newer hheld
    · have hadmits : held.Admits snapshot :=
        ⟨hcheck, hshows.live_eq ▸ Nat.lt_of_not_le hstale⟩
      exact .inl ⟨.admitted, shared.store, by simp only [proceed, if_neg hstale],
        Nat.lt_succ_self 3, hadmits, hshows⟩
  | admitted =>
    obtain ⟨hadmits, hshows⟩ : held.Admits snapshot ∧
        shared.store.Shows held.live held.announced := h
    exact .inl ⟨.inPlace, { shared.store with live := snapshot }, rfl, Nat.lt_succ_self 2, hadmits,
      rfl, hshows.announced_eq⟩
  | inPlace =>
    obtain ⟨hadmits, hshows⟩ : held.Admits snapshot ∧
        shared.store.Shows snapshot held.announced := h
    exact .inl ⟨.announced, { shared.store with announced := snapshot.version }, rfl,
      Nat.lt_succ_self 1, hadmits, hshows.live_eq, rfl⟩
  | announced =>
    obtain ⟨hadmits, hshows⟩ : held.Admits snapshot ∧
        shared.store.Shows snapshot snapshot.version := h
    have hverdict := Store.verdict_of_admits hadmits
    exact .inr ⟨by simp only [proceed, hverdict], .inl ⟨hverdict, hadmits, hshows⟩⟩

theorem step_of_proceeds (hpublication : shared.publication = some publication)
    (h : move.proceeds publication.client) : shared.step move = shared.proceed publication := by
  obtain ⟨client, action⟩ := move
  cases action with
  | proceed =>
    obtain rfl : client = publication.client := of_decide_eq_true h
    simp only [step, hpublication, if_pos]
  | reserve | publish | readLive | look => cases h

/-- Whatever its snapshot and the store are, a publication ends and leaves the store as it is, or it
gets to another stage. Only one that has been admitted changes the live snapshot, and none hands out
a version. -/
theorem proceed_eq_cases (shared : SharedStore) (publication : Publication) :
    (∃ verdict, shared.proceed publication =
      (some (.published verdict), { shared with publication := none })) ∨
    ∃ stage store, shared.proceed publication =
        (none, { store, publication := some { publication with stage } }) ∧
      store.nextVersion = shared.store.nextVersion ∧
      (store.live = shared.store.live ∨
        publication.stage = .admitted ∧ store.live = publication.snapshot) := by
  obtain ⟨client, snapshot, stage⟩ := publication
  cases stage with
  | locked =>
    cases hcheck : snapshot.check with
    | error cause => exact .inl ⟨.error cause, by simp only [proceed, hcheck]⟩
    | ok _ =>
      exact .inr ⟨.checked, shared.store, by simp only [proceed, hcheck], rfl, .inl rfl⟩
  | checked =>
    by_cases hstale : snapshot.version ≤ shared.store.live.version
    · exact .inl ⟨.error _, by simp only [proceed, if_pos hstale]; rfl⟩
    · exact .inr ⟨.admitted, shared.store, by simp only [proceed, if_neg hstale], rfl, .inl rfl⟩
  | admitted => exact .inr ⟨.inPlace, _, rfl, rfl, .inr ⟨rfl, rfl⟩⟩
  | inPlace => exact .inr ⟨.announced, _, rfl, rfl, .inl rfl⟩
  | announced => exact .inl ⟨.ok snapshot, rfl⟩

/-- A publication in progress leaves the live snapshot in place or puts a newer one there. -/
theorem live_proceed (h : publication.Since held shared.store) :
    (shared.proceed publication).2.store.live = shared.store.live ∨
      shared.store.live.version < (shared.proceed publication).2.store.live.version := by
  rcases shared.proceed_eq_cases publication with
    ⟨verdict, hproceed⟩ | ⟨stage, store, hproceed, -, hlive⟩
  · rw [hproceed]
    exact .inl rfl
  · rw [hproceed]
    refine hlive.imp_right ?_
    rintro ⟨hstage, hlive⟩
    simp only [Publication.Since, hstage] at h
    obtain ⟨hadmits, hshows⟩ := h
    rw [hlive, hshows.live_eq]
    exact hadmits.newer

theorem nextVersion_step (shared : SharedStore) (move : Move) :
    (shared.step move).2.store.nextVersion =
      if move.action.isReserve then shared.store.nextVersion + 1 else shared.store.nextVersion := by
  rcases shared.step_cases move with ⟨publication, -, hmove, hstep⟩ | ⟨snapshot, -, hmove, hstep⟩ |
    ⟨hreserve, hstep⟩ | ⟨hreserve, hsame, -⟩
  · rw [hmove] at hstep ⊢
    rw [hstep]
    rcases shared.proceed_eq_cases publication with
      ⟨verdict, hproceed⟩ | ⟨stage, store, hproceed, hnext, -⟩
    · rw [hproceed]
      rfl
    · rw [hproceed]
      exact hnext
  · rw [hstep, hmove]
    rfl
  · rw [hstep, if_pos hreserve]
    rfl
  · rw [hsame, if_neg hreserve]

/-- A version that a client is told is the one that was to be handed out next. -/
theorem of_step_reserved {version : Nat} (h : (shared.step move).1 = some (.reserved version)) :
    move.action.isReserve ∧ version = shared.store.nextVersion := by
  rcases shared.step_cases move with ⟨publication, -, -, hstep⟩ | ⟨snapshot, -, -, hstep⟩ |
    ⟨hreserve, hstep⟩ | ⟨-, -, hanswer⟩
  · rw [hstep] at h
    rcases shared.proceed_eq_cases publication with ⟨verdict, hproceed⟩ | ⟨_, _, hproceed, -⟩
    · rw [hproceed] at h
      cases h
    · rw [hproceed] at h
      cases h
  · rw [hstep] at h
    cases h
  · rw [hstep] at h
    exact ⟨hreserve, (Answer.reserved.inj (Option.some.inj h)).symm⟩
  · rcases hanswer _ h with hlive | hlooked
    · cases hlive
    · cases hlooked

end SharedStore

end TrafficPlane
