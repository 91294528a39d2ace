import Mathlib.Data.Nat.Count
import TrafficPlane.Proofs.Publication

/-!
# Clients that share a store

The lock keeps publications apart, but not the moves of other clients: those see the live snapshot of
before or the new one, and may see the new one before its version is announced. After any moves the
store is settled, or there is one publication in progress that took the lock of a settled store.

## Main definitions

* `SharedStore.Underway`: a publication took the lock at some time and is in progress
* `SharedStore.Standing`: the store is settled, or a publication is in progress
* `SharedStore.reservations`, `SharedStore.proceedings`: how often clients have made a move

## Main results

* `SharedStore.standing`: how things stand after any moves
* `SharedStore.live_of_le`: the live snapshot changes only for newer ones
* `SharedStore.nextVersion_after`: versions are counted as they are handed out
* `SharedStore.answer_of_reserve`, `SharedStore.answer_of_readLive`, `SharedStore.answer_of_look`:
  moves that are answered at once
* `SharedStore.of_answer_published`, `SharedStore.exists_published`: how a publication ends, and that
  it does
* `SharedStore.safe_under_interleaving`: what clients may rely on, whatever others do
-/

namespace TrafficPlane.SharedStore

variable {snapshot : Snapshot} {publication : Publication} {schedule : Nat → Move} {s t : Nat}

/-! ### Schedules -/

/-- A publication took the lock at some time, of a store that was settled, and is in progress ever
since. -/
structure Underway (schedule : Nat → Move) (s t : Nat) (publication : Publication) : Prop where
  lt : s < t
  free : (after schedule s).publication = none
  asked : schedule s = { client := publication.client, action := .publish publication.snapshot }
  settled : (after schedule s).store.Settled
  between : ∀ r, s < r → r ≤ t → ∃ stage,
    (after schedule r).publication = some { publication with stage } ∧
      ({ publication with stage } : Publication).Since (after schedule s).store
        (after schedule r).store

/-- The store is settled, or a publication is in progress. -/
structure Standing (schedule : Nat → Move) (t : Nat) : Prop where
  settled : (after schedule t).publication = none → (after schedule t).store.Settled
  underway : ∀ publication, (after schedule t).publication = some publication →
    ∃ s, Underway schedule s t publication

theorem Underway.since (h : Underway schedule s t publication)
    (hpublication : (after schedule t).publication = some publication) :
    publication.Since (after schedule s).store (after schedule t).store := by
  obtain ⟨stage, hstage, hsince⟩ := h.between t h.lt le_rfl
  have heq : { publication with stage } = publication :=
    Option.some.inj (hstage.symm.trans hpublication)
  exact heq ▸ hsince

/-- A publication stays in progress if nothing is seen of the next move. -/
theorem Underway.succ (h : Underway schedule s t publication) {stage : PublishStage}
    (hpublication : (after schedule (t + 1)).publication = some { publication with stage })
    (hsince : ({ publication with stage } : Publication).Since (after schedule s).store
      (after schedule (t + 1)).store) :
    Underway schedule s (t + 1) { publication with stage } where
  lt := Nat.lt_succ_of_lt h.lt
  free := h.free
  asked := h.asked
  settled := h.settled
  between r hs ht := by
    rcases Nat.le_succ_iff.mp ht with hr | rfl
    · exact h.between r hs hr
    · exact ⟨stage, hpublication, hsince⟩

/-- After any moves the store is settled, or a publication is in progress. -/
theorem standing (schedule : Nat → Move) (t : Nat) : Standing schedule t := by
  induction t with
  | zero => exact ⟨fun _ => Store.settled_new, nofun⟩
  | succ t ih =>
    have hafter : after schedule (t + 1) = ((after schedule t).step (schedule t)).2 := rfl
    rcases step_shows (after schedule t) (schedule t) with
      ⟨publication, hpublication, -, hstep⟩ | ⟨snapshot, hfree, hmove, hstep⟩ |
        ⟨hpublication, hshows, -⟩
    · obtain ⟨s, hunderway⟩ := ih.underway publication hpublication
      rcases proceed_cases (hunderway.since hpublication) with
        ⟨stage, store, hproceed, -, hsince⟩ | ⟨hproceed, hends⟩
      · rw [hstep, hproceed] at hafter
        constructor
        · intro hnone
          exact absurd (hafter ▸ hnone) nofun
        · intro publication' hpublication'
          rw [hafter] at hpublication'
          obtain rfl := Option.some.inj hpublication'
          refine ⟨s, hunderway.succ ?_ ?_⟩
          · rw [hafter]
          · rw [hafter]
            exact hsince
      · rw [hstep, hproceed] at hafter
        constructor
        · intro _
          rw [hafter]
          rcases hends with ⟨-, hadmits, hshows⟩ | ⟨-, -, hshows⟩
          · exact hadmits.settled hshows
          · exact hshows.settled hunderway.settled
        · intro publication' hpublication'
          exact absurd (hafter ▸ hpublication') nofun
    · rw [hstep] at hafter
      have hsettled := ih.settled hfree
      constructor
      · intro hnone
        exact absurd (hafter ▸ hnone) nofun
      · intro publication' hpublication'
        rw [hafter] at hpublication'
        obtain rfl := Option.some.inj hpublication'
        refine ⟨t, Nat.lt_succ_self t, hfree, hmove, hsettled, fun r hs ht => ?_⟩
        obtain rfl : r = t + 1 := Nat.le_antisymm ht hs
        rw [hafter]
        exact ⟨.locked, rfl, rfl, rfl⟩
    · rw [← hafter] at hpublication hshows
      constructor
      · intro hnone
        exact hshows.settled (ih.settled (hpublication ▸ hnone))
      · intro publication' hpublication'
        rw [hpublication] at hpublication'
        obtain ⟨s, hunderway⟩ := ih.underway publication' hpublication'
        refine ⟨s, hunderway.succ (hpublication.trans hpublication') ?_⟩
        exact (hunderway.since hpublication').of_shows hshows

/-! ### What clients see -/

/-- What is live is consistent, and at most its own version has been announced. -/
theorem Standing.seen (h : Standing schedule t) :
    (after schedule t).store.live.check = .ok () ∧
      (after schedule t).store.announced ≤ (after schedule t).store.live.version := by
  cases hpublication : (after schedule t).publication with
  | none =>
    have hsettled := h.settled hpublication
    exact ⟨hsettled.consistent, hsettled.announced_eq.le⟩
  | some publication =>
    obtain ⟨s, hunderway⟩ := h.underway publication hpublication
    have hheld := hunderway.settled
    rcases (hunderway.since hpublication).cases with hshows | ⟨hadmits, hshows | hshows⟩
    · have hsettled := hshows.settled hheld
      exact ⟨hsettled.consistent, hsettled.announced_eq.le⟩
    · -- the snapshot is live, but its version is still to be announced
      refine ⟨hshows.live_eq ▸ hadmits.consistent, ?_⟩
      rw [hshows.live_eq, hshows.announced_eq, hheld.announced_eq]
      exact hadmits.newer.le
    · have hsettled := hadmits.settled hshows
      exact ⟨hsettled.consistent, hsettled.announced_eq.le⟩

theorem live_succ (schedule : Nat → Move) (t : Nat) :
    (after schedule (t + 1)).store.live = (after schedule t).store.live ∨
      (after schedule t).store.live.version < (after schedule (t + 1)).store.live.version := by
  have hafter : after schedule (t + 1) = ((after schedule t).step (schedule t)).2 := rfl
  rcases step_shows (after schedule t) (schedule t) with
    ⟨publication, hpublication, -, hstep⟩ | ⟨snapshot, -, -, hstep⟩ | ⟨-, hshows, -⟩
  · obtain ⟨s, hunderway⟩ := (standing schedule t).underway publication hpublication
    rw [hafter, hstep]
    exact live_proceed (hunderway.since hpublication)
  · rw [hafter, hstep]
    exact .inl rfl
  · exact .inl hshows.live_eq

/-- The live snapshot changes only for newer ones. -/
theorem live_of_le (schedule : Nat → Move) (h : s ≤ t) :
    (after schedule t).store.live = (after schedule s).store.live ∨
      (after schedule s).store.live.version < (after schedule t).store.live.version := by
  induction t, h using Nat.le_induction with
  | base => exact .inl rfl
  | succ t _ ih =>
    rcases live_succ schedule t with hsame | hnewer
    · rw [hsame]
      exact ih
    · rcases ih with hsame | hbefore
      · exact .inr (hsame ▸ hnewer)
      · exact .inr (hbefore.trans hnewer)

/-! ### Versions that are handed out -/

/-- How many versions have been handed out in the first moves. -/
def reservations (schedule : Nat → Move) (t : Nat) : Nat :=
  Nat.count (fun r => (schedule r).action.isReserve) t

/-- The version that is handed out next tells how many have been handed out. -/
theorem nextVersion_after (schedule : Nat → Move) (t : Nat) :
    (after schedule t).store.nextVersion = reservations schedule t + 1 := by
  induction t with
  | zero => rfl
  | succ t ih =>
    have hstep := nextVersion_step (after schedule t) (schedule t)
    rw [ih] at hstep
    rw [reservations, Nat.count_succ, after, hstep, ← reservations]
    split_ifs <;> rfl

/-- The versions that are handed out are counted from one. -/
theorem of_answer_reserved {version : Nat} (h : answer schedule t = some (.reserved version)) :
    (schedule t).action.isReserve ∧ version = reservations schedule t + 1 := by
  obtain ⟨hreserve, hversion⟩ := of_step_reserved h
  exact ⟨hreserve, hversion.trans (nextVersion_after schedule t)⟩

/-! ### Moves that are answered at once -/

/-- A client that asks for a version is handed out the next one. -/
theorem answer_of_reserve (h : (schedule t).action = .reserve) :
    answer schedule t = some (.reserved (reservations schedule t + 1)) := by
  rw [answer, step, h, ← nextVersion_after]
  rfl

/-- A client that reads is told what is live at the time. -/
theorem answer_of_readLive (h : (schedule t).action = .readLive) :
    answer schedule t = some (.live (after schedule t).store.live) := by
  rw [answer, step, h]

/-- A client that looks is told the version announced at the time. -/
theorem answer_of_look (h : (schedule t).action = .look) :
    answer schedule t = some (.looked { seen := (after schedule t).store.announced }) := by
  rw [answer, step, h]
  rfl

/-! ### The end of a publication -/

/-- What a client is told whose publication ends is what one would be told that publishes in a single
move at the time the lock was taken. -/
theorem of_answer_published {verdict : Except InternalCause Snapshot}
    (h : answer schedule t = some (.published verdict)) :
    ∃ s publication, Underway schedule s t publication ∧
      (schedule t).client = publication.client ∧
      verdict = (after schedule s).store.verdict publication.snapshot ∧
      (verdict = .ok publication.snapshot ∧ (after schedule s).store.Admits publication.snapshot ∧
          (after schedule (t + 1)).store.Shows publication.snapshot publication.snapshot.version ∨
        (∃ cause, verdict = .error cause) ∧
          ¬ (after schedule s).store.Admits publication.snapshot ∧
          (after schedule (t + 1)).store.Shows (after schedule s).store.live
            (after schedule s).store.announced) := by
  have hafter : after schedule (t + 1) = ((after schedule t).step (schedule t)).2 := rfl
  have hanswer : answer schedule t = ((after schedule t).step (schedule t)).1 := rfl
  rcases step_shows (after schedule t) (schedule t) with
    ⟨publication, hpublication, hmove, hstep⟩ | ⟨snapshot, -, -, hstep⟩ | ⟨-, -, hquiet⟩
  · obtain ⟨s, hunderway⟩ := (standing schedule t).underway publication hpublication
    rw [hanswer, hstep] at h
    rw [hafter, hstep]
    rcases proceed_cases (hunderway.since hpublication) with
      ⟨stage, store, hproceed, -⟩ | ⟨hproceed, hends⟩
    · rw [hproceed] at h
      cases h
    · rw [hproceed] at h ⊢
      obtain rfl := Answer.published.inj (Option.some.inj h)
      exact ⟨s, publication, hunderway, congrArg Move.client hmove, rfl, hends⟩
  · rw [hanswer, hstep] at h
    cases h
  · exact absurd h (hquiet verdict)

/-- How often a client has moved on with a publication in the first moves. -/
def proceedings (schedule : Nat → Move) (client t : Nat) : Nat :=
  Nat.count (fun r => (schedule r).proceeds client) t

theorem proceedings_succ (schedule : Nat → Move) (client t : Nat) :
    proceedings schedule client (t + 1) =
      proceedings schedule client t + if (schedule t).proceeds client then 1 else 0 :=
  Nat.count_succ _ t

/-- A publication in progress ends or stays in progress, and has less to do each time that its client
gets on. -/
theorem publication_succ (hpublication : (after schedule t).publication = some publication) :
    (∃ verdict, answer schedule t = some (.published verdict)) ∨
    ∃ stage, (after schedule (t + 1)).publication = some { publication with stage } ∧
      stage.work + proceedings schedule publication.client (t + 1) ≤
        publication.stage.work + proceedings schedule publication.client t := by
  have hafter : after schedule (t + 1) = ((after schedule t).step (schedule t)).2 := rfl
  have hanswer : answer schedule t = ((after schedule t).step (schedule t)).1 := rfl
  have hcount := proceedings_succ schedule publication.client t
  by_cases hmoves : (schedule t).proceeds publication.client
  · obtain ⟨s, hunderway⟩ := (standing schedule t).underway publication hpublication
    rw [hafter, hanswer, step_of_proceeds hpublication hmoves]
    rw [if_pos hmoves] at hcount
    rcases proceed_cases (hunderway.since hpublication) with
      ⟨stage, store, hproceed, hwork, -⟩ | ⟨hproceed, -⟩
    · rw [hproceed]
      exact .inr ⟨stage, rfl, by omega⟩
    · rw [hproceed]
      exact .inl ⟨_, rfl⟩
  · rw [if_neg hmoves] at hcount
    rcases step_shows (after schedule t) (schedule t) with
      ⟨publication', hpublication', hmove, -⟩ | ⟨snapshot, hfree, -, -⟩ | ⟨hsame, -, -⟩
    · obtain rfl := Option.some.inj (hpublication.symm.trans hpublication')
      rw [hmove] at hmoves
      exact absurd (decide_eq_true rfl) hmoves
    · exact absurd (hpublication.symm.trans hfree) nofun
    · exact .inr ⟨publication.stage, hsame.trans hpublication, by omega⟩

/-- A client that takes the lock is told the verdict after moving on five times at most. -/
theorem exists_published {client : Nat} (hfree : (after schedule s).publication = none)
    (hasked : schedule s = { client, action := .publish snapshot }) (hlt : s < t)
    (hmoves : proceedings schedule client (s + 1) + 5 ≤ proceedings schedule client t) :
    ∃ r, s < r ∧ r < t ∧ ∃ verdict, answer schedule r = some (.published verdict) := by
  by_contra hnever
  -- as long as the client is told nothing, each of its moves leaves less to do
  have hprogress : ∀ r, s < r → r ≤ t → ∃ stage : PublishStage,
      (after schedule r).publication = some { client, snapshot, stage } ∧
        stage.work + proceedings schedule client r ≤ proceedings schedule client (s + 1) + 5 := by
    intro r hr
    induction r, hr using Nat.le_induction with
    | base =>
      intro _
      have hbegun : (after schedule (s + 1)).publication = some { client, snapshot } := by
        rw [after, hasked]
        simp only [step, hfree]
      exact ⟨.locked, hbegun, (Nat.add_comm _ _).le⟩
    | succ r hr ih =>
      intro hrt
      obtain ⟨stage, hpublication, hwork⟩ := ih (Nat.le_of_succ_le hrt)
      rcases publication_succ hpublication with hended | ⟨stage', hpublication', hwork'⟩
      · exact absurd ⟨r, hr, hrt, hended⟩ hnever
      · exact ⟨stage', hpublication', hwork'.trans hwork⟩
  obtain ⟨stage, -, hwork⟩ := hprogress t hlt le_rfl
  have hpos := stage.work_pos
  omega

/-! ### Main theorem -/

/-- From the time that a publication takes the lock until after its client is told the verdict, the
store shows what it showed at first, or the snapshot was admitted and is in its place. -/
theorem seen_between {verdict : Except InternalCause Snapshot}
    (h : Underway schedule s t publication)
    (hverdict : verdict = (after schedule s).store.verdict publication.snapshot)
    (hends : verdict = .ok publication.snapshot ∧
        (after schedule (t + 1)).store.Shows publication.snapshot publication.snapshot.version ∨
      (after schedule (t + 1)).store.Shows (after schedule s).store.live
        (after schedule s).store.announced) {r : Nat} (hs : s ≤ r) (ht : r ≤ t + 1) :
    (after schedule r).store.Shows (after schedule s).store.live (after schedule s).store.announced ∨
      verdict = .ok publication.snapshot ∧
        ((after schedule r).store.Shows publication.snapshot (after schedule s).store.announced ∨
          (after schedule r).store.Shows publication.snapshot publication.snapshot.version) := by
  rcases Nat.eq_or_lt_of_le hs with rfl | hs
  · exact .inl ⟨rfl, rfl⟩
  rcases Nat.le_succ_iff.mp ht with ht | rfl
  · obtain ⟨stage, -, hsince⟩ := h.between r hs ht
    rcases hsince.cases with hshows | ⟨hadmits, hshows⟩
    · exact .inl hshows
    · exact .inr ⟨hverdict.trans (Store.verdict_of_admits hadmits), hshows⟩
  · rcases hends with ⟨hok, hshows⟩ | hshows
    · exact .inr ⟨hok, .inr hshows⟩
    · exact .inl hshows

/-- However the moves of any number of clients are interleaved:
* what is live is consistent, and its version or an earlier one has been announced, its own if no
  publication is in progress;
* the live snapshot changes only for newer ones;
* a client that publishes is told the same as if it did so in one move when it took the lock: that it
  has published if and only if the snapshot is consistent and newer than the live one. If so the
  snapshot is live and its version announced in the end, and if not nothing of it is ever seen;
* a client that takes the lock is told so after moving on five times at most;
* a client that asks for a version is handed out one. Versions are counted from one as they are
  handed out, so none is handed out twice;
* a client that reads the live snapshot or looks at the announced version is told what it is at the
  time. -/
theorem safe_under_interleaving (schedule : Nat → Move) :
    (∀ t, let shared := after schedule t
      shared.store.live.check = .ok () ∧
      shared.store.announced ≤ shared.store.live.version ∧
      (shared.publication = none → shared.store.announced = shared.store.live.version)) ∧
    (∀ s t, s ≤ t → (after schedule t).store.live = (after schedule s).store.live ∨
      (after schedule s).store.live.version < (after schedule t).store.live.version) ∧
    (∀ t verdict, answer schedule t = some (.published verdict) →
      ∃ s snapshot, s < t ∧ (after schedule s).publication = none ∧
        schedule s = { client := (schedule t).client, action := .publish snapshot } ∧
        let first := (after schedule s).store
        let last := (after schedule (t + 1)).store
        verdict = (first.publish snapshot).map (fun _ => snapshot) ∧
        (verdict = .ok snapshot ↔
          snapshot.check = .ok () ∧ first.live.version < snapshot.version) ∧
        (verdict = .ok snapshot → last.Shows snapshot snapshot.version) ∧
        ∀ r, s ≤ r → r ≤ t + 1 →
          let now := (after schedule r).store
          now.Shows first.live first.announced ∨ verdict = .ok snapshot ∧
            (now.Shows snapshot first.announced ∨ now.Shows snapshot snapshot.version)) ∧
    (∀ s t client snapshot, (after schedule s).publication = none →
      schedule s = { client, action := .publish snapshot } → s < t →
      proceedings schedule client (s + 1) + 5 ≤ proceedings schedule client t →
      ∃ r, s < r ∧ r < t ∧ ∃ verdict, answer schedule r = some (.published verdict)) ∧
    (∀ t version, answer schedule t = some (.reserved version) →
      version = reservations schedule t + 1) ∧
    (∀ s t version version', s < t → answer schedule s = some (.reserved version) →
      answer schedule t = some (.reserved version') → version < version') ∧
    ∀ t, let shared := after schedule t
      ((schedule t).action = .reserve →
        answer schedule t = some (.reserved (reservations schedule t + 1))) ∧
      ((schedule t).action = .readLive → answer schedule t = some (.live shared.store.live)) ∧
      ((schedule t).action = .look →
        answer schedule t = some (.looked { seen := shared.store.announced })) := by
  refine ⟨fun t => ?_, fun s t => live_of_le schedule, fun t verdict hanswer => ?_,
    fun s t client snapshot => exists_published, fun t version hanswer => ?_, ?_,
    fun t => ⟨answer_of_reserve, answer_of_readLive, answer_of_look⟩⟩
  · have hstanding := standing schedule t
    obtain ⟨hconsistent, hannounced⟩ := hstanding.seen
    exact ⟨hconsistent, hannounced, fun hfree => (hstanding.settled hfree).announced_eq⟩
  · obtain ⟨s, publication, hunderway, hclient, hverdict, hends⟩ := of_answer_published hanswer
    refine ⟨s, publication.snapshot, hunderway.lt, hunderway.free, ?_, hverdict, ?_, ?_, ?_⟩
    · rw [hclient]
      exact hunderway.asked
    · rcases hends with ⟨hok, hadmits, -⟩ | ⟨⟨cause, hfails⟩, hnot, -⟩
      · exact ⟨fun _ => ⟨hadmits.consistent, hadmits.newer⟩, fun _ => hok⟩
      · refine ⟨fun hok => absurd (hok.symm.trans hfails) nofun, ?_⟩
        rintro ⟨hconsistent, hnewer⟩
        exact absurd ⟨hconsistent, hnewer⟩ hnot
    · intro hok
      rcases hends with ⟨-, -, hshows⟩ | ⟨⟨cause, hfails⟩, -, -⟩
      · exact hshows
      · exact absurd (hok.symm.trans hfails) nofun
    · intro r hs ht
      refine seen_between hunderway hverdict ?_ hs ht
      exact hends.imp (fun h => ⟨h.1, h.2.2⟩) fun h => h.2.2
  · exact (of_answer_reserved hanswer).2
  · intro s t version version' hlt hanswer hanswer'
    obtain ⟨hreserve, rfl⟩ := of_answer_reserved hanswer
    obtain ⟨-, rfl⟩ := of_answer_reserved hanswer'
    -- the earlier reservation is counted among those before the later one
    have hcount : reservations schedule s < reservations schedule t :=
      Nat.count_strict_mono hreserve hlt
    exact Nat.succ_lt_succ hcount

/-- Two clients publish under versions of their own. The one that asks first takes the lock, and the
other one, which tries in vain meanwhile, is told afterwards that its version is stale. -/
example :
    let schedule : Nat → Move := fun t => match t with
      | 0 => { client := 1, action := .reserve }
      | 1 => { client := 2, action := .reserve }
      | 2 => { client := 2, action := .publish { version := 2, bundles := .empty } }
      | 3 => { client := 1, action := .publish { version := 1, bundles := .empty } }
      | 9 => { client := 1, action := .publish { version := 1, bundles := .empty } }
      | 10 => { client := 1, action := .proceed }
      | 11 => { client := 1, action := .proceed }
      | _ => { client := 2, action := .proceed }
    let verdict := fun t => match answer schedule t with
      | some (.published verdict) => some (verdict.toOption.map (·.version))
      | _ => none
    verdict 8 = some (some 2) ∧ verdict 11 = some none ∧
      (after schedule 12).store.live.version = 2 := by decide +kernel

end TrafficPlane.SharedStore
