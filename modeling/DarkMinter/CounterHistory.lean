import DarkMinter.Counters
import DarkMinter.RetryBudget

namespace DarkMinter.CounterHistory

open Text Processing Records Repository ArkApi Requests Persistence Replication Publication
open Deployment Attempts Effects ResultApplication InFlight Marks Counters Lib.Runs

section

variable [PyLower]

/-- What happens to an ARK that its counters count, or after which they start over. -/
inductive Event
  | failed
  | started
  | stored
  | published
  | unchanged
  | changed
  | advanced
  | repaired
  deriving DecidableEq

/-- The failures since the work on the ARK last started anew, in a history with the newest first. -/
def failures : List Event → Nat
  | [] => 0
  | .failed :: history => failures history + 1
  | .started :: _ | .stored :: _ | .published :: _ => 0
  | _ :: history => failures history

/-- The observations since the last one that showed a change. -/
def observations : List Event → Nat
  | [] => 0
  | .unchanged :: history => observations history + 1
  | .changed :: _ => 1
  | .stored :: _ | .advanced :: _ | .repaired :: _ => 0
  | _ :: history => observations history

def fails (c : Cell) : Op → Bool
  | .mutation (.persist E) => c.record.any fun r => persistAccepts E.readyAt r && persistMarks E r c
  | .mutation (.reconcile E) => c.record.any fun r => reconcileAccepts E.readyAt r && !E.assigned r.authorityId
  | .mutation (.publish E) => c.record.any fun r => publishAccepts E.readyAt r && publishMarks E r c
  | .unassigned authorityId _ => c.record.any fun r => r.authorityId = authorityId
  | .result item result E => result.status ≠ "confirmed" && resultMarks item result E c
  | _ => false

def moves (source target : ProcessingStage) (c c' : Cell) : Bool :=
  match c.record, c'.record with
  | some r, some r' => r.processingStage = source && r'.processingStage = target
  | _, _ => false

def starts (c c' : Cell) : Bool :=
  match c.record, c'.record with
  | none, some _ => true
  | some r, some r' =>
      r'.processingStatus = .ready && (r.processingStatus ≠ .ready || r'.processingStage ≠ r.processingStage)
  | _, none => false

def replicas (m : ARKMetadata) : Nat := min (m.level1ReplicaCount.getD 0) (m.level2ReplicaCount.getD 0)

def shown (r r' : ARKRecord) (m m' : ARKMetadata) : Option Event :=
  if r'.processingStage = .chain then some .advanced
  else if r'.processingStage = .complete then none
  else if r'.processingStatus = .ready then some .repaired
  else if r.processingStage = .availability ∧
      (r.processingWaitReason ≠ r'.processingWaitReason ∨ replicas m < replicas m') then some .changed
  else some .unchanged

def observes (cfg : ReplicationConfig) (E : ReconcileEnv) (r : ARKRecord) (c : Cell) : Option Event :=
  match (reconcileBody cfg E r c).2 with
  | .error _ => none
  | .ok (c', _) => match c.metadata, c'.record, c'.metadata with
    | some m, some r', some m' => shown r r' m m'
    | _, _, _ => none

def eventOf (cfg : Config) (k : ArkId) (c : Cell) (op : Op) : Option Event :=
  if fails c op then some .failed
  else match op with
    | .mutation (.persist _) => if moves .metadata .availability c (op.run cfg k c) then some .stored else none
    | .mutation (.reconcile E) =>
        c.record.bind fun r => if reconcileAccepts E.readyAt r then observes cfg.replication E r c else none
    | .mutation (.publish _) | .result .. =>
        if moves .chain .replication c (op.run cfg k c) then some .published else none
    | _ => if starts c (op.run cfg k c) then some .started else none

structure Chronicle where
  sys : Sys := {}
  history : ArkId → List Event := fun _ => []

def chronicle (cfg : Config) (w : Chronicle) (a : Act) : Option Chronicle :=
  (step cfg w.sys a).map fun t =>
    { sys := t
      history := fun k => ((opOf w.sys a k).bind (eventOf cfg k (w.sys.cells k))).toList ++ w.history k }

def Repeats (cfg : Config) (c : Cell) : Op → Prop
  | .mutation (.reconcile E) => ∃ r m level1 level2 repaired, c.record = some r ∧
      reconcileAccepts E.readyAt r = true ∧ c.metadata = some m ∧
      Observation cfg.replication E m level1 level2 repaired ∧
      addsObservation cfg.replication level1 level2 r m repaired = true
  | _ => False

/-- An ARK that comes to a failure had fewer than 32767 since the work on it last started anew, and
one that shows no change was seen without one fewer than 32767 times. -/
def Few (cfg : Config) (w : Chronicle) (a : Act) : Prop :=
  ∀ k op, opOf w.sys a k = some op →
    (fails (w.sys.cells k) op = true → failures (w.history k) < smallintMax) ∧
      (Repeats cfg (w.sys.cells k) op → observations (w.history k) < smallintMax)

def observationCount (c : Cell) : Nat := (c.metadata.map fun m => m.replicationObservationCount).getD 0

def Tallied (c : Cell) (history : List Event) : Prop :=
  attemptCount c ≤ failures history ∧ observationCount c ≤ observations history

variable {cfg : Config} {a : Act} {k : ArkId} {c c' : Cell} {op : Op} {history : List Event} {e : Event}

omit [PyLower] in
theorem moves_stages {source target : ProcessingStage} (h : moves source target c c' = true) :
    ∃ r r', c.record = some r ∧ c'.record = some r' ∧ r.processingStage = source ∧ r'.processingStage = target := by
  unfold moves at h
  split at h
  · exact ⟨_, _, ‹_›, ‹_›, by simpa using h⟩
  · cases h

omit [PyLower] in
theorem moves_noted {source target : ProcessingStage} (hne : source ≠ target) (hn : Noted c c') :
    moves source target c c' = false := by
  obtain ⟨r, r', hr, hr', -, -, -, hstage, -⟩ := hn.keeps
  simp only [moves, hr, hr', hstage, Bool.and_eq_false_iff, decide_eq_false_iff_not]
  by_cases h : r.processingStage = source
  · exact .inr fun h' => hne (h.symm.trans h')
  · exact .inl h

omit [PyLower] in
theorem moves_self {source target : ProcessingStage} (hne : source ≠ target) : moves source target c c = false := by
  rw [Bool.eq_false_iff]
  intro h
  obtain ⟨r, r', hr, hr', hsource, htarget⟩ := moves_stages h
  obtain rfl := Option.some.inj (hr.symm.trans hr')
  exact hne (hsource.symm.trans htarget)

omit [PyLower] in
theorem starts_self : starts c c = false := by
  unfold starts
  cases c.record <;> simp

omit [PyLower] in
theorem noted_attempts (hn : Noted c c') : attemptCount c' ≤ attemptCount c + 1 := by
  cases hn with
  | failed hr | deferred hr =>
      simp only [attemptCount, hr]
      simp [failedRecord, deferredRecord]

omit [PyLower] in
theorem attemptCount_some {r : ARKRecord} (hr : c.record = some r) : attemptCount c = r.processingAttemptCount := by
  rw [attemptCount, hr]
  rfl

theorem effect_attempts (h : Effect cfg k c op c') : attemptCount c' ≤ attemptCount c + 1 := by
  cases h with
  | none => exact Nat.le_succ _
  | reserved | raced | retried | persisted => exact Nat.zero_le _
  | staged hstaged =>
      obtain ⟨b, r, json, -, -, -, -, -, -, rfl⟩ := hstaged.ex
      exact Nat.zero_le _
  | tombstoned htomb =>
      rcases htomb.cases with ⟨r, hr, -, ⟨-, rfl⟩ | ⟨-, rfl⟩⟩ | ⟨r, info, r', -, -, -, hr', rfl⟩
      · exact Nat.le_succ _
      · exact (attemptCount_some hr).symm ▸ Nat.le_succ _
      · obtain rfl := Option.some.inj hr'
        exact Nat.zero_le _
  | observed hr =>
      rw [attemptCount_some rfl, attemptCount_some hr, reconciledRows_attempts]
      exact Nat.le_succ _
  | published _ _ hpub =>
      obtain ⟨m, cid, -, -, -, -, rfl⟩ := hpub
      exact Nat.zero_le _
  | publishedItem hpub =>
      obtain ⟨-, -, r, -, rfl⟩ := hpub
      exact Nat.zero_le _
  | persistNoted _ _ hn | reconcileNoted _ _ hn | publishNoted _ _ hn | unassigned _ _ hn
  | resultNoted _ hn => exact noted_attempts hn

omit [PyLower] in
theorem starts_noted (hn : Noted c c') : starts c c' = false := by
  cases hn with
  | failed hr =>
      simp only [starts, hr, failedRecord]
      split <;> rfl
  | deferred hr =>
      simp only [starts, hr]
      rfl

theorem reconcile_unmarked {E : ReconcileEnv}
    (hassigned : ∀ r, c.record = some r → reconcileAccepts E.readyAt r = true → E.assigned r.authorityId = true) :
    attemptCount (reconcile cfg.catalogue cfg.replication k E c).cell ≤ attemptCount c := by
  unfold reconcile
  cases hr : c.record with
  | none => exact le_rfl
  | some r =>
      by_cases hacc : reconcileAccepts E.readyAt r = true
      · simp only [hacc, hassigned r hr hacc, if_true]
        rcases hbody : reconcileBody cfg.replication E r c with ⟨repair, e | ⟨c', counts⟩⟩
        · simp only [reconcileFailure, deferProcessingRetry_some hr]
          exact (attemptCount_some hr).symm ▸ le_rfl
        · obtain ⟨m, level1Cid, level2Cid, level1, level2, -, -, -, -, -, -, -, rfl, -⟩ := reconcileBody_rows hbody
          rw [attemptCount_some rfl, attemptCount_some hr, reconciledRows_attempts]
      · simp only [hacc]
        exact le_rfl

theorem request_attempts {m : Mutation} (h : Effect cfg k c (.mutation m) c')
    (hm : (∀ E, m ≠ .persist E) ∧ (∀ E, m ≠ .reconcile E) ∧ ∀ E, m ≠ .publish E) :
    attemptCount c' ≤ attemptCount c ∧ (starts c c' = true → attemptCount c' = 0) := by
  cases h with
  | none => exact ⟨le_rfl, by simp [starts_self]⟩
  | raced | retried => exact ⟨Nat.zero_le _, fun _ => rfl⟩
  | staged hstaged =>
      obtain ⟨b, r, json, -, -, -, -, -, -, rfl⟩ := hstaged.ex
      exact ⟨Nat.zero_le _, fun _ => rfl⟩
  | tombstoned htomb =>
      rcases htomb.cases with ⟨r, hr, -, ⟨-, rfl⟩ | ⟨-, rfl⟩⟩ | ⟨r, info, r', -, -, -, hr', rfl⟩
      · exact ⟨le_rfl, by simp [starts_self]⟩
      · exact ⟨(attemptCount_some hr).symm ▸ le_rfl, by simp [starts, hr, tombstonedRecord]⟩
      · obtain rfl := Option.some.inj hr'
        exact ⟨Nat.zero_le _, fun _ => rfl⟩
  | persistNoted | persisted => exact absurd rfl (hm.1 _)
  | reconcileNoted | observed => exact absurd rfl (hm.2.1 _)
  | publishNoted | published => exact absurd rfl (hm.2.2 _)

theorem attempts_unfailed (ha : Admissible c op) (hroom : HasRoom cfg c op) (hfails : fails c op = false) :
    attemptCount (op.run cfg k c) ≤ attemptCount c := by
  have heffect : Effect cfg k c op (op.run cfg k c) := op_effect op
  cases op with
  | reserve row => exact Nat.zero_le _
  | mutation m =>
      cases m with
      | persist E =>
          refine persist_unmarked fun r hr hacc => ?_
          simpa [fails, hr, hacc] using hfails
      | reconcile E =>
          refine reconcile_unmarked fun r hr hacc => ?_
          simpa [fails, hr, hacc] using hfails
      | publish E =>
          refine (publishSingleArk_returns hroom).2 fun r hr hacc => ?_
          simpa [fails, hr, hacc] using hfails
      | put | delete | retry => exact (request_attempts heffect ⟨by simp, by simp, by simp⟩).1
  | unassigned authorityId now =>
      simp only [Op.run, markUnassigned]
      cases hr : c.record with
      | none => exact le_rfl
      | some r =>
          have hother : r.authorityId ≠ authorityId := by simpa [fails, hr] using hfails
          simp only [if_neg hother]
          exact le_rfl
  | result item result E =>
      obtain ⟨handled, hhandled, hkept⟩ := settleResult_returns cfg.catalogue item fun hstatus =>
        (present ha hstatus).imp fun r hr => ⟨hr, hroom hstatus r hr⟩
      simp only [Op.run, hhandled, Except.map, settle]
      refine hkept fun hstatus => ?_
      simpa [fails, hstatus] using hfails

/-- The operations that an event of an ARK comes from, and what it tells of the rows. -/
inductive Occurs (c c' : Cell) : Op → Event → Prop
  | failed {op : Op} : Occurs c c' op .failed
  | stored {E : PersistEnv} (hmoves : moves .metadata .availability c c' = true) :
      Occurs c c' (.mutation (.persist E)) .stored
  | observed {E : ReconcileEnv} {e : Event} (he : e = .unchanged ∨ e = .changed ∨ e = .advanced ∨ e = .repaired) :
      Occurs c c' (.mutation (.reconcile E)) e
  | published {E : PublishEnv} (hmoves : moves .chain .replication c c' = true) :
      Occurs c c' (.mutation (.publish E)) .published
  | publishedItem {item : PipelineItem} {result : ARKPublishResult} {E : ResultEnv}
      (hmoves : moves .chain .replication c c' = true) : Occurs c c' (.result item result E) .published
  | requested {m : Mutation} (hm : (∀ E, m ≠ .persist E) ∧ (∀ E, m ≠ .reconcile E) ∧ ∀ E, m ≠ .publish E)
      (hstarts : starts c c' = true) : Occurs c c' (.mutation m) .started
  | reserved {row : Reservation} (hstarts : starts c c' = true) : Occurs c c' (.reserve row) .started
  | unassigned {authorityId : String} {now : Time} (hstarts : starts c c' = true) :
      Occurs c c' (.unassigned authorityId now) .started

omit [PyLower] in
theorem shown_event {r r' : ARKRecord} {m m' : ARKMetadata} (h : shown r r' m m' = some e) :
    e = .unchanged ∨ e = .changed ∨ e = .advanced ∨ e = .repaired := by
  unfold shown at h
  split at h
  · exact .inr (.inr (.inl (Option.some.inj h).symm))
  · split at h
    · cases h
    · split at h
      · exact .inr (.inr (.inr (Option.some.inj h).symm))
      · split at h
        · exact .inr (.inl (Option.some.inj h).symm)
        · exact .inl (Option.some.inj h).symm

theorem observes_event {cfg : ReplicationConfig} {E : ReconcileEnv} {r : ARKRecord}
    (h : observes cfg E r c = some e) : e = .unchanged ∨ e = .changed ∨ e = .advanced ∨ e = .repaired := by
  unfold observes at h
  split at h
  · cases h
  · split at h
    · exact shown_event h
    · cases h

theorem eventOf_occurs (he : eventOf cfg k c op = some e) : Occurs c (op.run cfg k c) op e := by
  unfold eventOf at he
  split at he
  · obtain rfl := Option.some.inj he
    exact .failed
  · cases op with
    | reserve row =>
        simp only [Option.ite_none_right_eq_some, Option.some.injEq] at he
        obtain ⟨hstarts, rfl⟩ := he
        exact .reserved hstarts
    | mutation m =>
        cases m with
        | persist E =>
            simp only [Option.ite_none_right_eq_some, Option.some.injEq] at he
            obtain ⟨hmoves, rfl⟩ := he
            exact .stored hmoves
        | reconcile E =>
            obtain ⟨r, -, hobserves⟩ := Option.bind_eq_some_iff.mp he
            exact .observed (observes_event (Option.ite_none_right_eq_some.mp hobserves).2)
        | publish E =>
            simp only [Option.ite_none_right_eq_some, Option.some.injEq] at he
            obtain ⟨hmoves, rfl⟩ := he
            exact .published hmoves
        | put | delete | retry =>
            simp only [Option.ite_none_right_eq_some, Option.some.injEq] at he
            obtain ⟨hstarts, rfl⟩ := he
            exact .requested ⟨by simp, by simp, by simp⟩ hstarts
    | unassigned authorityId now =>
        simp only [Option.ite_none_right_eq_some, Option.some.injEq] at he
        obtain ⟨hstarts, rfl⟩ := he
        exact .unassigned hstarts
    | result item result E =>
        simp only [Option.ite_none_right_eq_some, Option.some.injEq] at he
        obtain ⟨hmoves, rfl⟩ := he
        exact .publishedItem hmoves

omit [PyLower] in
theorem Occurs.unobserved (h : Occurs c c' op e) (hne : ∀ E, op ≠ .mutation (.reconcile E)) :
    e = .failed ∨ e = .started ∨ e = .stored ∨ e = .published := by
  cases h with
  | observed => exact absurd rfl (hne _)
  | failed => exact .inl rfl
  | requested | reserved | unassigned => exact .inr (.inl rfl)
  | stored => exact .inr (.inr (.inl rfl))
  | published | publishedItem => exact .inr (.inr (.inr rfl))

theorem counts_restarted (h : Effect cfg k c op c') (he : Occurs c c' op e) :
    (e = .started ∨ e = .stored ∨ e = .published → attemptCount c' = 0) ∧ (e = .stored → observationCount c' = 0) := by
  cases he with
  | failed => simp
  | stored hmoves =>
      cases h with
      | none => simp [moves_self] at hmoves
      | persistNoted _ _ hn => simp [moves_noted _ hn] at hmoves
      | persisted => exact ⟨fun _ => rfl, fun _ => rfl⟩
  | observed he => rcases he with rfl | rfl | rfl | rfl <;> simp
  | published hmoves =>
      cases h with
      | none => simp [moves_self] at hmoves
      | publishNoted _ _ hn => simp [moves_noted _ hn] at hmoves
      | published _ _ hpub =>
          obtain ⟨m, cid, -, -, -, -, rfl⟩ := hpub
          exact ⟨fun _ => rfl, nofun⟩
  | publishedItem hmoves =>
      cases h with
      | none => simp [moves_self] at hmoves
      | resultNoted _ hn => simp [moves_noted _ hn] at hmoves
      | publishedItem hpub =>
          obtain ⟨-, -, r, -, rfl⟩ := hpub
          exact ⟨fun _ => rfl, nofun⟩
  | requested hm hstarts => exact ⟨fun _ => (request_attempts h hm).2 hstarts, nofun⟩
  | reserved hstarts =>
      cases h with
      | none => simp [starts_self] at hstarts
      | reserved => exact ⟨fun _ => rfl, nofun⟩
  | unassigned hstarts =>
      cases h with
      | none => simp [starts_self] at hstarts
      | unassigned _ _ hn => simp [starts_noted hn] at hstarts

theorem effect_observations (h : Effect cfg k c op c') (hne : ∀ E, op ≠ .mutation (.reconcile E)) :
    observationCount c' ≤ observationCount c := by
  have hnoted : ∀ {c' : Cell}, Noted c c' → observationCount c' ≤ observationCount c := by
    intro c' hn
    rw [observationCount, hn.metadata, observationCount]
  cases h with
  | none => exact le_rfl
  | reserved | raced | retried => exact le_rfl
  | persisted => exact Nat.zero_le _
  | staged hstaged =>
      obtain ⟨b, r, json, hb, -, -, -, -, -, rfl⟩ := hstaged.ex
      have hbase : observationCount b ≤ observationCount c := by
        cases hb with
        | own hs => cases hs <;> exact le_rfl
        | imported => exact le_rfl
        | reclaimed => exact Nat.zero_le _
      refine le_trans ?_ hbase
      unfold observationCount staged withPayload createOrUpdateMetadata
      cases b.metadata <;> exact le_rfl
  | tombstoned htomb =>
      rcases htomb.cases with ⟨r, hr, -, ⟨-, rfl⟩ | ⟨-, rfl⟩⟩ | ⟨r, info, r', -, -, -, -, rfl⟩
      · exact le_rfl
      · exact le_rfl
      · exact Nat.zero_le _
  | published _ _ hpub =>
      obtain ⟨m, cid, -, -, -, -, rfl⟩ := hpub
      exact le_rfl
  | publishedItem hpub =>
      obtain ⟨-, -, r, -, rfl⟩ := hpub
      exact le_rfl
  | persistNoted _ _ hn | publishNoted _ _ hn | unassigned _ _ hn | resultNoted _ hn => exact hnoted hn
  | reconcileNoted | observed => exact absurd rfl (hne _)

theorem shown_counts {cfg : ReplicationConfig} {E : ReconcileEnv} {level1 level2 : ReplicationStatus} {r : ARKRecord}
    {m : ARKMetadata} {repaired : Nat}
    (hstage : r.processingStage = .availability ∨ r.processingStage = .replication)
    (hm : m.replicationObservationCount ≤ observations history) :
    (reconciledRows cfg E level1 level2 r m repaired).2.1.replicationObservationCount ≤
      observations ((shown r (reconciledRows cfg E level1 level2 r m repaired).1 m
        (reconciledRows cfg E level1 level2 r m repaired).2.1).toList ++ history) := by
  unfold reconciledRows
  rcases hstage with hstage | hstage
  · simp only [hstage, if_true, reconcileAvailability]
    split
    · exact Nat.zero_le _
    · simp only [shown, hstage, observedMetadata, replicas, Option.getD_some, true_and, reduceCtorEq, if_false,
        Bool.or_eq_true, decide_eq_true_eq]
      split
      · exact le_rfl
      · exact Nat.succ_le_succ hm
  · simp only [hstage, reduceCtorEq, if_false, reconcileDurability]
    split
    · simpa [shown, observedMetadata] using hm
    · split
      · exact Nat.zero_le _
      · simpa [shown, hstage, observations] using hm

theorem reconcile_observations {E : ReconcileEnv} (h : observationCount c ≤ observations history) :
    observationCount (reconcile cfg.catalogue cfg.replication k E c).cell ≤
      observations ((eventOf cfg k c (.mutation (.reconcile E))).toList ++ history) := by
  unfold reconcile eventOf fails
  cases hr : c.record with
  | none => simpa using h
  | some r =>
      by_cases hacc : reconcileAccepts E.readyAt r = true
      · by_cases hassigned : E.assigned r.authorityId = true
        · simp only [hacc, hassigned, if_true, Option.any_some, Bool.not_true, Bool.and_false, Bool.false_eq_true,
            if_false, Option.bind_some, observes]
          rcases hbody : reconcileBody cfg.replication E r c with ⟨repair, e | ⟨c', counts⟩⟩
          · simp only [reconcileFailure, deferProcessingRetry_some hr]
            exact h
          · obtain ⟨m, level1Cid, level2Cid, level1, level2, hm, -, -, -, -, -, -, rfl, -⟩ := reconcileBody_rows hbody
            simp only [hm]
            refine shown_counts (reconcileAccepts_live hacc).2 ?_
            rwa [observationCount, hm] at h
        · simp only [hacc, hassigned, if_true, Option.any_some, Bool.not_false, Bool.and_self, Bool.false_eq_true,
            if_false]
          refine le_trans (le_of_eq ?_) h
          rw [observationCount, observationCount]
          split
          · rw [(markProcessingFailed_noted ‹_›).metadata]
          · simp only [reconcileFailure, deferProcessingRetry_some hr]
      · simpa [hacc] using h

theorem tallied_event (ha : Admissible c op) (hroom : HasRoom cfg c op) (h : Tallied c history) :
    Tallied (op.run cfg k c) ((eventOf cfg k c op).toList ++ history) := by
  have heffect : Effect cfg k c op (op.run cfg k c) := op_effect op
  constructor
  · by_cases hfails : fails c op = true
    · have hevent : eventOf cfg k c op = some .failed := if_pos hfails
      rw [hevent]
      exact (effect_attempts heffect).trans (Nat.succ_le_succ h.1)
    · have hkept := (attempts_unfailed (k := k) ha hroom (Bool.eq_false_iff.mpr hfails)).trans h.1
      cases he : eventOf cfg k c op with
      | none => exact hkept
      | some e =>
          have hrestarted := (counts_restarted heffect (eventOf_occurs he)).1
          cases e with
          | started | stored | published => exact le_of_eq (hrestarted (by simp))
          | failed => exact Nat.le_succ_of_le hkept
          | unchanged | changed | advanced | repaired => exact hkept
  · by_cases hreconcile : ∃ E, op = .mutation (.reconcile E)
    · obtain ⟨E, rfl⟩ := hreconcile
      exact reconcile_observations h.2
    · have hkept := (effect_observations heffect (not_exists.mp hreconcile)).trans h.2
      cases he : eventOf cfg k c op with
      | none => exact hkept
      | some e =>
          have hoccurs : Occurs c (op.run cfg k c) op e := eventOf_occurs he
          rcases hoccurs.unobserved (not_exists.mp hreconcile) with rfl | rfl | rfl | rfl
          · exact hkept
          · exact hkept
          · exact le_of_eq ((counts_restarted heffect hoccurs).2 rfl)
          · exact hkept

theorem hasRoom_of_tallied (h : Tallied c history) (hfails : fails c op = true → failures history < smallintMax)
    (hrepeats : Repeats cfg c op → observations history < smallintMax) : HasRoom cfg c op := by
  have hroom : ∀ r, c.record = some r → ∀ p : Bool, (p = true → fails c op = true) → Room r p := by
    intro r hr p hp hdue
    rw [← attemptCount_some hr]
    exact lt_of_le_of_lt h.1 (hfails (hp hdue))
  cases op with
  | reserve row => trivial
  | mutation m =>
      cases m with
      | put | delete | retry => trivial
      | persist E => exact fun r hr hacc => hroom r hr _ fun hmarks => by simp [fails, hr, hacc, hmarks]
      | publish E => exact fun r hr hacc => hroom r hr _ fun hmarks => by simp [fails, hr, hacc, hmarks]
      | reconcile E =>
          intro r hr hacc
          refine ⟨hroom r hr _ fun hassigned => by simpa [fails, hr, hacc] using hassigned, ?_⟩
          intro m level1 level2 repaired hm hobserved hadds
          have hcount : m.replicationObservationCount = observationCount c := by rw [observationCount, hm]; rfl
          rw [hcount]
          exact lt_of_le_of_lt h.2 (hrepeats ⟨r, m, level1, level2, repaired, hr, hacc, hm, hobserved, hadds⟩)
  | unassigned authorityId now => exact fun r hr => hroom r hr _ fun howner => by simpa [fails, hr] using howner
  | result item result E =>
      exact fun hstatus r hr => hroom r hr _ fun hmarks => by simp [fails, hstatus, hmarks]

variable {w w' : Chronicle}

theorem chronicle_step (h : chronicle cfg w a = some w') : step cfg w.sys a = some w'.sys := by
  obtain ⟨t, ht, rfl⟩ := Option.map_eq_some_iff.mp h
  exact ht

theorem chronicle_reach {G : Chronicle → Act → Prop} (h : Reach (chronicle cfg) G {} w) :
    Reach (step cfg) Free {} w.sys := by
  induction h with
  | init => exact .init
  | next _ _ hs ih => exact .next ih trivial (chronicle_step hs)

theorem chronicle_admissible {G : Chronicle → Act → Prop} (h : Reach (chronicle cfg) G {} w)
    (hs : chronicle cfg w a = some w') (hop : opOf w.sys a k = some op) : Admissible (w.sys.cells k) op :=
  admissible (reach_applying (chronicle_reach h)) (reach_flying (chronicle_reach h)) (chronicle_step hs) hop

/-- Throughout the run no counter exceeds what the history of its ARK comes to. -/
theorem reach_tallied (h : Reach (chronicle cfg) (Few cfg) {} w) (k : ArkId) :
    Tallied (w.sys.cells k) (w.history k) := by
  induction h with
  | init => exact ⟨le_rfl, le_rfl⟩
  | next hreach hg hs ih =>
      obtain ⟨t, ht, rfl⟩ := Option.map_eq_some_iff.mp hs
      rcases step_cells ht k with ⟨hop, hcells⟩ | ⟨op, hop, hcells⟩
      · simpa [hop, hcells] using ih
      · have hroom := hasRoom_of_tallied ih (hg k op hop).1 (hg k op hop).2
        simpa [hop, hcells] using tallied_event (chronicle_admissible hreach hs hop) hroom ih

/-- In every run in which no ARK comes to its 32768th failure since the work on it last started anew,
and none is seen to be unchanged that often, the stored counters are SMALLINTs and every step
records what it has to. -/
theorem counters_representable (h : Reach (chronicle cfg) (Few cfg) {} w) :
    (∀ k, Bounded (w.sys.cells k)) ∧
      ∀ a w', Few cfg w a → chronicle cfg w a = some w' → ∀ k op, opOf w.sys a k = some op →
        Recorded cfg k (w.sys.cells k) op := by
  refine ⟨reach_bounded (chronicle_reach h), ?_⟩
  intro a w' hg hs k op hop
  exact recorded_of_room (reach_bounded (chronicle_reach h) k) (chronicle_admissible h hs hop)
    (hasRoom_of_tallied (reach_tallied h k) (hg k op hop).1 (hg k op hop).2)

omit [PyLower] in
theorem failures_le (history : List Event) : failures history ≤ history.length := by
  induction history with
  | nil => exact le_rfl
  | cons e history ih => cases e <;> simp only [failures, List.length_cons] <;> omega

omit [PyLower] in
theorem observations_le (history : List Event) : observations history ≤ history.length := by
  induction history with
  | nil => exact le_rfl
  | cons e history ih => cases e <;> simp only [observations, List.length_cons] <;> omega

theorem few_of_length (h : ∀ k, (w.history k).length < smallintMax) : Few cfg w a :=
  fun k _ _ => ⟨fun _ => (failures_le _).trans_lt (h k), fun _ => (observations_le _).trans_lt (h k)⟩

theorem history_length {as : List Act} (h : run (chronicle cfg) as {} = some w) (k : ArkId) :
    (w.history k).length ≤ as.length := by
  induction as using List.reverseRecOn generalizing w with
  | nil =>
      obtain rfl := Option.some.inj h
      exact le_rfl
  | append_singleton as a ih =>
      obtain ⟨u, hu, hstep⟩ := run_concat h
      obtain ⟨t, -, rfl⟩ := Option.map_eq_some_iff.mp hstep
      have hbefore := ih hu
      have hone : ((opOf u.sys a k).bind (eventOf cfg k (u.sys.cells k))).toList.length ≤ 1 := by
        cases (opOf u.sys a k).bind (eventOf cfg k (u.sys.cells k)) <;> simp
      simp only [List.length_append, List.length_singleton]
      omega

/-- A run of at most 32767 steps comes to no failure or observation too many. -/
theorem short_reach {as : List Act} (h : run (chronicle cfg) as {} = some w) (hshort : as.length ≤ smallintMax) :
    Reach (chronicle cfg) (Few cfg) {} w := by
  induction as using List.reverseRecOn generalizing w with
  | nil =>
      obtain rfl := Option.some.inj h
      exact .init
  | append_singleton as a ih =>
      obtain ⟨u, hu, hstep⟩ := run_concat h
      rw [List.length_append, List.length_singleton] at hshort
      refine .next (ih hu (by omega)) (few_of_length fun k => ?_) hstep
      have hlength := history_length hu k
      omega

end

section Sample

attribute [local instance] asciiText

open Sample RetryBudget StagedPayload

theorem mutate_step {s : Sys} (hlocks : ∀ k, s.control.locks k = none) (k : ArkId) (m : Mutation) :
    ∃ t, step config s (.mutate k m) = some t ∧ t.control = s.control ∧
      t.cells k = m.run config k (s.cells k) := by
  refine ⟨_, rfl, rfl, ?_⟩
  simp [cellsAfter, opOf, hlocks, Op.run]

theorem attempts_reach {s : Sys} (hlocks : ∀ k, s.control.locks k = none) (k : ArkId)
    (Es : List PersistEnv) :
    ∃ t, Reach (step config) Free s t ∧ t.control = s.control ∧
      t.cells k = attempts config.catalogue k Es (s.cells k) := by
  induction Es generalizing s with
  | nil => exact ⟨s, .init, rfl, rfl⟩
  | cons E Es ih =>
      obtain ⟨u, hu, hcontrol, hcells⟩ := mutate_step hlocks k (.persist E)
      obtain ⟨t, ht, hcontrol', hcells'⟩ := ih (s := u) (by rw [hcontrol]; exact hlocks)
      refine ⟨t, (Reach.next .init trivial hu).trans ht, hcontrol'.trans hcontrol, ?_⟩
      rw [hcells', hcells]
      rfl

theorem staged_reach : ∃ s, Reach (step config) Free {} s ∧ s.control = {} ∧
    s.cells ark = (put owner ark request putEnv reserved).2 := by
  have hfirst : ∃ s, step config {} (.reserve [(ark, ⟨"A", none, 0⟩)]) = some s ∧ s.control = {} ∧
      s.cells ark = reserved := ⟨_, rfl, rfl, rfl⟩
  obtain ⟨s, hs, hcontrol, hcells⟩ := hfirst
  obtain ⟨t, ht, hcontrol', hcells'⟩ := mutate_step (s := s) (by simp [hcontrol]) ark (.put owner request putEnv)
  refine ⟨t, (Reach.next .init trivial hs).next trivial ht, hcontrol'.trans hcontrol, ?_⟩
  rw [hcells', hcells]
  rfl

def firstFailure : List Act :=
  [.reserve [(ark, ⟨"A", none, 0⟩)], .mutate ark (.put owner request putEnv), .mutate ark (.persist (failing 0))]

theorem counters_representable_sample :
    ∃ w w', Reach (chronicle config) (Few config) {} w ∧ w.history ark = [.failed, .started, .started] ∧
      chronicle config w (.mutate ark (.persist (failing 1))) = some w' ∧
      Recorded config ark (w.sys.cells ark) (.mutation (.persist (failing 1))) := by
  obtain ⟨w, hw, hhistory, hop⟩ : ∃ w, run (chronicle config) firstFailure {} = some w ∧
      w.history ark = [.failed, .started, .started] ∧
      opOf w.sys (.mutate ark (.persist (failing 1))) ark = some (.mutation (.persist (failing 1))) :=
    ⟨_, rfl, rfl, rfl⟩
  have hreach := short_reach hw (by decide)
  have hshort : firstFailure.length < smallintMax := by decide
  exact ⟨w, _, hreach, hhistory, rfl, (counters_representable hreach).2 _ _
    (few_of_length fun k => (history_length hw k).trans_lt hshort) rfl ark _ hop⟩

/-- The failure number 32768 of an ARK cannot be recorded: the attempt raises. -/
theorem failure_not_recorded :
    ∃ s, Reach (step config) Free {} s ∧
      ¬Recorded config ark (s.cells ark) (.mutation (.persist (failing smallintMax))) := by
  obtain ⟨s, hs, hcontrol, hcells⟩ := staged_reach
  obtain ⟨t, ht, -, hcells'⟩ := attempts_reach (s := s) (by simp [hcontrol]) ark
    ((List.range smallintMax).map failing)
  refine ⟨t, hs.trans ht, ?_⟩
  have htimes : FailedTimes smallintMax (t.cells ark) := by
    rw [hcells', hcells]
    exact (failedTimes_attempts failedTimes_staged le_rfl).2
  have hbody : ∀ r, persistBody (failing smallintMax) r (t.cells ark) = .error (valueError "invalid response") :=
    fun r => persistBody_failing htimes
  obtain ⟨r, m, hr, -, -, -, -, hacc, hcount⟩ := htimes
  rintro ⟨b, hb⟩
  have hready : (failing smallintMax).readyAt = seconds (60 * smallintMax) := rfl
  have hfull : ¬r.processingAttemptCount + 1 ≤ smallintMax := by omega
  simp [persist, hr, hready, hacc, hbody, persistFailure, notInfrastructure, markProcessingFailed,
    hfull] at hb

end Sample

end DarkMinter.CounterHistory
