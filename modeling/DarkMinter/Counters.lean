import DarkMinter.InFlight
import DarkMinter.Marks

namespace DarkMinter.Counters

open Text Processing Records Repository ArkApi Requests Persistence Replication Publication
open Deployment Attempts Effects ResultApplication InFlight Marks Lib.Runs

section

variable [PyLower]

/-- The observation counter goes up where the observation neither advances the
ARK nor shows a change, and no repair starts it anew. -/
def addsObservation (cfg : ReplicationConfig) (level1 level2 : ReplicationStatus) (r : ARKRecord)
    (m : ARKMetadata) (repaired : Nat) : Bool :=
  let replicas := min level1.totalReplicas.toNat level2.totalReplicas.toNat
  if r.processingStage = .availability then
    replicas < cfg.publishAfter && r.processingWaitReason = waitReason level1 level2 &&
      replicas ≤ min (m.level1ReplicaCount.getD 0) (m.level2ReplicaCount.getD 0)
  else replicas < cfg.targetReplicas && repaired = 0

def Observation (cfg : ReplicationConfig) (E : ReconcileEnv) (m : ARKMetadata)
    (level1 level2 : ReplicationStatus) (repaired : Nat) : Prop :=
  ∃ level1Cid level2Cid, m.level1Cid = some level1Cid ∧ m.originalCid = some level2Cid ∧
    observe E level1Cid level2Cid = .ok (level1, level2) ∧
    (repairs cfg E level1 level2 m level1Cid level2Cid).outcome = .ok () ∧
    (repairs cfg E level1 level2 m level1Cid level2Cid).repaired = repaired

/-- An operation that has a failure or an observation to count finds the
counter below the largest SMALLINT. -/
def HasRoom (cfg : Config) (c : Cell) : Op → Prop
  | .mutation (.persist E) => ∀ r, c.record = some r → persistAccepts E.readyAt r = true →
      Room r (persistMarks E r c)
  | .mutation (.reconcile E) => ∀ r, c.record = some r → reconcileAccepts E.readyAt r = true →
      Room r (!E.assigned r.authorityId) ∧
        ∀ m level1 level2 repaired, c.metadata = some m →
          Observation cfg.replication E m level1 level2 repaired →
            addsObservation cfg.replication level1 level2 r m repaired = true →
              m.replicationObservationCount < smallintMax
  | .mutation (.publish E) => ∀ r, c.record = some r → publishAccepts E.readyAt r = true →
      Room r (publishMarks E r c)
  | .unassigned authorityId _ => ∀ r, c.record = some r → Room r (r.authorityId = authorityId)
  | .result item result E => result.status ≠ "confirmed" → ∀ r, c.record = some r →
      Room r (resultMarks item result E c)
  | _ => True

/-- An operation records the failure or the observation that it has to: no
exception of its own leaves it, and no counter needs a value that a SMALLINT
cannot hold. -/
def Recorded (cfg : Config) (k : ArkId) (c : Cell) : Op → Prop
  | .mutation (.persist E) => ∃ b, (persist cfg.catalogue k E c).result = .ok b
  | .mutation (.reconcile E) => ∀ r, c.record = some r → reconcileAccepts E.readyAt r = true →
      (E.assigned r.authorityId = false → ∃ c', markProcessingFailed cfg.catalogue k.ark
        "Authority not assigned to this Minter" .authorityNotFound true E.failedAt c = .ok c') ∧
      ∀ m level1 level2 repaired, c.metadata = some m →
        Observation cfg.replication E m level1 level2 repaired →
          (reconciledRows cfg.replication E level1 level2 r m repaired).2.1.replicationObservationCount ≤
            smallintMax
  | .mutation (.publish E) => ∃ b, (publishSingleArk cfg.catalogue k E c).result = .ok b
  | .unassigned authorityId now => ∃ c', markUnassigned cfg.catalogue k authorityId now c = .ok c'
  | .result item result E => ∃ handled, settleResult cfg.catalogue item result E c = .ok handled
  | _ => True

def Bounded (c : Cell) : Prop :=
  (∀ r, c.record = some r → r.processingAttemptCount ≤ smallintMax) ∧
    ∀ m, c.metadata = some m → m.replicationObservationCount ≤ smallintMax

theorem reconciledRows_observations (cfg : ReplicationConfig) (E : ReconcileEnv)
    (level1 level2 : ReplicationStatus) (r : ARKRecord) (m : ARKMetadata) (repaired : Nat) :
    (reconciledRows cfg E level1 level2 r m repaired).2.1.replicationObservationCount ≤
      if addsObservation cfg level1 level2 r m repaired then m.replicationObservationCount + 1
      else max m.replicationObservationCount 1 := by
  have hone : 1 ≤ max m.replicationObservationCount 1 := le_max_right _ _
  have hkept : m.replicationObservationCount ≤ max m.replicationObservationCount 1 := le_max_left _ _
  generalize max m.replicationObservationCount 1 = bound at hone hkept ⊢
  unfold reconciledRows addsObservation
  by_cases hstage : r.processingStage = .availability
  · simp only [hstage, if_true, reconcileAvailability]
    generalize min level1.totalReplicas.toNat level2.totalReplicas.toNat = replicas
    generalize min (m.level1ReplicaCount.getD 0) (m.level2ReplicaCount.getD 0) = previous
    by_cases hready : cfg.publishAfter ≤ replicas
    · simp [hready]
    · by_cases hreason : r.processingWaitReason = waitReason level1 level2
      · by_cases hmore : previous < replicas
        · simp [hready, hreason, hmore, Nat.not_le_of_lt hmore, hone]
        · simp [hready, hreason, hmore, Nat.lt_of_not_le hready, Nat.le_of_not_lt hmore]
      · simp [hready, hreason, hone]
  · simp only [hstage, if_false, reconcileDurability]
    generalize min level1.totalReplicas.toNat level2.totalReplicas.toNat = replicas
    by_cases hready : cfg.targetReplicas ≤ replicas
    · simp [hready, Nat.not_lt_of_le hready, observedMetadata, hkept]
    · by_cases hrepaired : repaired = 0
      · simp [hready, hrepaired, Nat.lt_of_not_le hready]
      · simp [hready, hrepaired, Nat.pos_of_ne_zero hrepaired]

theorem reconciledRows_attempts (cfg : ReplicationConfig) (E : ReconcileEnv)
    (level1 level2 : ReplicationStatus) (r : ARKRecord) (m : ARKMetadata) (repaired : Nat) :
    (reconciledRows cfg E level1 level2 r m repaired).1.processingAttemptCount =
      r.processingAttemptCount := by
  have hrecord := (reconciledRows_rows cfg E level1 level2 r m repaired).1
  generalize (reconciledRows cfg E level1 level2 r m repaired).1 = r' at hrecord ⊢
  cases hrecord <;> rfl

variable {cfg : Config} {s t : Sys} {a : Act} {k : ArkId} {c c' : Cell} {op : Op}

omit [PyLower] in
theorem bounded_noted (hn : Noted c c') (h : Bounded c) : Bounded c' := by
  cases hn with
  | failed hr hcount =>
      refine ⟨?_, h.2⟩
      rintro _ ⟨⟩
      exact hcount
  | deferred hr =>
      have hbound := h.1 _ hr
      refine ⟨?_, h.2⟩
      rintro _ ⟨⟩
      exact hbound

theorem bounded_effect (h : Bounded c) (heffect : Effect cfg k c op c') : Bounded c' := by
  cases heffect with
  | none => exact h
  | reserved | raced | retried =>
      refine ⟨?_, h.2⟩
      rintro _ ⟨⟩
      exact Nat.zero_le _
  | staged hstaged =>
      obtain ⟨b, r, json, hb, -, -, -, -, -, rfl⟩ := hstaged.ex
      have hmeta : ∀ m, b.metadata = some m → m.replicationObservationCount ≤ smallintMax := by
        cases hb with
        | own hs => cases hs <;> exact h.2
        | imported => exact h.2
        | reclaimed => exact fun _ hm => nomatch hm
      refine ⟨?_, ?_⟩
      · rintro _ ⟨⟩
        exact Nat.zero_le _
      · intro m hm
        unfold staged withPayload createOrUpdateMetadata at hm
        cases hbm : b.metadata with
        | none =>
            simp only [hbm, Option.some.injEq] at hm
            rw [← hm]
            exact Nat.zero_le _
        | some m' =>
            simp only [hbm, Option.some.injEq] at hm
            rw [← hm]
            exact hmeta m' hbm
  | tombstoned htomb =>
      refine htomb.keeps h (fun info r _ => ⟨?_, fun _ hm => nomatch hm⟩) fun b r hr hb => ⟨?_, hb.2⟩
      · rintro _ ⟨⟩
        exact Nat.zero_le _
      · rintro _ ⟨⟩
        exact hb.1 r hr
  | persisted =>
      refine ⟨?_, ?_⟩
      · rintro _ ⟨⟩
        exact Nat.zero_le _
      · rintro _ ⟨⟩
        exact Nat.zero_le _
  | observed hr _ hm _ _ hfit =>
      refine ⟨?_, ?_⟩
      · rintro _ ⟨⟩
        rw [reconciledRows_attempts]
        exact h.1 _ hr
      · rintro _ ⟨⟩
        simp only [smallintsFit, Bool.and_eq_true, decide_eq_true_eq] at hfit
        exact hfit.2
  | published _ _ hpub =>
      obtain ⟨m, cid, -, -, -, -, rfl⟩ := hpub
      refine ⟨?_, h.2⟩
      rintro _ ⟨⟩
      exact Nat.zero_le _
  | publishedItem hpub =>
      obtain ⟨-, -, r, -, rfl⟩ := hpub
      refine ⟨?_, h.2⟩
      rintro _ ⟨⟩
      exact Nat.zero_le _
  | persistNoted _ _ hn | reconcileNoted _ _ hn | publishNoted _ _ hn | unassigned _ _ hn
  | resultNoted _ hn => exact bounded_noted hn h

theorem reach_bounded {G : Sys → Act → Prop} (h : Reach (step cfg) G {} s) (k : ArkId) :
    Bounded (s.cells k) := by
  refine reach_cells (I := Bounded) h ⟨?_, ?_⟩ ?_ k
  · rintro _ ⟨⟩
  · rintro _ ⟨⟩
  · intro s a k op _ _ _ heffect hc
    exact bounded_effect hc heffect

omit [PyLower] in
theorem present {item : PipelineItem} {result : ARKPublishResult} {E : ResultEnv}
    (ha : Admissible c (.result item result E)) (hstatus : result.status ≠ "confirmed") : ∃ r, c.record = some r := by
  obtain ⟨r, _, hr, -⟩ := isCurrent_iff.mp (ha.2.resolve_left hstatus)
  exact ⟨r, hr⟩

theorem recorded_of_room (hc : Bounded c) (ha : Admissible c op) (hroom : HasRoom cfg c op) :
    Recorded cfg k c op := by
  cases op with
  | reserve row => trivial
  | mutation m =>
      cases m with
      | put | delete | retry => trivial
      | persist E => exact persist_returns hroom
      | publish E => exact (publishSingleArk_returns hroom).1
      | reconcile E =>
          intro r hr hacc
          obtain ⟨hmark, hadd⟩ := hroom r hr hacc
          refine ⟨fun hunassigned => ?_, fun m level1 level2 repaired hm hobs => ?_⟩
          · exact markProcessingFailed_some _ _ _ _ _ _ hr (hmark (by simp [hunassigned]))
          · have hbound := reconciledRows_observations cfg.replication E level1 level2 r m repaired
            have hstored := hc.2 m hm
            have hadd := hadd m level1 level2 repaired hm hobs
            split at hbound
            · have := hadd ‹_›
              omega
            · exact hbound.trans (max_le hstored (by decide))
  | unassigned authorityId now => exact markUnassigned_returns hroom
  | result item result E =>
      obtain ⟨handled, hhandled, -⟩ := settleResult_returns cfg.catalogue item fun hstatus =>
        (present ha hstatus).imp fun r hr => ⟨hr, hroom hstatus r hr⟩
      exact ⟨handled, hhandled⟩

end

end DarkMinter.Counters
