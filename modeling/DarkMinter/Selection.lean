import DarkMinter.PipelineInvariant
import DarkMinter.Workload

namespace DarkMinter.Selection

open Text Processing Records Repository Authority ArkApi Requests Retry Persistence Replication Publication
open ChainCycle Deployment Attempts Effects ResultApplication InFlight Faults PipelineInvariant Workload
open Lib.Runs

section

def selects : Worker → Time → Cell → Bool
  | .metadata, now, c => metadataPendingPersist now c
  | .replication, now, c =>
      reconciliationCandidate .availability now c || reconciliationCandidate .replication now c
  | .chain, now, c => chainPendingPublish now c

def Active (r : ARKRecord) : Prop := r.processingStatus = .ready ∨ r.processingStatus = .waiting

def Due (now : Time) (r : ARKRecord) : Prop := ∀ t, r.nextActionAt = some t → t ≤ now

/-- What waits has a time and a reason, and nothing else has either. -/
def Timed (r : ARKRecord) : Prop :=
  (r.processingStatus = .waiting ↔ r.nextActionAt ≠ none) ∧
    (r.processingStatus = .waiting ↔ r.processingWaitReason ≠ .none)

def WellTimed (c : Cell) : Prop := ∀ r, c.record = some r → Timed r

def Rested (c : Cell) : Prop :=
  ∀ r, c.record = some r → r.state = .tombstone ∨ r.processingStage = .complete → ¬Active r

variable {c c' : Cell} {r : ARKRecord} {now : Time}

theorem ready_of_due (ht : Timed r) (ha : Active r) (hdue : Due now r) : readyForProcessing r now = true := by
  unfold readyForProcessing
  rcases ha with h | h
  · simp [h]
  · obtain ⟨t, hnext⟩ := Option.ne_none_iff_exists'.mp (ht.1.mp h)
    simp [h, hnext, hdue t hnext]

theorem isReadyNow_of_due (ht : Timed r) (ha : Active r) (hdue : Due now r) :
    isReadyNow (keyOf now r) = true := by
  unfold isReadyNow keyOf
  rcases ha with h | h
  · simp [h]
  · obtain ⟨t, hnext⟩ := Option.ne_none_iff_exists'.mp (ht.1.mp h)
    simp [h, hnext, hdue t hnext]

theorem timed_of_noted (hn : Noted c c') : WellTimed c' := by
  cases hn with
  | @failed r permanent =>
      rintro _ ⟨⟩
      cases permanent <;> simp [Timed, failedRecord]
  | deferred =>
      rintro _ ⟨⟩
      simp [Timed, deferredRecord]

theorem rested_of_noted (hn : Noted c c') (hwork : InWork c) : Rested c' := by
  obtain ⟨r, r', hr, hr', hstate, -, -, hstage, -⟩ := hn.keeps
  intro r₁ h₁ hrest
  obtain rfl := Option.some.inj (hr'.symm.trans h₁)
  rw [hstate, hstage] at hrest
  exact absurd hrest (not_or.mpr (hwork r hr))

variable [PyLower]

def accepts : Worker → Time → ARKRecord → Bool
  | .metadata, now, r => persistAccepts now r
  | .replication, now, r => reconcileAccepts now r
  | .chain, now, r => publishAccepts now r

/-- From its time on the record has one worker, which selects it, still accepts it under its
lock, and has it reported as its own. -/
def Served (c : Cell) (r : ARKRecord) : Prop :=
  ∃ name, ∀ now, Due now r →
    (∀ other, selects other now c = true ↔ other = name) ∧
    (∀ later, now ≤ later → accepts name later r = true) ∧
    ∀ before after other, ((workload now (before ++ c :: after)).item other).readyNow =
      ((workload now (before ++ after)).item other).readyNow + if other = name then 1 else 0

variable {cfg : Config} {s t : Sys} {a : Act} {k : ArkId} {op : Op}

theorem reconciledRows_timed (cfg : ReplicationConfig) (E : ReconcileEnv)
    (level1 level2 : ReplicationStatus) (r : ARKRecord) (m : ARKMetadata) (repaired : Nat) :
    Timed (reconciledRows cfg E level1 level2 r m repaired).1 := by
  have hrecord := (reconciledRows_rows cfg E level1 level2 r m repaired).1
  generalize (reconciledRows cfg E level1 level2 r m repaired).1 = r' at hrecord ⊢
  cases hrecord with
  | chain | complete | again => simp [Timed]
  | waiting hreason => simp [Timed, hreason.1]

theorem timed_effect (h : WellTimed c) (heffect : Effect cfg k c op c') : WellTimed c' := by
  cases heffect with
  | none => exact h
  | reserved | raced =>
      rintro _ ⟨⟩
      simp [Timed, Reservation.record, createReserved]
  | staged hstaged =>
      obtain ⟨b, r, json, -, -, -, -, -, -, rfl⟩ := hstaged.ex
      rintro _ ⟨⟩
      simp [Timed, stagedRecord]
  | tombstoned htomb =>
      refine htomb.keeps h (fun info r _ => ?_) fun b r _ _ => ?_
      · rintro _ ⟨⟩
        simp [Timed]
      · rintro _ ⟨⟩
        simp [Timed, tombstonedRecord]
  | retried =>
      rintro _ ⟨⟩
      simp [Timed, retriedRecord]
  | persisted =>
      rintro _ ⟨⟩
      simp [Timed, persistedRecord]
  | observed =>
      rintro _ ⟨⟩
      exact reconciledRows_timed ..
  | published _ _ hpub =>
      obtain ⟨m, cid, -, -, -, -, rfl⟩ := hpub
      rintro _ ⟨⟩
      simp [Timed, publishedRecord]
  | publishedItem hpub =>
      obtain ⟨-, -, r, -, rfl⟩ := hpub
      rintro _ ⟨⟩
      simp [Timed, publishedRecord]
  | persistNoted _ _ hn | reconcileNoted _ _ hn | publishNoted _ _ hn | unassigned _ _ hn
  | resultNoted _ hn => exact timed_of_noted hn

theorem rested_effect (h : Rested c) (heffect : Effect cfg k c op c') (ha : Admissible c op)
    (hretry : ∀ identity E, op ≠ .mutation (.retry identity E))
    (hmark : ∀ authorityId now, op ≠ .unassigned authorityId now) : Rested c' := by
  cases heffect with
  | none => exact h
  | reserved | raced =>
      rintro _ ⟨⟩ hrest
      simp [Reservation.record, createReserved] at hrest
  | staged hstaged =>
      obtain ⟨r', hr', -, hstate⟩ := hstaged.record
      obtain ⟨b, r, json, -, -, -, -, -, -, rfl⟩ := hstaged.ex
      rintro _ ⟨⟩ hrest
      obtain rfl := Option.some.inj hr'
      rcases hrest with h | h
      · rcases hstate with hstate | hstate <;> rw [hstate] at h <;> cases h
      · cases h
  | tombstoned htomb =>
      refine htomb.keeps h (fun info r _ => ?_) fun b r _ _ => ?_
      · rintro _ ⟨⟩ hrest
        simp at hrest
      · rintro _ ⟨⟩ -
        simp [Active, tombstonedRecord]
  | retried => exact absurd rfl (hretry _ _)
  | persistNoted hr hacc hn => exact rested_of_noted hn (inWork_persist hr hacc)
  | persisted hr hacc =>
      rintro _ ⟨⟩ hrest
      have hlive := (inWork_persist hr hacc _ hr).1
      simp [persistedRecord, hlive] at hrest
  | reconcileNoted hr hacc hn => exact rested_of_noted hn (inWork_reconcile hr hacc)
  | observed hr hacc =>
      rintro _ ⟨⟩ hrest hactive
      obtain ⟨hlive, hstage⟩ := inWork_reconcile hr hacc _ hr
      rw [(reconciledRows_keeps ..).1] at hrest
      have hdone := reconciledRows_done _ _ _ _ _ _ _ hstage (hrest.resolve_left hlive)
      rcases hactive with h | h <;> rw [hdone] at h <;> cases h
  | publishNoted hr hacc hn => exact rested_of_noted hn (inWork_publish hr hacc)
  | published _ _ hpub =>
      obtain ⟨m, cid, -, -, -, -, rfl⟩ := hpub
      rintro _ ⟨⟩ hrest
      simp [publishedRecord] at hrest
  | unassigned => exact absurd rfl (hmark _ _)
  | resultNoted hstatus hn => exact rested_of_noted hn (inWork_current ha.1 (ha.2.resolve_left hstatus))
  | publishedItem hpub =>
      obtain ⟨-, -, r, -, rfl⟩ := hpub
      rintro _ ⟨⟩ hrest
      simp [publishedRecord] at hrest

theorem retry_refused {identity : Identity} {E : RetryEnv}
    (h : (retryFailedArk identity E c).1 ≠ .ok .accepted) : (retryFailedArk identity E c).2 = c := by
  unfold retryFailedArk at h ⊢
  repeat' split
  all_goals simp_all

/-- The step lets no complete ARK be tried again. Where the catalogue takes an unassigned
authority for a passing error, it marks neither a tombstone nor a complete ARK. -/
def Unstranding (cfg : Config) (s : Sys) (a : Act) : Prop :=
  (∀ k identity E r, opOf s a k = some (.mutation (.retry identity E)) → (s.cells k).record = some r →
    (retryFailedArk identity E (s.cells k)).1 = .ok .accepted → r.processingStage ≠ .complete) ∧
  ∀ k authorityId now r, opOf s a k = some (.unassigned authorityId now) → (s.cells k).record = some r →
    r.authorityId = authorityId → r.state = .tombstone ∨ r.processingStage = .complete →
      failsPermanently cfg.catalogue .authorityNotFound true = true

theorem rested_retry {identity : Identity} {E : RetryEnv} (h : Rested c)
    (hg : ∀ r, c.record = some r → (retryFailedArk identity E c).1 = .ok .accepted →
      r.processingStage ≠ .complete) : Rested (retryFailedArk identity E c).2 := by
  by_cases haccepted : (retryFailedArk identity E c).1 = .ok .accepted
  · cases hrun : retryFailedArk identity E c with
    | mk res c' =>
        rw [hrun] at haccepted
        rcases retryFailedArk_cases hrun with rfl | ⟨r, hr, -, -, htomb, -, rfl⟩
        · exact h
        · have hstage := hg r hr (hrun ▸ haccepted)
          rintro _ ⟨⟩ hrest
          exact absurd hrest (not_or.mpr ⟨htomb, hstage⟩)
  · rw [retry_refused haccepted]
    exact h

omit [PyLower] in
theorem rested_marked {authorityId : String} (h : Rested c)
    (hg : ∀ r, c.record = some r → r.authorityId = authorityId →
      r.state = .tombstone ∨ r.processingStage = .complete →
        failsPermanently cfg.catalogue .authorityNotFound true = true)
    (hmarked : Publication.markUnassigned cfg.catalogue k authorityId now c = .ok c') : Rested c' := by
  unfold Publication.markUnassigned at hmarked
  split at hmarked
  · split at hmarked
    · rename_i r' hr' hA
      obtain ⟨r, hr, -, rfl⟩ := markProcessingFailed_ok hmarked
      obtain rfl := Option.some.inj (hr.symm.trans hr')
      rintro _ ⟨⟩ hrest
      have hpermanent := hg r hr hA hrest
      simp [Active, failedRecord, hpermanent]
    · exact Except.ok.inj hmarked ▸ h
  · exact Except.ok.inj hmarked ▸ h

theorem rested_unassigned {authorityId : String} (h : Rested c)
    (hg : ∀ r, c.record = some r → r.authorityId = authorityId →
      r.state = .tombstone ∨ r.processingStage = .complete →
        failsPermanently cfg.catalogue .authorityNotFound true = true) :
    Rested ((Op.unassigned authorityId now).run cfg k c) := by
  simp only [Op.run, settle]
  split
  · exact rested_marked h hg ‹_›
  · exact h

theorem reach_timed {G : Sys → Act → Prop} (h : Reach (step cfg) G {} s) (k : ArkId) :
    WellTimed (s.cells k) := by
  refine reach_cells (I := WellTimed) h ?_ ?_ k
  · rintro _ ⟨⟩
  · intro s a k op _ _ _ heffect hc
    exact timed_effect hc heffect

theorem reach_rested (h : Reach (step cfg) (Unstranding cfg) {} s) (k : ArkId) : Rested (s.cells k) := by
  refine reach_cells (I := Rested) h ?_ ?_ k
  · rintro _ ⟨⟩
  · intro s a k op hg hop ha heffect hc
    by_cases hretry : ∃ identity E, op = .mutation (.retry identity E)
    · obtain ⟨identity, E, rfl⟩ := hretry
      simp only [cellsAfter, hop]
      exact rested_retry hc fun r hr haccepted => hg.1 k identity E r hop hr haccepted
    by_cases hmark : ∃ authorityId now, op = .unassigned authorityId now
    · obtain ⟨authorityId, now, rfl⟩ := hmark
      simp only [cellsAfter, hop]
      exact rested_unassigned hc fun r hr hA hrest => hg.2 k authorityId now r hop hr hA hrest
    · exact rested_effect hc heffect ha (fun identity E h => hretry ⟨identity, E, h⟩)
        fun authorityId now h => hmark ⟨authorityId, now, h⟩

omit [PyLower] in
theorem readyForProcessing_mono {later : Time} (h : readyForProcessing r now = true) (hle : now ≤ later) :
    readyForProcessing r later = true := by
  unfold readyForProcessing at h ⊢
  cases hstatus : r.processingStatus with
  | ready => rfl
  | waiting =>
      rw [hstatus] at h
      simp only [Option.any_eq_true, decide_eq_true_eq] at h ⊢
      obtain ⟨t, hnext, ht⟩ := h
      exact ⟨t, hnext, le_trans ht hle⟩
  | failed | done | cancelled => simp [hstatus] at h

omit [PyLower] in
theorem served_of (name : Worker) (hr : c.record = some r) (ht : Timed r) (ha : Active r)
    (howner : owner r.processingStage = some name)
    (hselects : ∀ now, readyForProcessing r now = true → ∀ other, selects other now c = true ↔ other = name)
    (haccepts : ∀ now, readyForProcessing r now = true → accepts name now r = true)
    (hstate : r.state = .draft ∨ r.state = .update ∨ r.state = .published) : Served c r := by
  refine ⟨name, fun now hdue => ?_⟩
  have hready := ready_of_due ht ha hdue
  refine ⟨hselects now hready, fun later hle => haccepts later (readyForProcessing_mono hready hle), ?_⟩
  intro before after other
  rw [workload_insert now before after hr hstate other]
  have hcounted : countedReady now other r = true ↔ other = name := by
    simp [countedReady, howner, isReadyNow_of_due ht ha hdue, eq_comm]
  simp only [hcounted]

omit [PyLower] in
theorem served_of_atStage {replication : ReplicationConfig} (hr : c.record = some r)
    (hat : AtStage replication r c.metadata) (ht : Timed r) (ha : Active r)
    (hcomplete : r.processingStage ≠ .complete) : Served c r := by
  have hpending : Pending r → r.state = .draft ∨ r.state = .update ∨ r.state = .published := by
    rintro (h | h)
    · exact .inl h
    · exact .inr (.inl h)
  generalize hm : c.metadata = o at hat
  cases hat with
  | none _ _ hdone =>
      rcases ha with h | h <;> rw [hdone] at h <;> cases h
  | metadata hstage hstate _ _ h1 h2 =>
      refine served_of .metadata hr ht ha (by simp [owner, hstage]) ?_ ?_ (hpending hstate)
      · intro now hready other
        cases other <;>
          simp [selects, metadataPendingPersist, reconciliationCandidate, chainPendingPublish, hr, hm, hstage,
            h1, hready, show r.state = .draft ∨ r.state = .update from hstate]
      · intro now hready
        simp [accepts, persistAccepts, hstage, hready, show r.state = .draft ∨ r.state = .update from hstate]
  | availability hstage hstate hstored =>
      refine served_of .replication hr ht ha (by simp [owner, hstage]) ?_ ?_ (hpending hstate)
      · intro now hready other
        cases other <;>
          simp [selects, metadataPendingPersist, reconciliationCandidate, chainPendingPublish, hr, hm, hstage,
            hready, hstored.2.2.1, hstored.2.2.2]
      · intro now hready
        simp [accepts, reconcileAccepts, hstage, hready, hpending hstate]
  | chain hstage hstate hstored =>
      refine served_of .chain hr ht ha (by simp [owner, hstage]) ?_ ?_ (hpending hstate)
      · intro now hready other
        cases other <;>
          simp [selects, metadataPendingPersist, reconciliationCandidate, chainPendingPublish, hr, hm, hstage,
            hready, hstored.2.2.1, hstored.2.2.2, show r.state = .draft ∨ r.state = .update from hstate]
      · intro now hready
        simp [accepts, publishAccepts, hstage, hready, show r.state = .draft ∨ r.state = .update from hstate]
  | replication hstage hstate hstored =>
      refine served_of .replication hr ht ha (by simp [owner, hstage]) ?_ ?_ (.inr (.inr hstate))
      · intro now hready other
        cases other <;>
          simp [selects, metadataPendingPersist, reconciliationCandidate, chainPendingPublish, hr, hm, hstage,
            hready, hstored.2.2.1, hstored.2.2.2]
      · intro now hready
        simp [accepts, reconcileAccepts, hstage, hready, hstate]
  | complete hstage => exact absurd hstage hcomplete

omit [PyLower] in
theorem active_iff : r.processingStatus ∈ activeStatuses ↔ Active r := by
  simp [activeStatuses, Active]

/-- What waits has its time and its reason, what is active has its one worker, and what holds the
durability maintenance back is selected by the worker that it waits for. -/
structure Unstranded (c : Cell) : Prop where
  timed : ∀ r, c.record = some r → r.state ≠ .tombstone → Timed r
  served : ∀ r, c.record = some r → r.state ≠ .tombstone → Active r → Served c r
  metadata : metadataBacklog c = true → ∃ r, c.record = some r ∧
    ∀ now, Due now r → selects .metadata now c = true
  firstPin : firstPinBacklog c = true → ∃ r, c.record = some r ∧
    ∀ now, Due now r → reconciliationCandidate .availability now c = true

/-- Nothing is stranded in a run that lets no complete ARK be tried again. -/
theorem none_stranded (h : Reach (step cfg) (Unstranding cfg) {} s) (k : ArkId) :
    Unstranded (s.cells k) := by
  have hconsistent := reach_consistent h k
  have htimed := reach_timed h k
  have hrested := reach_rested h k
  refine ⟨fun r hr _ => htimed r hr, ?_, ?_, ?_⟩
  · intro r hr hlive hactive
    refine served_of_atStage hr (hconsistent.live r hr hlive) (htimed r hr) hactive fun hcomplete => ?_
    exact hrested r hr (.inr hcomplete) hactive
  · intro hbacklog
    simp only [metadataBacklog, Option.any_eq_true, Bool.and_eq_true, decide_eq_true_eq, active_iff] at hbacklog
    obtain ⟨r, hr, hstage, hactive⟩ := hbacklog
    have hlive : r.state ≠ .tombstone := fun htomb => hrested r hr (.inl htomb) hactive
    obtain ⟨hpending, m, hm, -, -, h1, -⟩ := (hconsistent.live r hr hlive).at_metadata hstage
    refine ⟨r, hr, fun now hdue => ?_⟩
    have hready := ready_of_due (htimed r hr) hactive hdue
    simp [selects, metadataPendingPersist, hr, hm, hstage, h1, hready,
      show r.state = .draft ∨ r.state = .update from hpending]
  · intro hbacklog
    unfold firstPinBacklog at hbacklog
    split at hbacklog
    · simp only [Bool.and_eq_true, decide_eq_true_eq, active_iff] at hbacklog
      obtain ⟨⟨⟨hstage, hactive⟩, h1⟩, h2⟩ := hbacklog
      rename_i r m hr hm
      refine ⟨r, hr, fun now hdue => ?_⟩
      have hready := ready_of_due (htimed r hr) hactive hdue
      simp [reconciliationCandidate, hr, hm, hstage, h1, h2, hready]
    · cases hbacklog

omit [PyLower] in
theorem backlog_selected {table : List Cell} (h : ∀ c ∈ table, Unstranded c)
    (hbacklog : hasCriticalReconciliationBacklog table = true) :
    ∃ c ∈ table, ∃ r, c.record = some r ∧ ∀ now, Due now r →
      selects .metadata now c = true ∨ reconciliationCandidate .availability now c = true := by
  rcases Bool.or_eq_true_iff.mp hbacklog with hany | hany
  · obtain ⟨c, hc, hmetadata⟩ := List.any_eq_true.mp hany
    obtain ⟨r, hr, hselected⟩ := (h c hc).metadata hmetadata
    exact ⟨c, hc, r, hr, fun now hdue => .inl (hselected now hdue)⟩
  · obtain ⟨c, hc, hfirstPin⟩ := List.any_eq_true.mp hany
    obtain ⟨r, hr, hselected⟩ := (h c hc).firstPin hfirstPin
    exact ⟨c, hc, r, hr, fun now hdue => .inr (hselected now hdue)⟩

theorem unstranding_of_ne (hmark : ∀ p now, a ≠ .markUnassigned p now)
    (hretry : ∀ k identity E, a ≠ .mutate k (.retry identity E)) : Unstranding cfg s a := by
  constructor
  · intro k identity E r hop
    exact absurd (opOf_mutation hop).1 (hretry k identity E)
  · intro k authorityId now r hop
    obtain ⟨p, rfl⟩ := opOf_unassigned hop
    exact absurd rfl (hmark p now)

end

section Sample

attribute [local instance] asciiText

open Sample

theorem none_stranded_sample :
    ∃ s r, Reach (step config) (Unstranding config) {} s ∧ (s.cells ark).record = some r ∧
      r.processingStage = .chain ∧ r.processingStatus = .ready ∧ Unstranded (s.cells ark) := by
  have hrun : ((run (step config) toChain {}).bind fun s => (s.cells ark).record.map fun r =>
      (r.processingStage, r.processingStatus)) = some (.chain, .ready) := by decide
  obtain ⟨s, hs, hrow⟩ := Option.bind_eq_some_iff.mp hrun
  obtain ⟨r, hr, hrow⟩ := Option.map_eq_some_iff.mp hrow
  obtain ⟨hstage, hstatus⟩ := Prod.mk.inj hrow
  have hmark : ∀ a ∈ toChain, ∀ p now, a ≠ .markUnassigned p now := by
    simp [toChain]
  have hretry : ∀ a ∈ toChain, ∀ k identity E, a ≠ .mutate k (.retry identity E) := by
    simp [toChain]
  have hreach : Reach (step config) (Unstranding config) {} s :=
    (run_guarded (fun _ => True) hs trivial
      (fun _ a ha _ => unstranding_of_ne (hmark a ha) (hretry a ha)) fun _ _ _ _ _ _ => trivial).1
  exact ⟨s, r, hreach, hr, hstage, hstatus, none_stranded hreach ark⟩

/-- A complete ARK was marked as failed by a process that does not serve its authority, and the
authority has it tried again: ready, and nobody selects it. -/
theorem complete_tried_again :
    ∃ s, Reach (step config) Free {} s ∧ ¬Unstranded (s.cells ark) := by
  have hrun : ((run (step config) (toChain ++ [.select 1 4 [ark], .readMetadata 1, .plan 1,
      .select 0 4 [ark], .readMetadata 0, .plan 0, .submit 0 confirmed, .acquire 0,
      .finish 0 resultEnv, .mutate ark (.reconcile reconcileEnv), .markUnassigned 1 10,
      .mutate ark (.retry owner { now := 11, owner := ownReads })]) {}).bind fun s =>
        (s.cells ark).record.map fun r =>
          ((r.state, r.processingStatus, r.nextActionAt), [Worker.metadata, .replication, .chain].map
            fun name => selects name 12 (s.cells ark))) =
      some ((.published, .ready, none), [false, false, false]) := by decide
  obtain ⟨s, hs, hrow⟩ := Option.bind_eq_some_iff.mp hrun
  obtain ⟨r, hr, hrow⟩ := Option.map_eq_some_iff.mp hrow
  simp only [Prod.mk.injEq, List.map_cons, List.map_nil, List.cons.injEq, and_true] at hrow
  obtain ⟨⟨hstate, hstatus, hnext⟩, hmetadata, hreplication, hchain⟩ := hrow
  refine ⟨s, run_reach hs, fun hunstranded => ?_⟩
  have hlive : r.state ≠ .tombstone := by simp [hstate]
  obtain ⟨name, hserved⟩ := hunstranded.served r hr hlive (.inl hstatus)
  have hdue : Due 12 r := by simp [Due, hnext]
  have hselected := ((hserved 12 hdue).1 name).mpr rfl
  cases name with
  | metadata => exact absurd hselected (by simp [hmetadata])
  | replication => exact absurd hselected (by simp [hreplication])
  | chain => exact absurd hselected (by simp [hchain])

end Sample

end DarkMinter.Selection
