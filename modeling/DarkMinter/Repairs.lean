import DarkMinter.Tombstones

namespace DarkMinter.Repairs

open Text Processing Records Repository ArkApi Requests Persistence Replication Publication
open Deployment Attempts Effects Tombstones Lib.Runs

/-- An attempt that handed a payload back to storage, and the commit by which the row then had its CIDs. -/
structure Resubmission where
  now : Time
  persistedAt : Option Time

/-- The system beside the history of one of its ARKs, the newest resubmission first. -/
structure Watched where
  sys : Sys := {}
  persistedAt : Option Time := none
  resubmissions : List Resubmission := []

/-- The resubmissions lie at least the cooldown apart. -/
def Spaced (cfg : ReplicationConfig) (w : Watched) : Prop :=
  w.resubmissions.Pairwise fun later earlier => seconds cfg.repairCooldown ≤ later.now - earlier.now

/-- No payload is handed back within the grace after the commit of its CIDs. -/
def Graced (cfg : ReplicationConfig) (w : Watched) : Prop :=
  ∀ s ∈ w.resubmissions, ∃ t, s.persistedAt = some t ∧ seconds cfg.repairGrace ≤ s.now - t

def lastRepair (c : Cell) : Option Time := c.metadata.bind fun m => m.lastRepairAt

section

variable [PyLower]

def persistedBy (cfg : Config) (k : ArkId) (c : Cell) : Op → Option Time
  | .mutation (.persist E) => match (persist cfg.catalogue k E c).result with
    | .ok true => some E.storedAt
    | _ => none
  | _ => none

def resubmittedBy (cfg : Config) (k : ArkId) (c : Cell) : Op → Option Time
  | .mutation (.reconcile E) =>
      if 0 < (reconcile cfg.catalogue cfg.replication k E c).submitted then some E.now else none
  | _ => none

def watch (cfg : Config) (k : ArkId) (w : Watched) (a : Act) : Option Watched :=
  (step cfg w.sys a).map fun t =>
    { sys := t
      persistedAt := ((opOf w.sys a k).bind (persistedBy cfg k (w.sys.cells k))).or w.persistedAt
      resubmissions := ((opOf w.sys a k).bind (resubmittedBy cfg k (w.sys.cells k))).toList.map (⟨·, w.persistedAt⟩) ++
        w.resubmissions }

structure Finds (E : ReconcileEnv) (c : Cell) (r : ARKRecord) (m : ARKMetadata) (level1Cid level2Cid : Cid)
    (level1 level2 : ReplicationStatus) : Prop where
  record : c.record = some r
  accepted : reconcileAccepts E.readyAt r = true
  assigned : E.assigned r.authorityId = true
  metadata : c.metadata = some m
  known1 : m.level1Cid = some level1Cid
  known2 : m.originalCid = some level2Cid
  observed : observe E level1Cid level2Cid = .ok (level1, level2)

def Resubmits (cfg : ReplicationConfig) (E : ReconcileEnv) (m : ARKMetadata) (level1 level2 : ReplicationStatus) :
    Prop :=
  let allowed := repairAllowed cfg E.now m
  needsRepair level2 allowed = true ∧ (∃ content mediaType, m.originalContent = some content ∧
      m.originalMediaType = some mediaType ∧ mediaType ≠ "") ∨
    needsRepair level2 allowed = false ∧ needsRepair level1 allowed = true ∧ ∃ json, m.level1Json = some json

/-- Storage stores every payload it is handed under the CID of the row, the second one is at hand
too, and the rows can be committed. -/
structure Completes (cfg : ReplicationConfig) (E : ReconcileEnv) (r : ARKRecord) (m : ARKMetadata)
    (level1Cid level2Cid : Cid) (level1 level2 : ReplicationStatus) : Prop where
  stores2 : needsRepair level2 (repairAllowed cfg E.now m) = true → ∀ content mediaType,
    m.originalContent = some content → m.originalMediaType = some mediaType →
      E.storage.storeLevel2 content mediaType m.originalSchema = .ok level2Cid
  stores1 : needsRepair level1 (repairAllowed cfg E.now m) = true → ∃ json, m.level1Json = some json ∧
    E.storage.storeLevel1WithLevel2Reference json level2Cid = .ok level1Cid
  columns : level1.totalReplicas.toNat ≤ smallintMax ∧ level2.totalReplicas.toNat ≤ smallintMax
  counter : r.processingStage = .availability → r.processingWaitReason = waitReason level1 level2 →
    m.replicationObservationCount < smallintMax
  commit : E.commit = .ok ()

/-- An attempt that hands a payload back comes through, and the ARK is not handed over. -/
def Completing (cfg : Config) (k : ArkId) (w : Watched) (a : Act) : Prop :=
  (∀ E r m level1Cid level2Cid level1 level2, opOf w.sys a k = some (.mutation (.reconcile E)) →
    Finds E (w.sys.cells k) r m level1Cid level2Cid level1 level2 →
      Resubmits cfg.replication E m level1 level2 →
        Completes cfg.replication E r m level1Cid level2Cid level1 level2) ∧
    ∀ r, (w.sys.cells k).record = some r → ¬HandsOver cfg k r.authorityId w.sys a

/-- No attempt finds a payload lost after the grace of the row, but within the grace of the commit. -/
def Aged (cfg : Config) (k : ArkId) (w : Watched) (a : Act) : Prop :=
  ∀ E r m level1Cid level2Cid level1 level2, opOf w.sys a k = some (.mutation (.reconcile E)) →
    Finds E (w.sys.cells k) r m level1Cid level2Cid level1 level2 →
      needsRepair level1 true = true ∨ needsRepair level2 true = true →
        seconds cfg.replication.repairGrace ≤ E.now - m.createdAt →
          ∀ t, w.persistedAt = some t → seconds cfg.replication.repairGrace ≤ E.now - t

variable {catalogue : ErrorCatalogue} {cfg : ReplicationConfig} {k : ArkId} {E : ReconcileEnv} {c c' : Cell}
  {r : ARKRecord} {m : ARKMetadata} {level1Cid level2Cid : Cid} {level1 level2 : ReplicationStatus}

theorem needsRepair_and (s : ReplicationStatus) (allowed : Bool) :
    needsRepair s allowed = (needsRepair s true && allowed) := by
  simp only [needsRepair, Bool.and_true]

theorem lost_no_replicas {s : ReplicationStatus} {allowed : Bool} (h : needsRepair s allowed = true) :
    s.totalReplicas.toNat = 0 := by
  simp only [needsRepair, Bool.and_eq_true, decide_eq_true_eq] at h
  simp [h.1.1.1]

omit [PyLower] in
theorem resubmitted_repaired (level : String) (stored : Except Exc Cid) (cid : Cid) :
    (resubmitted level stored cid).repaired ≤ (resubmitted level stored cid).submitted := by
  unfold resubmitted
  split
  · exact Nat.zero_le _
  · split <;> simp

omit [PyLower] in
theorem repairLevel2_repaired (S : Storage) (needed : Bool) (m : ARKMetadata) (cid : Cid) :
    (repairLevel2 S needed m cid).repaired ≤ (repairLevel2 S needed m cid).submitted := by
  unfold repairLevel2
  split
  · split
    · split
      · exact Nat.le_refl _
      · exact resubmitted_repaired ..
    · exact Nat.le_refl _
  · exact Nat.le_refl _

omit [PyLower] in
theorem repairLevel1_repaired (S : Storage) (needed : Bool) (m : ARKMetadata) (level1Cid level2Cid : Cid) :
    (repairLevel1 S needed m level1Cid level2Cid).repaired ≤
      (repairLevel1 S needed m level1Cid level2Cid).submitted := by
  unfold repairLevel1
  split
  · split
    · exact resubmitted_repaired ..
    · exact Nat.le_refl _
  · exact Nat.le_refl _

theorem repairs_repaired (cfg : ReplicationConfig) (E : ReconcileEnv) (level1 level2 : ReplicationStatus)
    (m : ARKMetadata) (level1Cid level2Cid : Cid) :
    (repairs cfg E level1 level2 m level1Cid level2Cid).repaired ≤
      (repairs cfg E level1 level2 m level1Cid level2Cid).submitted := by
  unfold repairs Repair.andThen
  simp only
  split
  · exact Nat.add_le_add (repairLevel2_repaired ..) (repairLevel1_repaired ..)
  · exact repairLevel2_repaired ..

theorem resubmits_of_submitted
    (h : 0 < (repairs cfg E level1 level2 m level1Cid level2Cid).submitted) : Resubmits cfg E m level1 level2 := by
  unfold repairs at h
  unfold Resubmits
  cases h2 : needsRepair level2 (repairAllowed cfg E.now m) with
  | true =>
      refine .inl ⟨h2, ?_⟩
      simp only [h2, repairLevel2, if_true] at h
      split at h
      · split at h
        · simp [unavailable, Repair.andThen] at h
        · exact ⟨_, _, ‹_›, ‹_›, ‹_›⟩
      · simp [unavailable, Repair.andThen] at h
  | false =>
      refine .inr ⟨h2, ?_⟩
      cases h1 : needsRepair level1 (repairAllowed cfg E.now m) with
      | true =>
          simp only [h1, h2, repairLevel1, repairLevel2, if_true, Bool.false_eq_true, if_false, Repair.andThen] at h
          split at h
          · exact ⟨rfl, _, ‹_›⟩
          · simp [unavailable] at h
      | false => simp [h1, h2, repairLevel1, repairLevel2, Repair.andThen] at h

theorem repairs_completed (hlost : Resubmits cfg E m level1 level2)
    (h : Completes cfg E r m level1Cid level2Cid level1 level2) :
    (repairs cfg E level1 level2 m level1Cid level2Cid).outcome = .ok () ∧
      0 < (repairs cfg E level1 level2 m level1Cid level2Cid).repaired := by
  have hlevel1 : ∀ needed, needsRepair level1 (repairAllowed cfg E.now m) = needed →
      repairLevel1 E.storage needed m level1Cid level2Cid =
        if needed then { submitted := 1, repaired := 1 } else {} := by
    rintro (_ | _) hneeded
    · rfl
    · obtain ⟨json, hjson, hstored⟩ := h.stores1 hneeded
      simp [repairLevel1, hjson, hstored, resubmitted]
  unfold repairs
  rcases hlost with ⟨h2, content, mediaType, hcontent, hmedia, hne⟩ | ⟨h2, h1, -⟩
  · have hstored := h.stores2 h2 content mediaType hcontent hmedia
    simp only [h2, repairLevel2, hcontent, hmedia, hne, hstored, resubmitted, if_true, if_false, Repair.andThen,
      hlevel1 _ rfl]
    cases needsRepair level1 (repairAllowed cfg E.now m) <;> simp
  · simp only [h2, h1, repairLevel2, Bool.false_eq_true, if_false, Repair.andThen, hlevel1 true h1, if_true]
    exact ⟨trivial, by decide⟩

theorem reconciledRows_lastRepair (cfg : ReplicationConfig) (E : ReconcileEnv)
    (level1 level2 : ReplicationStatus) (r : ARKRecord) (m : ARKMetadata) (repaired : Nat) :
    (reconciledRows cfg E level1 level2 r m repaired).2.1.lastRepairAt =
      if 0 < repaired then some E.now else m.lastRepairAt := by
  have hmetadata := (reconciledRows_rows cfg E level1 level2 r m repaired).2
  generalize (reconciledRows cfg E level1 level2 r m repaired).2.1 = m' at hmetadata ⊢
  cases hmetadata <;> rfl

theorem resubmits_no_replicas (h : Resubmits cfg E m level1 level2) :
    min level1.totalReplicas.toNat level2.totalReplicas.toNat = 0 := by
  rcases h with ⟨h2, -⟩ | ⟨-, h1, -⟩
  · rw [lost_no_replicas h2, Nat.min_zero]
  · rw [lost_no_replicas h1, Nat.zero_min]

theorem reconciledRows_fits {repaired : Nat} (hlost : Resubmits cfg E m level1 level2) (hrepaired : 0 < repaired)
    (h : Completes cfg E r m level1Cid level2Cid level1 level2) :
    smallintsFit (reconciledRows cfg E level1 level2 r m repaired).2.1 = true := by
  have hnone := resubmits_no_replicas hlost
  have hpos := cfg.publishAfter_pos
  have hle := cfg.publishAfter_le
  have hpublish : ¬cfg.publishAfter ≤ 0 := by omega
  have htarget : ¬cfg.targetReplicas ≤ 0 := by omega
  have hfits : ∀ observations, observations ≤ smallintMax →
      smallintsFit { observedMetadata level1 level2 repaired E.now m with
        replicationObservationCount := observations } = true := by
    intro observations hobservations
    simp [smallintsFit, observedMetadata, h.columns, hobservations]
  unfold reconciledRows
  by_cases hstage : r.processingStage = .availability
  · simp only [hstage, if_true, reconcileAvailability, hnone, if_neg hpublish]
    refine hfits _ ?_
    split
    · decide
    · rename_i hsame
      exact h.counter hstage (by simpa using hsame)
  · simp only [hstage, if_false, reconcileDurability, hnone, if_neg htarget, if_pos hrepaired]
    exact hfits 0 (Nat.zero_le _)

theorem reconcileBody_submitted (h : 0 < (reconcileBody cfg E r c).1.submitted) :
    ∃ m level1Cid level2Cid level1 level2, c.metadata = some m ∧ m.level1Cid = some level1Cid ∧
      m.originalCid = some level2Cid ∧ observe E level1Cid level2Cid = .ok (level1, level2) ∧
      Resubmits cfg E m level1 level2 := by
  change 0 < (reconcileRows cfg E r c).1.submitted at h
  unfold reconcileRows at h
  cases hm : c.metadata with
  | none => simp [hm] at h
  | some m =>
      simp only [hm] at h
      split at h
      · rename_i level1Cid level2Cid h1 h2
        cases hobserved : observe E level1Cid level2Cid with
        | error e => simp [hobserved] at h
        | ok levels =>
            simp only [hobserved] at h
            have hsubmitted : 0 < (repairs cfg E levels.1 levels.2 m level1Cid level2Cid).submitted := by
              split at h <;> exact h
            exact ⟨m, level1Cid, level2Cid, levels.1, levels.2, rfl, h1, h2, hobserved,
              resubmits_of_submitted hsubmitted⟩
      · simp at h

omit [PyLower] in
theorem reconcileFailure_keeps (cfg : ReplicationConfig) (k : ArkId) (E : ReconcileEnv) (submitted : Nat)
    (counts : ReconcileCounts) (e : Exc) (c : Cell) :
    (reconcileFailure cfg k E submitted counts e c).submitted = submitted ∧
      (reconcileFailure cfg k E submitted counts e c).cell.metadata = c.metadata := by
  refine ⟨by unfold reconcileFailure; split <;> rfl, ?_⟩
  rcases @reconcileFailure_cell seededCatalogue cfg k E submitted counts e c with h | h
  · rw [h]
  · exact h.noted.metadata

theorem reconcile_submits (catalogue : ErrorCatalogue) (cfg : ReplicationConfig) (k : ArkId) (E : ReconcileEnv)
    (c : Cell) :
    (reconcile catalogue cfg k E c).submitted = 0 ∧ (reconcile catalogue cfg k E c).cell.metadata = c.metadata ∨
      ∃ r, c.record = some r ∧ reconcileAccepts E.readyAt r = true ∧ E.assigned r.authorityId = true ∧
        (reconcile catalogue cfg k E c).submitted = (reconcileBody cfg E r c).1.submitted ∧
        ((reconcile catalogue cfg k E c).cell.metadata = c.metadata ∨
          ∃ counts, (reconcileBody cfg E r c).2 = .ok ((reconcile catalogue cfg k E c).cell, counts)) := by
  unfold reconcile
  cases hr : c.record with
  | none => exact .inl ⟨rfl, rfl⟩
  | some r =>
      by_cases hacc : reconcileAccepts E.readyAt r = true
      · simp only [hacc, if_true]
        by_cases hassigned : E.assigned r.authorityId = true
        · simp only [hassigned, if_true]
          refine .inr ⟨r, rfl, hacc, hassigned, ?_⟩
          rcases reconcileBody cfg E r c with ⟨repair, e | ⟨c', counts⟩⟩
          · obtain ⟨hsubmitted, hkept⟩ :=
              reconcileFailure_keeps cfg k E repair.submitted (countsSoFar (reconcileRows cfg E r c)) e c
            exact ⟨hsubmitted, .inl hkept⟩
          · exact ⟨rfl, .inr ⟨counts, rfl⟩⟩
        · simp only [if_neg hassigned]
          refine .inl ?_
          split
          · exact ⟨rfl, (markProcessingFailed_noted ‹_›).metadata⟩
          · exact reconcileFailure_keeps ..
      · simp only [if_neg hacc]
        exact .inl ⟨trivial, trivial⟩

theorem reconcile_submitted (h : 0 < (reconcile catalogue cfg k E c).submitted) :
    ∃ r m level1Cid level2Cid level1 level2, Finds E c r m level1Cid level2Cid level1 level2 ∧
      Resubmits cfg E m level1 level2 := by
  rcases reconcile_submits catalogue cfg k E c with ⟨hnone, -⟩ | ⟨r, hr, hacc, hassigned, hbody, -⟩
  · rw [hnone] at h
    cases h
  · rw [hbody] at h
    obtain ⟨m, level1Cid, level2Cid, level1, level2, hm, h1, h2, hobserved, hlost⟩ := reconcileBody_submitted h
    exact ⟨r, m, level1Cid, level2Cid, level1, level2, ⟨hr, hacc, hassigned, hm, h1, h2, hobserved⟩, hlost⟩

theorem reconcile_completed (hfinds : Finds E c r m level1Cid level2Cid level1 level2)
    (hlost : Resubmits cfg E m level1 level2) (h : Completes cfg E r m level1Cid level2Cid level1 level2) :
    lastRepair (reconcile catalogue cfg k E c).cell = some E.now := by
  obtain ⟨houtcome, hrepaired⟩ := repairs_completed hlost h
  have hbody : reconcileBody cfg E r c = (repairs cfg E level1 level2 m level1Cid level2Cid,
      commitRows E (reconciledRows cfg E level1 level2 r m
        (repairs cfg E level1 level2 m level1Cid level2Cid).repaired) c) := by
    simp only [reconcileBody, reconcileRows, hfinds.metadata, hfinds.known1, hfinds.known2, hfinds.observed, houtcome,
      Except.bind]
  simp only [reconcile, hfinds.record, hfinds.accepted, hfinds.assigned, if_true, hbody, commitRows,
    reconciledRows_fits hlost hrepaired h, h.commit, Except.map]
  exact (reconciledRows_lastRepair ..).trans (if_pos hrepaired)

theorem reconcile_unsubmitted (h : (reconcile catalogue cfg k E c).submitted = 0) :
    lastRepair (reconcile catalogue cfg k E c).cell = lastRepair c := by
  rcases reconcile_submits catalogue cfg k E c with ⟨-, hkept⟩ | ⟨r, hr, -, -, hbody, hkept | ⟨counts, hok⟩⟩
  · rw [lastRepair, hkept, lastRepair]
  · rw [lastRepair, hkept, lastRepair]
  · rcases hrows : reconcileBody cfg E r c with ⟨repair, rows⟩
    rw [hrows] at hbody hok
    rw [show rows = _ from hok] at hrows
    obtain ⟨m, level1Cid, level2Cid, level1, level2, hm, -, -, -, hrepair, -, -, hc, -⟩ := reconcileBody_rows hrows
    have hle : repair.repaired ≤ repair.submitted := by
      rw [hrepair]
      exact repairs_repaired ..
    rw [← show _ = repair.submitted from hbody, h] at hle
    rw [hc, Nat.le_zero.mp hle]
    change (reconciledRows cfg E level1 level2 r m 0).2.1.lastRepairAt = lastRepair c
    rw [reconciledRows_lastRepair, lastRepair, hm]
    rfl

theorem staged_lastRepair (request : UpdateARKMetadataRequest) (now : Time) (json : Json) (r : ARKRecord) (b : Cell) :
    lastRepair (staged request now json r b) = lastRepair b := by
  unfold lastRepair staged withPayload createOrUpdateMetadata
  cases b.metadata <;> rfl

omit [PyLower] in
theorem noted_lastRepair (h : Noted c c') : lastRepair c' = lastRepair c := by
  rw [lastRepair, h.metadata, lastRepair]

variable {config : Config} {op : Op}

theorem effect_absent (h : Effect config k c op c') (hnone : c'.record = none) : c' = c := by
  have hnoted : ∀ {c' : Cell}, Noted c c' → c'.record ≠ none := by
    intro c' hn hc'
    obtain ⟨_, _, -, hr', -⟩ := hn.keeps
    rw [hr'] at hc'
    cases hc'
  cases h with
  | none => rfl
  | reserved | raced | retried | persisted | observed => cases hnone
  | staged h =>
      obtain ⟨_, hr', -⟩ := h.record
      rw [hr'] at hnone
      cases hnone
  | tombstoned h =>
      obtain ⟨_, hr', -⟩ := h.record
      rw [hr'] at hnone
      cases hnone
  | persistNoted _ _ hn | reconcileNoted _ _ hn | publishNoted _ _ hn | unassigned _ _ hn | resultNoted _ hn =>
      exact absurd hnone (hnoted hn)
  | published _ _ h =>
      obtain ⟨_, _, -, -, -, -, rfl⟩ := h
      cases hnone
  | publishedItem h =>
      obtain ⟨-, -, _, -, rfl⟩ := h
      cases hnone

theorem effect_lastRepair (h : Effect config k c op c') (hne : ∀ E, op ≠ .mutation (.reconcile E))
    (habsent : c.record = none → lastRepair c = none)
    (hkept : ∀ r, c.record = some r → ByOwner r.authorityId op → ∀ r', c'.record = some r' →
      r'.authorityId = r.authorityId) : lastRepair c' = lastRepair c := by
  cases h with
  | none | reserved | raced | retried => rfl
  | persisted _ _ hm => simp [lastRepair, hm, persistedMetadata]
  | @staged identity request E _ h =>
      obtain ⟨b, r, json, hbase, hr, hA, -, -, -, rfl⟩ := h.ex
      rw [staged_lastRepair]
      cases hbase with
      | own hs | imported =>
          first
            | rfl
            | cases hs <;> rfl
      | @reclaimed c₀ r₀ info hs hr₀ hne₀ ho =>
          cases hs with
          | raced hnone => exact (habsent hnone).symm
          | same =>
              have hsame := hkept r₀ hr₀ ⟨hne₀.symm, info, ho⟩ _ rfl
              exact absurd (hA.symm.trans hsame) hne₀.symm
  | @tombstoned identity E _ h =>
      rcases h.cases with ⟨r, -, -, ⟨-, rfl⟩ | ⟨-, rfl⟩⟩ | ⟨r, info, r', hr, hne', ho, hr', rfl⟩
      · rfl
      · rfl
      · obtain rfl := Option.some.inj hr'
        exact absurd (hkept r hr ⟨hne'.symm, info, ho⟩ _ rfl) hne'.symm
  | persistNoted _ _ hn | publishNoted _ _ hn | unassigned _ _ hn | resultNoted _ hn => exact noted_lastRepair hn
  | reconcileNoted | observed => exact absurd rfl (hne _)
  | published _ _ h =>
      obtain ⟨_, _, -, -, -, -, rfl⟩ := h
      rfl
  | publishedItem h =>
      obtain ⟨-, -, _, -, rfl⟩ := h
      rfl

def HasCids (c : Cell) : Prop := ∃ m, c.metadata = some m ∧ m.level1Cid.isSome = true

theorem persist_result (catalogue : ErrorCatalogue) (k : ArkId) (E : PersistEnv) (c : Cell) :
    (persist catalogue k E c).cell.metadata = c.metadata ∨ (persist catalogue k E c).result = .ok true := by
  unfold persist
  cases hr : c.record with
  | none => exact .inl rfl
  | some r =>
      by_cases hacc : persistAccepts E.readyAt r = true
      · simp only [hacc, if_true]
        cases persistBody E r c with
        | ok c' => exact .inr rfl
        | error e =>
            left
            rcases persistFailure_cell catalogue k E e c with h | h
            · exact congrArg Cell.metadata h
            · exact h.noted.metadata
      · simp only [if_neg hacc]
        exact .inl trivial

theorem resubmittedBy_some {now : Time} (h : resubmittedBy config k c op = some now) :
    ∃ E, op = .mutation (.reconcile E) ∧ now = E.now ∧
      0 < (reconcile config.catalogue config.replication k E c).submitted := by
  unfold resubmittedBy at h
  split at h
  · simp only [Option.ite_none_right_eq_some, Option.some.injEq] at h
    exact ⟨_, rfl, h.2.symm, h.1⟩
  · cases h

theorem resubmittedBy_none (h : resubmittedBy config k c (.mutation (.reconcile E)) = none) :
    (reconcile config.catalogue config.replication k E c).submitted = 0 := by
  by_contra hne
  simp [resubmittedBy, Nat.pos_of_ne_zero hne] at h

variable {k : ArkId} {w w' : Watched} {a : Act}

theorem watch_cases (h : watch config k w a = some w') :
    opOf w.sys a k = none ∧ w'.sys.cells k = w.sys.cells k ∧ w'.persistedAt = w.persistedAt ∧
        w'.resubmissions = w.resubmissions ∨
      ∃ op, opOf w.sys a k = some op ∧ w'.sys.cells k = op.run config k (w.sys.cells k) ∧
        w'.persistedAt = (persistedBy config k (w.sys.cells k) op).or w.persistedAt ∧
        w'.resubmissions = (resubmittedBy config k (w.sys.cells k) op).toList.map (⟨·, w.persistedAt⟩) ++
          w.resubmissions := by
  obtain ⟨t, ht, rfl⟩ := Option.map_eq_some_iff.mp h
  rcases step_cells ht k with ⟨hop, hcells⟩ | ⟨op, hop, hcells⟩
  · exact .inl ⟨hop, hcells, by simp [hop], by simp [hop]⟩
  · exact .inr ⟨op, hop, hcells, by simp [hop], by simp [hop]⟩

structure Cooled (cfg : ReplicationConfig) (k : ArkId) (w : Watched) : Prop where
  spaced : Spaced cfg w
  last : ∀ s ∈ w.resubmissions, ∃ u, lastRepair (w.sys.cells k) = some u ∧ s.now ≤ u
  absent : (w.sys.cells k).record = none → lastRepair (w.sys.cells k) = none

theorem resubmits_lost (h : Resubmits cfg E m level1 level2) :
    (needsRepair level1 true = true ∨ needsRepair level2 true = true) ∧ repairAllowed cfg E.now m = true := by
  rcases h with ⟨h2, -⟩ | ⟨-, h1, -⟩
  · rw [needsRepair_and, Bool.and_eq_true] at h2
    exact ⟨.inr h2.1, h2.2⟩
  · rw [needsRepair_and, Bool.and_eq_true] at h1
    exact ⟨.inl h1.1, h1.2⟩

theorem cooled_resubmission (h : Cooled cfg k w)
    (hfinds : Finds E (w.sys.cells k) r m level1Cid level2Cid level1 level2) (hlost : Resubmits cfg E m level1 level2) :
    ∀ s ∈ w.resubmissions, seconds cfg.repairCooldown ≤ E.now - s.now ∧ s.now ≤ E.now := by
  intro s hs
  obtain ⟨u, hu, hle⟩ := h.last s hs
  have hlast : m.lastRepairAt = some u := by rwa [lastRepair, hfinds.metadata] at hu
  have hallowed := (resubmits_lost hlost).2
  simp only [repairAllowed, hlast, Option.all_some, Bool.and_eq_true, decide_eq_true_eq] at hallowed
  have hage : seconds cfg.repairCooldown ≤ E.now - s.now :=
    Int.le_trans hallowed.2 (Int.sub_le_sub_left hle E.now)
  have hpos : 0 ≤ seconds cfg.repairCooldown := Int.mul_nonneg cfg.repair_nonneg.2 (by decide)
  exact ⟨hage, Int.le_of_sub_nonneg (Int.le_trans hpos hage)⟩

theorem cooled_watch (h : Cooled config.replication k w) (hg : Completing config k w a)
    (hs : watch config k w a = some w') : Cooled config.replication k w' := by
  rcases watch_cases hs with ⟨-, hcells, -, hresub⟩ | ⟨op, hop, hcells, -, hresub⟩
  · exact ⟨by rw [Spaced, hresub]; exact h.spaced, by rw [hresub, hcells]; exact h.last, by rw [hcells]; exact h.absent⟩
  · have heffect : Effect config k (w.sys.cells k) op (w'.sys.cells k) := hcells ▸ op_effect op
    have habsent : (w'.sys.cells k).record = none → lastRepair (w'.sys.cells k) = none := by
      intro hnone
      have hsame := effect_absent heffect hnone
      rw [hsame] at hnone ⊢
      exact h.absent hnone
    cases hresubmits : resubmittedBy config k (w.sys.cells k) op with
    | some now =>
        obtain ⟨E, rfl, rfl, hpos⟩ := resubmittedBy_some hresubmits
        obtain ⟨r, m, level1Cid, level2Cid, level1, level2, hfinds, hlost⟩ := reconcile_submitted hpos
        have hlast : lastRepair (w'.sys.cells k) = some E.now := by
          rw [hcells]
          exact reconcile_completed hfinds hlost (hg.1 E r m level1Cid level2Cid level1 level2 hop hfinds hlost)
        have hold := cooled_resubmission h hfinds hlost
        simp only [hresubmits, Option.toList_some, List.map_cons, List.map_nil, List.singleton_append] at hresub
        refine ⟨?_, ?_, habsent⟩
        · rw [Spaced, hresub]
          exact List.pairwise_cons.mpr ⟨fun s hs => (hold s hs).1, h.spaced⟩
        · rw [hresub, hlast]
          rintro s (_ | ⟨_, hs⟩)
          · exact ⟨E.now, rfl, Int.le_refl _⟩
          · exact ⟨E.now, rfl, (hold s hs).2⟩
    | none =>
        have hlast : lastRepair (w'.sys.cells k) = lastRepair (w.sys.cells k) := by
          by_cases hreconcile : ∃ E, op = .mutation (.reconcile E)
          · obtain ⟨E, rfl⟩ := hreconcile
            rw [hcells]
            exact reconcile_unsubmitted (resubmittedBy_none hresubmits)
          · refine effect_lastRepair heffect (fun E hE => hreconcile ⟨E, hE⟩) h.absent fun r hr hby r' hr' => ?_
            by_contra hne
            have hafter : cellsAfter config w.sys a k = w'.sys.cells k := by
              simp only [cellsAfter, hop]
              exact hcells.symm
            exact hg.2 r hr ⟨⟨op, hop, hby⟩, r', hafter ▸ hr', hne⟩
        simp only [hresubmits, Option.toList_none, List.map_nil, List.nil_append] at hresub
        exact ⟨by rw [Spaced, hresub]; exact h.spaced, by rw [hresub, hlast]; exact h.last, habsent⟩

/-- In every run in which each attempt that hands a payload back comes through, and the ARK stays
with its authority, such attempts are at least the cooldown apart. -/
theorem repair_cooldown (h : Reach (watch config k) (Completing config k) {} w) : Spaced config.replication w := by
  have hcooled : Cooled config.replication k w :=
    h.invariant ⟨.nil, nofun, fun _ => rfl⟩ fun _ _ _ hi hg hs => cooled_watch hi hg hs
  exact hcooled.spaced

structure Recorded (cfg : ReplicationConfig) (k : ArkId) (w : Watched) : Prop where
  graced : Graced cfg w
  persisted : HasCids (w.sys.cells k) → ∃ t, w.persistedAt = some t

theorem persistedBy_kept (h : HasCids (op.run config k c)) (hnone : persistedBy config k c op = none) :
    HasCids c := by
  by_cases hpersist : ∃ E, op = .mutation (.persist E)
  · obtain ⟨E, rfl⟩ := hpersist
    rcases persist_result config.catalogue k E c with hkept | hstored
    · obtain ⟨m, hm, hcid⟩ := h
      exact ⟨m, hkept ▸ hm, hcid⟩
    · simp [persistedBy, hstored] at hnone
  · obtain ⟨m', hm', hcid⟩ := h
    obtain ⟨cid, hcid⟩ := Option.isSome_iff_exists.mp hcid
    obtain ⟨m, hm, h1⟩ := effect_cid (op_effect op) (fun E hE => hpersist ⟨E, hE⟩) hm' hcid
    exact ⟨m, hm, by rw [h1]; rfl⟩

theorem recorded_watch (h : Recorded config.replication k w) (hg : Aged config k w a)
    (hs : watch config k w a = some w') : Recorded config.replication k w' := by
  rcases watch_cases hs with ⟨-, hcells, hpersisted, hresub⟩ | ⟨op, hop, hcells, hpersisted, hresub⟩
  · exact ⟨by rw [Graced, hresub]; exact h.graced, by rw [hcells, hpersisted]; exact h.persisted⟩
  · refine ⟨?_, ?_⟩
    · cases hresubmits : resubmittedBy config k (w.sys.cells k) op with
      | none =>
          simp only [hresubmits, Option.toList_none, List.map_nil, List.nil_append] at hresub
          rw [Graced, hresub]
          exact h.graced
      | some now =>
          obtain ⟨E, rfl, rfl, hpos⟩ := resubmittedBy_some hresubmits
          obtain ⟨r, m, level1Cid, level2Cid, level1, level2, hfinds, hlost⟩ := reconcile_submitted hpos
          simp only [hresubmits, Option.toList_some, List.map_cons, List.map_nil, List.singleton_append] at hresub
          obtain ⟨t, ht⟩ := h.persisted ⟨m, hfinds.metadata, by rw [hfinds.known1]; rfl⟩
          obtain ⟨hneeded, hallowed⟩ := resubmits_lost hlost
          rw [repairAllowed, Bool.and_eq_true, decide_eq_true_eq] at hallowed
          rw [Graced, hresub]
          rintro s (_ | ⟨_, hs⟩)
          · exact ⟨t, ht, hg E r m level1Cid level2Cid level1 level2 hop hfinds hneeded hallowed.1 t ht⟩
          · exact h.graced s hs
    · intro hcids
      rw [hpersisted]
      cases hpersist : persistedBy config k (w.sys.cells k) op with
      | some t => exact ⟨t, rfl⟩
      | none => exact h.persisted (persistedBy_kept (hcells ▸ hcids) hpersist)

/-- In every run in which no attempt finds a payload lost between the grace of the row and the
grace of the commit, no payload is handed back within the grace after the commit of its CIDs. -/
theorem repair_grace (h : Reach (watch config k) (Aged config k) {} w) : Graced config.replication w := by
  have hrecorded : Recorded config.replication k w := by
    refine h.invariant ⟨nofun, ?_⟩ fun _ _ _ hi hg hs => recorded_watch hi hg hs
    rintro ⟨_, ⟨⟩, -⟩
  exact hrecorded.graced

end

section Sample

attribute [local instance] asciiText

open Deployment.Sample

def halfStorage : Storage :=
  { storage with storeLevel1WithLevel2Reference := fun _ _ => .error ⟨.timeout, "timed out"⟩ }

def lostAt (now : Time) (S : Storage) : Act :=
  .mutate ark (.reconcile
    { readyAt := now, assigned := fun _ => true, now, statuses := .ok fun _ => some ⟨"unpinned", 0, none⟩,
      storage := S, scheduledAt := now, failedAt := now })

def storedAt (now : Time) : List Act :=
  [.reserve [(ark, ⟨"A", none, 0⟩)], .mutate ark (.put owner request putEnv),
    .mutate ark (.persist { persistEnv with storedAt := now })]

theorem opOf_stored {w : Watched} {a : Act} {now : Time} {E : ReconcileEnv} (ha : a ∈ storedAt now) :
    opOf w.sys a ark ≠ some (.mutation (.reconcile E)) := by
  intro hop
  simp only [storedAt, List.mem_cons, List.not_mem_nil, or_false] at ha
  rcases ha with rfl | rfl | rfl <;> cases opOf_performs hop

theorem completing_stored {w : Watched} {a : Act} {now : Time} (ha : a ∈ storedAt now) : Completing config ark w a := by
  refine ⟨fun E _ _ _ _ _ _ hop => absurd hop (opOf_stored ha), fun r _ hover => ?_⟩
  obtain ⟨⟨op, hop, hby⟩, -⟩ := hover
  simp only [storedAt, List.mem_cons, List.not_mem_nil, or_false] at ha
  rcases ha with rfl | rfl | rfl
  · cases opOf_performs hop
    exact hby
  · cases opOf_performs hop
    obtain ⟨-, _, _, hread, -⟩ := hby
    cases hread
  · cases opOf_performs hop
    exact hby

/-- The repair of Level 1 fails after that of Level 2, and the next attempt repeats both. -/
theorem repair_repeated :
    ∃ w, Reach (watch config ark) Free {} w ∧
      w.resubmissions.map (·.now) = [seconds 1015, seconds 1000] ∧ ¬Spaced config.replication w := by
  have hrun : ((run (watch config ark)
      (storedAt 2 ++ [lostAt (seconds 1000) halfStorage, lostAt (seconds 1015) halfStorage]) {}).map fun w =>
        w.resubmissions.map (·.now)) = some [seconds 1015, seconds 1000] := by decide
  obtain ⟨w, hw, hnows⟩ := Option.map_eq_some_iff.mp hrun
  refine ⟨w, run_reach hw, hnows, fun hspaced => ?_⟩
  have happart : (w.resubmissions.map (·.now)).Pairwise fun later earlier => seconds 900 ≤ later - earlier :=
    List.pairwise_map.mpr hspaced
  rw [hnows] at happart
  exact absurd happart (by decide)

theorem fresh_resubmitted :
    ∃ w, Reach (watch config ark) Free {} w ∧
      w.resubmissions.map (fun s => (s.now, s.persistedAt)) = [(seconds 215, some (seconds 200))] ∧
      ¬Graced config.replication w := by
  have hrun : ((run (watch config ark) (storedAt (seconds 200) ++ [lostAt (seconds 215) storage]) {}).map fun w =>
      w.resubmissions.map fun s => (s.now, s.persistedAt)) = some [(seconds 215, some (seconds 200))] := by decide
  obtain ⟨w, hw, hpairs⟩ := Option.map_eq_some_iff.mp hrun
  refine ⟨w, run_reach hw, hpairs, fun hgraced => ?_⟩
  obtain ⟨s, hs, hpair⟩ := List.mem_map.mp (hpairs ▸ List.mem_singleton_self (seconds 215, some (seconds 200)))
  obtain ⟨hnow, hpersisted⟩ := Prod.mk.inj hpair
  obtain ⟨t, ht, hage⟩ := hgraced s hs
  obtain rfl := Option.some.inj (hpersisted.symm.trans ht)
  rw [hnow] at hage
  exact absurd hage (by decide)

theorem repair_cooldown_sample :
    ∃ w, run (watch config ark) (storedAt 2 ++ [lostAt (seconds 1000) storage]) {} = some w ∧
      w.resubmissions.map (·.now) = [seconds 1000] ∧ Spaced config.replication w := by
  have hrows : ((run (watch config ark) (storedAt 2) {}).bind fun w => (w.sys.cells ark).metadata.map fun m =>
      (m.level1Cid, m.originalCid, m.level1Json.isSome, m.replicationObservationCount)) =
        some (some cid1, some cid2, true, 0) := by decide
  have hrun : ((run (watch config ark) (storedAt 2 ++ [lostAt (seconds 1000) storage]) {}).map fun w =>
      w.resubmissions.map (·.now)) = some [seconds 1000] := by decide
  obtain ⟨w', hw', hnows⟩ := Option.map_eq_some_iff.mp hrun
  obtain ⟨w, hw, hs⟩ := run_concat hw'
  obtain ⟨hreach, -⟩ := run_guarded (G := Completing config ark) (fun _ => True) hw trivial
    (fun _ _ ha _ => completing_stored ha) fun _ _ _ _ _ _ => trivial
  rw [hw] at hrows
  obtain ⟨m, hm, hrow⟩ := Option.map_eq_some_iff.mp hrows
  refine ⟨w', hw', hnows, repair_cooldown (.next hreach ⟨?_, ?_⟩ hs)⟩
  · intro E r m' level1Cid level2Cid level1 level2 hop hfinds hlost
    cases opOf_performs hop
    obtain rfl := Option.some.inj (hm.symm.trans hfinds.metadata)
    obtain ⟨h1, h2, hjson, hcount⟩ : m.level1Cid = some cid1 ∧ m.originalCid = some cid2 ∧
      m.level1Json.isSome = true ∧ m.replicationObservationCount = 0 := by simpa using hrow
    obtain rfl := Option.some.inj (h1.symm.trans hfinds.known1)
    obtain rfl := Option.some.inj (h2.symm.trans hfinds.known2)
    obtain ⟨json, hjson⟩ := Option.isSome_iff_exists.mp hjson
    cases hfinds.observed
    exact
      { stores2 := fun _ _ _ _ _ => rfl
        stores1 := fun _ => ⟨json, hjson, rfl⟩
        columns := by decide
        counter := fun _ _ => by rw [hcount]; decide
        commit := rfl }
  · rintro r - ⟨⟨op, hop, hby⟩, -⟩
    cases opOf_performs hop
    exact hby

theorem repair_grace_sample :
    ∃ w, run (watch config ark) (storedAt 2 ++ [lostAt (seconds 1000) storage]) {} = some w ∧
      w.resubmissions.map (·.now) = [seconds 1000] ∧ Graced config.replication w := by
  have hrun : ((run (watch config ark) (storedAt 2 ++ [lostAt (seconds 1000) storage]) {}).map fun w =>
      w.resubmissions.map (·.now)) = some [seconds 1000] := by decide
  have hcommit : ((run (watch config ark) (storedAt 2) {}).map fun w => w.persistedAt) = some (some 2) := by decide
  obtain ⟨w', hw', hnows⟩ := Option.map_eq_some_iff.mp hrun
  obtain ⟨w, hw, hs⟩ := run_concat hw'
  obtain ⟨hreach, -⟩ := run_guarded (G := Aged config ark) (fun _ => True) hw trivial
    (fun _ _ ha _ _ _ _ _ _ _ _ hop => absurd hop (opOf_stored ha)) fun _ _ _ _ _ _ => trivial
  refine ⟨w', hw', hnows, repair_grace (.next hreach ?_ hs)⟩
  intro E r m level1Cid level2Cid level1 level2 hop _ _ _ t ht
  cases opOf_performs hop
  rw [hw] at hcommit
  obtain rfl := Option.some.inj ((Option.some.inj hcommit).symm.trans ht)
  decide

end Sample

end DarkMinter.Repairs
