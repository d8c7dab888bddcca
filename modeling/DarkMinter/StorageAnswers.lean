import DarkMinter.Replication

namespace DarkMinter.StorageAnswers

open Text Processing Records Repository Persistence Replication

/-- Storage with any answer. A store is to answer a CID, and may answer `None` or an empty text. -/
structure AnyStorage where
  storeLevel2 : String → String → String → Except Exc (Option String)
  storeLevel1WithLevel2Reference : Json → Option String → Except Exc (Option String)

/-- What storage answers about a CID: each count as `int` reads it, which may raise. -/
structure AnyStatus where
  status : String
  noReplicas : Bool
  totalReplicas : Except Exc Int
  assignedReplicas : Option (Except Exc Int) := none

def persistLevel2 (S : AnyStorage) (m : ARKMetadata String) : Except Exc (Option String) :=
  match m.originalCid with
  | some cid => .ok (some cid)
  | none => match m.originalContent, m.originalMediaType with
    | some content, some mediaType =>
        if mediaType = "" then .error (valueError "Level 2 payload and media type are required")
        else S.storeLevel2 content mediaType m.originalSchema
    | _, _ => .error (valueError "Level 2 payload and media type are required")

def persistLevel1 (S : AnyStorage) (m : ARKMetadata String) (level2Cid : Option String) :
    Except Exc (Option String) :=
  match m.level1Cid with
  | some cid => .ok (some cid)
  | none => match m.level1Json with
    | some json => S.storeLevel1WithLevel2Reference json level2Cid
    | none => .error (valueError "Level 1 metadata JSON is required")

def persistBody (E : PersistEnv AnyStorage) (r : ARKRecord) (c : Cell String) : Except Exc (Cell String) :=
  match c.metadata with
  | none => .error (valueError "metadata record is missing")
  | some m => do
      let level2Cid ← persistLevel2 E.storage m
      let level1Cid ← persistLevel1 E.storage m level2Cid
      E.commit
      return { c with
        record := some (persistedRecord E.storedAt r)
        metadata := some (persistedMetadata level1Cid level2Cid E.storedAt m) }

section

variable [PyLower]

/-- `MetadataPersistenceWorker._persist` over any storage. -/
def persist (catalogue : ErrorCatalogue) (k : ArkId) (E : PersistEnv AnyStorage) (c : Cell String) : Attempt String :=
  match c.record with
  | none => { cell := c, result := .ok false }
  | some r =>
      if persistAccepts E.readyAt r then
        match persistBody E r c with
        | .ok c' => { cell := c', result := .ok true }
        | .error e => persistFailure catalogue k E e c
      else { cell := c, result := .ok false }

def hasClusterAssignment (s : AnyStatus) : Except Exc Bool :=
  match s.assignedReplicas with
  | some n => n.map fun n => 0 < n
  | none => .ok (lower s.status ∈ ["pinned", "pinning", "queued"])

def needsRepair (s : AnyStatus) (allowed : Bool) : Except Exc Bool :=
  if s.noReplicas && s.status ∈ ["unpinned", "error"] then
    if s.status = "error" then .ok allowed
    else (hasClusterAssignment s).map fun assigned => !assigned && allowed
  else .ok false

def repairLevel2 (S : AnyStorage) (needed : Except Exc Bool) (m : ARKMetadata String) (level2Cid : String) : Repair :=
  match needed with
  | .error e => { outcome := .error e }
  | .ok false => {}
  | .ok true =>
    match m.originalContent, m.originalMediaType with
    | some content, some mediaType =>
        if mediaType = "" then unavailable "Level 2"
        else resubmitted "Level 2" (S.storeLevel2 content mediaType m.originalSchema) (some level2Cid)
    | _, _ => unavailable "Level 2"

def repairLevel1 (S : AnyStorage) (needed : Except Exc Bool) (m : ARKMetadata String)
    (level1Cid level2Cid : String) : Repair :=
  match needed with
  | .error e => { outcome := .error e }
  | .ok false => {}
  | .ok true =>
    match m.level1Json with
    | some json =>
        resubmitted "Level 1" (S.storeLevel1WithLevel2Reference json (some level2Cid)) (some level1Cid)
    | none => unavailable "Level 1"

abbrev AnyEnv := ReconcileEnv String AnyStatus AnyStorage

def repairs (cfg : ReplicationConfig) (E : AnyEnv) (level1 level2 : AnyStatus) (m : ARKMetadata String)
    (level1Cid level2Cid : String) : Repair :=
  let allowed := repairAllowed cfg E.now m
  (repairLevel2 E.storage (needsRepair level2 allowed) m level2Cid).andThen
    (repairLevel1 E.storage (needsRepair level1 allowed) m level1Cid level2Cid)

def observe (E : AnyEnv) (level1Cid level2Cid : String) : Except Exc (AnyStatus × AnyStatus) := do
  let statuses ← E.statuses
  match statuses level1Cid, statuses level2Cid with
  | some level1, some level2 =>
      if lower level1.status = "unknown" || lower level2.status = "unknown" then
        .error ⟨.timeout, "Store API did not complete this CID observation"⟩
      else .ok (level1, level2)
  | _, _ => .error (valueError "Store API batch status omitted a CID")

/-- The status as it goes into the row. -/
def AnyStatus.counted (s : AnyStatus) : Except Exc ReplicationStatus :=
  s.totalReplicas.map fun n => { status := s.status, totalReplicas := n }

def countedRows (cfg : ReplicationConfig) (E : AnyEnv) (level1 level2 : AnyStatus) (r : ARKRecord)
    (m : ARKMetadata String) (repaired : Nat) : Except Exc (ARKRecord × ARKMetadata String × ReconcileCounts) := do
  let level1 ← level1.counted
  let level2 ← level2.counted
  return reconciledRows cfg E level1 level2 r m repaired

def reconcileRows (cfg : ReplicationConfig) (E : AnyEnv) (r : ARKRecord) (c : Cell String) :
    Repair × Except Exc (ARKRecord × ARKMetadata String × ReconcileCounts) :=
  match c.metadata with
  | none => ({}, .error (valueError "metadata CIDs are required for reconciliation"))
  | some m => match m.level1Cid, m.originalCid with
    | some level1Cid, some level2Cid =>
        if level1Cid = "" ∨ level2Cid = "" then
          ({}, .error (valueError "metadata CIDs are required for reconciliation"))
        else match observe E level1Cid level2Cid with
        | .error e => ({}, .error e)
        | .ok (level1, level2) =>
            let repair := repairs cfg E level1 level2 m level1Cid level2Cid
            match repair.outcome with
            | .error e => (repair, .error e)
            | .ok () => (repair, countedRows cfg E level1 level2 r m repair.repaired)
    | _, _ => ({}, .error (valueError "metadata CIDs are required for reconciliation"))

def reconcileBody (cfg : ReplicationConfig) (E : AnyEnv) (r : ARKRecord) (c : Cell String) :
    Repair × Except Exc (Cell String × ReconcileCounts) :=
  ((reconcileRows cfg E r c).1, (reconcileRows cfg E r c).2.bind fun rows => commitRows E rows c)

/-- `ReplicationReconciliationWorker._reconcile` over any storage. -/
def reconcile (catalogue : ErrorCatalogue) (cfg : ReplicationConfig) (k : ArkId) (E : AnyEnv)
    (c : Cell String) : Reconciled String :=
  match c.record with
  | none => { cell := c, counts := { checked := 0 } }
  | some r =>
      if reconcileAccepts E.readyAt r then
        if E.assigned r.authorityId then
          match reconcileBody cfg E r c with
          | (repair, .ok (c', counts)) => { cell := c', counts, submitted := repair.submitted }
          | (repair, .error e) =>
              reconcileFailure cfg k E repair.submitted (countsSoFar (reconcileRows cfg E r c)) e c
        else
          match markProcessingFailed catalogue k.ark "Authority not assigned to this Minter"
              .authorityNotFound true E.failedAt c with
          | .ok c' => { cell := c', counts := { failed := 1 } }
          | .error e => reconcileFailure cfg k E 0 {} e c
      else { cell := c, counts := { checked := 0 } }

end

section Plain

/-- A row as the database holds it. -/
def plainMetadata (m : ARKMetadata) : ARKMetadata String :=
  { m with level1Cid := m.level1Cid.map Cid.val, originalCid := m.originalCid.map Cid.val }

def plain (c : Cell) : Cell String where
  record := c.record
  metadata := c.metadata.map plainMetadata
  superseded := c.superseded.map fun job => { job with metadata := job.metadata.map plainMetadata }

/-- Storage that answers CIDs, to any call. -/
def anyStorage (S : Storage) : AnyStorage where
  storeLevel2 content mediaType schema := (S.storeLevel2 content mediaType schema).map fun cid => some cid.val
  storeLevel1WithLevel2Reference json level2Cid :=
    match level2Cid with
    | some text =>
        if h : text = "" then .ok none
        else (S.storeLevel1WithLevel2Reference json ⟨text, h⟩).map fun cid => some cid.val
    | none => .ok none

def anyStatus (s : ReplicationStatus) : AnyStatus where
  status := s.status
  noReplicas := s.totalReplicas = 0
  totalReplicas := .ok s.totalReplicas
  assignedReplicas := s.assignedReplicas.map .ok

def anyLookup (lookup : Cid → Option ReplicationStatus) (text : String) : Option AnyStatus :=
  if h : text = "" then none else (lookup ⟨text, h⟩).map anyStatus

def anyPersist (E : PersistEnv) : PersistEnv AnyStorage := { E with storage := anyStorage E.storage }

def anyReconcile (E : ReconcileEnv) : AnyEnv :=
  { E with statuses := E.statuses.map anyLookup, storage := anyStorage E.storage }

def plainAttempt (a : Attempt) : Attempt String := { a with cell := plain a.cell }

def plainReconciled (res : Reconciled) : Reconciled String := { res with cell := plain res.cell }

variable {E : PersistEnv} {F : ReconcileEnv} {cfg : ReplicationConfig} {r : ARKRecord} {m : ARKMetadata} {c : Cell}
  {level1 level2 : ReplicationStatus} {level1Cid level2Cid : Cid} {S : Storage} {catalogue : ErrorCatalogue}
  {k : ArkId} {e : Exc} {repaired : Nat} {needed : Bool}

theorem anyLookup_cid (lookup : Cid → Option ReplicationStatus) (cid : Cid) :
    anyLookup lookup cid.val = (lookup cid).map anyStatus :=
  dif_neg cid.nonempty

theorem anyStorage_level1 (json : Json) :
    (anyStorage S).storeLevel1WithLevel2Reference json (some level2Cid.val) =
      (S.storeLevel1WithLevel2Reference json level2Cid).map fun cid => some cid.val :=
  dif_neg level2Cid.nonempty

theorem persistLevel2_plain : persistLevel2 (anyStorage S) (plainMetadata m) =
    (Persistence.persistLevel2 S m).map fun cid => some cid.val := by
  unfold persistLevel2 Persistence.persistLevel2
  simp only [plainMetadata]
  cases m.originalCid with
  | some cid => rfl
  | none =>
      cases m.originalContent <;> cases m.originalMediaType <;> try rfl
      simp only [Option.map_none]
      split <;> rfl

theorem persistLevel1_plain : persistLevel1 (anyStorage S) (plainMetadata m) (some level2Cid.val) =
    (Persistence.persistLevel1 S m level2Cid).map fun cid => some cid.val := by
  unfold persistLevel1 Persistence.persistLevel1
  simp only [plainMetadata]
  cases m.level1Cid with
  | some cid => rfl
  | none =>
      cases m.level1Json with
      | none => rfl
      | some json => exact anyStorage_level1 json

theorem persistBody_plain : persistBody (anyPersist E) r (plain c) = (Persistence.persistBody E r c).map plain := by
  unfold persistBody Persistence.persistBody
  simp only [plain, anyPersist]
  cases c.metadata with
  | none => rfl
  | some m =>
      simp only [Option.map_some, persistLevel2_plain, bind, Except.bind, pure, Except.pure]
      cases Persistence.persistLevel2 E.storage m with
      | error e => rfl
      | ok level2Cid =>
          simp only [Except.map, persistLevel1_plain]
          cases Persistence.persistLevel1 E.storage m level2Cid with
          | error e => rfl
          | ok level1Cid => cases E.commit <;> rfl

theorem deferProcessingRetry_plain {ark message : String} {code : ProcessingErrorCode} {delay : Int} {now : Time} :
    deferProcessingRetry ark message code delay now (plain c) =
      (deferProcessingRetry ark message code delay now c).map plain := by
  obtain ⟨_ | r, metadata, superseded⟩ := c <;> rfl

theorem markProcessingFailed_plain {ark message : String} {code : ProcessingErrorCode} {permanent : Bool} {now : Time} :
    markProcessingFailed catalogue ark message code permanent now (plain c) =
      (markProcessingFailed catalogue ark message code permanent now c).map plain := by
  obtain ⟨_ | r, metadata, superseded⟩ := c
  · rfl
  · simp only [markProcessingFailed, plain]
    split <;> rfl

variable [PyLower]

theorem persistFailure_plain : persistFailure catalogue k (anyPersist E) e (plain c) =
    plainAttempt (persistFailure catalogue k E e c) := by
  have hfailed : (anyPersist E).failedAt = E.failedAt := rfl
  simp only [persistFailure, hfailed, deferProcessingRetry_plain, markProcessingFailed_plain]
  split
  · cases deferProcessingRetry k.ark ("metadata persistence failed: " ++ e.text) .storageUnavailable 60 E.failedAt c <;>
      rfl
  · cases markProcessingFailed catalogue k.ark ("metadata persistence failed: " ++ e.text) .storageInvalidResponse true
      E.failedAt c <;> rfl

/-- Over storage that answers CIDs, `_persist` does what the model of the deployment has it do. -/
theorem persist_plain : persist catalogue k (anyPersist E) (plain c) =
    plainAttempt (Persistence.persist catalogue k E c) := by
  unfold persist Persistence.persist
  have hrecord : (plain c).record = c.record := rfl
  rw [hrecord]
  cases c.record with
  | none => rfl
  | some r =>
      have hready : (anyPersist E).readyAt = E.readyAt := rfl
      simp only [hready, persistBody_plain]
      split
      · cases Persistence.persistBody E r c with
        | ok c' => rfl
        | error e => exact persistFailure_plain
      · rfl

theorem hasClusterAssignment_plain :
    hasClusterAssignment (anyStatus level1) = .ok (Replication.hasClusterAssignment level1) := by
  unfold hasClusterAssignment Replication.hasClusterAssignment
  simp only [anyStatus]
  cases level1.assignedReplicas <;> rfl

theorem needsRepair_plain {allowed : Bool} : needsRepair (anyStatus level1) allowed =
    .ok (Replication.needsRepair level1 allowed) := by
  have hstatus : (anyStatus level1).status = level1.status := rfl
  have hnone : (anyStatus level1).noReplicas = decide (level1.totalReplicas = 0) := rfl
  unfold needsRepair Replication.needsRepair
  rw [hasClusterAssignment_plain, hnone]
  simp only [hstatus]
  split
  · rename_i hseen
    rw [hseen]
    by_cases herror : level1.status = "error"
    · simp [herror]
    · simp [herror, Except.map]
  · rename_i hseen
    rw [Bool.eq_false_iff.mpr hseen]
    rfl

omit [PyLower] in
theorem resubmitted_plain {level : String} {stored : Except Exc Cid} :
    resubmitted level (stored.map fun cid => some cid.val) (some level1Cid.val) =
      resubmitted level stored level1Cid := by
  cases stored with
  | error e => rfl
  | ok cid =>
      have hsame : (some cid.val = some level1Cid.val) ↔ cid = level1Cid :=
        ⟨fun h => by cases cid; cases level1Cid; cases Option.some.inj h; rfl, fun h => h ▸ rfl⟩
      simp only [resubmitted, Except.map, hsame]

omit [PyLower] in
theorem repairLevel2_plain : repairLevel2 (anyStorage S) (.ok needed) (plainMetadata m) level2Cid.val =
    Replication.repairLevel2 S needed m level2Cid := by
  cases needed with
  | false => rfl
  | true =>
      unfold repairLevel2 Replication.repairLevel2
      simp only [plainMetadata]
      cases m.originalContent <;> cases m.originalMediaType <;> try rfl
      simp only [if_true]
      split
      · rfl
      · exact resubmitted_plain

omit [PyLower] in
theorem repairLevel1_plain :
    repairLevel1 (anyStorage S) (.ok needed) (plainMetadata m) level1Cid.val level2Cid.val =
      Replication.repairLevel1 S needed m level1Cid level2Cid := by
  cases needed with
  | false => rfl
  | true =>
      unfold repairLevel1 Replication.repairLevel1
      simp only [plainMetadata]
      cases m.level1Json with
      | none => rfl
      | some json =>
          simp only [anyStorage_level1, if_true]
          exact resubmitted_plain

theorem repairs_plain : repairs cfg (anyReconcile F) (anyStatus level1) (anyStatus level2) (plainMetadata m)
      level1Cid.val level2Cid.val = Replication.repairs cfg F level1 level2 m level1Cid level2Cid := by
  have hallowed : repairAllowed cfg (anyReconcile F).now (plainMetadata m) = repairAllowed cfg F.now m := rfl
  have hstorage : (anyReconcile F).storage = anyStorage F.storage := rfl
  simp only [repairs, Replication.repairs, hallowed, hstorage, needsRepair_plain, repairLevel2_plain,
    repairLevel1_plain]

theorem observe_plain : observe (anyReconcile F) level1Cid.val level2Cid.val =
    (Replication.observe F level1Cid level2Cid).map fun levels => (anyStatus levels.1, anyStatus levels.2) := by
  unfold observe Replication.observe
  simp only [anyReconcile, bind, Except.bind]
  cases F.statuses with
  | error e => rfl
  | ok lookup =>
      simp only [Except.map, anyLookup_cid]
      cases lookup level1Cid with
      | none => rfl
      | some level1 =>
          cases lookup level2Cid with
          | none => rfl
          | some level2 =>
              simp only [Option.map_some, anyStatus]
              split <;> rfl

def plainRows (rows : ARKRecord × ARKMetadata × ReconcileCounts) : ARKRecord × ARKMetadata String × ReconcileCounts :=
  (rows.1, plainMetadata rows.2.1, rows.2.2)

theorem countedRows_plain :
    countedRows cfg (anyReconcile F) (anyStatus level1) (anyStatus level2) r (plainMetadata m) repaired =
      .ok (plainRows (reconciledRows cfg F level1 level2 r m repaired)) := by
  have hrows : reconciledRows cfg (anyReconcile F) { level1 with assignedReplicas := none }
      { level2 with assignedReplicas := none } r (plainMetadata m) repaired =
        plainRows (reconciledRows cfg F level1 level2 r m repaired) := by
    unfold reconciledRows
    simp only
    split
    · unfold reconcileAvailability
      simp only
      split <;> rfl
    · unfold reconcileDurability
      simp only
      split
      · rfl
      · split <;> rfl
  exact congrArg Except.ok hrows

theorem reconcileRows_plain : reconcileRows cfg (anyReconcile F) r (plain c) =
    ((Replication.reconcileRows cfg F r c).1, (Replication.reconcileRows cfg F r c).2.map plainRows) := by
  unfold reconcileRows Replication.reconcileRows
  simp only [plain]
  cases c.metadata with
  | none => rfl
  | some m =>
      have h1 : (plainMetadata m).level1Cid = m.level1Cid.map Cid.val := rfl
      have h2 : (plainMetadata m).originalCid = m.originalCid.map Cid.val := rfl
      simp only [Option.map_some, h1, h2]
      cases m.level1Cid with
      | none => rfl
      | some level1Cid =>
          cases m.originalCid with
          | none => rfl
          | some level2Cid =>
              simp only [Option.map_some, level1Cid.nonempty, level2Cid.nonempty, or_self, if_false, observe_plain]
              cases Replication.observe F level1Cid level2Cid with
              | error e => rfl
              | ok levels =>
                  simp only [Except.map, repairs_plain, countedRows_plain]
                  split <;> simp_all

omit [PyLower] in
theorem commitRows_plain (rows : ARKRecord × ARKMetadata × ReconcileCounts) :
    commitRows (anyReconcile F) (plainRows rows) (plain c) =
      (commitRows F rows c).map fun done => (plain done.1, done.2) := by
  unfold commitRows
  have hfit : smallintsFit (plainRows rows).2.1 = smallintsFit rows.2.1 := rfl
  have hcommit : (anyReconcile F).commit = F.commit := rfl
  rw [hfit, hcommit]
  split
  · cases F.commit <;> rfl
  · rfl

theorem countsSoFar_plain : countsSoFar (reconcileRows cfg (anyReconcile F) r (plain c)) =
    countsSoFar (Replication.reconcileRows cfg F r c) := by
  rw [reconcileRows_plain]
  unfold countsSoFar
  cases (Replication.reconcileRows cfg F r c).2 <;> rfl

theorem reconcileBody_plain : reconcileBody cfg (anyReconcile F) r (plain c) =
    ((Replication.reconcileBody cfg F r c).1,
      (Replication.reconcileBody cfg F r c).2.map fun done => (plain done.1, done.2)) := by
  unfold reconcileBody Replication.reconcileBody
  simp only [reconcileRows_plain]
  cases (Replication.reconcileRows cfg F r c).2 with
  | error e => rfl
  | ok rows => simp only [Except.map, Except.bind, commitRows_plain]

omit [PyLower] in
theorem reconcileFailure_plain {submitted : Nat} {counts : ReconcileCounts} :
    reconcileFailure cfg k (anyReconcile F) submitted counts e (plain c) =
      plainReconciled (reconcileFailure cfg k F submitted counts e c) := by
  have hfailed : (anyReconcile F).failedAt = F.failedAt := rfl
  simp only [reconcileFailure, hfailed, deferProcessingRetry_plain]
  cases deferProcessingRetry k.ark ("replication reconciliation failed: " ++ e.text) .replicationUnavailable
    cfg.firstPinRecheck F.failedAt c <;> rfl

/-- And `_reconcile` does. -/
theorem reconcile_plain : reconcile catalogue cfg k (anyReconcile F) (plain c) =
    plainReconciled (Replication.reconcile catalogue cfg k F c) := by
  unfold reconcile Replication.reconcile
  have hrecord : (plain c).record = c.record := rfl
  rw [hrecord]
  cases c.record with
  | none => rfl
  | some r =>
      have hready : (anyReconcile F).readyAt = F.readyAt := rfl
      have hassigned : (anyReconcile F).assigned = F.assigned := rfl
      have hfailed : (anyReconcile F).failedAt = F.failedAt := rfl
      simp only [hready, hassigned, hfailed, countsSoFar_plain, reconcileBody_plain, reconcileFailure_plain,
        markProcessingFailed_plain]
      split
      · split
        · rcases Replication.reconcileBody cfg F r c with ⟨repair, e | done⟩ <;> rfl
        · cases markProcessingFailed catalogue k.ark "Authority not assigned to this Minter" .authorityNotFound true
            F.failedAt c <;> rfl
      · rfl

end Plain

end DarkMinter.StorageAnswers
