import DarkMinter.Persistence

namespace DarkMinter.Replication

open Text Processing Records Repository Persistence

/-- The settings of `ReplicationReconciliationWorker` that one attempt reads,
after the clamping of its constructor. -/
structure ReplicationConfig where
  firstPinRecheck : Int
  firstPinSecondRecheck : Int
  firstPinMaxRecheck : Int
  durabilityRecheck : Int
  durabilitySecondRecheck : Int
  durabilityMaxRecheck : Int
  repairGrace : Int
  repairCooldown : Int
  publishAfter : Nat
  targetReplicas : Nat
  firstPin_pos : 1 ≤ firstPinRecheck
  firstPin_second : firstPinRecheck ≤ firstPinSecondRecheck
  firstPin_max : firstPinSecondRecheck ≤ firstPinMaxRecheck
  durability_pos : 1 ≤ durabilityRecheck
  durability_second : durabilityRecheck ≤ durabilitySecondRecheck
  durability_max : durabilitySecondRecheck ≤ durabilityMaxRecheck
  repair_nonneg : 0 ≤ repairGrace ∧ 0 ≤ repairCooldown
  publishAfter_pos : 1 ≤ publishAfter
  publishAfter_le : publishAfter ≤ targetReplicas

def ReplicationConfig.init (firstPin firstPinSecond firstPinMax durability durabilitySecond
    durabilityMax grace cooldown publishAfter target : Int) : ReplicationConfig where
  firstPinRecheck := max firstPin 1
  firstPinSecondRecheck := max firstPinSecond (max firstPin 1)
  firstPinMaxRecheck := max firstPinMax (max firstPinSecond (max firstPin 1))
  durabilityRecheck := max durability 1
  durabilitySecondRecheck := max durabilitySecond (max durability 1)
  durabilityMaxRecheck := max durabilityMax (max durabilitySecond (max durability 1))
  repairGrace := max grace 0
  repairCooldown := max cooldown 0
  publishAfter := (max publishAfter 1).toNat
  targetReplicas := (max target (max publishAfter 1)).toNat
  firstPin_pos := Int.le_max_right _ _
  firstPin_second := Int.le_max_right _ _
  firstPin_max := Int.le_max_right _ _
  durability_pos := Int.le_max_right _ _
  durability_second := Int.le_max_right _ _
  durability_max := Int.le_max_right _ _
  repair_nonneg := by omega
  publishAfter_pos := by omega
  publishAfter_le := by omega

structure ReplicationStatus where
  status : String
  totalReplicas : Int
  assignedReplicas : Option Int := none
  deriving DecidableEq

structure ReconcileCounts where
  checked : Nat := 1
  advanced : Nat := 0
  waiting : Nat := 0
  repaired : Nat := 0
  purged : Nat := 0
  failed : Nat := 0
  deriving DecidableEq

structure ReconcileEnv (κ : Type := Cid) (σ : Type := ReplicationStatus) (S : Type := Storage) where
  readyAt : Time
  assigned : String → Bool
  now : Time
  statuses : Except Exc (κ → Option σ)
  storage : S
  scheduledAt : Time
  commit : Except Exc Unit := .ok ()
  failedAt : Time

/-- What one `_reconcile` leaves. `submitted` counts its calls that hand a
payload back to storage, whatever they answered. -/
structure Reconciled (κ : Type := Cid) where
  cell : Cell κ
  counts : ReconcileCounts
  submitted : Nat := 0
  result : Except Exc Unit := .ok ()

/-- A repair: the payloads handed to storage, those that came back under
their own CID, and the exception that ended it. -/
structure Repair where
  submitted : Nat := 0
  repaired : Nat := 0
  outcome : Except Exc Unit := .ok ()

def Repair.andThen (a b : Repair) : Repair :=
  match a.outcome with
  | .ok () =>
      { submitted := a.submitted + b.submitted, repaired := a.repaired + b.repaired,
        outcome := b.outcome }
  | .error _ => a

def scheduledDelay (observations : Nat) (first second later : Int) : Int :=
  if observations ≤ 1 then first else if observations = 2 then second else later

def firstPinWaitAt (cfg : ReplicationConfig) (observations : Nat) (now : Time) : Time :=
  now + seconds (scheduledDelay observations cfg.firstPinRecheck cfg.firstPinSecondRecheck
    cfg.firstPinMaxRecheck)

def durabilityWaitAt (cfg : ReplicationConfig) (observations : Nat) (now : Time) : Time :=
  now + seconds (scheduledDelay observations cfg.durabilityRecheck cfg.durabilitySecondRecheck
    cfg.durabilityMaxRecheck)

variable {κ σ S : Type}

def repairAllowed (cfg : ReplicationConfig) (now : Time) (m : ARKMetadata κ) : Bool :=
  decide (seconds cfg.repairGrace ≤ now - m.createdAt) &&
    m.lastRepairAt.all fun t => decide (seconds cfg.repairCooldown ≤ now - t)

def observedMetadata (level1 level2 : ReplicationStatus) (repaired : Nat) (now : Time)
    (m : ARKMetadata κ) : ARKMetadata κ :=
  { m with
    level1ReplicaCount := some level1.totalReplicas.toNat
    level2ReplicaCount := some level2.totalReplicas.toNat
    replicationCheckedAt := some now
    lastRepairAt := if 0 < repaired then some now else m.lastRepairAt
    replicationErrorCode := none
    replicationLastError := none
    updatedAt := now }

def smallintsFit (m : ARKMetadata κ) : Bool :=
  m.level1ReplicaCount.all (· ≤ smallintMax) && m.level2ReplicaCount.all (· ≤ smallintMax) &&
    decide (m.replicationObservationCount ≤ smallintMax)

variable [PyLower]

def hasClusterAssignment (s : ReplicationStatus) : Bool :=
  match s.assignedReplicas with
  | some n => 0 < n
  | none => lower s.status ∈ ["pinned", "pinning", "queued"]

def needsRepair (s : ReplicationStatus) (allowed : Bool) : Bool :=
  s.totalReplicas = 0 && s.status ∈ ["unpinned", "error"] &&
    (s.status = "error" || !hasClusterAssignment s) && allowed

def resubmitted [DecidableEq κ] (level : String) (stored : Except Exc κ) (cid : κ) : Repair :=
  match stored with
  | .error e => { submitted := 1, outcome := .error e }
  | .ok cid' =>
      if cid' = cid then { submitted := 1, repaired := 1 }
      else { submitted := 1, outcome :=
        .error (valueError (level ++ " repair returned a different CID")) }

def unavailable (level : String) : Repair :=
  { outcome := .error (valueError (level ++ " payload is unavailable for repair")) }

def repairLevel2 (S : Storage) (needed : Bool) (m : ARKMetadata) (level2Cid : Cid) : Repair :=
  if needed then
    match m.originalContent, m.originalMediaType with
    | some content, some mediaType =>
        if mediaType = "" then unavailable "Level 2"
        else resubmitted "Level 2" (S.storeLevel2 content mediaType m.originalSchema) level2Cid
    | _, _ => unavailable "Level 2"
  else {}

def repairLevel1 (S : Storage) (needed : Bool) (m : ARKMetadata) (level1Cid level2Cid : Cid) :
    Repair :=
  if needed then
    match m.level1Json with
    | some json =>
        resubmitted "Level 1" (S.storeLevel1WithLevel2Reference json level2Cid) level1Cid
    | none => unavailable "Level 1"
  else {}

def repairs (cfg : ReplicationConfig) (E : ReconcileEnv) (level1 level2 : ReplicationStatus)
    (m : ARKMetadata) (level1Cid level2Cid : Cid) : Repair :=
  let allowed := repairAllowed cfg E.now m
  (repairLevel2 E.storage (needsRepair level2 allowed) m level2Cid).andThen
    (repairLevel1 E.storage (needsRepair level1 allowed) m level1Cid level2Cid)

def waitReason (level1 level2 : ReplicationStatus) : ProcessingWaitReason :=
  let seen := [lower level1.status, lower level2.status]
  if "queued" ∈ seen then .clusterQueued
  else if "pinning" ∈ seen then .clusterPinning
  else .initialVisibility

def reconcileAvailability (cfg : ReplicationConfig) (E : ReconcileEnv κ σ S)
    (level1 level2 : ReplicationStatus) (r : ARKRecord) (m m' : ARKMetadata κ) (repaired : Nat) :
    ARKRecord × ARKMetadata κ × ReconcileCounts :=
  let replicas := min level1.totalReplicas.toNat level2.totalReplicas.toNat
  if cfg.publishAfter ≤ replicas then
    ({ r with
        processingStage := .chain
        processingStatus := .ready
        nextActionAt := none
        processingWaitReason := .none
        updatedAt := E.scheduledAt },
      { m' with replicationObservationCount := 0 }, { advanced := 1, repaired })
  else
    let reason := waitReason level1 level2
    let previousReplicas := min (m.level1ReplicaCount.getD 0) (m.level2ReplicaCount.getD 0)
    let changed := r.processingWaitReason ≠ reason || previousReplicas < replicas
    let observations := if changed then 1 else m.replicationObservationCount + 1
    ({ r with
        processingStatus := .waiting
        nextActionAt := some (firstPinWaitAt cfg observations E.scheduledAt)
        processingWaitReason := reason
        updatedAt := E.scheduledAt },
      { m' with replicationObservationCount := observations }, { waiting := 1, repaired })

def reconcileDurability (cfg : ReplicationConfig) (E : ReconcileEnv κ σ S)
    (level1 level2 : ReplicationStatus) (r : ARKRecord) (m m' : ARKMetadata κ) (repaired : Nat) :
    ARKRecord × ARKMetadata κ × ReconcileCounts :=
  if cfg.targetReplicas ≤ min level1.totalReplicas.toNat level2.totalReplicas.toNat then
    ({ r with
        processingStage := .complete
        processingStatus := .done
        nextActionAt := none
        processingWaitReason := .none
        updatedAt := E.scheduledAt },
      { m' with level1Json := none, originalContent := none, payloadPurgedAt := some E.scheduledAt },
      { advanced := 1, purged := 1, repaired })
  else if 0 < repaired then
    ({ r with
        processingStatus := .ready
        nextActionAt := none
        processingWaitReason := .none
        updatedAt := E.scheduledAt },
      { m' with replicationObservationCount := 0 }, { waiting := 1, repaired })
  else
    let observations := m.replicationObservationCount + 1
    ({ r with
        processingStatus := .waiting
        nextActionAt := some (durabilityWaitAt cfg observations E.scheduledAt)
        processingWaitReason := .replicaTarget
        updatedAt := E.scheduledAt },
      { m' with replicationObservationCount := observations }, { waiting := 1, repaired })

def reconciledRows (cfg : ReplicationConfig) (E : ReconcileEnv κ σ S)
    (level1 level2 : ReplicationStatus) (r : ARKRecord) (m : ARKMetadata κ) (repaired : Nat) :
    ARKRecord × ARKMetadata κ × ReconcileCounts :=
  let m' := observedMetadata level1 level2 repaired E.now m
  if r.processingStage = .availability then
    reconcileAvailability cfg E level1 level2 r m m' repaired
  else reconcileDurability cfg E level1 level2 r m m' repaired

def observe (E : ReconcileEnv) (level1Cid level2Cid : Cid) :
    Except Exc (ReplicationStatus × ReplicationStatus) := do
  let statuses ← E.statuses
  match statuses level1Cid, statuses level2Cid with
  | some level1, some level2 =>
      if lower level1.status = "unknown" || lower level2.status = "unknown" then
        .error ⟨.timeout, "Store API did not complete this CID observation"⟩
      else .ok (level1, level2)
  | _, _ => .error (valueError "Store API batch status omitted a CID")

def commitRows (E : ReconcileEnv κ σ S) (rows : ARKRecord × ARKMetadata κ × ReconcileCounts) (c : Cell κ) :
    Except Exc (Cell κ × ReconcileCounts) :=
  if smallintsFit rows.2.1 then
    E.commit.map fun _ => ({ c with record := some rows.1, metadata := some rows.2.1 }, rows.2.2)
  else .error smallintOutOfRange

/-- `_reconcile` after the assignment check: the repair it makes on the way, and the rows and the
counts that it has as it comes to its last commit, or the exception that ends it before. -/
def reconcileRows (cfg : ReplicationConfig) (E : ReconcileEnv) (r : ARKRecord) (c : Cell) :
    Repair × Except Exc (ARKRecord × ARKMetadata × ReconcileCounts) :=
  match c.metadata with
  | none => ({}, .error (valueError "metadata CIDs are required for reconciliation"))
  | some m => match m.level1Cid, m.originalCid with
    | some level1Cid, some level2Cid =>
        match observe E level1Cid level2Cid with
        | .error e => ({}, .error e)
        | .ok (level1, level2) =>
            let repair := repairs cfg E level1 level2 m level1Cid level2Cid
            match repair.outcome with
            | .error e => (repair, .error e)
            | .ok () => (repair, .ok (reconciledRows cfg E level1 level2 r m repair.repaired))
    | _, _ => ({}, .error (valueError "metadata CIDs are required for reconciliation"))

def reconcileBody (cfg : ReplicationConfig) (E : ReconcileEnv) (r : ARKRecord) (c : Cell) :
    Repair × Except Exc (Cell × ReconcileCounts) :=
  ((reconcileRows cfg E r c).1, (reconcileRows cfg E r c).2.bind fun rows => commitRows E rows c)

/-- What `result` counts where an exception ends the attempt. -/
def countsSoFar (body : Repair × Except Exc (ARKRecord × ARKMetadata κ × ReconcileCounts)) : ReconcileCounts :=
  match body.2 with
  | .ok rows => rows.2.2
  | .error _ => { repaired := body.1.repaired }

def reconcileAccepts (now : Time) (r : ARKRecord) : Bool :=
  r.state ∈ [.draft, .update, .published] &&
    r.processingStage ∈ [.availability, .replication] && readyForProcessing r now

omit [PyLower] in
theorem reconcileAccepts_live {now : Time} {r : ARKRecord} (h : reconcileAccepts now r = true) :
    r.state ≠ .tombstone ∧ (r.processingStage = .availability ∨ r.processingStage = .replication) := by
  simp only [reconcileAccepts, Bool.and_eq_true, decide_eq_true_eq, List.mem_cons, List.not_mem_nil, or_false] at h
  exact ⟨fun htomb => by simp [htomb] at h, h.1.2⟩

def reconcileFailure (cfg : ReplicationConfig) (k : ArkId) (E : ReconcileEnv κ σ S) (submitted : Nat)
    (counts : ReconcileCounts) (e : Exc) (c : Cell κ) : Reconciled κ :=
  match deferProcessingRetry k.ark ("replication reconciliation failed: " ++ e.text)
      .replicationUnavailable cfg.firstPinRecheck E.failedAt c with
  | .ok c' => { cell := c', counts := { counts with failed := 1 }, submitted }
  | .error e' => { cell := c, counts := {}, submitted, result := .error e' }

def reconcile (catalogue : ErrorCatalogue) (cfg : ReplicationConfig) (k : ArkId) (E : ReconcileEnv)
    (c : Cell) : Reconciled :=
  match c.record with
  | none => { cell := c, counts := { checked := 0 } }
  | some r =>
      if reconcileAccepts E.readyAt r then
        if E.assigned r.authorityId then
          match reconcileBody cfg E r c with
          | (repair, .ok (c', counts)) => { cell := c', counts, submitted := repair.submitted }
          | (repair, .error e) =>
              reconcileFailure cfg k E repair.submitted (countsSoFar (reconcileRows cfg E r c)) e c
        else
          match markProcessingFailed catalogue k.ark "Authority not assigned to this Minter"
              .authorityNotFound true E.failedAt c with
          | .ok c' => { cell := c', counts := { failed := 1 } }
          | .error e => reconcileFailure cfg k E 0 {} e c
      else { cell := c, counts := { checked := 0 } }

end DarkMinter.Replication
