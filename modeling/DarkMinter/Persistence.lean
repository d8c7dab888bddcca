import DarkMinter.Repository

namespace DarkMinter.Persistence

open Text Processing Records Repository

structure Stats where
  processed : Nat := 0
  succeeded : Nat := 0
  failed : Nat := 0
  deferred : Nat := 0
  permanentFailures : Nat := 0
  deriving DecidableEq

/-- One worker attempt: the rows it leaves committed, what it adds to the
statistics, and its return value or the exception that leaves it. -/
structure Attempt (κ : Type := Cid) where
  cell : Cell κ
  stats : Stats := {}
  result : Except Exc Bool

structure Storage where
  storeLevel2 : String → String → String → Except Exc Cid
  storeLevel1WithLevel2Reference : Json → Cid → Except Exc Cid

structure PersistEnv (S : Type := Storage) where
  readyAt : Time
  storage : S
  storedAt : Time
  commit : Except Exc Unit := .ok ()
  failedAt : Time

def persistLevel2 (S : Storage) (m : ARKMetadata) : Except Exc Cid :=
  match m.originalCid with
  | some cid => .ok cid
  | none => match m.originalContent, m.originalMediaType with
    | some content, some mediaType =>
        if mediaType = "" then .error (valueError "Level 2 payload and media type are required")
        else S.storeLevel2 content mediaType m.originalSchema
    | _, _ => .error (valueError "Level 2 payload and media type are required")

def persistLevel1 (S : Storage) (m : ARKMetadata) (level2Cid : Cid) : Except Exc Cid :=
  match m.level1Cid with
  | some cid => .ok cid
  | none => match m.level1Json with
    | some json => S.storeLevel1WithLevel2Reference json level2Cid
    | none => .error (valueError "Level 1 metadata JSON is required")

def persistedMetadata {κ : Type} (level1Cid level2Cid : Option κ) (now : Time) (m : ARKMetadata κ) : ARKMetadata κ :=
  { m with
    level1Cid
    originalCid := level2Cid
    level1ReplicaCount := none
    level2ReplicaCount := none
    replicationCheckedAt := none
    replicationObservationCount := 0
    replicationErrorCode := none
    replicationLastError := none
    updatedAt := now }

def persistedRecord (now : Time) (r : ARKRecord) : ARKRecord :=
  { r with
    processingStage := .availability
    processingStatus := .ready
    processingAttemptCount := 0
    nextActionAt := none
    processingWaitReason := .none
    processingErrorCode := none
    processingErrorDetail := none
    updatedAt := now }

def persistBody (E : PersistEnv) (r : ARKRecord) (c : Cell) : Except Exc Cell :=
  match c.metadata with
  | none => .error (valueError "metadata record is missing")
  | some m => do
      let level2Cid ← persistLevel2 E.storage m
      let level1Cid ← persistLevel1 E.storage m level2Cid
      E.commit
      return { c with
        record := some (persistedRecord E.storedAt r)
        metadata := some (persistedMetadata (some level1Cid) (some level2Cid) E.storedAt m) }

variable [PyLower]

def persistFailure {κ S : Type} (catalogue : ErrorCatalogue) (k : ArkId) (E : PersistEnv S) (e : Exc) (c : Cell κ) :
    Attempt κ :=
  let message := "metadata persistence failed: " ++ e.text
  if isInfrastructureError e then
    match deferProcessingRetry k.ark message .storageUnavailable 60 E.failedAt c with
    | .ok c' => { cell := c', stats := { deferred := 1 }, result := .ok false }
    | .error e' => { cell := c, result := .error e' }
  else
    match markProcessingFailed catalogue k.ark message .storageInvalidResponse true E.failedAt c with
    | .ok c' => { cell := c', stats := { permanentFailures := 1 }, result := .ok false }
    | .error e' => { cell := c, result := .error e' }

def persistAccepts (now : Time) (r : ARKRecord) : Bool :=
  r.state ∈ [.draft, .update] && r.processingStage = .metadata && readyForProcessing r now

omit [PyLower] in
theorem persistAccepts_live {now : Time} {r : ARKRecord} (h : persistAccepts now r = true) :
    r.state ≠ .tombstone ∧ r.processingStage = .metadata := by
  simp only [persistAccepts, Bool.and_eq_true, decide_eq_true_eq] at h
  exact ⟨fun htomb => by simp [htomb] at h, h.1.2⟩

/-- `MetadataPersistenceWorker._persist`, once it holds the lock of the ARK. -/
def persist (catalogue : ErrorCatalogue) (k : ArkId) (E : PersistEnv) (c : Cell) : Attempt :=
  match c.record with
  | none => { cell := c, result := .ok false }
  | some r =>
      if persistAccepts E.readyAt r then
        match persistBody E r c with
        | .ok c' => { cell := c', result := .ok true }
        | .error e => persistFailure catalogue k E e c
      else { cell := c, result := .ok false }

end DarkMinter.Persistence
