import DarkMinter.Records

namespace DarkMinter.Repository

open Text Processing Records

def readyForProcessing (r : ARKRecord) (now : Time) : Bool :=
  match r.processingStatus with
  | .ready => true
  | .waiting => r.nextActionAt.any (· ≤ now)
  | _ => false

def createReserved (authorityId : String) (clientItemId : Option String) (now : Time) : ARKRecord :=
  { state := .reserved, authorityId, clientItemId, createdAt := now, updatedAt := now }

def createPublishedImport (authorityId : String) (target : Option String) (now : Time) : ARKRecord :=
  { state := .published, authorityId, target, createdAt := now, updatedAt := now }

/-- The conditional update shared by `update_to_draft` and `update_to_update`. -/
def transition (source : ARKState) (sourceName : String) (next : ARKState)
    (ark target : String) (now : Time) (c : Cell) : Except Exc Cell :=
  if target = "" then .error (valueError "Target URL is required")
  else match c.record with
    | none => .error (valueError ("ARK not found: " ++ ark))
    | some r =>
        if r.state = source then
          .ok { c with record := some { r with state := next, target := some target, updatedAt := now } }
        else .error (valueError
          ("ARK must be in " ++ sourceName ++ " state, currently " ++ String.singleton r.state.value))

def updateToDraft := transition .reserved "RESERVED" .draft

def updateToUpdate := transition .published "PUBLISHED" .update

def publishedRecord (now : Time) (r : ARKRecord) : ARKRecord :=
  { r with
    state := .published
    processingStage := .replication
    processingStatus := .ready
    processingAttemptCount := 0
    nextActionAt := none
    processingWaitReason := .none
    processingErrorCode := none
    processingErrorDetail := none
    updatedAt := now }

def updateToPublished (ark : String) (expectedStates : List ARKState) (now : Time) (c : Cell) :
    Except Exc Cell :=
  match c.record with
  | none => .error (valueError ("ARK not found: " ++ ark))
  | some r =>
      if r.state ∈ expectedStates then
        .ok { c with record := some (publishedRecord now r) }
      else .error (valueError
        ("ARK must be in one of [" ++ ", ".intercalate (expectedStates.map (String.singleton ·.value)) ++
          "], currently " ++ String.singleton r.state.value))

def tombstonedRecord (now : Time) (r : ARKRecord) : ARKRecord :=
  { r with
    state := .tombstone
    tombstonedAt := some now
    processingStatus := .cancelled
    nextActionAt := none
    processingWaitReason := .none
    updatedAt := now }

def updateToTombstone (ark : String) (now : Time) (c : Cell) : Except Exc Cell :=
  match c.record with
  | none => .error (valueError ("ARK not found: " ++ ark))
  | some r =>
      if r.state = .tombstone then .ok c
      else .ok { c with record := some (tombstonedRecord now r) }

/-- Stage a payload: its CIDs are unknown and its processing starts over. -/
def createOrUpdateMetadata (level1Json : Json) (originalContent originalSchema : String)
    (originalMediaType : Option String) (now : Time) (c : Cell) : Cell :=
  { c with
    metadata := some (match c.metadata with
      | some m => { m with
          level1Json := some level1Json
          originalContent := some originalContent
          originalSchema
          originalMediaType
          level1Cid := none
          originalCid := none
          level1ReplicaCount := none
          level2ReplicaCount := none
          replicationCheckedAt := none
          replicationErrorCode := none
          replicationLastError := none
          payloadPurgedAt := none
          updatedAt := now }
      | none =>
          { level1Json := some level1Json, originalContent := some originalContent, originalSchema,
            originalMediaType, createdAt := now, updatedAt := now })
    record := c.record.map fun r => { r with
      processingStage := .metadata
      processingStatus := .ready
      processingAttemptCount := 0
      nextActionAt := none
      processingWaitReason := .none
      processingErrorCode := none
      processingErrorDetail := none
      updatedAt := now } }

/-- The catalogue row of the code, where there is one, decides over the flag
of the call site. -/
def failsPermanently (catalogue : ErrorCatalogue) (code : ProcessingErrorCode)
    (isPermanent : Bool) : Bool :=
  match catalogue code with
  | some retryable => !retryable
  | none => isPermanent

/-- The row that `mark_processing_failed` asks for, before the column types
are checked. -/
def failedRecord (permanent : Bool) (message : String) (code : ProcessingErrorCode) (now : Time)
    (r : ARKRecord) : ARKRecord :=
  { r with
    processingAttemptCount := r.processingAttemptCount + 1
    processingErrorCode := some code
    processingErrorDetail := some (take 1000 message)
    updatedAt := now
    processingStatus := if permanent then .failed else .waiting
    nextActionAt := if permanent then none else some (now + seconds 60)
    processingWaitReason := if permanent then .none else .storageBackoff }

def markProcessingFailed {κ : Type} (catalogue : ErrorCatalogue) (ark message : String)
    (code : ProcessingErrorCode) (isPermanent : Bool) (now : Time) (c : Cell κ) : Except Exc (Cell κ) :=
  match c.record with
  | none => .error (valueError ("ARK not found: " ++ ark))
  | some r =>
      if r.processingAttemptCount + 1 ≤ smallintMax then
        let permanent := failsPermanently catalogue code isPermanent
        .ok { c with record := some (failedRecord permanent message code now r) }
      else .error smallintOutOfRange

def deferredRecord (message : String) (code : ProcessingErrorCode) (delaySeconds : Int) (now : Time)
    (r : ARKRecord) : ARKRecord :=
  { r with
    processingStatus := .waiting
    nextActionAt := some (now + seconds (max delaySeconds 0))
    processingWaitReason := .storageBackoff
    processingErrorCode := some code
    processingErrorDetail := some (take 1000 message)
    updatedAt := now }

def deferProcessingRetry {κ : Type} (ark message : String) (code : ProcessingErrorCode) (delaySeconds : Int)
    (now : Time) (c : Cell κ) : Except Exc (Cell κ) :=
  match c.record with
  | none => .error (valueError ("ARK not found: " ++ ark))
  | some r => .ok { c with record := some (deferredRecord message code delaySeconds now r) }

def metadataPendingPersist (now : Time) (c : Cell) : Bool :=
  match c.record, c.metadata with
  | some r, some m =>
      r.state ∈ [.draft, .update] && r.processingStage = .metadata &&
        (m.level1Cid.isNone || m.originalCid.isNone) && readyForProcessing r now
  | _, _ => false

def chainPendingPublish (now : Time) (c : Cell) : Bool :=
  match c.record, c.metadata with
  | some r, some m =>
      r.state ∈ [.draft, .update] && r.processingStage = .chain &&
        m.level1Cid.isSome && m.originalCid.isSome && readyForProcessing r now
  | _, _ => false

def reconciliationCandidate (stage : ProcessingStage) (now : Time) (c : Cell) : Bool :=
  match c.record, c.metadata with
  | some r, some m =>
      m.level1Cid.isSome && m.originalCid.isSome && readyForProcessing r now &&
        r.processingStage = stage
  | _, _ => false

def activeStatuses : List ProcessingStatus := [.ready, .waiting]

def metadataBacklog (c : Cell) : Bool :=
  c.record.any fun r => r.processingStage = .metadata && r.processingStatus ∈ activeStatuses

def firstPinBacklog (c : Cell) : Bool :=
  match c.record, c.metadata with
  | some r, some m =>
      r.processingStage = .availability && r.processingStatus ∈ activeStatuses &&
        m.level1Cid.isSome && m.originalCid.isSome
  | _, _ => false

def hasCriticalReconciliationBacklog (table : List Cell) : Bool :=
  table.any metadataBacklog || table.any firstPinBacklog

end DarkMinter.Repository
