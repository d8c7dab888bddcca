import DarkMinter.Text

namespace DarkMinter.Processing

open Text

inductive ARKState
  | reserved
  | draft
  | update
  | published
  | tombstone
  deriving DecidableEq

inductive ProcessingStage
  | none
  | metadata
  | availability
  | chain
  | replication
  | complete
  deriving DecidableEq

inductive ProcessingStatus
  | ready
  | waiting
  | failed
  | done
  | cancelled
  deriving DecidableEq

inductive ProcessingWaitReason
  | none
  | clusterPinning
  | initialVisibility
  | replicaTarget
  | storageBackoff
  | rpcBackoff
  | chainConfirmation
  | clusterQueued
  deriving DecidableEq

inductive ProcessingErrorCode
  | storageUnavailable
  | storageInvalidResponse
  | replicationUnavailable
  | cidMismatch
  | chainRpcUnavailable
  | chainReverted
  | authorityNotFound
  | authorizationFailed
  | chainStateConflict
  | unexpected
  deriving DecidableEq

def ARKState.value : ARKState → Char
  | .reserved => 'R'
  | .draft => 'D'
  | .update => 'U'
  | .published => 'P'
  | .tombstone => 'T'

def ProcessingErrorCode.id : ProcessingErrorCode → Nat
  | .storageUnavailable => 100
  | .storageInvalidResponse => 101
  | .replicationUnavailable => 200
  | .cidMismatch => 201
  | .chainRpcUnavailable => 300
  | .chainReverted => 301
  | .authorityNotFound => 302
  | .authorizationFailed => 303
  | .chainStateConflict => 304
  | .unexpected => 900

/-- `processing_error_codes.retryable`, for the codes that have a row. -/
abbrev ErrorCatalogue := ProcessingErrorCode → Option Bool

def seededCatalogue : ErrorCatalogue
  | .storageUnavailable | .storageInvalidResponse | .replicationUnavailable
  | .chainRpcUnavailable | .unexpected => some true
  | .cidMismatch | .chainReverted | .authorityNotFound | .authorizationFailed
  | .chainStateConflict => some false

/-- Naive UTC datetimes, in microseconds. -/
abbrev Time := Int

def seconds (n : Int) : Time := n * 1000000

inductive ExcClass
  | arkNotFound
  | authorityNotFound
  | authorization
  | darkConnection
  | timeout
  | connection
  | value
  | runtime
  | integrity
  | database
  | other
  deriving DecidableEq

/-- A raised exception: its class as far as some handler tests it, and its text. -/
structure Exc where
  cls : ExcClass
  text : String
  deriving DecidableEq

def valueError (text : String) : Exc := ⟨.value, text⟩

def smallintOutOfRange : Exc := ⟨.database, "smallint out of range"⟩

def smallintMax : Nat := 32767

variable [PyLower]

def isInfrastructureError (e : Exc) : Bool :=
  e.cls ∈ [.darkConnection, .timeout, .connection] ||
    ["connection", "timeout", "unavailable", "refused", "temporarily"].any (isIn · (lower e.text))

end DarkMinter.Processing
