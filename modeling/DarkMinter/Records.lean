import DarkMinter.Processing

namespace DarkMinter.Records

open Processing

structure ArkId where
  naan : String
  name : String
  deriving DecidableEq

def ArkId.ark (k : ArkId) : String := "ark:" ++ k.naan ++ "/" ++ k.name

/-- A CID. Storage backends answer a store with a nonempty one. -/
structure Cid where
  val : String
  nonempty : val ≠ ""
  deriving DecidableEq

/-- JSON documents. Objects keep their keys in insertion order. -/
inductive Json
  | null
  | bool (b : Bool)
  | num (literal : String)
  | str (s : String)
  | arr (items : List Json)
  | obj (fields : List (String × Json))

def setField (key : String) (value : Json) : List (String × Json) → List (String × Json)
  | [] => [(key, value)]
  | (k, v) :: rest => if k = key then (k, value) :: rest else (k, v) :: setField key value rest

structure ARKRecord where
  state : ARKState
  authorityId : String
  target : Option String := none
  createdAt : Time
  updatedAt : Time
  tombstonedAt : Option Time := none
  clientItemId : Option String := none
  processingStage : ProcessingStage := .none
  processingStatus : ProcessingStatus := .done
  processingAttemptCount : Nat := 0
  nextActionAt : Option Time := none
  processingWaitReason : ProcessingWaitReason := .none
  processingErrorCode : Option ProcessingErrorCode := none
  processingErrorDetail : Option String := none
  deriving DecidableEq

structure ARKMetadata (κ : Type := Cid) where
  level1Json : Option Json
  level1Cid : Option κ := none
  originalContent : Option String
  originalSchema : String
  originalMediaType : Option String := none
  originalCid : Option κ := none
  level1ReplicaCount : Option Nat := none
  level2ReplicaCount : Option Nat := none
  replicationCheckedAt : Option Time := none
  replicationObservationCount : Nat := 0
  replicationErrorCode : Option ProcessingErrorCode := none
  replicationLastError : Option String := none
  lastRepairAt : Option Time := none
  payloadPurgedAt : Option Time := none
  createdAt : Time
  updatedAt : Time

structure SupersededJob (κ : Type := Cid) where
  originalAuthorityId : String
  replacementAuthorityId : String
  record : ARKRecord
  metadata : Option (ARKMetadata κ)

/-- Everything the database holds for one ARK. Every statement about an ARK
that runs under its advisory lock reads and writes this much. -/
structure Cell (κ : Type := Cid) where
  record : Option ARKRecord := none
  metadata : Option (ARKMetadata κ) := none
  superseded : List (SupersededJob κ) := []

structure ARKInfo where
  url : String
  cid : String
  owner : String
  deriving DecidableEq

structure AuthorityInfo where
  walletAddress : String
  active : Bool
  deriving DecidableEq

structure OwnerReads where
  authority : Except Exc AuthorityInfo
  ark : Except Exc ARKInfo
  authorized : Except Exc Bool

end DarkMinter.Records
