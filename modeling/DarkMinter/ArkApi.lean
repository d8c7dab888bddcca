import DarkMinter.Authority
import DarkMinter.Noid
import DarkMinter.Repository
import DarkMinter.Lib.Transaction

namespace DarkMinter.ArkApi

open Text Processing Records Repository Authority Lib.Transaction

/-- The database calls of one PUT or DELETE that can fail. -/
inductive Statement
  | getByArk
  | insertImport
  | getImported
  | getPrevious
  | insertSuperseded
  | deletePrevious
  | updateOwner
  | upsertMetadata
  | changeState
  | commit
  | refresh
  deriving DecidableEq

structure Reservation where
  authorityId : String
  clientItemId : Option String
  at_ : Time
  deriving DecidableEq

def Reservation.record (row : Reservation) : ARKRecord :=
  createReserved row.authorityId row.clientItemId row.at_

structure UpdateARKMetadataRequest where
  authorityId : String
  target : String
  minimalMetadata : List (String × Json)
  originalMetadata : String
  metadataSchema : String
  metadataMediaType : String

structure PutEnv where
  now : Time
  checkdigit : Bool
  fails : Statement → Option Exc
  arkExists : Except Exc Bool
  importArk : Except Exc ARKInfo
  importAuthority : Except Exc AuthorityInfo
  raced : Option Reservation
  owner : OwnerReads
  level1Metadata : List (String × Json) → Except String Json

structure DeleteEnv where
  now : Time
  checkdigit : Bool
  fails : Statement → Option Exc
  owner : OwnerReads
  ownerAgain : OwnerReads

structure ARKResponse where
  ark : String
  state : ARKState
  target : Option String
  metadataCid : Option String
  metadataSchema : String
  minimalMetadata : Json
  level1Cid : Option Cid
  level2Cid : Option Cid
  clientItemId : Option String

abbrev Handler (α : Type) : Type := Tx Cell Raised α

def execute (fails : Statement → Option Exc) (statement : Statement) : Handler Unit :=
  match fails statement with
  | some e => .raise (.exc e)
  | none => pure ()

def applying (f : Cell → Except Exc Cell) : Handler Unit := do
  let c ← Tx.read
  let c' ← Tx.lift ((f c).mapError .exc)
  Tx.modify fun _ => c'

variable [PyLower]

def validateArkCheckdigit (enabled : Bool) (k : ArkId) : Except Raised Unit :=
  if enabled then
    (Noid.validateNameCheckdigit k.naan k.name).mapError fun text =>
      .http 400 ("Invalid ARK checkdigit: " ++ text)
  else .ok ()

def normalizeMediaType (s : String) : String := lower (strip (beforeFirst ';' s))

def normalizeWallet (value : String) : Option String :=
  let cleaned := strip value
  if cleaned = "" then none else some (lower cleaned)

def importOwned (info : ARKInfo) (authority : AuthorityInfo) : Bool :=
  match normalizeWallet info.owner, normalizeWallet authority.walletAddress with
  | some owner, some wallet => owner = wallet
  | _, _ => false

def importInfo (k : ArkId) (A : String) (E : PutEnv) : Except Raised ARKInfo :=
  match E.arkExists with
  | .error e => .error (.exc e)
  | .ok false => .error (.http 404 "ARK not found")
  | .ok true => match E.importArk with
    | .error _ => .error (.http 502 "Failed to read ARK from blockchain")
    | .ok info => match E.importAuthority with
      | .error _ => .error (.http 502 "Failed to verify importing authority")
      | .ok authority =>
          if authority.active then
            if importOwned info authority then .ok info
            else .error (.http 403 ("Authority " ++ A ++ " does not own on-chain ARK " ++ k.ark))
          else .error (.http 403 ("Authority " ++ A ++ " is not active"))

/-- The insert of the import in its savepoint. A row that a reservation
committed meanwhile makes it lose the race, and is used instead. -/
def insertImport (A : String) (info : ARKInfo) (E : PutEnv) : Handler Unit :=
  match E.raced with
  | some row => do
      Tx.elsewhere fun c => { c with record := some row.record }
      execute E.fails .getImported
  | none => match E.fails .insertImport with
    | none => Tx.modify fun c =>
        { c with record := some (createPublishedImport A (some info.url) E.now) }
    | some e =>
        if e.cls = .integrity then do
          execute E.fails .getImported
          Tx.rollback
          Tx.raise (.http 500 "Failed to import ARK from blockchain")
        else Tx.raise (.exc e)

/-- The record to work on, and the on-chain CID where an import read it. -/
def findOrImport (k : ArkId) (A : String) (E : PutEnv) : Handler (ARKRecord × Option String) := do
  execute E.fails .getByArk
  match (← Tx.read).record with
  | some r => return (r, none)
  | none =>
      let info ← Tx.lift (importInfo k A E)
      insertImport A info E
      match (← Tx.read).record with
      | some r => return (r, some info.cid)
      | none => Tx.raise (.http 500 "Failed to import ARK from blockchain")

/-- The rows after `_reconcile_local_owner` has handed the record `r` to `A`. -/
def superseded (A : String) (info : ARKInfo) (now : Time) (r : ARKRecord) (c : Cell) : Cell where
  record := some { r with
    authorityId := A
    state := .published
    target := some info.url
    tombstonedAt := none
    clientItemId := none
    processingStage := .none
    processingStatus := .done
    processingWaitReason := .none
    processingAttemptCount := 0
    processingErrorCode := none
    processingErrorDetail := none
    nextActionAt := none
    updatedAt := now }
  metadata := none
  superseded := c.superseded ++
    [{ originalAuthorityId := r.authorityId, replacementAuthorityId := A, record := r,
       metadata := c.metadata }]

def deletePrevious (fails : Statement → Option Exc) : Option ARKMetadata → Handler Unit
  | some _ => execute fails .deletePrevious
  | none => pure ()

def reconcileLocalOwner (fails : Statement → Option Exc) (now : Time) (owner : OwnerReads)
    (A : String) (r : ARKRecord) : Handler ARKInfo := do
  match ← Tx.lift (requireCurrentOwner owner false) with
  | none => Tx.raise (.http 409 "CHAIN_RECORD_MISSING")
  | some info =>
      execute fails .getPrevious
      execute fails .insertSuperseded
      deletePrevious fails (← Tx.read).metadata
      execute fails .updateOwner
      Tx.modify (superseded A info now r)
      return info

def reclaim (fails : Statement → Option Exc) (now : Time) (owner : OwnerReads) (A : String)
    (r : ARKRecord) (imported : Option String) : Handler (Option String) :=
  if r.authorityId ≠ A then do
    let info ← reconcileLocalOwner fails now owner A r
    return some info.cid
  else return imported

def refusePending (A : String) (r : ARKRecord) : Except Raised Unit :=
  if r.state = .tombstone then .error (.http 409 "ARK is tombstoned and cannot be updated")
  else if r.authorityId ≠ A then
    .error (.http 403 ("Authority " ++ A ++ " does not own this ARK"))
  else if r.state = .draft then .error (.http 409 "ARK already has pending creation")
  else if r.state = .update then .error (.http 409 "ARK already has pending update")
  else .ok ()

def level1Json (k : ArkId) (request : UpdateARKMetadataRequest) (E : PutEnv) : Except Raised Json :=
  let data := setField "ark" (.str k.ark) request.minimalMetadata
  let data := setField "original_metadata" (.obj [("schema", .str request.metadataSchema),
    ("media_type", .str (normalizeMediaType request.metadataMediaType)), ("cid", .null)]) data
  (E.level1Metadata data).mapError fun text =>
    .http 422 ("Level 1 metadata validation failed: " ++ text)

def changeState (k : ArkId) (target : String) (now : Time) (r : ARKRecord) :
    Cell → Except Exc Cell :=
  match r.state with
  | .reserved => updateToDraft k.ark target now
  | .published => updateToUpdate k.ark target now
  | state => fun _ =>
      .error (valueError ("ARK state " ++ String.singleton state.value ++ " cannot be updated"))

def putFailed : Raised → Raised
  | .exc e => if e.cls = .value then .http 409 e.text else .http 500 e.text
  | .http _ detail => .http 500 detail

def respond (k : ArkId) (json : Json) (known : Option String) (c : Cell) : Except Raised ARKResponse :=
  match c.record, c.metadata with
  | some r, some m => .ok
      { ark := k.ark, state := r.state, target := r.target,
        metadataCid := (m.level1Cid.map Cid.val).orElse fun _ => known,
        metadataSchema := m.originalSchema, minimalMetadata := json, level1Cid := m.level1Cid,
        level2Cid := m.originalCid, clientItemId := r.clientItemId }
  | _, _ => .error (.exc ⟨.database, "Could not refresh instance"⟩)

def storePayload (request : UpdateARKMetadataRequest) (E : PutEnv) (json : Json) : Handler Unit :=
  match E.fails .upsertMetadata with
  | some _ => Tx.raise (.http 500 "Database error storing metadata")
  | none => Tx.modify (createOrUpdateMetadata json request.originalMetadata request.metadataSchema
      (some (normalizeMediaType request.metadataMediaType)) E.now)

def stagePayload (k : ArkId) (request : UpdateARKMetadataRequest) (E : PutEnv) (r : ARKRecord)
    (json : Json) (known : Option String) : Handler ARKResponse := do
  storePayload request E json
  Tx.catching
    (do
      execute E.fails .changeState
      applying (changeState k request.target E.now r)
      execute E.fails .commit
      Tx.commit
      execute E.fails .refresh
      Tx.lift (respond k json known (← Tx.read)))
    (fun e => do
      Tx.rollback
      Tx.raise (putFailed e))

def updateArkMetadata (identity : Identity) (k : ArkId) (request : UpdateARKMetadataRequest)
    (E : PutEnv) : Handler ARKResponse := do
  let A ← Tx.lift (enforceAuthorityMatch identity request.authorityId)
  Tx.lift (validateArkCheckdigit E.checkdigit k)
  let (found, imported) ← findOrImport k A E
  let known ← reclaim E.fails E.now E.owner A found imported
  match (← Tx.read).record with
  | none => Tx.raise (.http 404 "ARK not found")
  | some r =>
      Tx.lift (refusePending A r)
      let json ← Tx.lift (level1Json k request E)
      stagePayload k request E r json known

def deleteFailed : Raised → Raised
  | .exc e => .http 500 e.text
  | .http _ detail => .http 500 detail

def deleteArk (identity : Identity) (k : ArkId) (E : DeleteEnv) : Handler Unit := do
  Tx.lift (validateArkCheckdigit E.checkdigit k)
  execute E.fails .getByArk
  match (← Tx.read).record with
  | none => Tx.raise (.http 404 "ARK not found")
  | some found =>
      let _ ← reclaim E.fails E.now E.owner identity.authorityId found none
      match (← Tx.read).record with
      | none => Tx.raise (.http 404 "ARK not found")
      | some r =>
          let _ ← Tx.lift (enforceAuthorityMatch identity r.authorityId)
          let _ ← Tx.lift (requireCurrentOwner E.ownerAgain (r.state ∈ [.reserved, .draft]))
          Tx.catching
            (do
              execute E.fails .changeState
              applying (updateToTombstone k.ark E.now)
              execute E.fails .commit
              Tx.commit)
            (fun e => do
              Tx.rollback
              Tx.raise (deleteFailed e))

/-- A whole PUT on the rows of its ARK, from the request to the closed session. -/
def put (identity : Identity) (k : ArkId) (request : UpdateARKMetadataRequest) (E : PutEnv)
    (c : Cell) : Except Raised ARKResponse × Cell :=
  (updateArkMetadata identity k request E).run c

def delete (identity : Identity) (k : ArkId) (E : DeleteEnv) (c : Cell) : Except Raised Unit × Cell :=
  (deleteArk identity k E).run c

end DarkMinter.ArkApi
