import DarkMinter.Replication

namespace DarkMinter.Publication

open Text Processing Records Repository Persistence

structure PipelineItem where
  ark : ArkId
  authorityId : String
  state : ARKState
  target : Option String
  cid : Cid
  deriving DecidableEq

structure ARKPublishOperation where
  ref : ArkId
  action : String
  url : Option String
  cid : Cid
  deriving DecidableEq

def PipelineItem.action (item : PipelineItem) : String :=
  if item.state = .draft then "create" else "update"

def PipelineItem.operation (item : PipelineItem) : ARKPublishOperation :=
  { ref := item.ark, action := item.action, url := item.target, cid := item.cid }

structure ARKPublishResult where
  ref : ArkId
  status : String
  error : Option String := none
  deriving DecidableEq

inductive IdentityVerdict
  | changed
  | inactive
  | revoked
  | unobjected
  deriving DecidableEq

/-- How a call under the lock ends: its return value, the rows with its
writes, and what it adds to the statistics. -/
structure Handled where
  value : Bool
  cell : Cell
  stats : Stats := {}

def Handled.declined (handled : Handled) : Handled := { handled with value := false }

def marked (catalogue : ErrorCatalogue) (k : ArkId) (message : String) (code : ProcessingErrorCode)
    (now : Time) (c : Cell) : Except Exc Handled :=
  (markProcessingFailed catalogue k.ark message code true now c).map
    fun c' => { value := true, cell := c', stats := { permanentFailures := 1 } }

def deferred (k : ArkId) (message : String) (code : ProcessingErrorCode) (now : Time) (c : Cell) :
    Except Exc Handled :=
  (deferProcessingRetry k.ark message code 60 now c).map
    fun c' => { value := true, cell := c', stats := { deferred := 1 } }

/-- What PostgreSQL raises for a statement after a failed one. -/
def transactionAborted : Exc :=
  ⟨.database, "current transaction is aborted, commands ignored until end of transaction block"⟩

/-- `marked` inside the `try` whose handler defers: a failed update aborts the
transaction, and the deferral fails with it. -/
def markedOrAborted (catalogue : ErrorCatalogue) (k : ArkId) (message : String)
    (code : ProcessingErrorCode) (now : Time) (c : Cell) : Except Exc Handled :=
  match marked catalogue k message code now c with
  | .ok h => .ok h
  | .error _ => .error transactionAborted

variable [PyLower]

def identityVerdict (reads : OwnerReads) : Except Exc IdentityVerdict := do
  let authority ← reads.authority
  let current ← match reads.ark with
    | .ok info => .ok (some info)
    | .error e => if e.cls = .arkNotFound then .ok none else .error e
  let changed := current.any fun info => lower info.owner ≠ lower authority.walletAddress
  if changed then return .changed
  if !authority.active then return .inactive
  if !(← reads.authorized) then return .revoked
  return .unobjected

def reconcileFailedIdentity (catalogue : ErrorCatalogue) (k : ArkId) (reads : OwnerReads)
    (now : Time) (c : Cell) : Except Exc Handled :=
  match c.record with
  | none => .ok { value := false, cell := c }
  | some _ => match identityVerdict reads with
    | .ok .changed => markedOrAborted catalogue k "ownership changed; original job is obsolete"
        .chainStateConflict now c
    | .ok .inactive => markedOrAborted catalogue k
        "authority inactive; original job cannot publish" .chainStateConflict now c
    | .ok .revoked => markedOrAborted catalogue k
        "NAAN permission revoked; administrative authorization required" .authorizationFailed now c
    | .ok .unobjected => .ok { value := false, cell := c }
    | .error e =>
        if e.cls = .authorityNotFound then
          marked catalogue k "Original authority no longer exists" .authorityNotFound now c
        else deferred k "Ownership reconciliation unavailable; outcome remains unknown"
          .chainRpcUnavailable now c

def recordFailure (catalogue : ErrorCatalogue) (k : ArkId) (reads : OwnerReads) (e : Exc)
    (now : Time) (c : Cell) : Except Exc Handled := do
  let identity ← reconcileFailedIdentity catalogue k reads now c
  if identity.value then return identity
  let message := "blockchain publish failed: " ++ e.text
  if e.cls = .authorityNotFound then
    marked catalogue k message .authorityNotFound now identity.cell
  else if e.cls = .authorization then
    marked catalogue k message .authorizationFailed now identity.cell
  else if isInfrastructureError e then
    deferred k message .chainRpcUnavailable now identity.cell
  else marked catalogue k message .chainReverted now identity.cell

def chainMatches (read : Except Exc ARKInfo) (target : Option String) (cid : Cid) : Except Exc Bool :=
  match read with
  | .ok current => .ok (some current.url = target && current.cid = cid.val)
  | .error e => if e.cls = .arkNotFound then .ok false else .error e

def isCurrent (item : PipelineItem) (c : Cell) : Bool :=
  match c.record, c.metadata with
  | some r, some m =>
      r.authorityId = item.authorityId && r.state = item.state && r.target = item.target &&
        r.processingStage = .chain && m.level1Cid = some item.cid
  | _, _ => false

def finalizePipelineConfirmation (item : PipelineItem) (now : Time) (c : Cell) : Except Exc Handled :=
  if isCurrent item c then
    (updateToPublished item.ark.ark [item.state] now c).map fun c' => { value := true, cell := c' }
  else .ok { value := false, cell := c }

structure ResultEnv where
  identity : OwnerReads
  chain : Except Exc ARKInfo
  failureIdentity : OwnerReads
  now : Time

/-- The `try` of `_handle_pipeline_result`: `none` where the chain does not
hold the item. -/
def reconcileOnChain (item : PipelineItem) (E : ResultEnv) (c : Cell) :
    Except Exc (Option Handled) := do
  if ← chainMatches E.chain item.target item.cid then
    return some (← finalizePipelineConfirmation item E.now c)
  return none

def ARKPublishResult.message (result : ARKPublishResult) : String :=
  match result.error with
  | some text => if text = "" then "blockchain pipeline result was " ++ result.status else text
  | none => "blockchain pipeline result was " ++ result.status

def handleUnconfirmed (catalogue : ErrorCatalogue) (item : PipelineItem) (result : ARKPublishResult)
    (E : ResultEnv) (c : Cell) : Except Exc Handled := do
  let identity ← reconcileFailedIdentity catalogue item.ark E.identity E.now c
  if identity.value then return identity.declined
  match reconcileOnChain item E identity.cell with
  | .ok (some handled) => return handled
  | .ok none =>
      if result.status = "reverted" then
        (recordFailure catalogue item.ark E.failureIdentity ⟨.runtime, result.message⟩ E.now
          identity.cell).map Handled.declined
      else
        (deferred item.ark ("blockchain pipeline " ++ result.status ++ ": " ++ result.message)
          .chainRpcUnavailable E.now identity.cell).map Handled.declined
  | .error e =>
      (deferred item.ark ("blockchain publication reconciliation failed: " ++ e.text)
        .chainRpcUnavailable E.now identity.cell).map Handled.declined

def settleResult (catalogue : ErrorCatalogue) (item : PipelineItem) (result : ARKPublishResult)
    (E : ResultEnv) (c : Cell) : Except Exc Handled :=
  if result.status = "confirmed" then finalizePipelineConfirmation item E.now c
  else handleUnconfirmed catalogue item result E c

def handlePipelineResult (catalogue : ErrorCatalogue) (item : PipelineItem)
    (result : ARKPublishResult) (E : ResultEnv) (c : Cell) : Except Exc Handled :=
  if isCurrent item c then settleResult catalogue item result E c
  else .ok { value := false, cell := c }

def markUnassigned (catalogue : ErrorCatalogue) (k : ArkId) (authorityId : String) (now : Time)
    (c : Cell) : Except Exc Cell :=
  match c.record with
  | some r =>
      if r.authorityId = authorityId then
        markProcessingFailed catalogue k.ark "Authority not assigned to this Minter"
          .authorityNotFound true now c
      else .ok c
  | none => .ok c

structure PublishEnv where
  readyAt : Time
  assigned : String → Bool
  write : Except Exc Unit
  identity : OwnerReads
  chain : Except Exc ARKInfo
  publishedAt : Time
  commit : Except Exc Unit := .ok ()
  failureIdentity : OwnerReads
  failedAt : Time

def publishAccepts (now : Time) (r : ARKRecord) : Bool :=
  r.state ∈ [.draft, .update] && r.processingStage = .chain && readyForProcessing r now

omit [PyLower] in
theorem publishAccepts_live {now : Time} {r : ARKRecord} (h : publishAccepts now r = true) :
    r.state ≠ .tombstone ∧ r.processingStage = .chain := by
  simp only [publishAccepts, Bool.and_eq_true, decide_eq_true_eq] at h
  exact ⟨fun htomb => by simp [htomb] at h, h.1.2⟩

/-- The chain write of `publish_single_ark`: `none` where it is taken for
done, since it returned or the chain shows it, and otherwise what the check
of the identity settled. -/
def settleWrite (catalogue : ErrorCatalogue) (k : ArkId) (E : PublishEnv) (target : Option String)
    (cid : Cid) (c : Cell) : Except Exc (Option Handled) :=
  match E.write with
  | .ok () => .ok none
  | .error e => do
      let identity ← reconcileFailedIdentity catalogue k E.identity E.failedAt c
      if identity.value then return some identity.declined
      if ← chainMatches E.chain target cid then return none
      throw e

def publishBody (catalogue : ErrorCatalogue) (k : ArkId) (E : PublishEnv) (r : ARKRecord) (c : Cell) :
    Except Exc Handled :=
  if E.assigned r.authorityId then
    match c.metadata with
    | none => .error (valueError "both metadata CIDs are required for chain publication")
    | some m => match m.level1Cid, m.originalCid with
      | some cid, some _ => do
          match ← settleWrite catalogue k E r.target cid c with
          | some handled => return handled
          | none =>
              let c' ← updateToPublished k.ark [r.state] E.publishedAt c
              E.commit
              return { value := true, cell := c' }
      | _, _ => .error (valueError "both metadata CIDs are required for chain publication")
  else
    (markProcessingFailed catalogue k.ark "Authority not assigned to this Minter" .authorityNotFound
      true E.failedAt c).map fun c' => { value := false, cell := c' }

def publishSingleArk (catalogue : ErrorCatalogue) (k : ArkId) (E : PublishEnv) (c : Cell) : Attempt :=
  match c.record with
  | none => { cell := c, result := .ok false }
  | some r =>
      if publishAccepts E.readyAt r then
        match publishBody catalogue k E r c with
        | .ok handled => { cell := handled.cell, stats := handled.stats, result := .ok handled.value }
        | .error e => match recordFailure catalogue k E.failureIdentity e E.failedAt c with
          | .ok failed => { cell := failed.cell, stats := failed.stats, result := .ok false }
          | .error e' => { cell := c, result := .error e' }
      else { cell := c, result := .ok false }

end DarkMinter.Publication
