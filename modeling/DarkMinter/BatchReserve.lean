import DarkMinter.Authority
import DarkMinter.Lib.Dict
import DarkMinter.Lib.Savepoint
import DarkMinter.Noid
import DarkMinter.Repository

namespace DarkMinter.BatchReserve

open Text Processing Records Repository Authority Lib.Transaction Lib.Savepoint

inductive ErrorKind
  | integrity
  | operational
  | other
  deriving DecidableEq

structure DbError where
  kind : ErrorKind
  text : String
  orig : String
  deriving DecidableEq

inductive Failure
  | http (status : Nat) (detail : String)
  | exc (e : DbError)
  deriving DecidableEq

/-- Every statement of an aborted transaction gets this answer. -/
def inFailedTransaction : DbError :=
  ⟨.other, "(psycopg2.errors.InFailedSqlTransaction) current transaction is aborted",
    "current transaction is aborted, commands ignored until end of transaction block"⟩

def uniqueViolation : DbError :=
  ⟨.integrity, "(psycopg2.errors.UniqueViolation) duplicate key value violates unique constraint",
    "duplicate key value violates unique constraint"⟩

structure Row where
  key : ArkId
  record : ARKRecord
  deriving DecidableEq

/-- `ark_records`, in the order of the ids, and the counters of the namespaces. -/
structure Database where
  records : List Row
  counters : String → Option Nat := fun _ => none

def Database.keys (d : Database) : List ArkId := d.records.map (·.key)

def Row.isActiveItem (row : Row) (authorityId naan clientItemId : String) : Bool :=
  row.record.authorityId = authorityId ∧ row.key.naan = naan ∧
    row.record.clientItemId = some clientItemId ∧ row.record.state ≠ .tombstone

/-- The unique indexes `uq_naan_name` and `uq_ark_records_active_client_item`. -/
def Row.conflicts (row other : Row) : Bool :=
  row.key = other.key ∨ row.record.state ≠ .tombstone ∧
    (row.record.clientItemId.any fun cid => other.isActiveItem row.record.authorityId row.key.naan cid)

def Database.admits (d : Database) (row : Row) : Bool := d.records.all fun other => !row.conflicts other

def Database.insert (d : Database) (row : Row) : Database := { d with records := d.records ++ [row] }

def Database.setCounter (d : Database) (ns : String) (n : Nat) : Database :=
  { d with counters := Function.update d.counters ns (some n) }

@[simp] theorem Database.mem_keys_insert {d : Database} {row : Row} {k : ArkId} :
    k ∈ (d.insert row).keys ↔ k ∈ d.keys ∨ k = row.key := by
  simp [Database.keys, Database.insert]

def Database.counter (d : Database) (ns : String) : Nat := (d.counters ns).getD 0

inductive Statement
  | ensureCounter
  | updateCounter
  | selectCounter
  | flushCounter
  | savepoint
  | insert
  | release
  | rollbackTo
  | lookup
  deriving DecidableEq

/-- Which statements of an attempt fail, and what other sessions commit before
its first statement and before its lookup. -/
structure AttemptEnv where
  fails : Statement → Option DbError := fun _ => none
  others : List Row := []
  othersLater : List Row := []

structure BatchEnv where
  now : Time
  shoulder : String
  noidLength : Int
  checkdigit : Bool
  authorized : Except String Bool
  select : Option DbError := none
  attempt : Nat → Nat → AttemptEnv := fun _ _ => {}
  commit : Option DbError := none

structure ReserveBatchRequest where
  authorityId : String
  naan : String
  items : List String
  items_ne_nil : items ≠ []

structure ARKBatchItem where
  key : ArkId
  state : ARKState
  target : Option String
  clientItemId : Option String
  deriving DecidableEq

def ARKBatchItem.ark (x : ARKBatchItem) : String := x.key.ark

structure BatchError where
  clientItemId : String
  error : String
  index : Nat
  deriving DecidableEq

structure ARKBatchResponse where
  results : List ARKBatchItem
  errors : Option (List BatchError)

abbrev Handler (α : Type) : Type := Tx (Open Database) Failure α

def execute {α : Type} (fault : Option DbError) (f : Database → Except DbError (α × Database)) : Handler α :=
  statement (.exc inFailedTransaction) (fault.map .exc) fun d => (f d).mapError .exc

/-- A row that another session commits, unless it has to wait for this one. -/
def commitRow (row : Row) (s : State Database) : State Database :=
  if s.working.data.admits row then
    { committed := { s.committed with data := s.committed.data.insert row }
      working := { s.working with data := s.working.data.insert row } }
  else s

def commitRows (rows : List Row) (s : State Database) : State Database :=
  rows.foldl (fun s row => commitRow row s) s

/-- What other sessions commit before this one looks again. An aborted
transaction does not look. -/
def othersCommit (rows : List Row) : Handler Unit := fun s =>
  (.ok (), if s.working.aborted then s else commitRows rows s)

def ensureCounterRow (e : AttemptEnv) (ns : String) : Handler Unit :=
  execute (e.fails .ensureCounter) fun d => .ok ((), d.setCounter ns (d.counter ns))

/-- `allocate_next`. An operational error of the update leads to the fallback
without RETURNING. -/
def allocateNext (e : AttemptEnv) (ns : String) : Handler Nat := do
  ensureCounterRow e ns
  Tx.catching
    (execute (e.fails .updateCounter) fun d => .ok (d.counter ns, d.setCounter ns (d.counter ns + 1)))
    fun
      | .exc ⟨.operational, _, _⟩ => do
          let current ← execute (e.fails .selectCounter) fun d => .ok (d.counter ns, d)
          execute (e.fails .flushCounter) fun d => .ok ((), d.setCounter ns (current + 1))
          return current
      | err => Tx.raise err

def insertRow (row : Row) (d : Database) : Except DbError (Unit × Database) :=
  if d.admits row then .ok ((), d.insert row) else .error uniqueViolation

def getActiveByClientItemId (d : Database) (authorityId naan clientItemId : String) : Option Row :=
  d.records.find? (·.isActiveItem authorityId naan clientItemId)

def addActive (d : Database) (authorityId naan : String) (active : List (String × Row))
    (clientItemId : String) : List (String × Row) :=
  match getActiveByClientItemId d authorityId naan clientItemId with
  | some row => Lib.Dict.set active clientItemId row
  | none => active

/-- `get_active_by_client_item_ids`: for each identifier its first active row. -/
def getActiveByClientItemIds (d : Database) (authorityId naan : String) (ids : List String) :
    List (String × Row) :=
  ids.foldl (addActive d authorityId naan) []

theorem isActiveItem_iff {row : Row} {authorityId naan cid : String} :
    row.isActiveItem authorityId naan cid = true ↔ row.record.authorityId = authorityId ∧ row.key.naan = naan ∧
      row.record.clientItemId = some cid ∧ row.record.state ≠ .tombstone := by
  simp [Row.isActiveItem]

theorem getActive_spec {d : Database} {authorityId naan cid : String} {row : Row}
    (h : getActiveByClientItemId d authorityId naan cid = some row) :
    row ∈ d.records ∧ row.isActiveItem authorityId naan cid = true := by
  have hactive := List.find?_some h
  exact ⟨List.mem_of_find?_eq_some h, hactive⟩

theorem addActive_get {d : Database} {authorityId naan item cid : String} {active : List (String × Row)} {row : Row}
    (h : Lib.Dict.get (addActive d authorityId naan active item) cid = some row) :
    Lib.Dict.get active cid = some row ∨ getActiveByClientItemId d authorityId naan cid = some row := by
  unfold addActive at h
  split at h
  · rename_i found hfound
    rw [Lib.Dict.get_set] at h
    split at h
    · rename_i hsame
      exact .inr (hsame ▸ Option.some.inj h ▸ hfound)
    · exact .inl h
  · exact .inl h

theorem get_foldl_addActive {d : Database} {authorityId naan cid : String} {ids : List String}
    {active : List (String × Row)} {row : Row}
    (h : Lib.Dict.get (ids.foldl (addActive d authorityId naan) active) cid = some row) :
    Lib.Dict.get active cid = some row ∨ getActiveByClientItemId d authorityId naan cid = some row := by
  induction ids generalizing active with
  | nil => exact .inl h
  | cons item ids ih =>
      rcases ih h with hget | hfound
      · exact addActive_get hget
      · exact .inr hfound

theorem get_getActives {d : Database} {authorityId naan cid : String} {ids : List String} {row : Row}
    (h : Lib.Dict.get (getActiveByClientItemIds d authorityId naan ids) cid = some row) :
    getActiveByClientItemId d authorityId naan cid = some row := by
  rcases get_foldl_addActive h with hget | hfound
  · cases hget
  · exact hfound

def arkBatchResponseItem (row : Row) : ARKBatchItem :=
  ⟨row.key, row.record.state, row.record.target, row.record.clientItemId⟩

variable [PyLower]

def isUniqueViolation (e : DbError) : Bool :=
  isIn "unique" (lower e.orig) || isIn "duplicate" (lower e.orig)

structure Batch where
  env : BatchEnv
  authorityId : String
  naan : String

def Batch.namespaceKey (b : Batch) : String := b.naan ++ ":" ++ b.env.shoulder

def Batch.mintArkId (b : Batch) (counter : Nat) : Except DbError String :=
  match Noid.mintName b.naan counter b.env.shoulder b.env.noidLength b.env.checkdigit with
  | .ok name => .ok ("ark:" ++ b.naan ++ "/" ++ name)
  | .error text => .error ⟨.other, text, text⟩

def Batch.row (b : Batch) (clientItemId fullArk : String) : Row :=
  ⟨⟨b.naan, afterFirst '/' fullArk⟩, createReserved b.authorityId (some clientItemId) b.env.now⟩

def AttemptEnv.bracket (e : AttemptEnv) : Bracket Failure :=
  ⟨(e.fails .savepoint).map .exc, (e.fails .release).map .exc, (e.fails .rollbackTo).map .exc⟩

def reserve (b : Batch) (e : AttemptEnv) (clientItemId : String) : Handler Row := do
  othersCommit e.others
  let counter ← allocateNext e b.namespaceKey
  let fullArk ← Tx.lift ((b.mintArkId counter).mapError .exc)
  let row := b.row clientItemId fullArk
  nested (.exc inFailedTransaction) e.bracket (execute (e.fails .insert) (insertRow row))
  return row

/-- How an attempt ends: with a row to list, with a collision, or with an error. -/
inductive Attempt
  | saved (row : Row)
  | retry (e : DbError)
  | failed (e : DbError)

def handleError (b : Batch) (e : AttemptEnv) (clientItemId : String) (err : DbError) : Handler Attempt :=
  if err.kind = .integrity then do
    othersCommit e.othersLater
    let existing ← execute (e.fails .lookup) fun d =>
      .ok (getActiveByClientItemId d b.authorityId b.naan clientItemId, d)
    match existing with
    | some row => return .saved row
    | none => return if isUniqueViolation err then .retry err else .failed err
  else return .failed err

def attempt (b : Batch) (e : AttemptEnv) (clientItemId : String) : Handler Attempt :=
  Tx.catching (do return .saved (← reserve b e clientItemId)) fun
    | .exc err => handleError b e clientItemId err
    | failure => Tx.raise failure

def maxRetriesPerItem : Nat := 8

/-- The attempts from the number `k` on, at most `n` of them. -/
def attempts (b : Batch) (env : Nat → AttemptEnv) (clientItemId : String) :
    (n k : Nat) → Option DbError → Handler (Except (Option DbError) Row)
  | 0, _, last => pure (.error last)
  | n + 1, k, _ => do
      match ← attempt b (env k) clientItemId with
      | .saved row => return .ok row
      | .retry e => attempts b env clientItemId n (k + 1) (some e)
      | .failed e => return .error (some e)

structure Progress where
  active : List (String × Row)
  results : List ARKBatchItem := []
  errors : List BatchError := []

def reserveItem (b : Batch) (p : Progress) (idx : Nat) (clientItemId : String) : Handler Progress :=
  match Lib.Dict.get p.active clientItemId with
  | some row => return { p with results := p.results ++ [arkBatchResponseItem row] }
  | none => do
      match ← attempts b (b.env.attempt idx) clientItemId maxRetriesPerItem 0 none with
      | .ok row => return { p with
          active := Lib.Dict.set p.active clientItemId row
          results := p.results ++ [arkBatchResponseItem row] }
      | .error last => return { p with
          errors := p.errors ++ [⟨clientItemId, (last.map (·.text)).getD "Unknown error", idx⟩] }

def reserveItems (b : Batch) : List String → Nat → Progress → Handler Progress
  | [], _, p => return p
  | clientItemId :: items, idx, p => do
      reserveItems b items (idx + 1) (← reserveItem b p idx clientItemId)

omit [PyLower] in
def ensureAuthorizedForNaan (authorized : Except String Bool) (authorityId naan : String) :
    Except Failure Unit :=
  match authorized with
  | .error detail => .error (.http 503 detail)
  | .ok true => .ok ()
  | .ok false => .error (.http 403 ("Authority " ++ authorityId ++ " not authorized for NAAN " ++ naan))

def ofRaised : Raised → Failure
  | .http status detail => .http status detail
  | .exc e => .exc ⟨.other, e.text, e.text⟩

def admitBatch (identity : Identity) (request : ReserveBatchRequest) (env : BatchEnv) :
    Except Failure Batch := do
  let authorityId ← (enforceAuthorityMatch identity request.authorityId).mapError ofRaised
  let naan := strip request.naan
  ensureAuthorizedForNaan env.authorized authorityId naan
  return ⟨env, authorityId, naan⟩

def commitBatch (fault : Option DbError) : Handler Unit :=
  Tx.catching (commit (fault.map .exc)) fun
    | .exc e => do
        Tx.rollback
        Tx.raise (.http 500 ("Error committing batch: " ++ e.text))
    | err => Tx.raise err

def batchReserveArk (identity : Identity) (request : ReserveBatchRequest) (env : BatchEnv) :
    Handler ARKBatchResponse := do
  let b ← Tx.lift (admitBatch identity request env)
  let active ← execute env.select fun d =>
    .ok (getActiveByClientItemIds d b.authorityId b.naan request.items, d)
  let p ← reserveItems b request.items 0 { active := active }
  commitBatch env.commit
  return ⟨p.results, if p.errors = [] then none else some p.errors⟩

end DarkMinter.BatchReserve
