import DarkMinter.ArkApi
import DarkMinter.BatchReserve
import DarkMinter.Lib.Runs

namespace DarkMinter.Reservations

open Lib Text Processing Records Repository ArkApi BatchReserve

/-- A row, the counter value it was minted with if it was, and the client item it was reserved for. -/
structure Stored where
  row : Row
  mint : Option (String × Nat)
  origin : Option String

def Stored.touch (k : ArkId) (f : ARKRecord → ARKRecord) (st : Stored) : Stored :=
  if st.row.key = k then { st with row := { st.row with record := f st.row.record } } else st

/-- The tables as PostgreSQL holds them: what is committed, the counter rows written by a
transaction that is still open, with their new values, the rows inserted by open transactions, of
them the tentative ones under an open savepoint, and the ARKs tombstoned or handed over so far. -/
structure Tables (P : Type*) where
  committed : List Stored := []
  counters : String → Option Nat := fun _ => none
  uncommitted : String → Option (P × Nat) := fun _ => none
  pending : List (P × Stored) := []
  tentative : List (P × Stored) := []
  ended : List ArkId := []

def noResultFound : DbError := ⟨.other, "No row was found when one was required", ""⟩

namespace Tables

variable {P : Type*} [DecidableEq P] (t : Tables P) (p : P)

def own (rows : List (P × Stored)) : List Stored := (rows.filter fun e => e.1 = p).map (·.2)

def others (rows : List (P × Stored)) : List (P × Stored) := rows.filter fun e => e.1 ≠ p

/-- What a query of `p` sees. No query is made under a savepoint. -/
def visible : List Stored := t.committed ++ own p t.pending

def database : Database := { records := (t.visible p).map (·.row) }

def write (ns : String) (n : Nat) : Tables P :=
  { t with uncommitted := Function.update t.uncommitted ns (some (p, n)) }

/-- `INSERT … ON CONFLICT DO NOTHING`, or nothing yet where it has to wait for another transaction. -/
def ensureCounterRow (ns : String) : Option (Tables P) :=
  match t.counters ns, t.uncommitted ns with
  | none, none => some (t.write p ns 0)
  | none, some (q, _) => if q = p then some t else none
  | some _, _ => some t

/-- `UPDATE … RETURNING`, which waits while another transaction has the counter row. -/
def allocate (ns : String) : Option (Except DbError Nat × Tables P) :=
  match t.uncommitted ns with
  | some (q, n) => if q = p then some (.ok n, t.write p ns (n + 1)) else none
  | none =>
      match t.counters ns with
      | some n => some (.ok n, t.write p ns (n + 1))
      | none => some (.error noResultFound, t)

def clashes (st : Stored) (rows : List Stored) : Bool := rows.any fun other => st.row.conflicts other.row

/-- `INSERT` under a savepoint, which waits for another transaction with a conflicting row. -/
def insert (st : Stored) : Option (Except DbError (Tables P)) :=
  if clashes st (t.visible p) then some (.error uniqueViolation)
  else if clashes st ((t.pending ++ t.tentative).map (·.2)) then none
  else some (.ok { t with tentative := t.tentative ++ [(p, st)] })

def release : Tables P :=
  { t with
    pending := t.pending ++ t.tentative.filter fun e => e.1 = p
    tentative := others p t.tentative }

def rollbackTo : Tables P := { t with tentative := others p t.tentative }

/-- The value of a counter row once the transaction of `p` is committed. -/
def counterAfter (ns : String) : Option Nat :=
  match t.uncommitted ns with
  | some (q, n) => if q = p then some n else t.counters ns
  | none => t.counters ns

def rollback : Tables P :=
  { t with
    uncommitted := fun ns => (t.uncommitted ns).filter fun e => e.1 ≠ p
    pending := others p t.pending
    tentative := others p t.tentative }

def commit : Tables P :=
  { t.rollback p with
    committed := t.committed ++ own p t.pending ++ own p t.tentative
    counters := t.counterAfter p }

def modify (k : ArkId) (f : ARKRecord → ARKRecord) : Tables P :=
  { t with committed := t.committed.map (·.touch k f) }

/-- Another transaction tombstones an ARK or hands it over, if `p` holds of its record. -/
def endArk (k : ArkId) (p : ARKRecord → Bool) (f : ARKRecord → ARKRecord) : Option (Tables P) :=
  if t.committed.any fun st => st.row.key = k && p st.row.record then
    some { t.modify k f with ended := t.ended ++ [k] }
  else none

def refreshed (row : Row) : Row :=
  ((t.committed.find? fun st => st.row.key = row.key).map (·.row)).getD row

end Tables

inductive Job
  | single
  | batch (items : List String)
  deriving DecidableEq

structure Request where
  authorityId : String
  naan : String
  job : Job
  now : Time
  shoulder : String
  noidLength : Int
  checkdigit : Bool

def Request.asBatch (r : Request) : Batch :=
  ⟨{ now := r.now, shoulder := r.shoulder, noidLength := r.noidLength, checkdigit := r.checkdigit
     authorized := .ok true }, r.authorityId, r.naan⟩

def Request.namespaceKey (r : Request) : String := r.naan ++ ":" ++ r.shoulder

def Request.row (r : Request) (clientItemId : Option String) (fullArk : String) : Row :=
  ⟨⟨r.naan, afterFirst '/' fullArk⟩, createReserved r.authorityId clientItemId r.now⟩

/-- A row as a request read it, and how many ARKs had ended by then. -/
structure Entry where
  row : Row
  readAt : Nat

/-- The next statement of a handler, in the attempt number `k`. The loop over the items of a batch
is at `item` between two of them. -/
inductive Phase
  | prefetch
  | item
  | ensure (k : Nat)
  | update (k : Nat)
  | savepoint (k n : Nat) (fullArk : String)
  | insert (k n : Nat) (fullArk : String)
  | release (k : Nat) (st : Stored)
  | rollbackTo (k : Nat) (e : DbError)
  | lookup (k : Nat) (e : DbError)
  | collided (k : Nat)
  | undo (detail : String)
  | commit (reserved : Option Row)
  | refresh (row : Row)

structure Progress where
  items : List String := []
  idx : Nat := 0
  active : List (String × Entry) := []
  results : List Entry := []
  errors : List BatchError := []

structure Session where
  request : Request
  phase : Phase
  aborted : Bool := false
  progress : Progress := {}

inductive Reply
  | ark (row : Row)
  | batch (results : List Entry) (errors : List BatchError)
  | http (status : Nat) (detail : String)

structure Sys (P : Type*) where
  tables : Tables P := {}
  sessions : P → Option Session := fun _ => none
  replies : List (Request × Reply) := []

/-- How the database answers a statement. A commit whose answer is lost took effect. -/
inductive Answer
  | ok
  | error (e : DbError)
  | lost (e : DbError)

inductive Act (P : Type*)
  | arrive (p : P) (request : Request)
  | statement (p : P) (answer : Answer)
  | vanish (p : P)
  | importPublished (k : ArkId) (authorityId : String) (target : Option String) (now : Time)
  | tombstone (k : ArkId) (now : Time)
  | reown (k : ArkId) (authorityId : String) (info : ARKInfo) (now : Time)
  | advance (k : ArkId) (state : ARKState)

def maxRetries : Nat := 8

section

variable {P : Type*} [DecidableEq P]

namespace Sys

def put (s : Sys P) (p : P) (x : Session) : Sys P := { s with sessions := Function.update s.sessions p (some x) }

def setTables (s : Sys P) (t : Tables P) : Sys P := { s with tables := t }

def reply (s : Sys P) (p : P) (x : Session) (r : Reply) : Sys P :=
  { tables := s.tables.rollback p
    sessions := Function.update s.sessions p none
    replies := s.replies ++ [(x.request, r)] }

end Sys

/-- What PostgreSQL does with COMMIT: an aborted transaction is rolled back. -/
def endTransaction (t : Tables P) (p : P) (x : Session) : Tables P :=
  if x.aborted then t.rollback p else t.commit p

def Progress.listEntry (b : Progress) (e : Entry) : Progress :=
  { b with items := b.items.tail, idx := b.idx + 1, results := b.results ++ [e] }

def Progress.save (b : Progress) (clientItemId : String) (e : Entry) : Progress :=
  { b.listEntry e with active := Dict.set b.active clientItemId e }

def Progress.fail (b : Progress) (clientItemId text : String) : Progress :=
  { b with items := b.items.tail, idx := b.idx + 1, errors := b.errors ++ [⟨clientItemId, text, b.idx⟩] }

/-- The client item that is being reserved, if the request has any. -/
def Session.clientItemId (x : Session) : Option String :=
  match x.request.job with
  | .single => none
  | .batch _ => x.progress.items.head?

/-- The error of the statement, where an aborted transaction has only one. -/
def Session.fault (x : Session) : Answer → Option DbError
  | .ok => if x.aborted then some inFailedTransaction else none
  | .error e | .lost e => some (if x.aborted then inFailedTransaction else e)

def Session.abort (x : Session) : Session := { x with aborted := true }

def Session.saved (x : Session) (e : Entry) : Session :=
  match x.request.job with
  | .single => { x with phase := .commit (some e.row) }
  | .batch _ => { x with phase := .item, progress := x.progress.save (x.clientItemId.getD "") e }

def Session.itemFailed (x : Session) (e : DbError) : Session :=
  { x with phase := .item, progress := x.progress.fail (x.clientItemId.getD "") e.text }

/-- The fallback without RETURNING runs in the aborted transaction. -/
def fallback (e : DbError) : DbError := if e.kind = .operational then inFailedTransaction else e

variable [PyLower]

def Session.raise (x : Session) (k : Nat) (e : DbError) : Session :=
  match x.request.job with
  | .single =>
      if e.kind = .integrity then
        if isUniqueViolation e then { x with phase := .collided k }
        else { x with phase := .undo ("Database integrity error: " ++ e.orig) }
      else { x with phase := .undo e.text }
  | .batch _ => if e.kind = .integrity then { x with phase := .lookup k e } else x.itemFailed e

def Session.retry (x : Session) (k : Nat) (e : DbError) : Session :=
  if isUniqueViolation e ∧ k + 1 < maxRetries then { x with phase := .ensure (k + 1) } else x.itemFailed e

def Session.stored (x : Session) (n : Nat) (fullArk : String) : Stored :=
  ⟨x.request.row x.clientItemId fullArk, some (x.request.namespaceKey, n), x.clientItemId⟩

def prefetched (t : Tables P) (p : P) (r : Request) (items : List String) : List (String × Entry) :=
  (getActiveByClientItemIds (t.database p) r.authorityId r.naan items).map fun e => (e.1, ⟨e.2, t.ended.length⟩)

def Session.allocated (x : Session) (k : Nat) (result : Except DbError Nat) : Session :=
  match result with
  | .ok n =>
      match x.request.asBatch.mintArkId n with
      | .ok fullArk => { x with phase := .savepoint k n fullArk }
      | .error e => x.raise k e
  | .error e => x.raise k e

def insertAnswered (s : Sys P) (p : P) (x : Session) (k : Nat) (st : Stored) : Except DbError (Tables P) → Sys P
  | .ok t => (s.setTables t).put p { x with phase := .release k st }
  | .error e => s.put p { x with phase := .rollbackTo k e }

def internalServerError : Reply := .http 500 "Internal Server Error"

/-- The last commit: of a single reservation, which is then read again, or of a batch. -/
def committed (s : Sys P) (p : P) (x : Session) (reserved : Option Row) : Sys P :=
  let s := s.setTables (endTransaction s.tables p x)
  match reserved with
  | some row => s.put p { x with phase := .refresh row, aborted := false }
  | none => s.reply p x (.batch x.progress.results x.progress.errors)

def commitError (reserved : Option Row) (e : DbError) : Reply :=
  .http 500 (if reserved.isSome then e.text else "Error committing batch: " ++ e.text)

/-- The handler of `p` executes its next statement. It stays where it is while it has to wait. -/
def statement (s : Sys P) (p : P) (x : Session) (answer : Answer) : Option (Sys P) :=
  match x.phase with
  | .prefetch =>
      match x.fault answer, x.request.job with
      | none, .batch items => some (s.put p { x with
          phase := .item, progress := { items, active := prefetched s.tables p x.request items } })
      | _, _ => some (s.reply p x internalServerError)
  | .item =>
      match x.progress.items with
      | [] => some (s.put p { x with phase := .commit none })
      | clientItemId :: _ =>
          match Dict.get x.progress.active clientItemId with
          | some e => some (s.put p { x with progress := x.progress.listEntry e })
          | none => some (s.put p { x with phase := .ensure 0 })
  | .ensure k =>
      match x.fault answer with
      | some e => some (s.put p (x.abort.raise k e))
      | none => (s.tables.ensureCounterRow p x.request.namespaceKey).map fun t =>
          (s.setTables t).put p { x with phase := .update k }
  | .update k =>
      match x.fault answer with
      | some e => some (s.put p (x.abort.raise k (fallback e)))
      | none => (s.tables.allocate p x.request.namespaceKey).map fun r =>
          (s.setTables r.2).put p (x.allocated k r.1)
  | .savepoint k n fullArk =>
      match x.fault answer with
      | some e => some (s.put p (x.abort.raise k e))
      | none => some (s.put p { x with phase := .insert k n fullArk })
  | .insert k n fullArk =>
      match x.fault answer with
      | some e => some (s.put p { x with phase := .rollbackTo k e })
      | none => (s.tables.insert p (x.stored n fullArk)).map (insertAnswered s p x k (x.stored n fullArk))
  | .release k st =>
      match x.fault answer with
      | some e => some (s.put p { x with phase := .rollbackTo k e })
      | none => some ((s.setTables (s.tables.release p)).put p (x.saved ⟨st.row, s.tables.ended.length⟩))
  | .rollbackTo k e =>
      match x.fault answer with
      | some e' => some (s.put p (x.abort.raise k e'))
      | none => some ((s.setTables (s.tables.rollbackTo p)).put p (x.raise k e))
  | .lookup k e =>
      match x.fault answer with
      | some _ => some (s.reply p x internalServerError)
      | none =>
          match getActiveByClientItemId (s.tables.database p) x.request.authorityId x.request.naan
            (x.clientItemId.getD "") with
          | some row => some (s.put p (x.saved ⟨row, s.tables.ended.length⟩))
          | none => some (s.put p (x.retry k e))
  | .collided k =>
      match answer with
      | .ok =>
          let s := s.setTables (endTransaction s.tables p x)
          if k + 1 < maxRetries then some (s.put p { x with phase := .ensure (k + 1), aborted := false })
          else some (s.reply p x (.http 409 "Generated ARK already exists after retries. Please retry."))
      | .error _ => some (s.reply p x internalServerError)
      | .lost _ => some ((s.setTables (endTransaction s.tables p x)).reply p x internalServerError)
  | .undo detail => some (s.reply p x (.http 500 detail))
  | .commit reserved =>
      match answer with
      | .ok => some (committed s p x reserved)
      | .error e => some (s.reply p x (commitError reserved e))
      | .lost e => some ((s.setTables (endTransaction s.tables p x)).reply p x (commitError reserved e))
  | .refresh row =>
      match x.fault answer with
      | some e => some (s.reply p x (.http 500 e.text))
      | none => some (s.reply p x (.ark (s.tables.refreshed row)))

def openSession (request : Request) : Session :=
  ⟨request, if request.job = .single then .ensure 0 else .prefetch, false, {}⟩

/-- The row of `create_published_import`, once no other transaction is in its way. -/
def importRow (t : Tables P) (st : Stored) : Option (Tables P) :=
  if Tables.clashes st (t.committed ++ (t.pending ++ t.tentative).map (·.2)) then none
  else some { t with committed := t.committed ++ [st] }

def reowned (authorityId : String) (info : ARKInfo) (now : Time) (r : ARKRecord) : ARKRecord :=
  ((superseded authorityId info now r { record := some r }).record).getD r

def advanced (state : ARKState) (r : ARKRecord) : ARKRecord :=
  if r.state = .tombstone ∨ state = .tombstone then r else { r with state }

def step (s : Sys P) : Act P → Option (Sys P)
  | .arrive p request =>
      match s.sessions p with
      | none => some (s.put p (openSession request))
      | some _ => none
  | .statement p answer => (s.sessions p).bind fun x => statement s p x answer
  | .vanish p => some { s with tables := s.tables.rollback p, sessions := Function.update s.sessions p none }
  | .importPublished k authorityId target now =>
      (importRow s.tables ⟨⟨k, createPublishedImport authorityId target now⟩, none, none⟩).map s.setTables
  | .tombstone k now => (s.tables.endArk k (·.state ≠ .tombstone) (tombstonedRecord now)).map s.setTables
  | .reown k authorityId info now =>
      (s.tables.endArk k (·.authorityId ≠ authorityId) (reowned authorityId info now)).map s.setTables
  | .advance k state => some (s.setTables (s.tables.modify k (advanced state)))

variable {p : P} {x x' : Session} {s s' : Sys P} {t t' : Tables P} {answer : Answer}

/-- What the next statement of `p` leads to, by its phase and by its answer. -/
inductive Executes (s : Sys P) (p : P) (x : Session) (answer : Answer) : Sys P → Prop
  | prefetched {items : List String} (hphase : x.phase = .prefetch) (hjob : x.request.job = .batch items) :
      Executes s p x answer (s.put p { x with
        phase := .item, progress := { items, active := prefetched s.tables p x.request items } })
  | done (hphase : x.phase = .item) (hitems : x.progress.items = []) :
      Executes s p x answer (s.put p { x with phase := .commit none })
  | listed {cid : String} {rest : List String} {e : Entry} (hphase : x.phase = .item)
      (hitems : x.progress.items = cid :: rest) (he : Lib.Dict.get x.progress.active cid = some e) :
      Executes s p x answer (s.put p { x with progress := x.progress.listEntry e })
  | unlisted {cid : String} {rest : List String} (hphase : x.phase = .item) (hitems : x.progress.items = cid :: rest)
      (hnone : Lib.Dict.get x.progress.active cid = none) :
      Executes s p x answer (s.put p { x with phase := .ensure 0 })
  | ensureFailed {k : Nat} {e : DbError} (hphase : x.phase = .ensure k) (hfault : x.fault answer = some e) :
      Executes s p x answer (s.put p (x.abort.raise k e))
  | ensured {k : Nat} {t : Tables P} (hphase : x.phase = .ensure k)
      (ht : s.tables.ensureCounterRow p x.request.namespaceKey = some t) :
      Executes s p x answer ((s.setTables t).put p { x with phase := .update k })
  | updateFailed {k : Nat} {e : DbError} (hphase : x.phase = .update k) (hfault : x.fault answer = some e) :
      Executes s p x answer (s.put p (x.abort.raise k (fallback e)))
  | allocated {k : Nat} {r : Except DbError Nat} {t : Tables P} (hphase : x.phase = .update k)
      (ht : s.tables.allocate p x.request.namespaceKey = some (r, t)) :
      Executes s p x answer ((s.setTables t).put p (x.allocated k r))
  | savepointFailed {k n : Nat} {fullArk : String} {e : DbError} (hphase : x.phase = .savepoint k n fullArk)
      (hfault : x.fault answer = some e) : Executes s p x answer (s.put p (x.abort.raise k e))
  | nested {k n : Nat} {fullArk : String} (hphase : x.phase = .savepoint k n fullArk) :
      Executes s p x answer (s.put p { x with phase := .insert k n fullArk })
  | insertFailed {k n : Nat} {fullArk : String} {e : DbError} (hphase : x.phase = .insert k n fullArk) :
      Executes s p x answer (s.put p { x with phase := .rollbackTo k e })
  | inserted {k n : Nat} {fullArk : String} {t : Tables P} (hphase : x.phase = .insert k n fullArk)
      (ht : s.tables.insert p (x.stored n fullArk) = some (.ok t)) :
      Executes s p x answer ((s.setTables t).put p { x with phase := .release k (x.stored n fullArk) })
  | releaseFailed {k : Nat} {st : Stored} {e : DbError} (hphase : x.phase = .release k st) :
      Executes s p x answer (s.put p { x with phase := .rollbackTo k e })
  | released {k : Nat} {st : Stored} (hphase : x.phase = .release k st) : Executes s p x answer
      ((s.setTables (s.tables.release p)).put p (x.saved ⟨st.row, s.tables.ended.length⟩))
  | rollbackFailed {k : Nat} {e e' : DbError} (hphase : x.phase = .rollbackTo k e) (hfault : x.fault answer = some e') :
      Executes s p x answer (s.put p (x.abort.raise k e'))
  | rolledBackTo {k : Nat} {e : DbError} (hphase : x.phase = .rollbackTo k e) :
      Executes s p x answer ((s.setTables (s.tables.rollbackTo p)).put p (x.raise k e))
  | found {k : Nat} {e : DbError} {row : Row} (hphase : x.phase = .lookup k e)
      (hrow : getActiveByClientItemId (s.tables.database p) x.request.authorityId x.request.naan
        (x.clientItemId.getD "") = some row) :
      Executes s p x answer (s.put p (x.saved ⟨row, s.tables.ended.length⟩))
  | unfound {k : Nat} {e : DbError} (hphase : x.phase = .lookup k e) : Executes s p x answer (s.put p (x.retry k e))
  | again {k : Nat} (hphase : x.phase = .collided k) : Executes s p x answer
      ((s.setTables (endTransaction s.tables p x)).put p { x with phase := .ensure (k + 1), aborted := false })
  | reserved {row : Row} (hphase : x.phase = .commit (some row)) : Executes s p x answer
      ((s.setTables (endTransaction s.tables p x)).put p { x with phase := .refresh row, aborted := false })
  | answered (hphase : x.phase = .commit none) : Executes s p x answer
      ((s.setTables (endTransaction s.tables p x)).reply p x (.batch x.progress.results x.progress.errors))
  | quit {r : Reply} (hr : ∀ results errors, r ≠ .batch results errors) : Executes s p x answer (s.reply p x r)
  | ended {r : Reply} (hr : ∀ results errors, r ≠ .batch results errors) :
      Executes s p x answer ((s.setTables (endTransaction s.tables p x)).reply p x r)

omit [PyLower] in
theorem http_ne_batch {status : Nat} {detail : String} (results : List Entry) (errors : List BatchError) :
    Reply.http status detail ≠ .batch results errors := fun h => by cases h

theorem statement_executes (h : statement s p x answer = some s') : Executes s p x answer s' := by
  unfold statement at h
  cases hphase : x.phase with
  | prefetch =>
      simp only [hphase] at h
      split at h
      · obtain rfl := Option.some.inj h
        exact .prefetched hphase ‹_›
      · obtain rfl := Option.some.inj h
        exact .quit http_ne_batch
  | item =>
      simp only [hphase] at h
      split at h
      · obtain rfl := Option.some.inj h
        exact .done hphase ‹_›
      · rename_i hitems
        split at h
        · obtain rfl := Option.some.inj h
          exact hphase ▸ .listed hphase hitems ‹_›
        · obtain rfl := Option.some.inj h
          exact .unlisted hphase hitems ‹_›
  | ensure k =>
      simp only [hphase] at h
      split at h
      · obtain rfl := Option.some.inj h
        exact .ensureFailed hphase ‹_›
      · obtain ⟨t, ht, rfl⟩ := Option.map_eq_some_iff.mp h
        exact .ensured hphase ht
  | update k =>
      simp only [hphase] at h
      split at h
      · obtain rfl := Option.some.inj h
        exact .updateFailed hphase ‹_›
      · obtain ⟨⟨r, t⟩, ht, rfl⟩ := Option.map_eq_some_iff.mp h
        exact .allocated hphase ht
  | savepoint k n fullArk =>
      simp only [hphase] at h
      split at h
      · obtain rfl := Option.some.inj h
        exact .savepointFailed hphase ‹_›
      · obtain rfl := Option.some.inj h
        exact .nested hphase
  | insert k n fullArk =>
      simp only [hphase] at h
      split at h
      · obtain rfl := Option.some.inj h
        exact .insertFailed hphase
      · obtain ⟨r, hr, rfl⟩ := Option.map_eq_some_iff.mp h
        cases r with
        | ok t => exact .inserted hphase hr
        | error e => exact .insertFailed hphase
  | release k st =>
      simp only [hphase] at h
      split at h
      · obtain rfl := Option.some.inj h
        exact .releaseFailed hphase
      · obtain rfl := Option.some.inj h
        exact .released hphase
  | rollbackTo k e =>
      simp only [hphase] at h
      split at h
      · obtain rfl := Option.some.inj h
        exact .rollbackFailed hphase ‹_›
      · obtain rfl := Option.some.inj h
        exact .rolledBackTo hphase
  | lookup k e =>
      simp only [hphase] at h
      split at h
      · obtain rfl := Option.some.inj h
        exact .quit http_ne_batch
      · split at h
        · obtain rfl := Option.some.inj h
          exact .found hphase ‹_›
        · obtain rfl := Option.some.inj h
          exact .unfound hphase
  | collided k =>
      simp only [hphase] at h
      split at h
      · split at h
        · obtain rfl := Option.some.inj h
          exact .again hphase
        · obtain rfl := Option.some.inj h
          exact .ended http_ne_batch
      · obtain rfl := Option.some.inj h
        exact .quit http_ne_batch
      · obtain rfl := Option.some.inj h
        exact .ended http_ne_batch
  | undo detail =>
      simp only [hphase] at h
      obtain rfl := Option.some.inj h
      exact .quit http_ne_batch
  | commit reserved =>
      simp only [hphase] at h
      split at h
      · obtain rfl := Option.some.inj h
        cases reserved with
        | some row => exact .reserved hphase
        | none => exact .answered hphase
      · obtain rfl := Option.some.inj h
        exact .quit http_ne_batch
      · obtain rfl := Option.some.inj h
        exact .ended http_ne_batch
  | refresh row =>
      simp only [hphase] at h
      split at h
      · obtain rfl := Option.some.inj h
        exact .quit http_ne_batch
      · obtain rfl := Option.some.inj h
        exact .quit (fun _ _ h => by cases h)

omit [PyLower] in
theorem rollback_idem {u : Tables P} (huncommitted : u.uncommitted = (t.rollback p).uncommitted)
    (hpending : u.pending = (t.rollback p).pending) (htentative : u.tentative = (t.rollback p).tentative) :
    u.rollback p = u := by
  obtain ⟨committed, counters, uncommitted, pending, tentative, ended⟩ := u
  obtain rfl : uncommitted = _ := huncommitted
  obtain rfl : pending = _ := hpending
  obtain rfl : tentative = _ := htentative
  simp [Tables.rollback, Tables.others, Option.filter_filter]

omit [PyLower] in
theorem endTransaction_rollback : (endTransaction t p x).rollback p = endTransaction t p x := by
  unfold endTransaction
  split
  · exact rollback_idem rfl rfl rfl
  · exact rollback_idem rfl rfl rfl

inductive Effect (p : P) (x : Session) (t : Tables P) : Tables P → Prop
  | same : Effect p x t t
  | ensured {u : Tables P} (h : t.ensureCounterRow p x.request.namespaceKey = some u) : Effect p x t u
  | allocated {r : Except DbError Nat} {u : Tables P} (h : t.allocate p x.request.namespaceKey = some (r, u)) :
      Effect p x t u
  | inserted {k n : Nat} {fullArk : String} {u : Tables P} (hphase : x.phase = .insert k n fullArk)
      (h : t.insert p (x.stored n fullArk) = some (.ok u)) : Effect p x t u
  | released : Effect p x t (t.release p)
  | rolledBackTo : Effect p x t (t.rollbackTo p)
  | rolledBack : Effect p x t (t.rollback p)
  | committed : Effect p x t (t.commit p)

/-- A session that holds a counter value got it in its last statement, or held it before. -/
def Follows (p : P) (x : Session) (t : Tables P) (x' : Session) (t' : Tables P) : Prop :=
  x'.request = x.request ∧
    match x'.phase with
    | .savepoint _ n fullArk =>
        t.allocate p x.request.namespaceKey = some (.ok n, t') ∧ x.request.asBatch.mintArkId n = .ok fullArk
    | .insert k n fullArk => x.phase = .savepoint k n fullArk ∧ t' = t
    | _ => True

structure Moved (p : P) (x : Session) (s s' : Sys P) : Prop where
  effect : Effect p x s.tables s'.tables
  others : ∀ q, q ≠ p → s'.sessions q = s.sessions q
  next : ∀ x', s'.sessions p = some x' → Follows p x s.tables x' s'.tables

theorem moved_put (heffect : Effect p x s.tables t) (hnext : Follows p x s.tables x' t) :
    Moved p x s ((s.setTables t).put p x') := by
  refine ⟨heffect, fun q hne => Function.update_of_ne hne .., fun x'' h => ?_⟩
  obtain rfl : x' = x'' := by
    simpa [Sys.put, Sys.setTables] using h
  exact hnext

theorem moved_reply {r : Reply} (heffect : Effect p x s.tables (t.rollback p)) :
    Moved p x s ((s.setTables t).reply p x r) := by
  refine ⟨heffect, fun q hne => Function.update_of_ne hne .., fun x' h => ?_⟩
  simp [Sys.reply, Sys.setTables] at h

def Phase.holds : Phase → Bool
  | .savepoint .. | .insert .. => true
  | _ => false

theorem follows_of_not_holds (hrequest : x'.request = x.request) (hphase : x'.phase.holds = false) :
    Follows p x t x' t' := by
  refine ⟨hrequest, ?_⟩
  cases hx : x'.phase <;> simp_all [Phase.holds]

@[simp] theorem raise_request {k : Nat} {e : DbError} : (x.raise k e).request = x.request := by
  unfold Session.raise
  repeat' split
  all_goals rfl

@[simp] theorem raise_holds {k : Nat} {e : DbError} : (x.raise k e).phase.holds = false := by
  unfold Session.raise
  repeat' split
  all_goals rfl

@[simp] theorem retry_request {k : Nat} {e : DbError} : (x.retry k e).request = x.request := by
  unfold Session.retry
  split <;> rfl

@[simp] theorem retry_holds {k : Nat} {e : DbError} : (x.retry k e).phase.holds = false := by
  unfold Session.retry
  split <;> rfl

omit [PyLower] in
@[simp] theorem saved_request {e : Entry} : (x.saved e).request = x.request := by
  unfold Session.saved
  split <;> rfl

omit [PyLower] in
@[simp] theorem saved_holds {e : Entry} : (x.saved e).phase.holds = false := by
  unfold Session.saved
  split <;> rfl

theorem moved_raise {k : Nat} {e : DbError} (heffect : Effect p x s.tables t) :
    Moved p x s ((s.setTables t).put p (x.raise k e)) :=
  moved_put heffect (follows_of_not_holds raise_request raise_holds)

theorem moved_abort {k : Nat} {e : DbError} : Moved p x s (s.put p (x.abort.raise k e)) :=
  moved_put (t := s.tables) .same (follows_of_not_holds raise_request raise_holds)

theorem moved_quit {r : Reply} : Moved p x s (s.reply p x r) := moved_reply (t := s.tables) .rolledBack

omit [PyLower] in
theorem endTransaction_cases : endTransaction t p x = t.rollback p ∨ endTransaction t p x = t.commit p := by
  unfold endTransaction
  split
  · exact .inl rfl
  · exact .inr rfl

omit [PyLower] in
theorem effect_end : Effect p x t (endTransaction t p x) := by
  rcases endTransaction_cases (t := t) (p := p) (x := x) with h | h <;> rw [h]
  · exact .rolledBack
  · exact .committed

theorem moved_end_reply {r : Reply} : Moved p x s ((s.setTables (endTransaction s.tables p x)).reply p x r) :=
  moved_reply (by rw [endTransaction_rollback]; exact effect_end)

theorem moved_phase {phase : Phase} (hphase : phase.holds = false) : Moved p x s (s.put p { x with phase := phase }) :=
  moved_put (t := s.tables) .same (follows_of_not_holds rfl hphase)

theorem statement_moved (h : statement s p x answer = some s') : Moved p x s s' := by
  cases statement_executes h with
  | prefetched => exact moved_put (t := s.tables) .same (follows_of_not_holds rfl rfl)
  | listed hphase => exact moved_put (t := s.tables) .same (follows_of_not_holds rfl (by simp [hphase, Phase.holds]))
  | done | unlisted | insertFailed | releaseFailed => exact moved_phase rfl
  | ensureFailed | updateFailed | savepointFailed | rollbackFailed => exact moved_abort
  | ensured _ ht => exact moved_put (.ensured ht) (follows_of_not_holds rfl rfl)
  | @allocated k r t _ ht =>
      unfold Session.allocated
      split
      · split
        · exact moved_put (.allocated ht) ⟨rfl, ht, ‹_›⟩
        · exact moved_raise (.allocated ht)
      · exact moved_raise (.allocated ht)
  | nested hphase => exact moved_put (t := s.tables) .same ⟨rfl, hphase, rfl⟩
  | inserted hphase ht => exact moved_put (.inserted hphase ht) (follows_of_not_holds rfl rfl)
  | released => exact moved_put .released (follows_of_not_holds saved_request saved_holds)
  | rolledBackTo => exact moved_raise .rolledBackTo
  | found => exact moved_put (t := s.tables) .same (follows_of_not_holds saved_request saved_holds)
  | unfound => exact moved_put (t := s.tables) .same (follows_of_not_holds retry_request retry_holds)
  | again | reserved => exact moved_put effect_end (follows_of_not_holds rfl rfl)
  | answered | ended => exact moved_end_reply
  | quit => exact moved_quit

variable {u : Tables P} {q : P} {ns : String} {st : Stored} {k : ArkId} {f : ARKRecord → ARKRecord}

omit [PyLower] in
@[simp] theorem touch_key : (st.touch k f).row.key = st.row.key := by
  unfold Stored.touch
  split <;> rfl

omit [PyLower] in
@[simp] theorem touch_mint : (st.touch k f).mint = st.mint := by
  unfold Stored.touch
  split <;> rfl

omit [PyLower] in
@[simp] theorem touch_origin : (st.touch k f).origin = st.origin := by
  unfold Stored.touch
  split <;> rfl

omit [PyLower] in
theorem touch_of_ne (h : st.row.key ≠ k) : st.touch k f = st := if_neg h

def openRows (t : Tables P) : List (P × Stored) := t.pending ++ t.tentative

def allRows (t : Tables P) : List Stored := t.committed ++ (openRows t).map (·.2)

def ownRows (t : Tables P) (p : P) : List (P × Stored) := (openRows t).filter fun e => e.1 = p

omit [PyLower] in
theorem insert_ok (hu : t.insert p st = some (.ok u)) :
    u = { t with tentative := t.tentative ++ [(p, st)] } := by
  unfold Tables.insert at hu
  split at hu
  · cases hu
  · split at hu
    · cases hu
    · exact (Except.ok.inj (Option.some.inj hu)).symm

omit [PyLower] in
theorem release_rows : (openRows (t.release p)).Perm (openRows t) := by
  simp only [openRows, Tables.release, Tables.others, List.append_assoc]
  refine List.Perm.append_left _ ?_
  simpa using List.filter_append_perm (fun e : P × Stored => decide (e.1 = p)) t.tentative

omit [PyLower] in
theorem mem_openRows_rollback {e : P × Stored} : e ∈ openRows (t.rollback p) ↔ e ∈ openRows t ∧ e.1 ≠ p := by
  simp only [openRows, Tables.rollback, Tables.others, List.mem_append, List.mem_filter, decide_eq_true_eq]
  tauto

omit [PyLower] in
theorem commit_committed : (t.commit p).committed = t.committed ++ (ownRows t p).map (·.2) := by
  simp [Tables.commit, Tables.own, ownRows, openRows, List.filter_append]

/-- `p` wrote the counter row of a namespace, which no other transaction had. -/
def Written (p : P) (t u : Tables P) : Prop :=
  u = t ∨ ∃ ns v, u = t.write p ns v ∧ ∀ q w, t.uncommitted ns = some (q, w) → q = p

omit [PyLower] in
theorem ensure_written (hu : t.ensureCounterRow p ns = some u) : Written p t u := by
  unfold Tables.ensureCounterRow at hu
  split at hu
  · rename_i huncommitted
    refine .inr ⟨ns, 0, (Option.some.inj hu).symm, fun q w hw => ?_⟩
    simp [huncommitted] at hw
  · split at hu
    · exact .inl (Option.some.inj hu).symm
    · cases hu
  · exact .inl (Option.some.inj hu).symm

omit [PyLower] in
theorem allocate_written {r : Except DbError Nat} (hu : t.allocate p ns = some (r, u)) : Written p t u := by
  unfold Tables.allocate at hu
  split at hu
  · rename_i q v hv
    split at hu
    · rename_i hq
      refine .inr ⟨ns, v + 1, (Prod.mk.inj (Option.some.inj hu)).2.symm, fun q' w hw => ?_⟩
      obtain ⟨rfl, -⟩ := Prod.mk.inj (Option.some.inj (hv.symm.trans hw))
      exact hq
    · cases hu
  · rename_i huncommitted
    split at hu
    · rename_i v _
      refine .inr ⟨ns, v + 1, (Prod.mk.inj (Option.some.inj hu)).2.symm, fun q w hw => ?_⟩
      simp [huncommitted] at hw
    · exact .inl (Prod.mk.inj (Option.some.inj hu)).2.symm

omit [DecidableEq P] [PyLower] in
theorem written_rows (hu : Written p t u) : allRows u = allRows t := by
  rcases hu with rfl | ⟨ns, v, rfl, -⟩ <;> rfl

omit [PyLower] in
theorem effect_rows (heffect : Effect p x t u) (hst : st ∈ allRows u) :
    st ∈ allRows t ∨ ∃ k n fullArk, x.phase = .insert k n fullArk ∧ st = x.stored n fullArk := by
  cases heffect with
  | same => exact .inl hst
  | ensured hu => exact .inl (written_rows (ensure_written hu) ▸ hst)
  | allocated hu => exact .inl (written_rows (allocate_written hu) ▸ hst)
  | inserted hphase hu =>
      obtain rfl := insert_ok hu
      simp only [allRows, openRows, ← List.append_assoc, List.map_append, List.map_singleton, List.mem_append,
        List.mem_singleton] at hst ⊢
      rcases hst with hst | rfl
      · exact .inl hst
      · exact .inr ⟨_, _, _, hphase, rfl⟩
  | released =>
      refine .inl ?_
      have hperm : (allRows (t.release p)).Perm (allRows t) := (release_rows.map _).append_left _
      exact hperm.mem_iff.mp hst
  | rolledBackTo =>
      refine .inl (List.Sublist.subset ?_ hst)
      exact (List.Sublist.refl _).append (((List.Sublist.refl _).append List.filter_sublist).map _)
  | rolledBack =>
      refine .inl (List.Sublist.subset ?_ hst)
      exact (List.Sublist.refl _).append ((List.filter_sublist.append List.filter_sublist).map _)
  | committed =>
      refine .inl ?_
      rcases List.mem_append.mp hst with hst | hst
      · rw [commit_committed] at hst
        rcases List.mem_append.mp hst with hst | hst
        · exact List.mem_append_left _ hst
        · exact List.mem_append_right _ ((List.filter_sublist.map _).subset hst)
      · refine List.mem_append_right _ (List.Sublist.subset ?_ hst)
        exact (List.filter_sublist.append List.filter_sublist).map _

end

end DarkMinter.Reservations
