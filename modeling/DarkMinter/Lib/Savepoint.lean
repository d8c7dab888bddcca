import DarkMinter.Lib.Transaction

namespace DarkMinter.Lib.Savepoint

open Lib.Transaction

/-- The data of an open transaction. A statement that fails outside a savepoint
aborts it. -/
structure Open (σ : Type) where
  data : σ
  aborted : Bool := false

abbrev State (σ : Type) : Type := Session (Open σ)

variable {σ ε α : Type}

namespace State

def abort (s : State σ) : State σ := { s with working := { s.working with aborted := true } }

def put (s : State σ) (d : σ) : State σ := { s with working := { data := d } }

@[simp] theorem put_data (s : State σ) (d : σ) : (put s d).working.data = d := rfl

@[simp] theorem put_aborted (s : State σ) (d : σ) : (put s d).working.aborted = false := rfl

end State

/-- One statement. In an aborted transaction the server refuses it. -/
def statement (refused : ε) (fault : Option ε) (f : σ → Except ε (α × σ)) : Tx (Open σ) ε α := fun s =>
  if s.working.aborted then (.error refused, s)
  else match fault with
    | some e => (.error e, State.abort s)
    | none => match f s.working.data with
      | .ok (a, d) => (.ok a, State.put s d)
      | .error e => (.error e, State.abort s)

structure Bracket (ε : Type) where
  enter : Option ε
  release : Option ε
  rollbackTo : Option ε

def released (refused : ε) (B : Bracket ε) (body : Tx (Open σ) ε α) : Tx (Open σ) ε α :=
  body >>= fun a => statement refused B.release fun d => .ok (a, d)

/-- A nested transaction: an exception takes the data back to the savepoint,
and the transaction out of its aborted state. -/
def nested (refused : ε) (B : Bracket ε) (body : Tx (Open σ) ε α) : Tx (Open σ) ε α := fun s =>
  match statement refused B.enter (fun d => .ok ((), d)) s with
  | (.error e, t) => (.error e, t)
  | (.ok (), t) =>
      match released refused B body t with
      | (.ok a, u) => (.ok a, u)
      | (.error e, u) =>
          let back : State σ := { u with working := t.working }
          match B.rollbackTo with
          | none => (.error e, back)
          | some e' => (.error e', back.abort)

/-- COMMIT. It rolls an aborted transaction back, and raises nothing then. -/
def commit (fault : Option ε) : Tx (Open σ) ε Unit := fun s =>
  match fault with
  | some e => (.error e, s)
  | none => if s.working.aborted then Tx.rollback s else Tx.commit s

variable {refused : ε} {fault : Option ε} {f : σ → Except ε (α × σ)} {s : State σ}

theorem statement_aborted (h : s.working.aborted = true) : statement refused fault f s = (.error refused, s) := by
  simp [statement, h]

theorem statement_fault {e : ε} (h : s.working.aborted = false) :
    statement refused (some e) f s = (.error e, s.abort) := by
  simp [statement, h]

theorem statement_ok {a : α} {d : σ} (h : s.working.aborted = false) (hf : f s.working.data = .ok (a, d)) :
    statement refused none f s = (.ok a, s.put d) := by
  simp [statement, h, hf]

theorem statement_error {e : ε} (h : s.working.aborted = false) (hf : f s.working.data = .error e) :
    statement refused none f s = (.error e, s.abort) := by
  simp [statement, h, hf]

theorem commit_aborted (h : s.working.aborted = true) :
    (commit none : Tx (Open σ) ε Unit) s = (.ok (), { s with working := s.committed }) := by
  simp only [commit, h]
  rfl

theorem commit_healthy (h : s.working.aborted = false) :
    (commit none : Tx (Open σ) ε Unit) s = (.ok (), { s with committed := s.working }) := by
  simp only [commit, h]
  rfl

theorem commit_fault (e : ε) : (commit (some e) : Tx (Open σ) ε Unit) s = (.error e, s) := rfl

theorem nested_refused {B : Bracket ε} {body : Tx (Open σ) ε α} {e : ε} (h : s.working.aborted = false)
    (henter : B.enter = some e) : nested refused B body s = (.error e, s.abort) := by
  simp [nested, henter, statement_fault h]

theorem put_self (h : s.working.aborted = false) : s.put s.working.data = s := by
  obtain ⟨c, d, a⟩ := s
  simp_all [State.put]

theorem nested_ok {B : Bracket ε} {body : Tx (Open σ) ε α} {a : α} {t : State σ}
    (h : s.working.aborted = false) (henter : B.enter = none) (hbody : released refused B body s = (.ok a, t)) :
    nested refused B body s = (.ok a, t) := by
  have hs : statement refused none (fun d => .ok ((), d)) s = (.ok (), s) := by
    rw [statement_ok h rfl, put_self h]
  simp only [nested, henter, hs, hbody]

theorem nested_error {B : Bracket ε} {body : Tx (Open σ) ε α} {e : ε} {t : State σ}
    (h : s.working.aborted = false) (henter : B.enter = none)
    (hbody : released refused B body s = (.error e, t)) (hcommitted : t.committed = s.committed) :
    nested refused B body s = match B.rollbackTo with
      | none => (.error e, s)
      | some e' => (.error e', s.abort) := by
  have hs : statement refused none (fun d => .ok ((), d)) s = (.ok (), s) := by
    rw [statement_ok h rfl, put_self h]
  simp only [nested, henter, hs, hbody, hcommitted]

/-- The error of the one statement of a nested transaction, or of its release. -/
def innerFault (B : Bracket ε) (fault : Option ε) (f : σ → Except ε (α × σ)) (d : σ) : Option ε :=
  match fault with
  | some e => some e
  | none => match f d with
    | .error e => some e
    | .ok _ => B.release

theorem released_ok {B : Bracket ε} {a : α} {d : σ} (h : s.working.aborted = false)
    (hf : f s.working.data = .ok (a, d)) (hinner : innerFault B fault f s.working.data = none) :
    released refused B (statement refused fault f) s = (.ok a, s.put d) := by
  cases fault with
  | some e => cases hinner
  | none =>
      have hrelease : B.release = none := by simpa [innerFault, hf] using hinner
      change Tx.bind _ _ s = _
      simp only [Tx.bind, statement_ok h hf, hrelease]
      rw [statement_ok (State.put_aborted s d) rfl]
      rfl

theorem released_error (refused : ε) {B : Bracket ε} {e : ε} (h : s.working.aborted = false)
    (hinner : innerFault B fault f s.working.data = some e) :
    ∃ t, released refused B (statement refused fault f) s = (.error e, t) ∧ t.committed = s.committed := by
  change ∃ t, Tx.bind _ _ s = _ ∧ _
  cases fault with
  | some e' =>
      obtain rfl : e' = e := Option.some.inj hinner
      exact ⟨s.abort, by simp only [Tx.bind, statement_fault h], rfl⟩
  | none =>
      cases hf : f s.working.data with
      | error e' =>
          obtain rfl : e' = e := by simpa [innerFault, hf] using hinner
          exact ⟨s.abort, by simp only [Tx.bind, statement_error h hf], rfl⟩
      | ok r =>
          obtain ⟨a, d⟩ := r
          have hrelease : B.release = some e := by simpa [innerFault, hf] using hinner
          refine ⟨(s.put d).abort, ?_, rfl⟩
          simp only [Tx.bind, statement_ok h hf, hrelease]
          rw [statement_fault (State.put_aborted s d)]

end DarkMinter.Lib.Savepoint
