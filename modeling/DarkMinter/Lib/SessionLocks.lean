import Mathlib.Logic.Function.Basic

namespace DarkMinter.Lib.SessionLocks

/-- Exclusive locks of database sessions: the session that has a key, and how often it took it. -/
abbrev Table (K B : Type*) := K → Option (B × Nat)

namespace Table

variable {K B : Type*} [DecidableEq B]

def empty : Table K B := fun _ => none

def endSession (l : Table K B) (b : B) : Table K B := fun k => (l k).filter fun e => e.1 ≠ b

variable [DecidableEq K]

def tryLock (l : Table K B) (k : K) (b : B) : Option (Table K B) :=
  match l k with
  | none => some (Function.update l k (some (b, 1)))
  | some (owner, n) => if owner = b then some (Function.update l k (some (b, n + 1))) else none

def unlock (l : Table K B) (k : K) (b : B) : Option (Table K B) :=
  match l k with
  | none => none
  | some (owner, n) =>
      if owner = b then some (Function.update l k (if n ≤ 1 then none else some (b, n - 1))) else none

end Table

open Table

variable {K B : Type*} [DecidableEq B] {l l' : Table K B} {k : K} {b c : B} {n : Nat}

theorem endSession_some : l.endSession b k = some (c, n) ↔ l k = some (c, n) ∧ c ≠ b := by
  simp [endSession, Option.filter_eq_some_iff]

variable [DecidableEq K]

theorem tryLock_cases (h : l.tryLock k b = some l') :
    (∃ n, l' k = some (b, n) ∧ (l k = none ∧ n = 1 ∨ ∃ m, l k = some (b, m))) ∧ ∀ j, j ≠ k → l' j = l j := by
  unfold tryLock at h
  split at h
  · rename_i hfree
    obtain rfl := Option.some.inj h
    exact ⟨⟨1, Function.update_self .., .inl ⟨hfree, rfl⟩⟩, fun j hj => Function.update_of_ne hj ..⟩
  · rename_i owner m hheld
    obtain ⟨rfl, h⟩ := Option.ite_none_right_eq_some.mp h
    obtain rfl := Option.some.inj h
    exact ⟨⟨m + 1, Function.update_self .., .inr ⟨m, hheld⟩⟩, fun j hj => Function.update_of_ne hj ..⟩

theorem unlock_once (h : l k = some (b, 1)) : l.unlock k b = some (Function.update l k none) := by
  simp [unlock, h]

end DarkMinter.Lib.SessionLocks
