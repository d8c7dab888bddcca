import Mathlib.Tactic.Ring
import Mathlib.Tactic.Linarith

namespace DarkMinter.Lib.Numerals

variable {α : Type*} {b : ℕ} {digit : α → ℕ}

/-- The value of a numeral in base `b`, the most significant digit first. -/
def value (b : ℕ) (digit : α → ℕ) (xs : List α) : ℕ := xs.foldl (fun n x => n * b + digit x) 0

theorem foldl_eq (xs : List α) (n : ℕ) :
    xs.foldl (fun n x => n * b + digit x) n = n * b ^ xs.length + value b digit xs := by
  induction xs generalizing n with
  | nil => simp [value]
  | cons x xs ih =>
      have hhead : value b digit (x :: xs) = digit x * b ^ xs.length + value b digit xs := by
        rw [value, List.foldl_cons, ih, zero_mul, zero_add]
      rw [List.foldl_cons, ih, hhead, List.length_cons, pow_succ]
      ring

@[simp] theorem value_nil : value b digit [] = 0 := rfl

@[simp] theorem value_cons (x : α) (xs : List α) :
    value b digit (x :: xs) = digit x * b ^ xs.length + value b digit xs := by
  rw [value, List.foldl_cons, foldl_eq, zero_mul, zero_add]

@[simp] theorem value_concat (xs : List α) (x : α) :
    value b digit (xs ++ [x]) = value b digit xs * b + digit x := by
  rw [value, List.foldl_append]
  rfl

theorem value_padded {z : α} (hz : digit z = 0) (k : ℕ) (xs : List α) :
    value b digit (List.replicate k z ++ xs) = value b digit xs := by
  induction k with
  | zero => rfl
  | succ k ih => rw [List.replicate_succ, List.cons_append, value_cons, ih, hz, zero_mul, zero_add]

theorem value_lt {xs : List α} (h : ∀ x ∈ xs, digit x < b) : value b digit xs < b ^ xs.length := by
  induction xs with
  | nil => simp
  | cons x xs ih =>
      obtain ⟨hx, hxs⟩ := List.forall_mem_cons.mp h
      have hhead : (digit x + 1) * b ^ xs.length ≤ b * b ^ xs.length := Nat.mul_le_mul_right _ hx
      have hrest := ih hxs
      rw [value_cons, List.length_cons, pow_succ']
      linarith

theorem lt_of_value_lt [LT α] {P : α → Prop} (hbound : ∀ x, P x → digit x < b)
    (hinj : ∀ x y, P x → P y → digit x = digit y → x = y) (hlt : ∀ x y, P x → P y → digit x < digit y → x < y)
    {xs ys : List α} (hxs : ∀ x ∈ xs, P x) (hys : ∀ y ∈ ys, P y) (hlen : xs.length = ys.length)
    (h : value b digit xs < value b digit ys) : xs < ys := by
  induction xs generalizing ys with
  | nil =>
      obtain rfl := List.length_eq_zero_iff.mp hlen.symm
      cases h
  | cons x xs ih =>
      cases ys with
      | nil => cases h
      | cons y ys =>
          obtain ⟨hx, hxs⟩ := List.forall_mem_cons.mp hxs
          obtain ⟨hy, hys⟩ := List.forall_mem_cons.mp hys
          have hlen' : xs.length = ys.length := Nat.succ.inj hlen
          rw [value_cons, value_cons, hlen'] at h
          rw [List.cons_lt_cons_iff]
          rcases lt_trichotomy (digit x) (digit y) with hxy | hxy | hxy
          · exact Or.inl (hlt x y hx hy hxy)
          · refine Or.inr ⟨hinj x y hx hy hxy, ih hxs hys hlen' ?_⟩
            rw [hxy] at h
            exact Nat.lt_of_add_lt_add_left h
          · have hhead : (digit y + 1) * b ^ ys.length ≤ digit x * b ^ ys.length := Nat.mul_le_mul_right _ hxy
            have hrest : value b digit ys < b ^ ys.length := value_lt fun z hz => hbound z (hys z hz)
            linarith

end DarkMinter.Lib.Numerals
