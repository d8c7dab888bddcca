import Mathlib.Tactic.LinearCombination
import Mathlib.Tactic.Ring

namespace DarkMinter.Lib.Checksum

variable {R α : Type*} [CommRing R]

def weighted (w : ℕ → R) : List R → R
  | [] => 0
  | x :: xs => w 0 * x + weighted (fun i => w (i + 1)) xs

/-- One symbol of the set `P` is replaced by another one, or two different ones change places. -/
inductive Corrupts (P : α → Prop) (xs : List α) : List α → Prop
  | replaced {i : ℕ} {x y : α} (hx : xs[i]? = some x) (hPx : P x) (hPy : P y) (hne : x ≠ y) :
      Corrupts P xs (xs.set i y)
  | swapped {i j : ℕ} {x y : α} (hx : xs[i]? = some x) (hy : xs[j]? = some y) (hPx : P x) (hPy : P y)
      (hne : x ≠ y) : Corrupts P xs ((xs.set i y).set j x)

theorem weighted_congr {w w' : ℕ → R} {xs : List R} (h : ∀ i < xs.length, w i = w' i) :
    weighted w xs = weighted w' xs := by
  induction xs generalizing w w' with
  | nil => rfl
  | cons x xs ih =>
      have hrest : weighted (fun i => w (i + 1)) xs = weighted (fun i => w' (i + 1)) xs :=
        ih fun i hi => h (i + 1) (Nat.succ_lt_succ hi)
      rw [weighted, weighted, h 0 (Nat.succ_pos _), hrest]

theorem weighted_append (w : ℕ → R) (xs ys : List R) :
    weighted w (xs ++ ys) = weighted w xs + weighted (fun i => w (i + xs.length)) ys := by
  induction xs generalizing w with
  | nil => simp [weighted]
  | cons x xs ih =>
      simp only [List.cons_append, weighted, ih, List.length_cons, add_assoc]

theorem weighted_set {w : ℕ → R} {xs : List R} {i : ℕ} {x : R} (h : xs[i]? = some x) (y : R) :
    weighted w (xs.set i y) = weighted w xs + w i * (y - x) := by
  induction xs generalizing w i with
  | nil => cases h
  | cons z zs ih =>
      cases i with
      | zero =>
          obtain rfl : z = x := Option.some.inj h
          simp only [List.set_cons_zero, weighted]
          ring
      | succ i =>
          simp only [List.set_cons_succ, weighted, ih (w := fun i => w (i + 1)) (i := i) h]
          ring

theorem weighted_swap {w : ℕ → R} {xs : List R} {i j : ℕ} {x y : R} (hx : xs[i]? = some x) (hy : xs[j]? = some y)
    (hij : i ≠ j) : weighted w ((xs.set i y).set j x) = weighted w xs + (w i - w j) * (y - x) := by
  have hkept : (xs.set i y)[j]? = some y := by
    rw [List.getElem?_set_ne hij, hy]
  rw [weighted_set hkept, weighted_set hx]
  ring

theorem Corrupts.length_eq {P : α → Prop} {xs ys : List α} (h : Corrupts P xs ys) : ys.length = xs.length := by
  cases h <;> simp

theorem Corrupts.kept {P : α → Prop} {xs ys : List α} {k : ℕ} {z : α} (h : Corrupts P xs ys) (hz : xs[k]? = some z)
    (hP : ¬P z) : ys[k]? = some z := by
  have hne : ∀ {i : ℕ} {x : α}, xs[i]? = some x → P x → i ≠ k := by
    rintro i x hx hPx rfl
    exact hP (Option.some.inj (hx.symm.trans hz) ▸ hPx)
  cases h with
  | replaced hx hPx => rw [List.getElem?_set_ne (hne hx hPx), hz]
  | swapped hx hy hPx hPy => rw [List.getElem?_set_ne (hne hy hPy), List.getElem?_set_ne (hne hx hPx), hz]

theorem Corrupts.forall_mem {P Q : α → Prop} {xs ys : List α} (h : Corrupts P xs ys) (hPQ : ∀ x, P x → Q x)
    (hxs : ∀ x ∈ xs, Q x) : ∀ y ∈ ys, Q y := by
  intro z hz
  cases h with
  | replaced _ _ hPy =>
      rcases List.mem_or_eq_of_mem_set hz with hz | rfl
      · exact hxs z hz
      · exact hPQ z hPy
  | swapped _ _ hPx hPy =>
      rcases List.mem_or_eq_of_mem_set hz with hz | rfl
      · rcases List.mem_or_eq_of_mem_set hz with hz | rfl
        · exact hxs z hz
        · exact hPQ z hPy
      · exact hPQ z hPx

/-- A sum whose weights are different and not zero detects one replaced symbol and two that changed
places, of symbols with different values. -/
theorem weighted_detects [NoZeroDivisors R] {w : ℕ → R} {val : α → R} {P : α → Prop} {xs ys : List α}
    (hval : ∀ x y, P x → P y → val x = val y → x = y) (hzero : ∀ i < xs.length, w i ≠ 0)
    (hweights : ∀ i < xs.length, ∀ j < xs.length, w i = w j → i = j) (h : Corrupts P xs ys) :
    weighted w (ys.map val) ≠ weighted w (xs.map val) := by
  have hlt : ∀ {i : ℕ} {x : α}, xs[i]? = some x → i < xs.length := fun hx => (List.getElem?_eq_some_iff.mp hx).1
  have hmap : ∀ {i : ℕ} {x : α}, xs[i]? = some x → (xs.map val)[i]? = some (val x) := by
    intro i x hx
    rw [List.getElem?_map, hx]
    rfl
  have hdiffer : ∀ {x y : α}, P x → P y → x ≠ y → val y - val x ≠ 0 :=
    fun hPx hPy hne hsub => hne (hval _ _ hPx hPy (sub_eq_zero.mp hsub).symm)
  cases h with
  | replaced hx hPx hPy hne =>
      rw [List.map_set, weighted_set (hmap hx), ne_eq, add_eq_left]
      exact mul_ne_zero (hzero _ (hlt hx)) (hdiffer hPx hPy hne)
  | @swapped i j x y hx hy hPx hPy hne =>
      have hij : i ≠ j := by
        rintro rfl
        exact hne (Option.some.inj (hx.symm.trans hy))
      rw [List.map_set, List.map_set, weighted_swap (hmap hx) (hmap hy) hij, ne_eq, add_eq_left]
      refine mul_ne_zero (fun hsub => hij ?_) (hdiffer hPx hPy hne)
      exact hweights i (hlt hx) j (hlt hy) (sub_eq_zero.mp hsub)

end DarkMinter.Lib.Checksum
