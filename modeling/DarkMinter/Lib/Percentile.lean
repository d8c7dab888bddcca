import Mathlib.Algebra.Order.Floor.Semiring
import Mathlib.Data.List.GetD
import Mathlib.Data.List.Sort
import Mathlib.Tactic.Linarith
import Mathlib.Tactic.Positivity

namespace DarkMinter.Lib.Percentile

variable {K : Type*} [Field K] [LinearOrder K] [IsStrictOrderedRing K] [FloorSemiring K]

def interpolate (xs : List K) (pos : K) : K :=
  xs.getD ⌊pos⌋₊ 0 + (pos - ⌊pos⌋₊) * (xs.getD ⌈pos⌉₊ 0 - xs.getD ⌊pos⌋₊ 0)

/-- `percentile_cont`: the value at a fraction of the way through the ordered list. -/
def percentileCont (fraction : K) (xs : List K) : Option K :=
  if xs = [] then none
  else some (interpolate (xs.insertionSort (· ≤ ·)) (fraction * (xs.length - 1 : ℕ)))

variable {xs : List K} {pos pos' fraction fraction' p q bound : K}

omit [Field K] [IsStrictOrderedRing K] [FloorSemiring K] in
theorem getD_mono {i j : ℕ} {d : K} (hsorted : xs.Pairwise (· ≤ ·)) (hij : i ≤ j) (hj : j < xs.length) :
    xs.getD i d ≤ xs.getD j d := by
  rw [List.getD_eq_getElem _ _ (hij.trans_lt hj), List.getD_eq_getElem _ _ hj]
  rcases hij.eq_or_lt with rfl | hlt
  · exact le_rfl
  · exact List.pairwise_iff_getElem.mp hsorted i j (hij.trans_lt hj) hj hlt

theorem interpolate_between (hsorted : xs.Pairwise (· ≤ ·)) (h0 : 0 ≤ pos) (hlast : ⌈pos⌉₊ < xs.length) :
    xs.getD ⌊pos⌋₊ 0 ≤ interpolate xs pos ∧ interpolate xs pos ≤ xs.getD ⌈pos⌉₊ 0 := by
  have hstep : 0 ≤ xs.getD ⌈pos⌉₊ 0 - xs.getD ⌊pos⌋₊ 0 :=
    sub_nonneg.mpr (getD_mono hsorted (Nat.floor_le_ceil pos) hlast)
  have hlow : 0 ≤ pos - ⌊pos⌋₊ := sub_nonneg.mpr (Nat.floor_le h0)
  have hhigh : pos - ⌊pos⌋₊ ≤ 1 := by
    have hlt := Nat.lt_floor_add_one pos
    linarith
  have hfirst := mul_nonneg hlow hstep
  have hsecond := mul_le_mul_of_nonneg_right hhigh hstep
  rw [interpolate]
  constructor <;> linarith

theorem interpolate_mono (hsorted : xs.Pairwise (· ≤ ·)) (h0 : 0 ≤ pos) (hle : pos ≤ pos')
    (hlast : ⌈pos'⌉₊ < xs.length) : interpolate xs pos ≤ interpolate xs pos' := by
  have hceil := Nat.ceil_mono hle
  have hfloor := Nat.floor_mono hle
  rcases le_or_gt ⌈pos⌉₊ ⌊pos'⌋₊ with hapart | hsame
  · have hfirst := (interpolate_between hsorted h0 (hceil.trans_lt hlast)).2
    have hsecond := (interpolate_between hsorted (h0.trans hle) hlast).1
    have hmiddle : xs.getD ⌈pos⌉₊ 0 ≤ xs.getD ⌊pos'⌋₊ 0 :=
      getD_mono hsorted hapart ((Nat.floor_le_ceil pos').trans_lt hlast)
    exact hfirst.trans (hmiddle.trans hsecond)
  · have hup := Nat.ceil_le_floor_add_one pos
    have hup' := Nat.ceil_le_floor_add_one pos'
    have hfloor' : ⌊pos'⌋₊ = ⌊pos⌋₊ := by omega
    have hceil' : ⌈pos'⌉₊ = ⌈pos⌉₊ := by omega
    have hstep : 0 ≤ xs.getD ⌈pos⌉₊ 0 - xs.getD ⌊pos⌋₊ 0 :=
      sub_nonneg.mpr (getD_mono hsorted (Nat.floor_le_ceil pos) (hceil.trans_lt hlast))
    have hmul := mul_le_mul_of_nonneg_right (sub_le_sub_right hle (⌊pos⌋₊ : K)) hstep
    rw [interpolate, interpolate, hfloor', hceil']
    linarith

theorem position_lt (hne : xs ≠ []) (h1 : fraction ≤ 1) : ⌈fraction * (xs.length - 1 : ℕ)⌉₊ < xs.length := by
  have hpos := List.length_pos_iff.mpr hne
  have hle : fraction * ((xs.length - 1 : ℕ) : K) ≤ (xs.length - 1 : ℕ) := mul_le_of_le_one_left (Nat.cast_nonneg _) h1
  have hceil := Nat.ceil_le.mpr hle
  omega

theorem percentileCont_mono (h0 : 0 ≤ fraction) (hle : fraction ≤ fraction') (h1 : fraction' ≤ 1)
    (hp : percentileCont fraction xs = some p) (hq : percentileCont fraction' xs = some q) : p ≤ q := by
  rw [percentileCont] at hp hq
  split at hp
  · cases hp
  · rename_i hne
    rw [if_neg hne] at hq
    obtain rfl := Option.some.inj hp
    obtain rfl := Option.some.inj hq
    refine interpolate_mono (xs.pairwise_insertionSort _) (by positivity) ?_ ?_
    · exact mul_le_mul_of_nonneg_right hle (Nat.cast_nonneg _)
    · rw [List.length_insertionSort]
      exact position_lt hne h1

theorem percentileCont_le (h0 : 0 ≤ fraction) (h1 : fraction ≤ 1) (hbound : ∀ x ∈ xs, x ≤ bound)
    (hp : percentileCont fraction xs = some p) : p ≤ bound := by
  rw [percentileCont] at hp
  split at hp
  · cases hp
  · rename_i hne
    obtain rfl := Option.some.inj hp
    have hlast : ⌈fraction * (xs.length - 1 : ℕ)⌉₊ < (xs.insertionSort (· ≤ ·)).length := by
      rw [List.length_insertionSort]
      exact position_lt hne h1
    refine (interpolate_between (xs.pairwise_insertionSort _) (by positivity) hlast).2.trans ?_
    rw [List.getD_eq_getElem _ _ hlast]
    exact hbound _ ((List.mem_insertionSort _).mp (List.getElem_mem hlast))

omit [IsStrictOrderedRing K] in
theorem percentileCont_some (fraction : K) (hne : xs ≠ []) : ∃ p, percentileCont fraction xs = some p := by
  rw [percentileCont, if_neg hne]
  exact ⟨_, rfl⟩

end DarkMinter.Lib.Percentile
