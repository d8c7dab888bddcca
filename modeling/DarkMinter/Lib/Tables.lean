import DarkMinter.Lib.Dict
import Mathlib.Algebra.BigOperators.Group.List.Lemmas
import Mathlib.Algebra.GroupWithZero.Nat

namespace DarkMinter.Lib.Tables

section Grouping

variable {α κ ι : Type*} [DecidableEq ι]

def add (d : List (ι × Nat)) (label : ι) (n : Nat) : List (ι × Nat) :=
  Dict.set d label ((Dict.get d label).getD 0 + n)

/-- The counts of groups that share a label, added up. -/
def tally (label : κ → ι) (gs : List (κ × Nat)) (d : List (ι × Nat)) : List (ι × Nat) :=
  gs.foldl (fun d g => add d (label g.1) g.2) d

def sumOf {β : Type*} (f : β → Nat) (d : List (ι × β)) : Nat := (d.map fun e => f e.2).sum

def total (d : List (ι × Nat)) : Nat := sumOf id d

theorem sumOf_set {β : Type*} (f : β → Nat) (d : List (ι × β)) (l : ι) (v : β) :
    sumOf f (Dict.set d l v) + ((Dict.get d l).map f).getD 0 = sumOf f d + f v := by
  induction d with
  | nil => simp [sumOf, Dict.set, Dict.get]
  | cons e d ih =>
      obtain ⟨j, u⟩ := e
      by_cases hj : j = l
      · simp only [sumOf, Dict.set, Dict.get, hj, if_true, List.map_cons, List.sum_cons, Option.map_some,
          Option.getD_some]
        omega
      · simp only [sumOf, Dict.set, Dict.get, hj, if_false, List.map_cons, List.sum_cons] at ih ⊢
        omega

variable {label : κ → ι} {d : List (ι × Nat)} {l : ι} {n : Nat}

theorem total_add : total (add d l n) = total d + n := by
  have h := sumOf_set id d l ((Dict.get d l).getD 0 + n)
  simp only [Option.map_id_fun, id_eq] at h
  unfold add total
  omega

theorem total_tally (gs : List (κ × Nat)) : total (tally label gs d) = total d + total gs := by
  induction gs generalizing d with
  | nil => rfl
  | cons g gs ih =>
      change total (tally label gs (add d (label g.1) g.2)) = _
      rw [ih, total_add, Nat.add_assoc]
      rfl

theorem getD_tally (gs : List (κ × Nat)) : (Dict.get (tally label gs d) l).getD 0 =
    (Dict.get d l).getD 0 + total (gs.filter fun g => label g.1 = l) := by
  induction gs generalizing d with
  | nil => rfl
  | cons g gs ih =>
      change (Dict.get (tally label gs (add d (label g.1) g.2)) l).getD 0 = _
      rw [ih, add, Dict.get_set, List.filter_cons]
      by_cases hl : label g.1 = l
      · simp [hl, total, sumOf, Nat.add_assoc]
      · simp [hl, total]

theorem isSome_tally (gs : List (κ × Nat)) : (Dict.get (tally label gs d) l).isSome =
    ((Dict.get d l).isSome || gs.any fun g => label g.1 = l) := by
  induction gs generalizing d with
  | nil => simp [tally]
  | cons g gs ih =>
      change (Dict.get (tally label gs (add d (label g.1) g.2)) l).isSome = _
      rw [ih, add, Dict.get_set, List.any_cons]
      by_cases hl : label g.1 = l <;> simp [hl]

variable [DecidableEq κ]

def groups (key : α → κ) (rows : List α) : List (κ × Nat) :=
  (rows.map key).dedup.map fun k => (k, (rows.map key).count k)

variable {key : α → κ} {rows : List α}

omit [DecidableEq ι] in
theorem total_groups (p : κ → Bool) :
    total ((groups key rows).filter fun g => p g.1) = rows.countP fun r => p (key r) := by
  have hgroups : ∀ keys : List κ,
      ((keys.map fun k => (k, (rows.map key).count k)).filter fun g => p g.1).map (fun g => g.2) =
        (keys.filter p).map fun k => (rows.map key).count k := by
    intro keys
    rw [List.filter_map, List.map_map]
    rfl
  rw [total, sumOf, groups]
  simp only [id_eq]
  rw [hgroups, List.sum_map_count_dedup_filter_eq_countP, List.countP_map]
  rfl

theorem get_tally (l : ι) : Dict.get (tally label (groups key rows) []) l =
    if (rows.countP fun r => label (key r) = l) = 0 then none
    else some (rows.countP fun r => label (key r) = l) := by
  have hcount : (Dict.get (tally label (groups key rows) []) l).getD 0 = rows.countP fun r => label (key r) = l := by
    rw [getD_tally, total_groups (fun k => decide (label k = l))]
    exact Nat.zero_add _
  have hsome : (Dict.get (tally label (groups key rows) []) l).isSome = true ↔
      (rows.countP fun r => label (key r) = l) ≠ 0 := by
    rw [isSome_tally, ← Nat.pos_iff_ne_zero, List.countP_pos_iff]
    simp [groups, Dict.get]
  split
  · rename_i hzero
    exact Option.not_isSome_iff_eq_none.mp fun h => hsome.mp h hzero
  · rename_i hne
    obtain ⟨v, hv⟩ := Option.isSome_iff_exists.mp (hsome.mpr hne)
    rw [hv, Option.getD_some] at hcount
    rw [hv, hcount]

theorem total_rows : total (tally label (groups key rows) []) = rows.length := by
  have hall : total ((groups key rows).filter fun _ => true) = rows.countP fun _ => true := total_groups fun _ => true
  rw [List.filter_true, List.countP_true] at hall
  rw [total_tally, hall]
  exact Nat.zero_add _

end Grouping

section Paging

variable {α : Type*} {rows : List α} {size n : Nat}

/-- The rows of a page, counted from 1, by offset and limit. -/
def page (size : Nat) (rows : List α) (n : Nat) : List α := (rows.drop ((n - 1) * size)).take size

def pages (size total : Nat) : Nat := (total + size - 1) / size

theorem page_length (rows : List α) : (page size rows n).length = min size (rows.length - (n - 1) * size) := by
  rw [page, List.length_take, List.length_drop]

theorem pages_cover (hsize : 0 < size) (total : Nat) : total ≤ pages size total * size := by
  have hlt := Nat.lt_div_mul_add (a := total + size - 1) hsize
  unfold pages
  omega

theorem pages_take (size : Nat) (rows : List α) (m : Nat) :
    ((List.range m).flatMap fun i => page size rows (i + 1)) = rows.take (m * size) := by
  induction m with
  | zero => simp
  | succ m ih =>
      rw [List.range_succ, List.flatMap_append, ih, List.flatMap_singleton, Nat.succ_mul, List.take_add]
      rfl

/-- The pages one after the other are the whole. -/
theorem pages_flatten (hsize : 0 < size) (rows : List α) :
    ((List.range (pages size rows.length)).flatMap fun i => page size rows (i + 1)) = rows := by
  rw [pages_take]
  exact List.take_of_length_le (pages_cover hsize rows.length)

end Paging

section Ordering

variable {α : Type*} {le : α → α → Bool}

theorem mergeSort_scan {rows scan : List α} (htrans : ∀ a b c, le a b = true → le b c = true → le a c = true)
    (htotal : ∀ a b, (le a b || le b a) = true)
    (hantisymm : ∀ a ∈ rows, ∀ b ∈ rows, le a b = true → le b a = true → a = b) (hscan : scan.Perm rows) :
    scan.mergeSort le = rows.mergeSort le := by
  have hperm : (scan.mergeSort le).Perm (rows.mergeSort le) :=
    (List.mergeSort_perm scan le).trans (hscan.trans (List.mergeSort_perm rows le).symm)
  refine hperm.eq_of_pairwise (fun a b ha hb => ?_) (List.pairwise_mergeSort htrans htotal scan)
    (List.pairwise_mergeSort htrans htotal rows)
  exact hantisymm a (hscan.mem_iff.mp (List.mem_mergeSort.mp ha)) b (List.mem_mergeSort.mp hb)

end Ordering

end DarkMinter.Lib.Tables
