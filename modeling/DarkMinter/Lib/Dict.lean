import Mathlib.Data.List.MinMax

namespace DarkMinter.Lib.Dict

variable {κ α β : Type*} [DecidableEq κ]

def set : List (κ × α) → κ → α → List (κ × α)
  | [], k, v => [(k, v)]
  | (j, u) :: d, k, v => if j = k then (k, v) :: d else (j, u) :: set d k v

def get : List (κ × α) → κ → Option α
  | [], _ => none
  | (j, u) :: d, k => if j = k then some u else get d k

def erase (d : List (κ × α)) (k : κ) : List (κ × α) := d.filter (fun e => e.1 ≠ k)

@[simp] theorem get_set (d : List (κ × α)) (j k : κ) (v : α) :
    get (set d k v) j = if k = j then some v else get d j := by
  induction d with
  | nil => rfl
  | cons e d ih =>
      obtain ⟨i, u⟩ := e
      by_cases hik : i = k
      · subst hik
        by_cases hij : i = j <;> simp [set, get, hij]
      · by_cases hij : i = j
        · subst hij
          simp [set, get, hik, Ne.symm hik]
        · simp [set, get, hik, hij, ih]

theorem get_map (f : α → β) (d : List (κ × α)) (k : κ) :
    get (d.map fun e => (e.1, f e.2)) k = (get d k).map f := by
  induction d with
  | nil => rfl
  | cons e d ih =>
      simp only [List.map_cons, get]
      split
      · rfl
      · exact ih

@[simp] theorem get_erase (d : List (κ × α)) (j k : κ) :
    get (erase d k) j = if k = j then none else get d j := by
  induction d with
  | nil => simp [erase, get]
  | cons e d ih =>
      obtain ⟨i, u⟩ := e
      change get (List.filter _ _) j = _ at ih ⊢
      by_cases hik : i = k
      · subst hik
        by_cases hij : i = j
        · simpa [hij] using ih
        · simpa [get, hij] using ih
      · by_cases hij : i = j
        · subst hij
          simp [get, hik, Ne.symm hik]
        · simpa [get, hik, hij] using ih

/-- Drop the entry of least rank, the first of them in the order of insertion. -/
def evict [LinearOrder β] (rank : α → β) (d : List (κ × α)) : List (κ × α) :=
  match d.argmin fun e => rank e.2 with
  | some e => erase d e.1
  | none => d

theorem get_evict [LinearOrder β] {rank : α → β} {d : List (κ × α)} {k : κ} {v : α}
    (h : get (evict rank d) k = some v) : get d k = some v := by
  unfold evict at h
  cases hmin : d.argmin fun e => rank e.2 with
  | none => simpa [hmin] using h
  | some e =>
      simp only [hmin, get_erase] at h
      split at h
      · cases h
      · exact h

end DarkMinter.Lib.Dict
