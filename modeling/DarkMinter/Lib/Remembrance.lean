import Mathlib.Data.List.Basic
import Mathlib.Logic.Function.Basic
import Mathlib.Order.Basic

namespace DarkMinter.Lib.Remembrance

/-- What a client remembers of a service's answers, each with its time, and all the answers that it
ever got, the last one first. -/
structure Memo (κ α : Type*) where
  recent : κ → Option (Int × α) := fun _ => none
  history : List (κ × (Int × α)) := []

variable {κ α : Type*} [DecidableEq κ]

def latest (history : List (κ × (Int × α))) (k : κ) : Option (Int × α) :=
  (history.find? fun e => e.1 = k).map (·.2)

namespace Memo

def note (m : Memo κ α) (e : κ × (Int × α)) : Memo κ α where
  recent := Function.update m.recent e.1 (some e.2)
  history := e :: m.history

omit [DecidableEq κ] in
/-- Forget what is as old as the window, by a clock that is read anew for each key. -/
def prune (window : Int) (now : κ → Int) (m : Memo κ α) : Memo κ α :=
  { m with recent := fun k => (m.recent k).filter fun v => now k - v.1 < window }

omit [DecidableEq κ] in
def remembered (window now : Int) (m : Memo κ α) (k : κ) : Option (Int × α) :=
  (m.recent k).filter fun v => now - v.1 < window

end Memo

open Memo

variable {m : Memo κ α} {e : κ × (Int × α)} {k : κ} {v : Int × α} {window t t' : Int} {now : κ → Int}

theorem latest_cons (e : κ × (Int × α)) (history : List (κ × (Int × α))) (k : κ) :
    latest (e :: history) k = if e.1 = k then some e.2 else latest history k := by
  unfold latest
  by_cases h : e.1 = k <;> simp [h]

theorem note_recent (m : Memo κ α) (e : κ × (Int × α)) (k : κ) :
    (m.note e).recent k = if e.1 = k then some e.2 else m.recent k := by
  by_cases h : e.1 = k
  · subst h
    simp [note]
  · simp [note, h, Function.update_of_ne (Ne.symm h)]

omit [DecidableEq κ] in
theorem prune_some : (m.prune window now).recent k = some v ↔ m.recent k = some v ∧ now k - v.1 < window := by
  simp [prune, Option.filter_eq_some_iff]

omit [DecidableEq κ] in
theorem remembered_some : m.remembered window t k = some v ↔ m.recent k = some v ∧ t - v.1 < window := by
  simp [remembered, Option.filter_eq_some_iff]

def Coherent (m : Memo κ α) : Prop := ∀ k v, m.recent k = some v → latest m.history k = some v

theorem coherent_note (h : Coherent m) (e : κ × (Int × α)) : Coherent (m.note e) := by
  intro k v hv
  rw [note_recent] at hv
  change latest (e :: m.history) k = some v
  rw [latest_cons]
  split at hv
  · rename_i hk
    rw [if_pos hk, hv]
  · rename_i hk
    rw [if_neg hk]
    exact h k v hv

theorem coherent_prune (h : Coherent m) : Coherent (m.prune window now) := fun k v hv => h k v (prune_some.mp hv).1

/-- An answer of the last window is still remembered, or a later one for the same key is. -/
structure Spaced (window t : Int) (m : Memo κ α) : Prop where
  past : ∀ e ∈ m.history, e.2.1 ≤ t
  kept : ∀ e ∈ m.history, window ≤ t - e.2.1 ∨ ∃ v, m.recent e.1 = some v ∧ e.2.1 ≤ v.1

omit [DecidableEq κ] in
theorem Spaced.mono (h : Spaced window t m) (ht : t ≤ t') : Spaced window t' m := by
  constructor
  · intro e he
    exact Int.le_trans (h.past e he) ht
  · intro e he
    rcases h.kept e he with hold | hkept
    · exact .inl (by omega)
    · exact .inr hkept

theorem Spaced.note (h : Spaced window t m) (ht : t ≤ e.2.1) : Spaced window e.2.1 (m.note e) := by
  constructor
  · intro d hd
    rcases List.mem_cons.mp hd with rfl | hd
    · exact Int.le_refl _
    · exact Int.le_trans (h.past d hd) ht
  · intro d hd
    rcases List.mem_cons.mp hd with rfl | hd
    · exact .inr ⟨d.2, by rw [note_recent, if_pos rfl], Int.le_refl _⟩
    · rcases (h.mono ht).kept d hd with hold | ⟨v, hv, hle⟩
      · exact .inl hold
      · right
        rw [note_recent]
        by_cases hk : e.1 = d.1
        · exact ⟨e.2, if_pos hk, Int.le_trans (h.past d hd) ht⟩
        · exact ⟨v, (if_neg hk).trans hv, hle⟩

omit [DecidableEq κ] in
theorem Spaced.prune (h : Spaced window t m) (hnow : ∀ k, now k ≤ t) : Spaced window t (m.prune window now) := by
  constructor
  · exact h.past
  · intro e he
    rcases h.kept e he with hold | ⟨v, hv, hle⟩
    · exact .inl hold
    · by_cases hnear : now e.1 - v.1 < window
      · exact .inr ⟨v, prune_some.mpr ⟨hv, hnear⟩, hle⟩
      · have := hnow e.1
        exact .inl (by omega)

omit [DecidableEq κ] in
theorem Spaced.asked (h : Spaced window t m) (hforgot : m.remembered window t k = none) :
    ∀ e ∈ m.history, e.1 = k → window ≤ t - e.2.1 := by
  intro e he hk
  rcases h.kept e he with hold | ⟨v, hv, hle⟩
  · exact hold
  · subst hk
    by_contra hnear
    have hsome : m.remembered window t e.1 = some v := remembered_some.mpr ⟨hv, by omega⟩
    rw [hforgot] at hsome
    cases hsome

end DarkMinter.Lib.Remembrance
