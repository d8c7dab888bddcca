import Mathlib.Data.List.Basic

namespace DarkMinter.Lib.Turns

variable {P : Type*} {l : List P} {p : P}

/-- Between two entries of one author there is none of another. -/
def InTurns (l : List P) : Prop :=
  ∀ before mid after p, l = before ++ p :: mid ++ p :: after → ∀ q ∈ mid, q = p

theorem inTurns_nil : InTurns ([] : List P) := by
  intro before mid after p h
  simp at h

theorem inTurns_concat (h : InTurns l) (hlast : p ∈ l → l.getLast? = some p) : InTurns (l ++ [p]) := by
  intro before mid after x heq q hq
  rcases List.eq_nil_or_concat' after with rfl | ⟨after, y, rfl⟩
  · obtain ⟨hl, hp⟩ := List.append_inj' heq rfl
    obtain rfl : p = x := by simpa using hp
    have hlast : l.getLast? = some p := hlast (by simp [hl])
    rcases List.eq_nil_or_concat' mid with rfl | ⟨mid, r, rfl⟩
    · cases hq
    · obtain rfl : r = p := by
        rw [hl, ← List.cons_append, ← List.append_assoc, List.getLast?_concat] at hlast
        exact Option.some.inj hlast
      rcases List.mem_append.mp hq with hq | hq
      · exact h before mid [] r (by simp [hl]) q hq
      · exact List.mem_singleton.mp hq
  · have hl : l ++ [p] = (before ++ x :: mid ++ x :: after) ++ [y] := by simpa using heq
    exact h before mid after x (List.append_inj' hl rfl).1 q hq

theorem inTurns_append (h : InTurns l) (hlast : p ∈ l → l.getLast? = some p) (n : Nat) :
    InTurns (l ++ List.replicate n p) := by
  induction n with
  | zero => simpa using h
  | succ n ih =>
      rw [List.replicate_succ', ← List.append_assoc]
      refine inTurns_concat ih fun hmem => ?_
      cases n with
      | zero => simpa using hlast (by simpa using hmem)
      | succ n => rw [List.replicate_succ', ← List.append_assoc, List.getLast?_concat]

end DarkMinter.Lib.Turns
