import Mathlib.Order.Basic

namespace DarkMinter.Lib.Succession

variable {O : Type*} {a b c : O} {hs hs' : List (O × O)}

/-- Handovers from one owner to another, each by the owner that the one before it left. -/
def Linked : O → List (O × O) → O → Prop
  | a, [], b => a = b
  | a, h :: hs, b => h.1 = a ∧ h.1 ≠ h.2 ∧ Linked h.2 hs b

theorem linked_nil : Linked a [] a := rfl

theorem linked_single (h : a ≠ b) : Linked a [(a, b)] b := ⟨rfl, h, rfl⟩

theorem Linked.append (h : Linked a hs b) (h' : Linked b hs' c) : Linked a (hs ++ hs') c := by
  induction hs generalizing a with
  | nil =>
      obtain rfl : a = b := h
      exact h'
  | cons e hs ih =>
      obtain ⟨hfrom, hto, hrest⟩ := h
      exact ⟨hfrom, hto, ih hrest⟩

end DarkMinter.Lib.Succession
