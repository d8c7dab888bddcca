import Mathlib.Data.List.DropRight
import Mathlib.Data.List.Infix

namespace DarkMinter.Text

def asciiLower (s : String) : String := String.ofList (s.toList.map Char.toLower)

/-- `str.lower`, of which only this much is used: no character vanishes, and
ASCII text is lowered character by character. -/
class PyLower where
  lower : String → String
  lower_eq_empty : ∀ s, lower s = "" ↔ s = ""
  lower_ascii : ∀ s, (∀ c ∈ s.toList, c.toNat < 128) → lower s = asciiLower s

export PyLower (lower)

@[reducible] def asciiText : PyLower where
  lower := asciiLower
  lower_eq_empty s := by
    rw [← String.toList_inj, ← String.toList_inj]
    simp [asciiLower]
  lower_ascii _ _ := rfl

def isSpace (c : Char) : Bool :=
  let n := c.toNat
  (0x09 ≤ n && n ≤ 0x0d) || (0x1c ≤ n && n ≤ 0x20) || n == 0x85 || n == 0xa0 || n == 0x1680 ||
    (0x2000 ≤ n && n ≤ 0x200a) || n == 0x2028 || n == 0x2029 || n == 0x202f || n == 0x205f ||
    n == 0x3000

def strip (s : String) : String :=
  String.ofList ((s.toList.dropWhile isSpace).rdropWhile isSpace)

def beforeFirst (c : Char) (s : String) : String :=
  String.ofList (s.toList.takeWhile (· != c))

/-- `s.split(c, 1)[1]`, and nothing where there is no `c`. -/
def afterFirst (c : Char) (s : String) : String :=
  String.ofList ((s.toList.dropWhile (· != c)).drop 1)

def isIn (word text : String) : Bool := decide (word.toList <:+: text.toList)

def take (n : Nat) (s : String) : String := String.ofList (s.toList.take n)

end DarkMinter.Text
