import DarkMinter.Text
import Mathlib.Algebra.GroupWithZero.Nat

namespace DarkMinter.Noid

open Text

variable [PyLower]

def alphabet : List Char := "0123456789bcdfghjkmnpqrstvwxz".toList

def base : Nat := alphabet.length

/-- The divmod loop of `encode_counter`, least significant digit first. The
counter itself bounds the number of rounds. -/
def encodedReversed : Nat → Nat → List Char
  | 0, _ => []
  | fuel + 1, n =>
      alphabet.getD (n % base) '0' ::
        if n / base = 0 then [] else encodedReversed fuel (n / base)

def rjust (s : List Char) (width : Nat) (fill : Char) : List Char :=
  List.replicate (width - s.length) fill ++ s

def encodeCounter (counter : Nat) (minLength : Int) : Except String String :=
  if minLength < 1 then .error "min_length must be >= 1"
  else .ok (String.ofList (rjust (encodedReversed (counter + 1) counter).reverse minLength.toNat '0'))

def ordinal (c : Char) : Nat := if c ∈ alphabet then alphabet.idxOf c else 0

def checksum (payload : List Char) : Nat :=
  (payload.zipIdx.map fun p => ordinal p.1 * (p.2 + 1)).sum

def computeCheckdigit (payload : String) : String :=
  String.singleton (alphabet.getD (checksum (lower payload).toList % base) '0')

def validateNameCheckdigit (naan name : String) : Except String Unit :=
  match name.toList.getLast? with
  | none => .error "name is required"
  | some c =>
      let stem := String.ofList name.toList.dropLast
      let provided := lower (String.singleton c)
      let expected := computeCheckdigit (naan ++ "/" ++ stem)
      if provided ≠ expected then
        .error ("invalid checkdigit: got '" ++ provided ++ "', expected '" ++ expected ++ "'")
      else .ok ()

def mintName (naan : String) (counter : Nat) (shoulder : String) (minLength : Int)
    (checkdigit : Bool) : Except String String := do
  let suffix ← encodeCounter counter minLength
  let name := shoulder ++ suffix
  if checkdigit then return name ++ computeCheckdigit (naan ++ "/" ++ name)
  return name

end DarkMinter.Noid
