import Mathlib.Order.Basic

namespace DarkMinter.Encoding

abbrev Bytes := List UInt8

def decodeAscii (b : Bytes) : Option String :=
  if b.all (· < 128) then some (String.ofList (b.map fun c => Char.ofNat c.toNat)) else none

def encodeAscii (s : String) : Option Bytes :=
  if s.toList.all (·.toNat < 128) then some (s.toList.map fun c => UInt8.ofNat c.toNat) else none

def readNat (digits : List Char) : Nat :=
  digits.foldl (fun n c => 10 * n + (c.toNat - '0'.toNat)) 0

def canonicalNat (digits : List Char) : Option Nat :=
  if digits ≠ [] ∧ digits.all Char.isDigit ∧ (digits.head? = some '0' → digits = ['0'])
  then some (readNat digits) else none

/-- `int(s)` of a text `s` with `str(int(s)) == s`. -/
def canonicalInt (s : String) : Option Int :=
  match s.toList with
  | '-' :: digits => (canonicalNat digits).bind fun n => if n = 0 then none else some (-(n : Int))
  | digits => (canonicalNat digits).map Int.ofNat

/-- `str(uuid.UUID(s)) == s`. -/
def isCanonicalUuid (s : String) : Bool :=
  s.toList.length == 36 && s.toList.zipIdx.all fun (c, i) =>
    if i ∈ [8, 13, 18, 23] then c == '-' else c.isDigit || ('a' ≤ c && c ≤ 'f')

def sextet (c : Char) : Option Nat :=
  if 'A' ≤ c ∧ c ≤ 'Z' then some (c.toNat - 'A'.toNat)
  else if 'a' ≤ c ∧ c ≤ 'z' then some (c.toNat - 'a'.toNat + 26)
  else if c.isDigit then some (c.toNat - '0'.toNat + 52)
  else if c = '+' then some 62
  else if c = '/' then some 63
  else none

def joinSextets : List Nat → Bytes
  | a :: b :: c :: d :: rest =>
      UInt8.ofNat (a * 4 + b / 16) :: UInt8.ofNat (b % 16 * 16 + c / 4) ::
        UInt8.ofNat (c % 4 * 64 + d) :: joinSextets rest
  | [a, b, c] => [UInt8.ofNat (a * 4 + b / 16), UInt8.ofNat (b % 16 * 16 + c / 4)]
  | [a, b] => [UInt8.ofNat (a * 4 + b / 16)]
  | _ => []

def b64decode (s : String) : Option Bytes :=
  let data := s.toList.takeWhile (· ≠ '=')
  let pads := s.toList.dropWhile (· ≠ '=')
  if data.length % 4 ≠ 1 ∧ pads = List.replicate ((4 - data.length % 4) % 4) '=' then
    (data.mapM sextet).map joinSextets
  else none

end DarkMinter.Encoding
