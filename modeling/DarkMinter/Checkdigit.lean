import DarkMinter.Minting
import DarkMinter.Lib.Checksum
import Mathlib.Algebra.Field.ZMod
import Mathlib.Tactic.NormNum.Prime

namespace DarkMinter.Checkdigit

open Text Noid Minting Lib.Checksum

instance base_prime : Fact (Nat.Prime 29) := ⟨by norm_num⟩

def written (naan name : String) : List Char := naan.toList ++ '/' :: name.toList

def IsAscii (s : String) : Prop := ∀ c ∈ s.toList, c.toNat < 128

instance (s : String) : Decidable (IsAscii s) := List.decidableBAll _ _

def symbol (c : Char) : ZMod 29 := (ordinal c : ℕ)

/-- The payload is summed with positions counted from one, and the check character, at the position
`n`, has to equal the sum. -/
def weight (n i : ℕ) : ZMod 29 := if i < n then ((i + 1 : ℕ) : ZMod 29) else -1

theorem ascii_written {naan name : String} :
    (∀ c ∈ written naan name, c.toNat < 128) ↔ IsAscii naan ∧ IsAscii name := by
  rw [written, List.forall_mem_append, List.forall_mem_cons]
  exact ⟨fun h => ⟨h.1, h.2.2⟩, fun h => ⟨h.1, by decide, h.2⟩⟩

theorem corrupted_splits {naan name : String} {ys : List Char} (h : Corrupts (· ∈ alphabet) (written naan name) ys) :
    ∃ naan' name', ys = written naan' name' := by
  have hslash : (written naan name)[naan.toList.length]? = some '/' := by
    simp [written]
  obtain ⟨hlt, hget⟩ := List.getElem?_eq_some_iff.mp (h.kept hslash (by decide))
  refine ⟨String.ofList (ys.take naan.toList.length), String.ofList (ys.drop (naan.toList.length + 1)), ?_⟩
  rw [written, String.toList_ofList, String.toList_ofList, ← hget, ← List.drop_eq_getElem_cons hlt,
    List.take_append_drop]

theorem isLowerAlnum_folds {c : Char} (h : isLowerAlnum c = true) : c.toNat < 128 ∧ c.toLower = c := by
  have hrange : (48 ≤ c.toNat ∧ c.toNat ≤ 57) ∨ (97 ≤ c.toNat ∧ c.toNat ≤ 122) := by
    simpa [isLowerAlnum, Char.le_def, UInt32.le_iff_toNat_le] using h
  refine ⟨by omega, ?_⟩
  refine dif_neg ?_
  rintro ⟨hge, hle⟩
  have hlow : 65 ≤ c.toNat := UInt32.le_iff_toNat_le.mp hge
  have hhigh : c.toNat ≤ 90 := UInt32.le_iff_toNat_le.mp hle
  omega

theorem admissible_folds {s v : String} (h : validateMinterShoulder s = .ok v) :
    ∀ c ∈ s.toList, c.toNat < 128 ∧ c.toLower = c := by
  unfold validateMinterShoulder at h
  split at h
  · rename_i x y hs
    split at h
    · rename_i hxy
      obtain ⟨hx, hy⟩ := Bool.and_eq_true_iff.mp hxy
      rw [hs, List.forall_mem_cons, List.forall_mem_cons, List.forall_mem_singleton]
      exact ⟨by decide, isLowerAlnum_folds hx, isLowerAlnum_folds hy⟩
    · cases h
  · cases h

theorem symbol_inj {c d : Char} : symbol c = symbol d ↔ ordinal c = ordinal d := by
  have hlt : ∀ c, ordinal c < 29 := by
    intro c
    rw [ordinal]
    split
    · rename_i hc
      exact List.idxOf_lt_length_of_mem hc
    · decide
  rw [symbol, symbol, ZMod.natCast_eq_natCast_iff', Nat.mod_eq_of_lt (hlt c), Nat.mod_eq_of_lt (hlt d)]

theorem letter_iff {c : Char} {n : ℕ} (hc : c ∈ alphabet) :
    c = alphabet.getD (n % base) '0' ↔ (n : ZMod 29) = symbol c := by
  have hdigit : ordinal (alphabet.getD (n % base) '0') = n % 29 := ordinal_getD (Nat.mod_lt n (by decide))
  have hlt : ordinal c < 29 := ordinal_lt hc
  rw [symbol, ZMod.natCast_eq_natCast_iff', Nat.mod_eq_of_lt hlt, ← hdigit]
  exact ⟨fun h => h ▸ rfl, fun h => ordinal_inj hc (getD_mem _) h.symm⟩

theorem checksum_eq (cs : List Char) :
    ((checksum cs : ℕ) : ZMod 29) = weighted (fun i => ((i + 1 : ℕ) : ZMod 29)) (cs.map symbol) := by
  have hfrom : ∀ k, ((((cs.zipIdx k).map fun p => ordinal p.1 * (p.2 + 1)).sum : ℕ) : ZMod 29) =
      weighted (fun i => ((i + k + 1 : ℕ) : ZMod 29)) (cs.map symbol) := by
    induction cs with
    | nil => exact fun _ => Nat.cast_zero
    | cons c cs ih =>
        intro k
        rw [List.zipIdx_cons, List.map_cons, List.sum_cons, Nat.cast_add, ih, List.map_cons, weighted]
        push_cast [symbol]
        ring_nf
  exact hfrom 0

theorem weight_ne_zero {n i : ℕ} (hn : n ≤ 27) : weight n i ≠ 0 := by
  rw [weight]
  split
  · rw [ne_eq, ZMod.natCast_eq_zero_iff]
    exact Nat.not_dvd_of_pos_of_lt (by omega) (by omega)
  · decide

theorem weight_inj {n i j : ℕ} (hn : n ≤ 27) (hi : i ≤ n) (hj : j ≤ n) (h : weight n i = weight n j) : i = j := by
  have hlast : (-1 : ZMod 29) = (28 : ℕ) := by decide
  have heq : ∀ {a b : ℕ}, a < 29 → b < 29 → ((a : ℕ) : ZMod 29) = b → a = b := by
    intro a b ha hb hab
    rwa [ZMod.natCast_eq_natCast_iff', Nat.mod_eq_of_lt ha, Nat.mod_eq_of_lt hb] at hab
  rw [weight, weight, hlast] at h
  split at h <;> split at h
  · have := heq (by omega) (by omega) h
    omega
  · have := heq (by omega) (by omega) h
    omega
  · have := heq (by omega) (by omega) h
    omega
  · omega

section

variable [PyLower] {naan naan' shoulder shoulder' name name' stem : String} {c : Char} {counter : ℕ} {minLength : ℤ}

/-- The payload and the check character as they are summed. -/
def folded (naan name : String) : List Char := (lower naan).toList ++ '/' :: name.toList.map Char.toLower

/-- The separator has no case and gives none to the characters beside it. -/
def FoldsApart (naan : String) : Prop :=
  ∀ name, IsAscii name → lower (naan ++ "/" ++ name) = lower naan ++ "/" ++ lower name

/-- What is to be zero where the check character is right. -/
def syndrome (naan name : String) : ZMod 29 :=
  weighted (weight ((lower naan).toList.length + name.toList.length)) ((folded naan name).map symbol)

theorem validate_concat (naan stem : String) (c : Char) : validateNameCheckdigit naan (stem.push c) = .ok () ↔
    lower (String.singleton c) = computeCheckdigit (naan ++ "/" ++ stem) := by
  have hlast : (stem.push c).toList = stem.toList ++ [c] := String.toList_push ..
  simp only [validateNameCheckdigit, hlast, List.getLast?_append, List.getLast?_singleton, Option.some_or,
    List.dropLast_concat, String.ofList_toList]
  split
  · rename_i hne
    constructor
    · intro h
      cases h
    · exact fun h => absurd h hne
  · rename_i heq
    exact iff_of_true rfl (not_not.mp heq)

theorem syndrome_push (hfold : FoldsApart naan) (hstem : IsAscii stem) (c : Char) :
    syndrome naan (stem.push c) = (checksum (lower (naan ++ "/" ++ stem)).toList : ℕ) - symbol c.toLower := by
  have hpayload : (lower (naan ++ "/" ++ stem)).toList = folded naan stem := by
    rw [hfold stem hstem, PyLower.lower_ascii stem hstem, asciiLower, folded]
    simp
  have hwhole : folded naan (stem.push c) = folded naan stem ++ [c.toLower] := by
    simp [folded]
  have hlen : (lower naan).toList.length + (stem.push c).toList.length = (folded naan stem).length := by
    simp [folded]
  rw [syndrome, hpayload, hwhole, hlen, checksum_eq, List.map_append, weighted_append]
  have hfront : weighted (weight (folded naan stem).length) ((folded naan stem).map symbol) =
      weighted (fun i => ((i + 1 : ℕ) : ZMod 29)) ((folded naan stem).map symbol) := by
    apply weighted_congr
    intro i hi
    rw [List.length_map] at hi
    rw [weight, if_pos hi]
  have hback : weighted (fun i => weight (folded naan stem).length (i + ((folded naan stem).map symbol).length))
      ([c.toLower].map symbol) = -symbol c.toLower := by
    simp [weighted, weight]
  rw [hfront, hback, sub_eq_add_neg]

theorem lower_singleton (hc : c.toNat < 128) : lower (String.singleton c) = String.singleton c.toLower := by
  rw [PyLower.lower_ascii _ (by simpa using hc), asciiLower, String.toList_singleton, List.map_singleton]
  rfl

theorem accepted_iff (hfold : FoldsApart naan) (hstem : IsAscii stem) (hascii : c.toNat < 128)
    (hc : c.toLower ∈ alphabet) :
    validateNameCheckdigit naan (stem.push c) = .ok () ↔ syndrome naan (stem.push c) = 0 := by
  rw [validate_concat, syndrome_push hfold hstem, lower_singleton hascii, computeCheckdigit, String.singleton_inj,
    letter_iff hc, sub_eq_zero]

theorem syndrome_of_accepted (hfold : FoldsApart naan) (hname : IsAscii name)
    (h : validateNameCheckdigit naan name = .ok ()) : syndrome naan name = 0 := by
  induction name using String.push_induction with
  | empty => cases h
  | push stem c _ =>
      have hstem : IsAscii stem := fun d hd => hname d (by simp [hd])
      have hascii : c.toNat < 128 := hname c (by simp)
      have hletter : c.toLower = alphabet.getD (checksum (lower (naan ++ "/" ++ stem)).toList % base) '0' := by
        have hc := (validate_concat naan stem c).mp h
        rwa [lower_singleton hascii, computeCheckdigit, String.singleton_inj] at hc
      exact (accepted_iff hfold hstem hascii (hletter ▸ getD_mem _)).mp h

theorem foldsApart_ascii (h : IsAscii naan) : FoldsApart naan := by
  intro name hname
  have hwhole : ∀ c ∈ (naan ++ "/" ++ name).toList, c.toNat < 128 := by
    have hwritten := ascii_written.mpr ⟨h, hname⟩
    simpa [written] using hwritten
  rw [PyLower.lower_ascii _ hwhole, PyLower.lower_ascii naan h, PyLower.lower_ascii name hname, asciiLower, asciiLower,
    asciiLower]
  simp [String.append_assoc]

theorem syndrome_ascii (h : IsAscii naan) : syndrome naan name =
    weighted (weight ((written naan name).length - 1)) ((written naan name).map fun c => symbol c.toLower) := by
  have hlow : (lower naan).toList = naan.toList.map Char.toLower := by
    rw [PyLower.lower_ascii naan h, asciiLower, String.toList_ofList]
  have hfolded : (folded naan name).map symbol = (written naan name).map fun c => symbol c.toLower := by
    rw [folded, written, hlow]
    simp [Function.comp_def]
  have hlen : (written naan name).length - 1 = (lower naan).toList.length + name.toList.length := by
    rw [hlow, written]
    simp
  rw [syndrome, hfolded, hlen]

theorem mint_ascii (hshoulder : IsAscii shoulder) (h : mintName naan counter shoulder minLength true = .ok name) :
    IsAscii name := by
  obtain ⟨e, he, rfl⟩ := mintName_ok h
  intro c hc
  rw [if_pos rfl, String.toList_append, String.toList_append, List.append_assoc] at hc
  rcases List.mem_append.mp hc with hc | hc
  · exact hshoulder c hc
  · rcases List.mem_append.mp hc with hc | hc
    · exact (letter_folds (encoded_mem he c hc)).1
    · rw [computeCheckdigit, String.toList_singleton, List.mem_singleton] at hc
      exact (letter_folds (hc ▸ getD_mem _)).1

theorem mint_syndrome (hfold : FoldsApart naan) (hshoulder : IsAscii shoulder)
    (h : mintName naan counter shoulder minLength true = .ok name) : syndrome naan name = 0 :=
  syndrome_of_accepted hfold (mint_ascii hshoulder h) (mint_accepted h)

/-- The check character detects one wrong letter and two that changed places, in an ARK of at most 28
characters. -/
theorem corrupted_rejected (hnaan : IsAscii naan) (hshoulder : IsAscii shoulder)
    (hmint : mintName naan counter shoulder minLength true = .ok name) (hlen : naan.length + 1 + (name.length - 1) ≤ 27)
    {ys : List Char} (h : Corrupts (· ∈ alphabet) (written naan name) ys) :
    (∃ naan' name', ys = written naan' name') ∧
      ∀ naan' name', ys = written naan' name' → ∃ text, validateNameCheckdigit naan' name' = .error text := by
  refine ⟨corrupted_splits h, ?_⟩
  rintro naan' name' rfl
  cases hvalid : validateNameCheckdigit naan' name' with
  | error text => exact ⟨text, rfl⟩
  | ok =>
      obtain ⟨hnaan', hname'⟩ := ascii_written.mp
        (h.forall_mem (fun c hc => (letter_folds hc).1) (ascii_written.mpr ⟨hnaan, mint_ascii hshoulder hmint⟩))
      have hzero := mint_syndrome (foldsApart_ascii hnaan) hshoulder hmint
      have hzero' := syndrome_of_accepted (foldsApart_ascii hnaan') hname' hvalid
      rw [syndrome_ascii hnaan] at hzero
      rw [syndrome_ascii hnaan', h.length_eq] at hzero'
      have hn : (written naan name).length - 1 ≤ 27 := by
        simp only [written, List.length_append, List.length_cons, String.length_toList]
        omega
      refine absurd (hzero'.trans hzero.symm) (weighted_detects ?_ ?_ ?_ h)
      · intro x y hx hy hxy
        rw [symbol_inj, (letter_folds hx).2, (letter_folds hy).2] at hxy
        exact ordinal_inj hx hy hxy
      · exact fun i _ => weight_ne_zero hn
      · exact fun i hi j hj => weight_inj hn (by omega) (by omega)

theorem syndrome_shoulder {i : ℕ} {a b : Char} (rest : String) (ha : shoulder.toList[i]? = some a)
    (hb : shoulder'.toList = shoulder.toList.set i b) :
    syndrome naan (shoulder' ++ rest) = syndrome naan (shoulder ++ rest) +
      weight ((lower naan).toList.length + (shoulder ++ rest).toList.length) ((lower naan).toList.length + 1 + i) *
        (symbol b.toLower - symbol a.toLower) := by
  have hi : i < shoulder.toList.length := (List.getElem?_eq_some_iff.mp ha).1
  have hlen : (shoulder' ++ rest).toList.length = (shoulder ++ rest).toList.length := by
    rw [String.toList_append, hb, String.toList_append]
    simp
  have hset : (folded naan (shoulder' ++ rest)).map symbol =
      ((folded naan (shoulder ++ rest)).map symbol).set ((lower naan).toList.length + 1 + i) (symbol b.toLower) := by
    rw [folded, folded, String.toList_append, hb, String.toList_append, ← List.map_set]
    congr 1
    rw [List.map_append, List.map_set, ← List.set_append_left _ _ (by simpa using hi), ← List.map_append,
      List.set_append_right _ _ (by omega)]
    simp [Nat.add_assoc, Nat.add_comm 1 i]
  have hget : ((folded naan (shoulder ++ rest)).map symbol)[(lower naan).toList.length + 1 + i]? =
      some (symbol a.toLower) := by
    rw [List.getElem?_map, folded, String.toList_append, List.getElem?_append_right (by omega),
      show (lower naan).toList.length + 1 + i - (lower naan).toList.length = i + 1 by omega, List.getElem?_cons_succ,
      List.getElem?_map, List.getElem?_append_left hi, ha]
    rfl
  rw [syndrome, hlen, hset, weighted_set hget, syndrome]

theorem mint_letter {rest : String} (h : mintName naan counter shoulder minLength true = .ok (shoulder ++ rest)) :
    ∃ e letter, encodeCounter counter minLength = .ok e ∧ letter ∈ alphabet ∧ rest = e ++ String.singleton letter := by
  obtain ⟨e, he, hshape⟩ := mintName_ok h
  rw [if_pos rfl, String.append_assoc, String.append_right_inj] at hshape
  exact ⟨e, _, he, getD_mem _, hshape⟩

theorem syndrome_moved {i : ℕ} {a b : Char} {rest : String} (hfold : FoldsApart naan)
    (hshoulder : validateMinterShoulder shoulder = .ok shoulder)
    (hshoulder' : validateMinterShoulder shoulder' = .ok shoulder') (ha : shoulder.toList[i]? = some a)
    (hb : shoulder'.toList = shoulder.toList.set i b)
    (hmint : mintName naan counter shoulder minLength true = .ok (shoulder ++ rest)) :
    syndrome naan (shoulder' ++ rest) = (((lower naan).length + 2 + i : ℕ) : ZMod 29) * (symbol b - symbol a) := by
  have hthree := shoulder_length hshoulder
  have hi : i < shoulder.toList.length := (List.getElem?_eq_some_iff.mp ha).1
  have hfolded : a.toLower = a ∧ b.toLower = b := by
    have hbmem : b ∈ shoulder'.toList := hb ▸ List.mem_set hi b
    exact ⟨(admissible_folds hshoulder a (List.mem_of_getElem? ha)).2, (admissible_folds hshoulder' b hbmem).2⟩
  have hascii : IsAscii shoulder := fun c hc => (admissible_folds hshoulder c hc).1
  have hlong : (lower naan).toList.length + 1 + i < (lower naan).toList.length + (shoulder ++ rest).toList.length := by
    obtain ⟨e, letter, -, -, rfl⟩ := mint_letter hmint
    simp only [String.toList_append, List.length_append, String.toList_singleton, List.length_singleton]
    omega
  have hposition : (lower naan).toList.length + 1 + i + 1 = (lower naan).length + 2 + i := by
    rw [String.length_toList]
    omega
  rw [syndrome_shoulder rest ha hb, mint_syndrome hfold hascii hmint, zero_add, hfolded.1, hfolded.2, weight,
    if_pos hlong, hposition]

theorem rejected_iff {naan name : String} :
    (∃ text, validateNameCheckdigit naan name = .error text) ↔ validateNameCheckdigit naan name ≠ .ok () := by
  cases validateNameCheckdigit naan name <;> simp

/-- The check character tells two minters apart when it gives their letters different values. -/
theorem shoulder_separated {i : ℕ} {a b : Char} {rest : String} (hfold : FoldsApart naan)
    (hshoulder : validateMinterShoulder shoulder = .ok shoulder)
    (hshoulder' : validateMinterShoulder shoulder' = .ok shoulder') (ha : shoulder.toList[i]? = some a)
    (hb : shoulder'.toList = shoulder.toList.set i b)
    (hmint : mintName naan counter shoulder minLength true = .ok (shoulder ++ rest)) :
    ((∃ text, validateNameCheckdigit naan (shoulder' ++ rest) = .error text) ↔
      ordinal a ≠ ordinal b ∧ ¬29 ∣ (lower naan).length + 2 + i) ∧
    ((lower naan).length ≤ 16 → ¬29 ∣ (lower naan).length + 2 + i) := by
  have hi : i < 3 := shoulder_length hshoulder ▸ (List.getElem?_eq_some_iff.mp ha).1
  refine ⟨?_, fun hlen => Nat.not_dvd_of_pos_of_lt (by omega) (by omega)⟩
  have hzero : syndrome naan (shoulder' ++ rest) = 0 ↔ 29 ∣ (lower naan).length + 2 + i ∨ ordinal b = ordinal a := by
    rw [syndrome_moved hfold hshoulder hshoulder' ha hb hmint, mul_eq_zero, ZMod.natCast_eq_zero_iff, sub_eq_zero,
      symbol_inj]
  obtain ⟨e, letter, he, hletter, rfl⟩ := mint_letter hmint
  have hpush : shoulder' ++ (e ++ String.singleton letter) = (shoulder' ++ e).push letter := by
    rw [← String.append_assoc, String.append_singleton]
  have hstem : IsAscii (shoulder' ++ e) := by
    intro c hc
    rcases List.mem_append.mp (String.toList_append ▸ hc) with hc | hc
    · exact (admissible_folds hshoulder' c hc).1
    · exact (letter_folds (encoded_mem he c hc)).1
  obtain ⟨hascii, hlow⟩ := letter_folds hletter
  rw [rejected_iff, hpush, ne_eq, accepted_iff hfold hstem hascii (hlow.symm ▸ hletter), ← hpush, hzero, not_or,
    and_comm, eq_comm (a := ordinal b)]

end

section

attribute [local instance] asciiText

theorem corrupted_rejected_digit : ∃ text, validateNameCheckdigit "12345" "2000000013f" = .error text := by
  have hmint : mintName "12345" 30 "200" 7 true = .ok "2000000011f" := by decide +kernel
  have hcorrupt : Corrupts (· ∈ alphabet) (written "12345" "2000000011f") (written "12345" "2000000013f") :=
    .replaced (i := 15) (x := '1') (y := '3') rfl (by decide) (by decide) (by decide)
  exact (corrupted_rejected (by decide) (by decide) hmint (by decide) hcorrupt).2 "12345" "2000000013f" rfl

/-- The vowels and `l` weigh as much as the zero, so that two shoulders of the pattern share a check
character. -/
theorem vowels_share : ¬∀ naan : String, naan.length ≤ 16 →
    ∀ (counter : ℕ) (shoulder shoulder' rest : String) (minLength : ℤ) (i : ℕ) (b : Char),
      validateMinterShoulder shoulder = .ok shoulder → validateMinterShoulder shoulder' = .ok shoulder' →
      shoulder' ≠ shoulder → shoulder'.toList = shoulder.toList.set i b →
      mintName naan counter shoulder minLength true = .ok (shoulder ++ rest) →
      ∃ text, validateNameCheckdigit naan (shoulder' ++ rest) = .error text := by
  intro hall
  obtain ⟨text, htext⟩ := hall "12345" (by decide) 0 "2a0" "2e0" "0000000c" 7 1 'e' (by decide) (by decide) (by decide)
    (by decide) (by decide +kernel)
  have hvalid : validateNameCheckdigit "12345" ("2e0" ++ "0000000c") = .ok () := by decide +kernel
  cases htext.symm.trans hvalid

theorem shoulder_separated_digit : ∃ text, validateNameCheckdigit "12345" ("210" ++ "0000000c") = .error text := by
  have hfold : FoldsApart "12345" := foldsApart_ascii (by decide)
  have hmint : mintName "12345" 0 "200" 7 true = .ok ("200" ++ "0000000c") := by decide +kernel
  have hother : "210".toList = "200".toList.set 1 '1' := by decide
  obtain ⟨hiff, hshort⟩ := shoulder_separated hfold (by decide) (by decide) rfl hother hmint
  exact hiff.mpr ⟨by decide, hshort (by decide)⟩

end

end DarkMinter.Checkdigit
