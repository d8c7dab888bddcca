import DarkMinter.Noid
import DarkMinter.Lib.Numerals
import Mathlib.Data.List.GetD

namespace DarkMinter.Minting

open Text Noid Lib.Numerals

def shoulderText : String :=
  "MINTER_SHOULDER must use the 2xx format (2 = DARK version; x = lowercase alphanumeric minter code)"

def isLowerAlnum (c : Char) : Bool := (decide ('0' ≤ c) && decide (c ≤ '9')) || (decide ('a' ≤ c) && decide (c ≤ 'z'))

/-- The pattern `2[0-9a-z]{2}`, matched in full. -/
def validateMinterShoulder (value : String) : Except String String :=
  match value.toList with
  | ['2', x, y] => if isLowerAlnum x && isLowerAlnum y then .ok value else .error shoulderText
  | _ => .error shoulderText

/-- What one ARK is minted from. -/
structure Mintable where
  naan : String
  shoulder : String
  counter : Nat
  unslashed : '/' ∉ naan.toList
  admissible : validateMinterShoulder shoulder = .ok shoulder

@[ext] theorem Mintable.ext {m m' : Mintable} (hnaan : m.naan = m'.naan) (hshoulder : m.shoulder = m'.shoulder)
    (hcounter : m.counter = m'.counter) : m = m' := by
  cases m
  cases m'
  subst hnaan hshoulder hcounter
  rfl

theorem shoulder_length {s v : String} (h : validateMinterShoulder s = .ok v) : s.toList.length = 3 := by
  unfold validateMinterShoulder at h
  split at h
  · rename_i hs
    rw [hs]
    rfl
  · cases h

section

variable [PyLower]

def mintArkId (naan : String) (counter : Nat) (shoulder : String) (minLength : Int) (checkdigit : Bool) :
    Except String String :=
  (mintName naan counter shoulder minLength checkdigit).map fun name => "ark:" ++ naan ++ "/" ++ name

def Mintable.mint (m : Mintable) (minLength : Int) (checkdigit : Bool) : Except String String :=
  mintArkId m.naan m.counter m.shoulder minLength checkdigit

end

/-- The base-29 reading of an encoded counter. -/
def decodeCounter (encoded : List Char) : Nat := value base ordinal encoded

/-- The part of an ARK between its shoulder of three characters and its check character. -/
def generated (checkdigit : Bool) (ark : String) : List Char :=
  let part := (afterFirst '/' ark).toList.drop 3
  if checkdigit then part.dropLast else part

theorem split_ark {naan : String} (name : String) (h : '/' ∉ naan.toList) :
    beforeFirst '/' ("ark:" ++ naan ++ "/" ++ name) = "ark:" ++ naan ∧
      afterFirst '/' ("ark:" ++ naan ++ "/" ++ name) = name := by
  have hnone : ∀ c ∈ ("ark:" ++ naan).toList, (c != '/') = true := by
    intro c hc
    rw [String.toList_append, List.mem_append] at hc
    rcases hc with hc | hc
    · have hall : ("ark:".toList.all (· != '/')) = true := by decide
      exact List.all_eq_true.mp hall c hc
    · rw [bne_iff_ne]
      rintro rfl
      exact h hc
  have hsplit : ("ark:" ++ naan ++ "/" ++ name).toList = ("ark:" ++ naan).toList ++ '/' :: name.toList := by
    simp
  constructor
  · rw [beforeFirst, hsplit, List.takeWhile_append_of_pos hnone, List.takeWhile_cons_of_neg (by decide),
      List.append_nil, String.ofList_toList]
  · rw [afterFirst, hsplit, List.dropWhile_append_of_pos hnone]
    simp

theorem alphabet_sorted : alphabet.Pairwise (· < ·) := by decide

theorem letter_folds {c : Char} (h : c ∈ alphabet) : c.toNat < 128 ∧ c.toLower = c := by
  have hall : (alphabet.all fun c => decide (c.toNat < 128 ∧ c.toLower = c)) = true := by decide
  exact of_decide_eq_true (List.all_eq_true.mp hall c h)

theorem ordinal_letter {c : Char} (h : c ∈ alphabet) : ordinal c = alphabet.idxOf c := if_pos h

theorem ordinal_lt {c : Char} (h : c ∈ alphabet) : ordinal c < base := by
  rw [ordinal_letter h]
  exact List.idxOf_lt_length_iff.mpr h

theorem getD_mem (n : Nat) : alphabet.getD n '0' ∈ alphabet := by
  rcases Nat.lt_or_ge n alphabet.length with h | h
  · rw [List.getD_eq_getElem _ _ h]
    exact List.getElem_mem h
  · rw [List.getD_eq_default _ _ h]
    decide

theorem ordinal_getD {n : Nat} (h : n < base) : ordinal (alphabet.getD n '0') = n := by
  have hnodup : alphabet.Nodup := by decide
  rw [ordinal_letter (getD_mem n), List.getD_eq_getElem _ _ h]
  exact hnodup.idxOf_getElem n h

theorem ordinal_inj {c d : Char} (hc : c ∈ alphabet) (hd : d ∈ alphabet) (h : ordinal c = ordinal d) : c = d := by
  rw [ordinal_letter hc, ordinal_letter hd] at h
  exact (List.idxOf_inj hc).mp h

theorem lt_of_ordinal_lt {c d : Char} (hc : c ∈ alphabet) (hd : d ∈ alphabet) (h : ordinal c < ordinal d) : c < d := by
  have hlt := List.pairwise_iff_getElem.mp alphabet_sorted _ _ (ordinal_lt hc) (ordinal_lt hd) h
  simpa [ordinal_letter hc, ordinal_letter hd] using hlt

theorem encodedReversed_mem {fuel n : Nat} : ∀ c ∈ encodedReversed fuel n, c ∈ alphabet := by
  induction fuel generalizing n with
  | zero => simp [encodedReversed]
  | succ fuel ih =>
      intro c hc
      rw [encodedReversed] at hc
      rcases List.mem_cons.mp hc with rfl | hc
      · exact getD_mem _
      · split at hc
        · cases hc
        · exact ih c hc

theorem encodedReversed_value {fuel n : Nat} (h : n < fuel) : decodeCounter (encodedReversed fuel n).reverse = n := by
  induction fuel generalizing n with
  | zero => cases h
  | succ fuel ih =>
      have hbase : 0 < base := by decide
      rw [encodedReversed, List.reverse_cons, decodeCounter, value_concat, ordinal_getD (Nat.mod_lt n hbase)]
      split
      · rename_i hzero
        have hsplit := Nat.div_add_mod' n base
        rw [hzero] at hsplit
        simpa using hsplit
      · rename_i hquot
        have hpos : 0 < n := Nat.pos_of_ne_zero fun hzero => hquot (by rw [hzero, Nat.zero_div])
        have hsmaller : n / base < fuel := by
          have hlt : n / base < n := Nat.div_lt_self hpos (by decide)
          omega
        have hrest := ih hsmaller
        rw [decodeCounter] at hrest
        rw [hrest, Nat.div_add_mod']

theorem encodedReversed_length {fuel n k : Nat} (hk : 1 ≤ k) (h : n < base ^ k) :
    (encodedReversed fuel n).length ≤ k := by
  induction fuel generalizing n k with
  | zero => simp [encodedReversed]
  | succ fuel ih =>
      rw [encodedReversed, List.length_cons]
      split
      · exact hk
      · rename_i hn
        obtain ⟨k, rfl⟩ : ∃ j, k = j + 1 := ⟨k - 1, by omega⟩
        have hquot : n / base < base ^ k := Nat.div_lt_of_lt_mul (by rwa [pow_succ'] at h)
        have hpos : 1 ≤ k := by
          rcases Nat.eq_zero_or_pos k with rfl | hpos
          · exact absurd (Nat.lt_one_iff.mp hquot) hn
          · exact hpos
        have hrest := ih hpos hquot
        omega

theorem encodeCounter_total {minLength : Int} (h : 1 ≤ minLength) (counter : Nat) :
    ∃ e, encodeCounter counter minLength = .ok e := by
  rw [encodeCounter, if_neg (by omega)]
  exact ⟨_, rfl⟩

theorem encodeCounter_toList {counter : Nat} {minLength : Int} {e : String}
    (h : encodeCounter counter minLength = .ok e) :
    e.toList = rjust (encodedReversed (counter + 1) counter).reverse minLength.toNat '0' := by
  rw [encodeCounter] at h
  split at h
  · cases h
  · cases h
    rw [String.toList_ofList]

theorem encoded_mem {counter : Nat} {minLength : Int} {e : String} (h : encodeCounter counter minLength = .ok e) :
    ∀ c ∈ e.toList, c ∈ alphabet := by
  intro c hc
  rw [encodeCounter_toList h, rjust, List.mem_append] at hc
  rcases hc with hc | hc
  · obtain rfl := List.eq_of_mem_replicate hc
    decide
  · exact encodedReversed_mem c (List.mem_reverse.mp hc)

theorem decode_encoded {counter : Nat} {minLength : Int} {e : String} (h : encodeCounter counter minLength = .ok e) :
    decodeCounter e.toList = counter := by
  rw [encodeCounter_toList h, rjust, decodeCounter, value_padded (by decide)]
  exact encodedReversed_value (Nat.lt_succ_self _)

theorem encoded_length {counter : Nat} {minLength : Int} {e : String} (hmin : 1 ≤ minLength)
    (hlt : counter < base ^ minLength.toNat) (h : encodeCounter counter minLength = .ok e) :
    e.toList.length = minLength.toNat := by
  have hlen : (encodedReversed (counter + 1) counter).length ≤ minLength.toNat :=
    encodedReversed_length (by omega) hlt
  rw [encodeCounter_toList h, rjust, List.length_append, List.length_replicate, List.length_reverse]
  omega

theorem encoded_lt {c d : Nat} {minLength : Int} {e f : String} (hmin : 1 ≤ minLength) (hcd : c < d)
    (hd : d < base ^ minLength.toNat) (he : encodeCounter c minLength = .ok e)
    (hf : encodeCounter d minLength = .ok f) : e < f := by
  have hvalue : value base ordinal e.toList < value base ordinal f.toList := by
    change decodeCounter e.toList < decodeCounter f.toList
    rwa [decode_encoded he, decode_encoded hf]
  have hlen : e.toList.length = f.toList.length := by
    rw [encoded_length hmin (hcd.trans hd) he, encoded_length hmin hd hf]
  rw [String.lt_iff]
  exact lt_of_value_lt (P := (· ∈ alphabet)) (fun _ => ordinal_lt) (fun _ _ => ordinal_inj)
    (fun _ _ => lt_of_ordinal_lt) (encoded_mem he) (encoded_mem hf) hlen hvalue

section

variable [PyLower]

theorem mintName_ok {naan shoulder name : String} {counter : Nat} {minLength : Int} {checkdigit : Bool}
    (h : mintName naan counter shoulder minLength checkdigit = .ok name) :
    ∃ e, encodeCounter counter minLength = .ok e ∧
      name = shoulder ++ e ++ if checkdigit then computeCheckdigit (naan ++ "/" ++ (shoulder ++ e)) else "" := by
  rw [mintName] at h
  cases he : encodeCounter counter minLength with
  | error text =>
      rw [he] at h
      cases h
  | ok e =>
      rw [he] at h
      refine ⟨e, rfl, ?_⟩
      cases checkdigit with
      | false =>
          obtain rfl : shoulder ++ e = name := Except.ok.inj h
          exact String.append_empty.symm
      | true => exact (Except.ok.inj h).symm

theorem lower_checkdigit (payload : String) : lower (computeCheckdigit payload) = computeCheckdigit payload := by
  obtain ⟨hascii, hlow⟩ := letter_folds (getD_mem (checksum (lower payload).toList % base))
  simp only [computeCheckdigit]
  rw [PyLower.lower_ascii _ (by simpa using hascii), asciiLower, String.toList_singleton, List.map_singleton, hlow,
    String.singleton_eq_ofList]

theorem mint_accepted {naan shoulder name : String} {counter : Nat} {minLength : Int}
    (h : mintName naan counter shoulder minLength true = .ok name) : validateNameCheckdigit naan name = .ok () := by
  obtain ⟨e, -, rfl⟩ := mintName_ok h
  have hlast : (shoulder ++ e ++ computeCheckdigit (naan ++ "/" ++ (shoulder ++ e))).toList =
      (shoulder ++ e).toList ++
        [alphabet.getD (checksum (lower (naan ++ "/" ++ (shoulder ++ e))).toList % base) '0'] := by
    simp [computeCheckdigit]
  have hcheck : ∀ payload, String.singleton (alphabet.getD (checksum (lower payload).toList % base) '0') =
      computeCheckdigit payload := fun _ => rfl
  simp only [if_true, validateNameCheckdigit, hlast, List.getLast?_append, List.getLast?_singleton, Option.some_or,
    List.dropLast_concat, String.ofList_toList, hcheck, lower_checkdigit, ne_eq, not_true_eq_false, if_false]

variable {m m' : Mintable} {minLength : Int} {checkdigit : Bool} {ark : String}

/-- The three parts of a minted ARK, as the splits at its first slash find them. -/
structure Reads (m : Mintable) (minLength : Int) (checkdigit : Bool) (ark : String) : Prop where
  naan : beforeFirst '/' ark = "ark:" ++ m.naan
  shoulder : (afterFirst '/' ark).toList.take 3 = m.shoulder.toList
  counter : ∃ e, encodeCounter m.counter minLength = .ok e ∧ generated checkdigit ark = e.toList
  name : mintName m.naan m.counter m.shoulder minLength checkdigit = .ok (afterFirst '/' ark)

theorem mint_reads (h : m.mint minLength checkdigit = .ok ark) : Reads m minLength checkdigit ark := by
  rw [Mintable.mint, mintArkId] at h
  cases hname : mintName m.naan m.counter m.shoulder minLength checkdigit with
  | error text =>
      rw [hname] at h
      cases h
  | ok name =>
      rw [hname] at h
      obtain rfl : "ark:" ++ m.naan ++ "/" ++ name = ark := Except.ok.inj h
      obtain ⟨hbefore, hafter⟩ := split_ark name m.unslashed
      obtain ⟨e, he, hshape⟩ := mintName_ok hname
      have hlen : m.shoulder.toList.length = 3 := shoulder_length m.admissible
      refine ⟨hbefore, ?_, ⟨e, he, ?_⟩, ?_⟩
      · rw [hafter, hshape, String.append_assoc, String.toList_append, ← hlen, List.take_left]
      · have hrest : name.toList.drop 3 =
            (e ++ if checkdigit then computeCheckdigit (m.naan ++ "/" ++ (m.shoulder ++ e)) else "").toList := by
          rw [hshape, String.append_assoc, String.toList_append, ← hlen, List.drop_left]
        rw [generated, hafter]
        simp only [hrest]
        cases checkdigit with
        | false => simp
        | true => simp [computeCheckdigit]
      · rw [hafter, hname]

theorem mint_total (hmin : 1 ≤ minLength) (m : Mintable) (checkdigit : Bool) :
    ∃ ark, m.mint minLength checkdigit = .ok ark := by
  obtain ⟨e, he⟩ := encodeCounter_total hmin m.counter
  rw [Mintable.mint, mintArkId, mintName, he]
  cases checkdigit with
  | false => exact ⟨_, rfl⟩
  | true => exact ⟨_, rfl⟩

theorem mint_decodes (h : m.mint minLength checkdigit = .ok ark) :
    decodeCounter (generated checkdigit ark) = m.counter := by
  obtain ⟨e, he, hgenerated⟩ := (mint_reads h).counter
  rw [hgenerated, decode_encoded he]

theorem mint_injective (h : m.mint minLength checkdigit = .ok ark) (h' : m'.mint minLength checkdigit = .ok ark) :
    m = m' := by
  have hnaan := (mint_reads h).naan.symm.trans (mint_reads h').naan
  have hshoulder := (mint_reads h).shoulder.symm.trans (mint_reads h').shoulder
  have hcounter := (mint_decodes h).symm.trans (mint_decodes h')
  exact Mintable.ext (by simpa [String.append_right_inj] using hnaan) (String.toList_inj.mp hshoulder) hcounter

/-- Minting loses nothing of what an ARK is minted from, keeps the order of the counters below the
capacity of the namespace, and is accepted by its own validation. -/
theorem mint_faithful (hmin : 1 ≤ minLength) (checkdigit : Bool) :
    (∀ m : Mintable, ∃ ark, m.mint minLength checkdigit = .ok ark ∧
      decodeCounter (generated checkdigit ark) = m.counter ∧
      (checkdigit = true → validateNameCheckdigit m.naan (afterFirst '/' ark) = .ok ())) ∧
    (∀ m m' : Mintable, m ≠ m' → m.mint minLength checkdigit ≠ m'.mint minLength checkdigit) ∧
    ∀ c d, c < d → d < base ^ minLength.toNat →
      ∃ e f, encodeCounter c minLength = .ok e ∧ encodeCounter d minLength = .ok f ∧ e < f := by
  refine ⟨?_, ?_, ?_⟩
  · intro m
    obtain ⟨ark, hark⟩ := mint_total hmin m checkdigit
    refine ⟨ark, hark, mint_decodes hark, ?_⟩
    intro hcheck
    subst hcheck
    exact mint_accepted (mint_reads hark).name
  · intro m m' hne heq
    obtain ⟨ark, hark⟩ := mint_total hmin m checkdigit
    exact hne (mint_injective hark (heq ▸ hark))
  · intro c d hcd hd
    obtain ⟨e, he⟩ := encodeCounter_total hmin c
    obtain ⟨f, hf⟩ := encodeCounter_total hmin d
    exact ⟨e, f, he, hf, encoded_lt hmin hcd hd he hf⟩

end

section

attribute [local instance] asciiText

def sample : Mintable := ⟨"12345", "200", 30, by decide, by decide⟩

theorem mint_faithful_sample : ∃ ark, sample.mint 7 true = .ok ark ∧ decodeCounter (generated true ark) = 30 ∧
    validateNameCheckdigit "12345" (afterFirst '/' ark) = .ok () := by
  obtain ⟨ark, hark, hdecode, hcheck⟩ := (@mint_faithful _ 7 (by decide) true).1 sample
  exact ⟨ark, hark, hdecode, hcheck rfl⟩

example : sample.mint 7 true = .ok "ark:12345/2000000011f" := by decide +kernel

end

end DarkMinter.Minting
