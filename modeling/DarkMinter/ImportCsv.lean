import DarkMinter.Lib.Dict
import DarkMinter.Records
import DarkMinter.Text
import Mathlib.Data.List.Nodup

namespace DarkMinter.ImportCsv

open Lib Text Records

structure RawRow where
  darkidentifier : Option String
  itemurl : Option String

structure ImportRow where
  rowNumber : Nat
  darkidentifier : String
  itemurl : String
  naan : String
  name : String
  deriving DecidableEq

structure InvalidRow where
  rowNumber : Nat
  darkidentifier : String
  itemurl : String
  error : String
  deriving DecidableEq

def ImportRow.key (row : ImportRow) : ArkId := ⟨row.naan, row.name⟩

/-- `ARK_PATTERN.fullmatch`, where a name has no line feed. -/
def arkPattern (value : String) : Option ArkId :=
  match value.toList with
  | 'a' :: 'r' :: 'k' :: ':' :: rest =>
      let path := if rest.head? = some '/' then rest.tail else rest
      let naan := path.takeWhile (· ≠ '/')
      let name := (path.dropWhile (· ≠ '/')).tail
      if naan ≠ [] ∧ name ≠ [] ∧ '\n' ∉ name then some ⟨String.ofList naan, String.ofList name⟩ else none
  | _ => none

/-- Its errors are those of a `ValueError`, as everywhere in this module. -/
def parseArk (identifier : String) : Except String ArkId :=
  match arkPattern (strip identifier) with
  | none => .error "Expected ARK in the form ark:/NAAN/name"
  | some k =>
      if strip k.naan = "" ∨ strip k.name = "" then .error "ARK NAAN and name must not be empty"
      else if (k.naan ++ k.name).toList.any isSpace then
        .error "ARK NAAN and name must not contain whitespace"
      else .ok k

/-- `urlparse` gives the scheme and the network location. -/
def validateUrl (urlparse : String → Except String (String × String)) (value : String) : Except String String := do
  let url := strip value
  let parsed ← urlparse url
  if parsed.1 ∉ ["http", "https"] ∨ parsed.2 = "" then
    throw "itemurl must be an absolute HTTP(S) URL"
  return url

structure Reading where
  rows : List ImportRow := []
  invalid : List InvalidRow := []
  seen : List (ArkId × Nat) := []

def notSeen (seen : List (ArkId × Nat)) (k : ArkId) : Except String Unit :=
  match Dict.get seen k with
  | some first => throw ("Duplicate ARK; first occurrence is CSV row " ++ toString first)
  | none => return ()

def readRow (urlparse : String → Except String (String × String)) (rowNumber : Nat) (raw : RawRow)
    (acc : Reading) : Reading :=
  let identifier := strip (raw.darkidentifier.getD "")
  let itemurl := strip (raw.itemurl.getD "")
  match parseArk identifier with
  | .error e => { acc with invalid := acc.invalid ++ [⟨rowNumber, identifier, itemurl, e⟩] }
  | .ok k =>
      match validateUrl urlparse itemurl with
      | .error e => { acc with invalid := acc.invalid ++ [⟨rowNumber, identifier, itemurl, e⟩] }
      | .ok url =>
          match notSeen acc.seen k with
          | .error e => { acc with invalid := acc.invalid ++ [⟨rowNumber, identifier, url, e⟩] }
          | .ok () =>
              { acc with
                rows := acc.rows ++ [⟨rowNumber, k.ark, url, k.naan, k.name⟩]
                seen := Dict.set acc.seen k rowNumber }

def readRows (urlparse : String → Except String (String × String)) (limit : Option Nat) :
    Nat → List RawRow → Reading → Reading
  | _, [], acc => acc
  | rowNumber, raw :: rest, acc =>
      if limit.any (· ≤ acc.rows.length + acc.invalid.length) then acc
      else readRows urlparse limit (rowNumber + 1) rest (readRow urlparse rowNumber raw acc)

def missingColumns (fieldnames : List String) : List String :=
  ["darkidentifier", "itemurl"].filter fun column => column ∉ fieldnames

def readCsv (urlparse : String → Except String (String × String)) (limit : Option Nat) (fieldnames : List String)
    (raw : List RawRow) : Except String (List ImportRow × List InvalidRow) := do
  if missingColumns fieldnames ≠ [] then
    throw ("CSV is missing required columns: " ++ ", ".intercalate (missingColumns fieldnames))
  let reading := readRows urlparse limit 2 raw {}
  return (reading.rows, reading.invalid)

/-- The ARKs that `parse_ark` can return. -/
structure WellFormed (k : ArkId) : Prop where
  naan_ne : k.naan ≠ ""
  name_ne : k.name ≠ ""
  no_slash : '/' ∉ k.naan.toList
  naan_spaceless : ∀ c ∈ k.naan.toList, isSpace c = false
  name_spaceless : ∀ c ∈ k.name.toList, isSpace c = false

theorem strip_of_no_space {s : String} (h : ∀ c ∈ s.toList, isSpace c = false) : strip s = s := by
  have hdrop : s.toList.dropWhile isSpace = s.toList := by
    rw [List.dropWhile_eq_self_iff]
    intro hl
    simp [h _ (List.getElem_mem hl)]
  have hrdrop : s.toList.rdropWhile isSpace = s.toList := by
    rw [List.rdropWhile_eq_self_iff]
    intro hl
    simp [h _ (List.getLast_mem hl)]
  rw [strip, hdrop, hrdrop, String.ofList_toList]

theorem arkPattern_some {value : String} {k : ArkId} (h : arkPattern value = some k) :
    k.naan ≠ "" ∧ k.name ≠ "" ∧ '/' ∉ k.naan.toList := by
  unfold arkPattern at h
  split at h
  · rename_i rest _
    simp only [Option.ite_none_right_eq_some, Option.some.injEq] at h
    obtain ⟨⟨hnaan, hname, -⟩, rfl⟩ := h
    refine ⟨?_, ?_, ?_⟩
    · simpa using hnaan
    · simpa using hname
    · intro hslash
      have hne := List.mem_takeWhile_imp (String.toList_ofList ▸ hslash)
      exact absurd rfl (of_decide_eq_true hne)
  · cases h

theorem parseArk_wellFormed {identifier : String} {k : ArkId} (h : parseArk identifier = .ok k) :
    WellFormed k := by
  unfold parseArk at h
  split at h
  · cases h
  · rename_i j hj
    split at h
    · cases h
    · split at h
      · cases h
      · rename_i hspace
        obtain rfl := Except.ok.inj h
        obtain ⟨hnaan, hname, hslash⟩ := arkPattern_some hj
        have hspaceless : (∀ c ∈ j.naan.toList, isSpace c = false) ∧ ∀ c ∈ j.name.toList, isSpace c = false := by
          simpa using hspace
        exact ⟨hnaan, hname, hslash, hspaceless.1, hspaceless.2⟩

theorem arkPattern_ark {k : ArkId} (h : WellFormed k) : arkPattern k.ark = some k := by
  have hchars : k.ark.toList = 'a' :: 'r' :: 'k' :: ':' :: (k.naan.toList ++ '/' :: k.name.toList) := by
    simp [ArkId.ark]
  have hnaan : k.naan.toList ≠ [] := by
    simpa using h.naan_ne
  have hname : k.name.toList ≠ [] := by
    simpa using h.name_ne
  have hhead : (k.naan.toList ++ '/' :: k.name.toList).head? ≠ some '/' := by
    obtain ⟨c, cs, hc⟩ := List.exists_cons_of_ne_nil hnaan
    have hne : c ≠ '/' := by
      rintro rfl
      exact h.no_slash (hc ▸ List.mem_cons_self)
    simp [hc, hne]
  have hslash : ∀ c ∈ k.naan.toList, (decide (c ≠ '/')) = true := by
    intro c hc
    refine decide_eq_true ?_
    rintro rfl
    exact h.no_slash hc
  have hfeed : '\n' ∉ k.name.toList := by
    intro hmem
    exact absurd (h.name_spaceless _ hmem) (by decide)
  simp only [arkPattern, hchars, if_neg hhead, List.takeWhile_append_of_pos hslash,
    List.dropWhile_append_of_pos hslash, List.takeWhile_cons, List.dropWhile_cons]
  simp [hnaan, hname, hfeed]

theorem parseArk_ark {k : ArkId} (h : WellFormed k) : parseArk k.ark = .ok k := by
  have hchars : k.ark.toList = 'a' :: 'r' :: 'k' :: ':' :: (k.naan.toList ++ '/' :: k.name.toList) := by
    simp [ArkId.ark]
  have hstrip : strip k.ark = k.ark := by
    refine strip_of_no_space fun c hc => ?_
    simp only [hchars, List.mem_cons, List.mem_append] at hc
    rcases hc with rfl | rfl | rfl | rfl | hc | rfl | hc
    · decide
    · decide
    · decide
    · decide
    · exact h.naan_spaceless c hc
    · decide
    · exact h.name_spaceless c hc
  rw [parseArk, hstrip, arkPattern_ark h]
  simp [strip_of_no_space h.naan_spaceless, strip_of_no_space h.name_spaceless, h.naan_ne, h.name_ne]
  exact ⟨h.naan_spaceless, h.name_spaceless⟩

structure Importable (rows : List ImportRow) : Prop where
  canonical : ∀ row ∈ rows, row.darkidentifier = row.key.ark ∧ WellFormed row.key
  distinct : (rows.map ImportRow.key).Nodup

/-- The dictionary `seen` knows the ARK of every row read so far. -/
structure WellRead (acc : Reading) : Prop where
  importable : Importable acc.rows
  seen : ∀ row ∈ acc.rows, Dict.get acc.seen row.key ≠ none

variable {urlparse : String → Except String (String × String)} {limit : Option Nat} {rowNumber : Nat} {raw : RawRow}
  {acc : Reading}

theorem notSeen_ok {seen : List (ArkId × Nat)} {k : ArkId} (h : notSeen seen k = .ok ()) :
    Dict.get seen k = none := by
  unfold notSeen at h
  split at h
  · cases h
  · assumption

theorem readRow_wellRead (h : WellRead acc) : WellRead (readRow urlparse rowNumber raw acc) := by
  simp only [readRow]
  split
  · exact ⟨h.importable, h.seen⟩
  · rename_i k hk
    split
    · exact ⟨h.importable, h.seen⟩
    · rename_i url _
      split
      · exact ⟨h.importable, h.seen⟩
      · rename_i hnew
        have hfresh : ∀ row ∈ acc.rows, row.key ≠ k := by
          rintro row hrow rfl
          exact h.seen row hrow (notSeen_ok hnew)
        refine ⟨⟨?_, ?_⟩, ?_⟩
        · intro row hrow
          rcases List.mem_append.mp hrow with hrow | hrow
          · exact h.importable.canonical row hrow
          · obtain rfl := List.mem_singleton.mp hrow
            exact ⟨rfl, parseArk_wellFormed hk⟩
        · have hnotMem : k ∉ acc.rows.map ImportRow.key := by
            intro hmem
            obtain ⟨row, hrow, hkey⟩ := List.mem_map.mp hmem
            exact hfresh row hrow hkey
          rw [List.map_append]
          exact List.Nodup.append h.importable.distinct (List.nodup_singleton _) (List.disjoint_singleton.mpr hnotMem)
        · intro row hrow
          rw [Dict.get_set]
          rcases List.mem_append.mp hrow with hrow | hrow
          · rw [if_neg (Ne.symm (hfresh row hrow))]
            exact h.seen row hrow
          · obtain rfl := List.mem_singleton.mp hrow
            simp [ImportRow.key]

theorem readRow_length (urlparse : String → Except String (String × String)) (rowNumber : Nat) (raw : RawRow)
    (acc : Reading) : (readRow urlparse rowNumber raw acc).rows.length +
    (readRow urlparse rowNumber raw acc).invalid.length = acc.rows.length + acc.invalid.length + 1 := by
  simp only [readRow]
  repeat' split
  all_goals simp only [List.length_append, List.length_singleton]
  all_goals omega

theorem readRows_wellRead {rest : List RawRow} (h : WellRead acc) :
    WellRead (readRows urlparse limit rowNumber rest acc) := by
  induction rest generalizing rowNumber acc with
  | nil => exact h
  | cons raw rest ih =>
      unfold readRows
      split
      · exact h
      · exact ih (readRow_wellRead h)

theorem readRows_length (urlparse : String → Except String (String × String)) (rowNumber : Nat) (acc : Reading)
    {rest : List RawRow} (h : ∀ m ∈ limit, acc.rows.length + acc.invalid.length ≤ m) :
    (readRows urlparse limit rowNumber rest acc).rows.length +
      (readRows urlparse limit rowNumber rest acc).invalid.length =
        min (limit.getD (acc.rows.length + acc.invalid.length + rest.length))
          (acc.rows.length + acc.invalid.length + rest.length) := by
  induction rest generalizing rowNumber acc with
  | nil =>
      cases limit with
      | none => simp [readRows]
      | some m => simpa [readRows] using h
  | cons raw rest ih =>
      have hrow := readRow_length urlparse rowNumber raw acc
      unfold readRows
      cases limit with
      | none =>
          have hrest := ih (rowNumber + 1) (readRow urlparse rowNumber raw acc) (by simp)
          simp only [Option.getD_none, min_self, List.length_cons] at hrest ⊢
          simp only [Option.any_none, Bool.false_eq_true, if_false]
          omega
      | some m =>
          have hle := h m rfl
          by_cases hfull : m ≤ acc.rows.length + acc.invalid.length
          · simp only [Option.any_some, decide_eq_true hfull, if_true, Option.getD_some, List.length_cons]
            omega
          · have hrest := ih (rowNumber + 1) (readRow urlparse rowNumber raw acc)
              (by rintro _ ⟨⟩; omega)
            simp only [Option.getD_some, List.length_cons] at hrest ⊢
            simp only [Option.any_some, decide_eq_false hfull, Bool.false_eq_true, if_false]
            omega

theorem readCsv_ok {fieldnames : List String} {raw : List RawRow} {rows : List ImportRow}
    {invalid : List InvalidRow} (h : readCsv urlparse limit fieldnames raw = .ok (rows, invalid)) :
    Importable rows ∧ rows.length + invalid.length = min (limit.getD raw.length) raw.length := by
  have hread : rows = (readRows urlparse limit 2 raw {}).rows ∧
      invalid = (readRows urlparse limit 2 raw {}).invalid := by
    unfold readCsv at h
    split at h
    · cases h
    · obtain ⟨hrows, hinvalid⟩ := Prod.mk.inj (Except.ok.inj h)
      exact ⟨hrows.symm, hinvalid.symm⟩
  obtain ⟨rfl, rfl⟩ := hread
  constructor
  · have hempty : WellRead {} := ⟨⟨by simp, by simp⟩, by simp⟩
    exact (readRows_wellRead hempty).importable
  · have hlength : ∀ m ∈ limit, ({} : Reading).rows.length + ({} : Reading).invalid.length ≤ m := by simp
    simpa using readRows_length urlparse 2 {} hlength

end DarkMinter.ImportCsv
