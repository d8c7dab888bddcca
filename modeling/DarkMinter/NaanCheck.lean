import DarkMinter.ImportRuns

namespace DarkMinter.NaanCheck

open Text Records Processing ImportCsv ImportRuns

structure NaanScan where
  naans : List String
  invalidRows : List (Nat × String × String)

def identifierOf (raw : RawRow) : String := strip (raw.darkidentifier.getD "")

def scanRows :
    Nat → List RawRow → List String → List (Nat × String × String) → List String × List (Nat × String × String)
  | _, [], naans, invalid => (naans, invalid)
  | rowNumber, raw :: rest, naans, invalid =>
      match parseArk (identifierOf raw) with
      | .ok k => scanRows (rowNumber + 1) rest (naans ++ [k.naan]) invalid
      | .error e => scanRows (rowNumber + 1) rest naans (invalid ++ [(rowNumber, identifierOf raw, e)])

def scanNaans (fieldnames : List String) (raw : List RawRow) : Except Exc NaanScan :=
  if "darkidentifier" ∈ fieldnames then
    let scanned := scanRows 2 raw [] []
    .ok ⟨scanned.1.dedup.insertionSort (· ≤ ·), scanned.2⟩
  else .error (valueError "CSV is missing required column: darkidentifier")

structure Args where
  csvFile : String
  envFile : Option String := none
  authorityId : Option String := none
  onlyMissing : Bool := false
  output : Option String := none

structure CheckEnv where
  isFile : String → Bool
  resolve : String → String := id
  file : Except Exc (List String × List RawRow)
  orchestrator : Except Exc Unit := .ok ()
  authority : Except Exc Authority
  isAuthorizedForNaan : String → Except Exc Bool
  write : Except Exc Unit := .ok ()

/-- The exit code, the NAANs with whether they are associated, where that was asked, and what goes to stderr. -/
structure Outcome where
  exitCode : Nat
  rows : List (String × Option Bool) := []
  stderr : List String := []

def given (authorityId : Option String) : Bool := authorityId.any (· ≠ "")

def refusal (args : Args) (E : CheckEnv) : Option String :=
  if !E.isFile args.csvFile then some ("error: CSV file not found: " ++ args.csvFile)
  else if args.envFile.any (!E.isFile ·) then some ("error: env file not found: " ++ args.envFile.getD "")
  else if args.onlyMissing && !given args.authorityId then some "error: --only-missing requires --authority-id"
  else if args.output.any (E.resolve · = E.resolve args.csvFile) then
    some "error: --output must not overwrite the input CSV"
  else none

def associationOf (E : CheckEnv) (naan : String) : Except Exc (String × Bool) := do
  let associated ← E.isAuthorizedForNaan naan
  return (naan, associated)

def checkAuthorityNaans (E : CheckEnv) (naans : List String) : Except Exc (Authority × List (String × Bool)) := do
  let authority ← E.authority
  let authorization ← naans.mapM (associationOf E)
  return (authority, authorization)

def missingOf (authorization : List (String × Bool)) : List String :=
  (authorization.filter fun e => !e.2).map Prod.fst

structure Finding where
  failed : Bool
  rows : List (String × Option Bool)
  stderr : List String := []

def findAssociated (args : Args) (E : CheckEnv) (scan : NaanScan) : Except Exc Finding := do
  let _ ← E.orchestrator
  let checked ← checkAuthorityNaans E scan.naans
  let selected := if args.onlyMissing then checked.2.filter fun e => !e.2 else checked.2
  return {
    failed := !checked.1.active || missingOf checked.2 ≠ []
    rows := selected.map fun e => (e.1, some e.2)
    stderr := if checked.1.active then [] else
      ["warning: authority " ++ args.authorityId.getD "" ++ " is inactive"] }

def find (args : Args) (E : CheckEnv) (scan : NaanScan) : Except Exc Finding :=
  if given args.authorityId then findAssociated args E scan
  else .ok { failed := false, rows := scan.naans.map fun naan => (naan, none) }

def warningOf (row : Nat × String × String) : String :=
  "warning: CSV row " ++ toString row.1 ++ ": " ++ (if row.2.1 = "" then "<empty>" else row.2.1) ++ ": " ++ row.2.2

def checkFile (args : Args) (E : CheckEnv) : Except Exc Outcome := do
  let file ← E.file
  let scan ← scanNaans file.1 file.2
  if scan.naans = [] ∧ scan.invalidRows = [] then
    throw (valueError "CSV contains no data rows")
  let finding ← find args E scan
  let _ ← E.write
  return {
    exitCode := if scan.invalidRows ≠ [] ∨ finding.failed = true then 1 else 0
    rows := finding.rows
    stderr := finding.stderr ++ scan.invalidRows.map warningOf }

def main (args : Args) (E : CheckEnv) : Outcome :=
  match refusal args E with
  | some error => { exitCode := 2, stderr := [error] }
  | none => match checkFile args E with
    | .ok outcome => outcome
    | .error e => { exitCode := 2, stderr := ["error: " ++ e.text] }

variable {args : Args} {E : CheckEnv} {raw : List RawRow} {scan : NaanScan}

theorem scanRows_spec (rowNumber : Nat) (rest : List RawRow) (naans : List String)
    (invalid : List (Nat × String × String)) :
    (∀ naan, naan ∈ (scanRows rowNumber rest naans invalid).1 ↔
      naan ∈ naans ∨ ∃ raw ∈ rest, ∃ k, parseArk (identifierOf raw) = .ok k ∧ k.naan = naan) ∧
    ((scanRows rowNumber rest naans invalid).2 = [] ↔
      invalid = [] ∧ ∀ raw ∈ rest, ∃ k, parseArk (identifierOf raw) = .ok k) := by
  induction rest generalizing rowNumber naans invalid with
  | nil => simp [scanRows]
  | cons raw rest ih =>
      cases hparse : parseArk (identifierOf raw) with
      | ok k =>
          obtain ⟨hnaans, hinvalid⟩ := ih (rowNumber + 1) (naans ++ [k.naan]) invalid
          simp only [scanRows, hparse, hnaans, hinvalid, List.mem_append, List.mem_cons, exists_eq_or_imp,
            forall_eq_or_imp]
          simp [or_assoc, eq_comm]
      | error e =>
          obtain ⟨hnaans, hinvalid⟩ := ih (rowNumber + 1) naans (invalid ++ [(rowNumber, identifierOf raw, e)])
          simp only [scanRows, hparse, hnaans, hinvalid, List.mem_cons, exists_eq_or_imp, forall_eq_or_imp]
          simp

/-- The scan finds the NAANs of all rows that name an ARK, in order, and reports the other rows. -/
structure Scanned (raw : List RawRow) (scan : NaanScan) : Prop where
  mem : ∀ naan, naan ∈ scan.naans ↔ ∃ row ∈ raw, ∃ k, parseArk (identifierOf row) = .ok k ∧ k.naan = naan
  nodup : scan.naans.Nodup
  sorted : scan.naans.Pairwise (· ≤ ·)
  valid : scan.invalidRows = [] ↔ ∀ row ∈ raw, ∃ k, parseArk (identifierOf row) = .ok k

theorem scanNaans_ok {fieldnames : List String} (h : scanNaans fieldnames raw = .ok scan) : Scanned raw scan := by
  unfold scanNaans at h
  split at h
  · obtain rfl := Except.ok.inj h
    obtain ⟨hnaans, hinvalid⟩ := scanRows_spec 2 raw [] []
    refine ⟨fun naan => ?_, ?_, List.pairwise_insertionSort _ _, ?_⟩
    · simp [hnaans]
    · exact (List.perm_insertionSort _ _).nodup_iff.mpr (List.nodup_dedup _)
    · simp [hinvalid]
  · cases h

def answersOf (E : CheckEnv) (naan : String) : Bool :=
  match E.isAuthorizedForNaan naan with
  | .ok associated => associated
  | .error _ => false

def Answered (E : CheckEnv) (naan : String) : Prop := E.isAuthorizedForNaan naan = .ok (answersOf E naan)

theorem associationOf_ok {naan : String} {association : String × Bool} (h : associationOf E naan = .ok association) :
    Answered E naan ∧ association = (naan, answersOf E naan) := by
  unfold associationOf at h
  cases hnaan : E.isAuthorizedForNaan naan with
  | error e =>
      rw [hnaan] at h
      cases h
  | ok associated =>
      rw [hnaan] at h
      obtain rfl := Except.ok.inj h
      simp [Answered, answersOf, hnaan]

theorem authorization_ok {naans : List String} {authorization : List (String × Bool)}
    (h : naans.mapM (associationOf E) = .ok authorization) :
    (∀ naan ∈ naans, Answered E naan) ∧ authorization = naans.map fun naan => (naan, answersOf E naan) := by
  induction naans generalizing authorization with
  | nil =>
      obtain rfl := Except.ok.inj h
      simp
  | cons naan naans ih =>
      rw [List.mapM_cons] at h
      cases hnaan : associationOf E naan with
      | error e =>
          rw [hnaan] at h
          cases h
      | ok association =>
          cases hrest : naans.mapM (associationOf E) with
          | error e =>
              rw [hnaan, hrest] at h
              cases h
          | ok rest =>
              rw [hnaan, hrest] at h
              obtain rfl := Except.ok.inj h
              obtain ⟨hanswered, rfl⟩ := associationOf_ok hnaan
              obtain ⟨hall, rfl⟩ := ih hrest
              refine ⟨?_, rfl⟩
              intro other hother
              rcases List.mem_cons.mp hother with rfl | hother
              · exact hanswered
              · exact hall other hother

theorem filterM_ok {f : String → Except Exc Bool} {p : String → Bool} {naans : List String}
    (h : ∀ naan ∈ naans, f naan = .ok (p naan)) : naans.filterM f = .ok (naans.filter p) := by
  have haux : ∀ acc, List.filterAuxM f naans acc = .ok ((naans.filter p).reverse ++ acc) := by
    induction naans with
    | nil => exact fun _ => rfl
    | cons naan naans ih =>
        intro acc
        have hrest := ih fun other hother => h other (List.mem_cons_of_mem _ hother)
        rw [List.filterAuxM, h naan (List.mem_cons_self ..)]
        change List.filterAuxM f naans (bif p naan then naan :: acc else acc) = _
        rw [hrest, List.filter_cons]
        cases p naan <;> simp
  rw [List.filterM, haux []]
  simp [bind, Except.bind, pure, Except.pure]

theorem preflight_answered {authority : Authority} {authorityId : String} {naans : List String}
    (h : ∀ naan ∈ naans, Answered E naan) :
    preflightAuthority authorityId (.ok authority) E.isAuthorizedForNaan naans =
      if authority.active = false then .error ⟨.runtime, "Authority " ++ authorityId ++ " is inactive"⟩
      else if naans.dedup.filter (fun naan => !answersOf E naan) = [] then .ok authority
      else .error ⟨.runtime, "Authority " ++ authorityId ++ " is not authorized for NAAN(s): " ++
        ", ".intercalate ((naans.dedup.filter fun naan => !answersOf E naan).insertionSort (· ≤ ·))⟩ := by
  have hfilter : naans.dedup.filterM (fun naan => (!·) <$> E.isAuthorizedForNaan naan) =
      .ok (naans.dedup.filter fun naan => !answersOf E naan) := by
    apply filterM_ok
    intro naan hnaan
    rw [h naan (List.mem_dedup.mp hnaan)]
    rfl
  unfold preflightAuthority
  simp only [hfilter, bind, Except.bind]
  generalize naans.dedup.filter (fun naan => !answersOf E naan) = missing
  cases authority.active with
  | false => rfl
  | true =>
      by_cases hmissing : missing = []
      · subst hmissing
        rfl
      · simp [hmissing, throw, throwThe, MonadExceptOf.throw]

section Reading

variable {urlparse : String → Except String (String × String)} {limit : Option Nat} {rowNumber : Nat} {row : RawRow}
  {rest : List RawRow} {acc : Reading}

structure From (raw : List RawRow) (acc : Reading) : Prop where
  rows : ∀ row ∈ acc.rows, ∃ r ∈ raw, parseArk (identifierOf r) = .ok row.key
  invalid : ∀ row ∈ acc.invalid, ∃ r ∈ raw, row.darkidentifier = identifierOf r

inductive ReadAs (rowNumber : Nat) (row : RawRow) (acc : Reading) : Reading → Prop
  | bad (url error : String) : ReadAs rowNumber row acc
      { acc with invalid := acc.invalid ++ [⟨rowNumber, identifierOf row, url, error⟩] }
  | good {k : ArkId} (hparse : parseArk (identifierOf row) = .ok k) (url : String) (seen : List (ArkId × Nat)) :
      ReadAs rowNumber row acc
        { acc with rows := acc.rows ++ [⟨rowNumber, k.ark, url, k.naan, k.name⟩], seen }

theorem readRow_as (urlparse : String → Except String (String × String)) (rowNumber : Nat) (row : RawRow)
    (acc : Reading) : ReadAs rowNumber row acc (readRow urlparse rowNumber row acc) := by
  simp only [readRow]
  split
  · exact .bad ..
  · rename_i k hk
    split
    · exact .bad ..
    · split
      · exact .bad ..
      · exact .good hk ..

theorem readRow_from (h : From raw acc) (hrow : row ∈ raw) : From raw (readRow urlparse rowNumber row acc) := by
  have has := readRow_as urlparse rowNumber row acc
  generalize readRow urlparse rowNumber row acc = acc' at has ⊢
  cases has with
  | bad url error =>
      refine ⟨h.rows, fun bad hbad => ?_⟩
      rcases List.mem_append.mp hbad with hbad | hbad
      · exact h.invalid bad hbad
      · obtain rfl := List.mem_singleton.mp hbad
        exact ⟨row, hrow, rfl⟩
  | good hparse url seen =>
      refine ⟨fun good hgood => ?_, h.invalid⟩
      rcases List.mem_append.mp hgood with hgood | hgood
      · exact h.rows good hgood
      · obtain rfl := List.mem_singleton.mp hgood
        exact ⟨row, hrow, hparse⟩

theorem readRows_from (h : From raw acc) (hrest : ∀ row ∈ rest, row ∈ raw) :
    From raw (readRows urlparse limit rowNumber rest acc) := by
  induction rest generalizing rowNumber acc with
  | nil => exact h
  | cons row rest ih =>
      unfold readRows
      split
      · exact h
      · exact ih (readRow_from h (hrest row (List.mem_cons_self ..)))
          fun other hother => hrest other (List.mem_cons_of_mem _ hother)

theorem readRow_keeps (urlparse : String → Except String (String × String)) (rowNumber : Nat) (row : RawRow)
    (acc : Reading) : (∀ good ∈ acc.rows, good ∈ (readRow urlparse rowNumber row acc).rows) ∧
      (acc.invalid ≠ [] → (readRow urlparse rowNumber row acc).invalid ≠ []) := by
  have has := readRow_as urlparse rowNumber row acc
  generalize readRow urlparse rowNumber row acc = acc' at has ⊢
  cases has with
  | bad => exact ⟨fun _ h => h, by simp⟩
  | good => exact ⟨fun _ h => List.mem_append_left _ h, fun h => h⟩

theorem readRow_reads (urlparse : String → Except String (String × String)) (rowNumber : Nat) (row : RawRow)
    (acc : Reading) :
    (∃ good ∈ (readRow urlparse rowNumber row acc).rows, parseArk (identifierOf row) = .ok good.key) ∨
      (readRow urlparse rowNumber row acc).invalid ≠ [] := by
  have has := readRow_as urlparse rowNumber row acc
  generalize readRow urlparse rowNumber row acc = acc' at has ⊢
  cases has with
  | bad => exact .inr (by simp)
  | good hparse => exact .inl ⟨_, List.mem_append_right _ (List.mem_singleton_self _), hparse⟩

theorem readRows_keeps (urlparse : String → Except String (String × String)) (rowNumber : Nat) (rest : List RawRow)
    (acc : Reading) : (∀ good ∈ acc.rows, good ∈ (readRows urlparse none rowNumber rest acc).rows) ∧
      (acc.invalid ≠ [] → (readRows urlparse none rowNumber rest acc).invalid ≠ []) := by
  induction rest generalizing rowNumber acc with
  | nil => exact ⟨fun _ h => h, fun h => h⟩
  | cons row rest ih =>
      obtain ⟨hrows, hinvalid⟩ := readRow_keeps urlparse rowNumber row acc
      obtain ⟨hrows', hinvalid'⟩ := ih (rowNumber + 1) (readRow urlparse rowNumber row acc)
      exact ⟨fun good hgood => hrows' good (hrows good hgood), fun h => hinvalid' (hinvalid h)⟩

theorem readRows_reads (urlparse : String → Except String (String × String)) (rowNumber : Nat) (acc : Reading) :
    ∀ row ∈ rest, (∃ good ∈ (readRows urlparse none rowNumber rest acc).rows,
        parseArk (identifierOf row) = .ok good.key) ∨ (readRows urlparse none rowNumber rest acc).invalid ≠ [] := by
  induction rest generalizing rowNumber acc with
  | nil => intro row hrow; cases hrow
  | cons first rest ih =>
      intro row hrow
      rcases List.mem_cons.mp hrow with rfl | hrow
      · obtain ⟨hrows, hinvalid⟩ := readRows_keeps urlparse (rowNumber + 1) rest (readRow urlparse rowNumber row acc)
        rcases readRow_reads urlparse rowNumber row acc with ⟨good, hgood, hparse⟩ | h
        · exact .inl ⟨good, hrows good hgood, hparse⟩
        · exact .inr (hinvalid h)
      · exact ih (rowNumber + 1) (readRow urlparse rowNumber first acc) row hrow

theorem readCsv_rows {fieldnames : List String} {rows : List ImportRow} {invalid : List InvalidRow}
    (h : readCsv urlparse limit fieldnames raw = .ok (rows, invalid)) :
    rows = (readRows urlparse limit 2 raw {}).rows ∧ invalid = (readRows urlparse limit 2 raw {}).invalid := by
  unfold readCsv at h
  split at h
  · cases h
  · obtain ⟨hrows, hinvalid⟩ := Prod.mk.inj (Except.ok.inj h)
    exact ⟨hrows.symm, hinvalid.symm⟩

theorem readCsv_from {fieldnames : List String} {rows : List ImportRow} {invalid : List InvalidRow}
    (h : readCsv urlparse limit fieldnames raw = .ok (rows, invalid)) :
    (∀ row ∈ rows, ∃ r ∈ raw, parseArk (identifierOf r) = .ok row.key) ∧
      ∀ row ∈ invalid, ∃ r ∈ raw, row.darkidentifier = identifierOf r := by
  obtain ⟨rfl, rfl⟩ := readCsv_rows h
  have hempty : From raw {} := ⟨by simp, by simp⟩
  have hfrom : From raw (readRows urlparse limit 2 raw {}) := readRows_from hempty fun _ hrow => hrow
  exact ⟨hfrom.rows, hfrom.invalid⟩

end Reading

section Verdict

variable {outcome : Outcome} {finding : Finding} {fieldnames : List String} {authorityId : String}

theorem main_answers (h : (main args E).exitCode ≠ 2) :
    ∃ outcome, checkFile args E = .ok outcome ∧ main args E = outcome := by
  unfold main at h ⊢
  cases hrefusal : refusal args E with
  | some error =>
      rw [hrefusal] at h
      exact absurd rfl h
  | none =>
      rw [hrefusal] at h
      cases hcheck : checkFile args E with
      | error e =>
          rw [hcheck] at h
          exact absurd rfl h
      | ok outcome => exact ⟨outcome, rfl, rfl⟩

theorem checkFile_ok (hfile : E.file = .ok (fieldnames, raw)) (h : checkFile args E = .ok outcome) :
    ∃ scan finding, scanNaans fieldnames raw = .ok scan ∧ find args E scan = .ok finding ∧
      outcome.exitCode = (if scan.invalidRows ≠ [] ∨ finding.failed = true then 1 else 0) ∧
      outcome.rows = finding.rows := by
  simp only [checkFile, hfile, bind, Except.bind] at h
  cases hscan : scanNaans fieldnames raw with
  | error e =>
      rw [hscan] at h
      cases h
  | ok scan =>
      simp only [hscan] at h
      split at h
      · cases h
      · cases hfinding : find args E scan with
        | error e =>
            simp only [hfinding] at h
            cases h
        | ok finding =>
            simp only [hfinding] at h
            cases hwrite : E.write with
            | error e =>
                simp only [hwrite] at h
                cases h
            | ok =>
                simp only [hwrite] at h
                obtain rfl := Except.ok.inj h
                exact ⟨scan, finding, rfl, hfinding, rfl, rfl⟩

def unassociated (E : CheckEnv) (naans : List String) : List String := naans.filter fun naan => !answersOf E naan

theorem missingOf_answers (naans : List String) :
    missingOf (naans.map fun naan => (naan, answersOf E naan)) = unassociated E naans := by
  rw [missingOf, List.filter_map, List.map_map]
  exact List.map_id' _

theorem find_ok (hgiven : given args.authorityId = true) (h : find args E scan = .ok finding) :
    ∃ authority, E.authority = .ok authority ∧ (∀ naan ∈ scan.naans, Answered E naan) ∧
      (finding.failed = true ↔ authority.active = false ∨ unassociated E scan.naans ≠ []) ∧
      (args.onlyMissing = true → finding.rows.map Prod.fst = unassociated E scan.naans) := by
  rw [find, if_pos hgiven] at h
  unfold findAssociated at h
  cases horchestrator : E.orchestrator with
  | error e =>
      rw [horchestrator] at h
      cases h
  | ok =>
      cases hauthority : E.authority with
      | error e =>
          simp only [horchestrator, checkAuthorityNaans, hauthority, bind, Except.bind] at h
          cases h
      | ok authority =>
          cases hauthorization : scan.naans.mapM (associationOf E) with
          | error e =>
              simp only [horchestrator, checkAuthorityNaans, hauthority, hauthorization, bind, Except.bind] at h
              cases h
          | ok authorization =>
              simp only [horchestrator, checkAuthorityNaans, hauthority, hauthorization, bind, Except.bind] at h
              obtain rfl := Except.ok.inj h
              obtain ⟨hanswered, rfl⟩ := authorization_ok hauthorization
              refine ⟨authority, rfl, hanswered, ?_, fun honly => ?_⟩
              · simp only [missingOf_answers]
                cases authority.active <;> simp
              · simp only [honly, if_true, List.map_map]
                exact missingOf_answers scan.naans

theorem main_checked (hfile : E.file = .ok (fieldnames, raw)) (hid : args.authorityId = some authorityId)
    (hne : authorityId ≠ "") (h : (main args E).exitCode ≠ 2) :
    ∃ scan authority, Scanned raw scan ∧ E.authority = .ok authority ∧ (∀ naan ∈ scan.naans, Answered E naan) ∧
      ((main args E).exitCode = 0 ↔
        scan.invalidRows = [] ∧ authority.active = true ∧ unassociated E scan.naans = []) ∧
      (args.onlyMissing = true → (main args E).rows.map Prod.fst = unassociated E scan.naans) := by
  obtain ⟨outcome, hcheck, hmain⟩ := main_answers h
  obtain ⟨scan, finding, hscan, hfind, hexit, hrows⟩ := checkFile_ok hfile hcheck
  have hgiven : given args.authorityId = true := by simp [given, hid, hne]
  obtain ⟨authority, hauthority, hanswered, hfailed, honly⟩ := find_ok hgiven hfind
  refine ⟨scan, authority, scanNaans_ok hscan, hauthority, hanswered, ?_, ?_⟩
  · rw [hmain, hexit]
    by_cases hbad : scan.invalidRows ≠ [] ∨ finding.failed = true
    · rw [if_pos hbad]
      rw [hfailed] at hbad
      refine ⟨fun hone => absurd hone Nat.one_ne_zero, ?_⟩
      rintro ⟨hvalid, hactive, hnone⟩
      rcases hbad with hbad | hbad | hbad
      · exact absurd hvalid hbad
      · rw [hactive] at hbad
        cases hbad
      · exact absurd hnone hbad
    · rw [if_neg hbad]
      rw [hfailed] at hbad
      simp only [not_or, not_not, Bool.not_eq_false] at hbad
      exact ⟨fun _ => hbad, fun _ => rfl⟩
  · rw [hmain, hrows]
    exact honly

/-- Where the check exits with 0, the preflight of an import for the authority passes, however much of
the file is imported and whatever its URLs are, and no row is refused for its ARK's spelling. -/
theorem check_clears_import (hfile : E.file = .ok (fieldnames, raw)) (hid : args.authorityId = some authorityId)
    (hne : authorityId ≠ "") (h : (main args E).exitCode = 0) :
    ∀ urlparse limit rows invalid, readCsv urlparse limit fieldnames raw = .ok (rows, invalid) →
      (∃ authority, preflightAuthority authorityId E.authority E.isAuthorizedForNaan (rows.map (·.naan)) =
        .ok authority) ∧
      ∀ row ∈ invalid, ∃ k, parseArk row.darkidentifier = .ok k := by
  intro urlparse limit rows invalid hread
  obtain ⟨scan, authority, hscan, hauthority, hanswered, hexit, -⟩ := main_checked hfile hid hne (by rw [h]; decide)
  obtain ⟨hvalid, hactive, hnone⟩ := hexit.mp h
  obtain ⟨hrows, hinvalid⟩ := readCsv_from hread
  have hnaans : ∀ naan ∈ rows.map (·.naan), naan ∈ scan.naans := by
    intro naan hnaan
    obtain ⟨row, hrow, rfl⟩ := List.mem_map.mp hnaan
    obtain ⟨r, hr, hparse⟩ := hrows row hrow
    exact (hscan.mem _).mpr ⟨r, hr, row.key, hparse, rfl⟩
  constructor
  · refine ⟨authority, ?_⟩
    rw [hauthority, preflight_answered fun naan hnaan => hanswered naan (hnaans naan hnaan), if_neg (by simp [hactive]),
      if_pos]
    rw [List.filter_eq_nil_iff]
    intro naan hnaan
    exact List.filter_eq_nil_iff.mp hnone naan (hnaans naan (List.mem_dedup.mp hnaan))
  · intro row hrow
    obtain ⟨r, hr, hsame⟩ := hinvalid row hrow
    rw [hsame]
    exact hscan.valid.mp hvalid r hr

theorem scan_of_importable {urlparse : String → Except String (String × String)} {rows : List ImportRow}
    (hscan : Scanned raw scan) (hread : readCsv urlparse none fieldnames raw = .ok (rows, [])) :
    scan.invalidRows = [] ∧ ∀ naan, naan ∈ rows.map (·.naan) ↔ naan ∈ scan.naans := by
  obtain ⟨hrows, -⟩ := readCsv_from hread
  obtain ⟨hread, hclean⟩ := readCsv_rows hread
  have hall : ∀ r ∈ raw, ∃ row ∈ rows, parseArk (identifierOf r) = .ok row.key := by
    intro r hr
    rw [hread]
    exact (readRows_reads urlparse 2 {} r hr).resolve_right fun hne => hne hclean.symm
  constructor
  · refine hscan.valid.mpr fun r hr => ?_
    obtain ⟨row, -, hparse⟩ := hall r hr
    exact ⟨row.key, hparse⟩
  · intro naan
    rw [hscan.mem, List.mem_map]
    constructor
    · rintro ⟨row, hrow, rfl⟩
      obtain ⟨r, hr, hparse⟩ := hrows row hrow
      exact ⟨r, hr, row.key, hparse, rfl⟩
    · rintro ⟨r, hr, k, hparse, rfl⟩
      obtain ⟨row, hrow, hparse'⟩ := hall r hr
      obtain rfl := Except.ok.inj (hparse.symm.trans hparse')
      exact ⟨row, hrow, rfl⟩

theorem unassociated_sorted {naans : List String} (hscan : Scanned raw scan)
    (hnaans : ∀ naan, naan ∈ naans ↔ naan ∈ scan.naans) :
    (naans.dedup.filter fun naan => !answersOf E naan).insertionSort (· ≤ ·) = unassociated E scan.naans := by
  refine List.Perm.eq_of_pairwise (fun _ _ _ _ => String.le_antisymm) (List.pairwise_insertionSort _ _)
    (hscan.sorted.filter _) ((List.perm_insertionSort _ _).trans ?_)
  refine (List.perm_ext_iff_of_nodup ((List.nodup_dedup _).filter _) (hscan.nodup.filter _)).mpr fun naan => ?_
  simp only [List.mem_filter, List.mem_dedup, hnaans]

/-- On a file whose rows are all importable the check tells what the preflight of its import does: whether
it passes, and which NAANs it names where it does not. -/
theorem check_predicts_import {urlparse : String → Except String (String × String)} {rows : List ImportRow}
    (hfile : E.file = .ok (fieldnames, raw)) (hid : args.authorityId = some authorityId) (hne : authorityId ≠ "")
    (h : (main args E).exitCode ≠ 2) (hread : readCsv urlparse none fieldnames raw = .ok (rows, [])) :
    ((main args E).exitCode = 0 ↔ ∃ authority,
      preflightAuthority authorityId E.authority E.isAuthorizedForNaan (rows.map (·.naan)) = .ok authority) ∧
    (args.onlyMissing = true → ∀ e,
      preflightAuthority authorityId E.authority E.isAuthorizedForNaan (rows.map (·.naan)) = .error e →
        e.text = "Authority " ++ authorityId ++ " is inactive" ∨
        e.text = "Authority " ++ authorityId ++ " is not authorized for NAAN(s): " ++
          ", ".intercalate ((main args E).rows.map Prod.fst)) := by
  obtain ⟨scan, authority, hscan, hauthority, hanswered, hexit, honly⟩ := main_checked hfile hid hne h
  obtain ⟨hvalid, hnaans⟩ := scan_of_importable hscan hread
  have hpreflight := @preflight_answered E authority authorityId (rows.map (·.naan))
    fun naan hnaan => hanswered naan ((hnaans naan).mp hnaan)
  have hempty : (rows.map (·.naan)).dedup.filter (fun naan => !answersOf E naan) = [] ↔
      unassociated E scan.naans = [] := by
    simp only [unassociated, List.filter_eq_nil_iff, List.mem_dedup, hnaans]
  rw [hauthority, hpreflight]
  refine ⟨?_, fun hmissing e he => ?_⟩
  · rw [hexit]
    constructor
    · rintro ⟨-, hactive, hnone⟩
      exact ⟨authority, by rw [if_neg (by simp [hactive]), if_pos (hempty.mpr hnone)]⟩
    · rintro ⟨found, hfound⟩
      split at hfound
      · cases hfound
      · split at hfound
        · exact ⟨hvalid, by simpa using ‹¬authority.active = false›, hempty.mp ‹_›⟩
        · cases hfound
  · split at he
    · obtain rfl := Except.error.inj he
      exact .inl rfl
    · split at he
      · cases he
      · obtain rfl := Except.error.inj he
        refine .inr ?_
        rw [honly hmissing, unassociated_sorted hscan hnaans]

end Verdict

section Sample

def twoNaans : List RawRow :=
  [⟨some "ark:/1/a", some "http://x"⟩, ⟨some "ark:2/b", some "http://y"⟩]

def asked (associated : String → Bool) : CheckEnv where
  isFile _ := true
  file := .ok (["darkidentifier", "itemurl"], twoNaans)
  authority := .ok ⟨"w", true⟩
  isAuthorizedForNaan naan := .ok (associated naan)

def sampleArgs : Args where
  csvFile := "arks.csv"
  authorityId := some "A"
  onlyMissing := true

theorem sample_id : "A" ≠ "" := by decide

def plainUrl (url : String) : Except String (String × String) := .ok ("http", url)

theorem twoNaans_read : ∃ rows, readCsv plainUrl none ["darkidentifier", "itemurl"] twoNaans = .ok (rows, []) :=
  ⟨_, rfl⟩

theorem check_clears_import_sample : (main sampleArgs (asked fun _ => true)).exitCode = 0 ∧
    ∃ rows authority, readCsv plainUrl none ["darkidentifier", "itemurl"] twoNaans = .ok (rows, []) ∧
      preflightAuthority "A" (asked fun _ => true).authority (asked fun _ => true).isAuthorizedForNaan
        (rows.map (·.naan)) = .ok authority := by
  have hexit : (main sampleArgs (asked fun _ => true)).exitCode = 0 := by decide
  obtain ⟨rows, hread⟩ := twoNaans_read
  obtain ⟨⟨authority, hpasses⟩, -⟩ :=
    check_clears_import (E := asked fun _ => true) rfl rfl sample_id hexit plainUrl none rows [] hread
  exact ⟨hexit, rows, authority, hread, hpasses⟩

theorem check_predicts_import_sample : (main sampleArgs (asked fun naan => naan = "1")).exitCode = 1 ∧
    (main sampleArgs (asked fun naan => naan = "1")).rows.map Prod.fst = ["2"] ∧
    ∃ rows, readCsv plainUrl none ["darkidentifier", "itemurl"] twoNaans = .ok (rows, []) ∧
      ¬∃ authority, preflightAuthority "A" (asked fun naan => naan = "1").authority
        (asked fun naan => naan = "1").isAuthorizedForNaan (rows.map (·.naan)) = .ok authority := by
  have hexit : (main sampleArgs (asked fun naan => naan = "1")).exitCode = 1 := by decide
  obtain ⟨rows, hread⟩ := twoNaans_read
  refine ⟨hexit, by decide, rows, hread, fun hpasses => ?_⟩
  have hzero := (check_predicts_import (E := asked fun naan => naan = "1") rfl rfl sample_id
    (by rw [hexit]; decide) hread).1.mpr hpasses
  rw [hexit] at hzero
  cases hzero

end Sample

end DarkMinter.NaanCheck
