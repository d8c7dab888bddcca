import DarkMinter.ImportCsv
import DarkMinter.Lib.Journal
import DarkMinter.Lib.Runs
import DarkMinter.Processing
import Mathlib.Data.List.Dedup
import Mathlib.Data.List.Sort
import Mathlib.Logic.Function.Basic

namespace DarkMinter.ImportRuns

open Lib Journal Runs Text Records Processing ImportCsv

inductive RowStatus
  | invalid
  | conflictOwner
  | conflictUrl
  | skippedSameUrl
  | validated
  | created
  | failed
  deriving DecidableEq

structure ResultRow where
  row : Nat
  darkidentifier : String
  itemurl : String
  naan : String := ""
  name : String := ""
  status : RowStatus
  owner : String := ""
  error : String := ""
  deriving DecidableEq

structure OnChain where
  owner : String
  url : String
  cid : String
  deriving DecidableEq

/-- What outlives a run: the chain, and the results file. -/
structure Disk where
  chain : ArkId → Option OnChain
  results : List ResultRow := []

/-- The instructions of a run that something can come between. -/
inductive Op
  | openResults
  | writeResult (r : ResultRow)
  | arkExists (k : ArkId)
  | getArk (k : ArkId)
  | createArk (k : ArkId)
  | close
  deriving DecidableEq

def Op.isCallFor (k : ArkId) (op : Op) : Bool := op ∈ [.arkExists k, .getArk k, .createArk k]

inductive CreateOutcome
  | returns
  | raisesBefore (e : Exc)
  | raisesAfter (e : Exc)

structure RowCalls where
  arkExists : Option Exc := none
  getArk : Option Exc := none
  createArk : CreateOutcome := .returns

section

variable [PyLower]

/-- The authority of the import, and the spelling of its wallet in what the chain reports. -/
structure Importer where
  authorityId : String
  walletAddress : String
  owner : String
  owner_eq : lower owner = lower walletAddress

structure Authority where
  walletAddress : String
  active : Bool

structure RunEnv where
  execute : Bool := true
  authority : Except Exc Bool := .ok true
  isAuthorizedForNaan : String → Except Exc Bool := fun _ => .ok true
  calls : ImportRow → RowCalls := fun _ => {}

inductive Counter
  | created
  | validated
  | skipped
  | conflict
  | failed
  | resumed

structure Counts where
  created : Nat := 0
  validated : Nat := 0
  skipped : Nat := 0
  conflict : Nat := 0
  invalid : Nat
  failed : Nat := 0
  resumed : Nat := 0

def Counts.count (counts : Counts) : Counter → Counts
  | .created => { counts with created := counts.created + 1 }
  | .validated => { counts with validated := counts.validated + 1 }
  | .skipped => { counts with skipped := counts.skipped + 1 }
  | .conflict => { counts with conflict := counts.conflict + 1 }
  | .failed => { counts with failed := counts.failed + 1 }
  | .resumed => { counts with resumed := counts.resumed + 1 }

def Counts.total (counts : Counts) : Nat :=
  counts.created + counts.validated + counts.skipped + counts.conflict + counts.invalid + counts.failed +
    counts.resumed

abbrev Run := Prog Disk Op Exc

def resumable (status : RowStatus) : Bool := status ∈ [.created, .skippedSameUrl]

def completedEntry (r : ResultRow) : Except Exc (String × String × String) :=
  match parseArk r.darkidentifier with
  | .ok k => .ok (k.ark, strip r.itemurl, lower (strip r.owner))
  | .error text => .error (valueError text)

def addCompleted (completed : List (String × String × String)) (r : ResultRow) :
    Except Exc (List (String × String × String)) := do
  let entry ← completedEntry r
  return Dict.set completed entry.1 entry.2

def loadCompleted (results : List ResultRow) : Except Exc (List (String × String × String)) :=
  (results.filter fun r => resumable r.status).foldlM addCompleted []

def preflightAuthority (authorityId : String) (authority : Except Exc Authority)
    (isAuthorizedForNaan : String → Except Exc Bool) (naans : List String) : Except Exc Authority := do
  let found ← authority
  if !found.active then
    throw ⟨.runtime, "Authority " ++ authorityId ++ " is inactive"⟩
  let unauthorized ← naans.dedup.filterM fun naan => (!·) <$> isAuthorizedForNaan naan
  if unauthorized ≠ [] then
    throw ⟨.runtime, "Authority " ++ authorityId ++ " is not authorized for NAAN(s): " ++
      ", ".intercalate (unauthorized.insertionSort (· ≤ ·))⟩
  return found

def writeResult (r : ResultRow) : Run Unit :=
  .perform (.writeResult r) fun d => (.ok (), { d with results := d.results ++ [r] })

def answer {α : Type} (failure : Option Exc) (value : α) : Except Exc α :=
  match failure with
  | some e => .error e
  | none => .ok value

def arkExists (calls : RowCalls) (k : ArkId) : Run Bool :=
  .perform (.arkExists k) fun d => (answer calls.arkExists (d.chain k).isSome, d)

/-- The ARK of a call to `get_ark`, which nothing has removed since `ark_exists`. -/
def getArk (calls : RowCalls) (k : ArkId) : Run OnChain :=
  .perform (.getArk k) fun d =>
    match d.chain k with
    | some existing => (answer calls.getArk existing, d)
    | none => (.error ⟨.arkNotFound, "ARK not found: " ++ k.ark⟩, d)

def createArk (cfg : Importer) (calls : RowCalls) (row : ImportRow) : Run OnChain :=
  .perform (.createArk row.key) fun d =>
    let created : OnChain := ⟨cfg.owner, row.itemurl, ""⟩
    let done := { d with chain := Function.update d.chain row.key (some created) }
    match calls.createArk with
    | .returns => (.ok created, done)
    | .raisesBefore e => (.error e, d)
    | .raisesAfter e => (.error e, done)

def rowResult (row : ImportRow) (status : RowStatus) (owner error : String) : ResultRow :=
  ⟨row.rowNumber, row.darkidentifier, row.itemurl, row.naan, row.name, status, owner, error⟩

def tryRow (cfg : Importer) (execute : Bool) (calls : RowCalls) (row : ImportRow) : Run Counter := do
  if ← arkExists calls row.key then
    let existing ← getArk calls row.key
    if lower existing.owner ≠ lower cfg.walletAddress then
      writeResult (rowResult row .conflictOwner existing.owner "ARK is owned by another wallet")
      return .conflict
    else if existing.url ≠ row.itemurl then
      writeResult (rowResult row .conflictUrl existing.owner ("Existing URL: " ++ existing.url))
      return .conflict
    else
      writeResult (rowResult row .skippedSameUrl existing.owner "")
      return .skipped
  else if !execute then
    writeResult (rowResult row .validated cfg.walletAddress "")
    return .validated
  else
    let created ← createArk cfg calls row
    writeResult (rowResult row .created created.owner "")
    return .created

/-- One round of the loop over the rows. Each branch counts its row once: writing a result row does
not raise, and the chain library returns well-formed objects. -/
def importRow (cfg : Importer) (E : RunEnv) (completed : List (String × String × String)) (counts : Counts)
    (row : ImportRow) : Run Counts := do
  if Dict.get completed row.darkidentifier = some (row.itemurl, lower cfg.walletAddress) then
    return counts.count .resumed
  let counter ← Prog.catching (tryRow cfg E.execute (E.calls row) row) fun e => do
    writeResult (rowResult row .failed "" e.text)
    return .failed
  return counts.count counter

def invalidResult (row : InvalidRow) : ResultRow :=
  { row := row.rowNumber, darkidentifier := row.darkidentifier, itemurl := row.itemurl, status := .invalid
    error := row.error }

def importRows (cfg : Importer) (rows : List ImportRow) (invalidRows : List InvalidRow) (E : RunEnv) : Run Counts := do
  let _ ← Prog.lift (preflightAuthority cfg.authorityId
    (E.authority.map fun active => ⟨cfg.walletAddress, active⟩) E.isAuthorizedForNaan (rows.map (·.naan)))
  let results := (← Prog.read).results
  let completed ← Prog.lift (if E.execute then loadCompleted results else .ok [])
  Prog.perform .openResults fun d => (.ok (), d)
  invalidRows.foldlM (fun _ row => writeResult (invalidResult row)) ()
  let counts ← rows.foldlM (importRow cfg E completed) { invalid := invalidRows.length }
  Prog.perform .close fun d => (.ok (), d)
  return counts

structure Interrupted where
  env : RunEnv
  point : Nat

def step (cfg : Importer) (rows : List ImportRow) (invalidRows : List InvalidRow) (d : Disk) (a : Interrupted) :
    Option Disk :=
  ((importRows cfg rows invalidRows a.env d).points[a.point]?).map (·.state)

def Imported (cfg : Importer) (row : ImportRow) (chain : ArkId → Option OnChain) : Prop :=
  ∃ found, chain row.key = some found ∧ found.url = row.itemurl ∧ lower found.owner = lower cfg.walletAddress

/-- The ARK of the row was there before, with another owner or another URL. -/
def Conflict (cfg : Importer) (row : ImportRow) (chain : ArkId → Option OnChain) : Prop :=
  ∃ found, chain row.key = some found ∧
    (lower found.owner ≠ lower cfg.walletAddress ∨ found.url ≠ row.itemurl)

/-- What holds of the stored state however the runs before it ended: the chain is the starting one
with ARKs of rows added to it, and what the results file calls done is done. -/
structure Faithful (cfg : Importer) (rows : List ImportRow) (start : ArkId → Option OnChain) (d : Disk) : Prop where
  chain : ∀ k, d.chain k = start k ∨
    start k = none ∧ ∃ row ∈ rows, row.key = k ∧ d.chain k = some ⟨cfg.owner, row.itemurl, ""⟩
  results : ∀ r ∈ d.results, resumable r.status = true →
    ∃ row ∈ rows, r.darkidentifier = row.darkidentifier ∧ Imported cfg row d.chain

def Extends (chain chain' : ArkId → Option OnChain) : Prop := ∀ k found, chain k = some found → chain' k = some found

variable {cfg : Importer} {rows : List ImportRow} {invalidRows : List InvalidRow} {start : ArkId → Option OnChain}
  {d : Disk} {row : ImportRow} {calls : RowCalls} {execute : Bool}

theorem Imported.mono {chain chain' : ArkId → Option OnChain} (h : Imported cfg row chain)
    (hext : Extends chain chain') : Imported cfg row chain' := by
  obtain ⟨found, hfound, hrest⟩ := h
  exact ⟨found, hext _ _ hfound, hrest⟩

def appended (d : Disk) (r : ResultRow) : Disk := { d with results := d.results ++ [r] }

def createdIn (cfg : Importer) (row : ImportRow) (d : Disk) : Disk :=
  { d with chain := Function.update d.chain row.key (some ⟨cfg.owner, row.itemurl, ""⟩) }

inductive Tried (cfg : Importer) (execute : Bool) (row : ImportRow) (d : Disk) : Trace Disk Op Exc Counter → Prop
  | existsFails (e : Exc) : Tried cfg execute row d ⟨[⟨d, .arkExists row.key, true⟩], .error e, d⟩
  | getFails (e : Exc) :
      Tried cfg execute row d ⟨[⟨d, .arkExists row.key, false⟩, ⟨d, .getArk row.key, true⟩], .error e, d⟩
  | conflict (r : ResultRow) (hstatus : resumable r.status = false) (hconflict : Conflict cfg row d.chain) :
      Tried cfg execute row d
        ⟨[⟨d, .arkExists row.key, false⟩, ⟨d, .getArk row.key, false⟩, ⟨d, .writeResult r, false⟩], .ok .conflict,
          appended d r⟩
  | skipped (r : ResultRow) (hark : r.darkidentifier = row.darkidentifier) (himported : Imported cfg row d.chain) :
      Tried cfg execute row d
        ⟨[⟨d, .arkExists row.key, false⟩, ⟨d, .getArk row.key, false⟩, ⟨d, .writeResult r, false⟩], .ok .skipped,
          appended d r⟩
  | validated (r : ResultRow) (hstatus : resumable r.status = false) (hdry : execute = false) :
      Tried cfg execute row d
        ⟨[⟨d, .arkExists row.key, false⟩, ⟨d, .writeResult r, false⟩], .ok .validated, appended d r⟩
  | createFails (e : Exc) (hfree : d.chain row.key = none) :
      Tried cfg execute row d ⟨[⟨d, .arkExists row.key, false⟩, ⟨d, .createArk row.key, true⟩], .error e, d⟩
  | createFailsLate (e : Exc) (hfree : d.chain row.key = none) :
      Tried cfg execute row d
        ⟨[⟨d, .arkExists row.key, false⟩, ⟨d, .createArk row.key, true⟩], .error e, createdIn cfg row d⟩
  | created (r : ResultRow) (hark : r.darkidentifier = row.darkidentifier) (hfree : d.chain row.key = none) :
      Tried cfg execute row d
        ⟨[⟨d, .arkExists row.key, false⟩, ⟨d, .createArk row.key, false⟩,
          ⟨createdIn cfg row d, .writeResult r, false⟩], .ok .created, appended (createdIn cfg row d) r⟩

theorem tryRow_found {existing : OnChain} (hexists : calls.arkExists = none)
    (hchain : d.chain row.key = some existing) : Tried cfg execute row d (tryRow cfg execute calls row d) := by
  cases hget : calls.getArk with
  | some e =>
      have hrun : tryRow cfg execute calls row d =
          ⟨[⟨d, .arkExists row.key, false⟩, ⟨d, .getArk row.key, true⟩], .error e, d⟩ := by
        simp [tryRow, arkExists, getArk, Bind.bind, Prog.bind, Prog.perform, answer, hexists, hchain, hget]
      exact hrun ▸ .getFails e
  | none =>
      by_cases howner : lower existing.owner = lower cfg.walletAddress
      · by_cases hurl : existing.url = row.itemurl
        · have hrun : tryRow cfg execute calls row d =
              ⟨[⟨d, .arkExists row.key, false⟩, ⟨d, .getArk row.key, false⟩,
                ⟨d, .writeResult (rowResult row .skippedSameUrl existing.owner ""), false⟩], .ok .skipped,
                appended d (rowResult row .skippedSameUrl existing.owner "")⟩ := by
            simp [tryRow, arkExists, getArk, writeResult, Bind.bind, Prog.bind, Prog.perform, answer, appended,
              hexists, hchain, hget, howner, hurl]
          exact hrun ▸ .skipped _ rfl ⟨existing, hchain, hurl, howner⟩
        · have hrun : tryRow cfg execute calls row d =
              ⟨[⟨d, .arkExists row.key, false⟩, ⟨d, .getArk row.key, false⟩,
                ⟨d, .writeResult (rowResult row .conflictUrl existing.owner ("Existing URL: " ++ existing.url)),
                  false⟩],
                .ok .conflict,
                appended d (rowResult row .conflictUrl existing.owner ("Existing URL: " ++ existing.url))⟩ := by
            simp [tryRow, arkExists, getArk, writeResult, Bind.bind, Prog.bind, Prog.perform, answer, appended,
              hexists, hchain, hget, howner, hurl]
          exact hrun ▸ .conflict _ rfl ⟨existing, hchain, .inr hurl⟩
      · have hrun : tryRow cfg execute calls row d =
            ⟨[⟨d, .arkExists row.key, false⟩, ⟨d, .getArk row.key, false⟩,
              ⟨d, .writeResult (rowResult row .conflictOwner existing.owner "ARK is owned by another wallet"), false⟩],
              .ok .conflict,
              appended d (rowResult row .conflictOwner existing.owner "ARK is owned by another wallet")⟩ := by
          simp [tryRow, arkExists, getArk, writeResult, Bind.bind, Prog.bind, Prog.perform, answer, appended,
            hexists, hchain, hget, howner]
        exact hrun ▸ .conflict _ rfl ⟨existing, hchain, .inl howner⟩

theorem tryRow_absent (hexists : calls.arkExists = none) (hchain : d.chain row.key = none) :
    Tried cfg execute row d (tryRow cfg execute calls row d) := by
  cases execute with
  | false =>
      have hrun : tryRow cfg false calls row d =
          ⟨[⟨d, .arkExists row.key, false⟩, ⟨d, .writeResult (rowResult row .validated cfg.walletAddress ""), false⟩],
            .ok .validated, appended d (rowResult row .validated cfg.walletAddress "")⟩ := by
        simp [tryRow, arkExists, writeResult, Bind.bind, Prog.bind, Prog.perform, answer, appended, hexists, hchain]
      exact hrun ▸ .validated _ rfl rfl
  | true =>
      cases hcreate : calls.createArk with
      | returns =>
          have hrun : tryRow cfg true calls row d =
              ⟨[⟨d, .arkExists row.key, false⟩, ⟨d, .createArk row.key, false⟩,
                ⟨createdIn cfg row d, .writeResult (rowResult row .created cfg.owner ""), false⟩], .ok .created,
                appended (createdIn cfg row d) (rowResult row .created cfg.owner "")⟩ := by
            simp [tryRow, arkExists, createArk, writeResult, Bind.bind, Prog.bind, Prog.perform, answer, appended,
              createdIn, hexists, hchain, hcreate]
          exact hrun ▸ .created _ rfl hchain
      | raisesBefore e =>
          have hrun : tryRow cfg true calls row d =
              ⟨[⟨d, .arkExists row.key, false⟩, ⟨d, .createArk row.key, true⟩], .error e, d⟩ := by
            simp [tryRow, arkExists, createArk, Bind.bind, Prog.bind, Prog.perform, answer, hexists, hchain, hcreate]
          exact hrun ▸ .createFails e hchain
      | raisesAfter e =>
          have hrun : tryRow cfg true calls row d =
              ⟨[⟨d, .arkExists row.key, false⟩, ⟨d, .createArk row.key, true⟩], .error e, createdIn cfg row d⟩ := by
            simp [tryRow, arkExists, createArk, Bind.bind, Prog.bind, Prog.perform, answer, createdIn, hexists, hchain,
              hcreate]
          exact hrun ▸ .createFailsLate e hchain

theorem tryRow_tried : Tried cfg execute row d (tryRow cfg execute calls row d) := by
  cases hexists : calls.arkExists with
  | some e =>
      have hrun : tryRow cfg execute calls row d = ⟨[⟨d, .arkExists row.key, true⟩], .error e, d⟩ := by
        simp [tryRow, arkExists, Bind.bind, Prog.bind, Prog.perform, answer, hexists]
      exact hrun ▸ .existsFails e
  | none =>
      cases hchain : d.chain row.key with
      | some existing => exact tryRow_found hexists hchain
      | none => exact tryRow_absent hexists hchain

/-- The state of a point is faithful, and an ARK that is about to be created is not on the chain. -/
def Safe (cfg : Importer) (rows : List ImportRow) (start : ArkId → Option OnChain) (p : Point Disk Op) : Prop :=
  Faithful cfg rows start p.state ∧ ∀ k, p.next = .createArk k → p.state.chain k = none

def CallFailed (row : ImportRow) (points : List (Point Disk Op)) : Prop :=
  ∃ p ∈ points, p.failed = true ∧ p.next.isCallFor row.key = true

structure RowKept (cfg : Importer) (rows : List ImportRow) (start : ArkId → Option OnChain) (d : Disk)
    (points : List (Point Disk Op)) (t : Disk) : Prop where
  safe : ∀ p ∈ points, Safe cfg rows start p
  faithful : Faithful cfg rows start t
  grows : Extends d.chain t.chain

omit [PyLower] in
theorem extends_refl {chain : ArkId → Option OnChain} : Extends chain chain := fun _ _ h => h

omit [PyLower] in
theorem Extends.trans {chain chain' chain'' : ArkId → Option OnChain} (h : Extends chain chain')
    (h' : Extends chain' chain'') : Extends chain chain'' :=
  fun k found hfound => h' k found (h k found hfound)

theorem faithful_appended {r : ResultRow} (h : Faithful cfg rows start d)
    (hr : resumable r.status = true →
      ∃ row ∈ rows, r.darkidentifier = row.darkidentifier ∧ Imported cfg row d.chain) :
    Faithful cfg rows start (appended d r) := by
  refine ⟨h.chain, fun r' hmem hstatus => ?_⟩
  rcases List.mem_append.mp hmem with hmem | hmem
  · exact h.results r' hmem hstatus
  · obtain rfl := List.mem_singleton.mp hmem
    exact hr hstatus

theorem createdIn_extends (hfree : d.chain row.key = none) : Extends d.chain (createdIn cfg row d).chain := by
  intro k found hfound
  have hne : k ≠ row.key := by
    rintro rfl
    simp [hfree] at hfound
  exact (Function.update_of_ne hne ..).trans hfound

theorem createdIn_imported : Imported cfg row (createdIn cfg row d).chain :=
  ⟨⟨cfg.owner, row.itemurl, ""⟩, Function.update_self .., rfl, cfg.owner_eq⟩

theorem faithful_createdIn (h : Faithful cfg rows start d) (hrow : row ∈ rows) (hfree : d.chain row.key = none) :
    Faithful cfg rows start (createdIn cfg row d) := by
  constructor
  · intro k
    by_cases hk : k = row.key
    · subst hk
      have hstart : start row.key = none := by
        rcases h.chain row.key with hsame | ⟨hnone, -⟩
        · rw [← hsame, hfree]
        · exact hnone
      exact .inr ⟨hstart, row, hrow, rfl, Function.update_self ..⟩
    · have hsame : (createdIn cfg row d).chain k = d.chain k := Function.update_of_ne hk ..
      rw [hsame]
      exact h.chain k
  · intro r hr hstatus
    obtain ⟨row', hrow', hark, himported⟩ := h.results r hr hstatus
    exact ⟨row', hrow', hark, himported.mono (createdIn_extends hfree)⟩

theorem conflict_start (h : Faithful cfg rows start d) (hrows : Importable rows) (hrow : row ∈ rows)
    (hconflict : Conflict cfg row d.chain) : Conflict cfg row start := by
  obtain ⟨found, hfound, hdiffers⟩ := hconflict
  rcases h.chain row.key with hsame | ⟨-, row', hrow', hkey, hchain⟩
  · exact ⟨found, hsame ▸ hfound, hdiffers⟩
  · obtain rfl : row' = row := List.inj_on_of_nodup_map hrows.distinct hrow' hrow hkey
    obtain rfl := Option.some.inj (hfound.symm.trans hchain)
    rcases hdiffers with howner | hurl
    · exact absurd cfg.owner_eq howner
    · exact absurd rfl hurl

theorem safe_of_ne {p : Point Disk Op} (h : Faithful cfg rows start p.state)
    (hne : ∀ k, p.next ≠ .createArk k) : Safe cfg rows start p :=
  ⟨h, fun k hk => absurd hk (hne k)⟩

theorem safe_create {failed : Bool} (h : Faithful cfg rows start d) (hfree : d.chain row.key = none) :
    Safe cfg rows start ⟨d, .createArk row.key, failed⟩ := by
  refine ⟨h, fun k hk => ?_⟩
  obtain rfl := Op.createArk.inj hk
  exact hfree

theorem tried_kept {t : Trace Disk Op Exc Counter} (h : Faithful cfg rows start d) (hrow : row ∈ rows)
    (ht : Tried cfg execute row d t) : RowKept cfg rows start d t.points t.state := by
  cases ht with
  | existsFails e =>
      refine ⟨?_, h, extends_refl⟩
      rintro p (_ | ⟨_, ⟨⟩⟩)
      exact safe_of_ne h (by simp)
  | getFails e =>
      refine ⟨?_, h, extends_refl⟩
      rintro p (_ | ⟨_, _ | ⟨_, ⟨⟩⟩⟩) <;> exact safe_of_ne h (by simp)
  | conflict r hstatus =>
      refine ⟨?_, faithful_appended h fun hdone => by simp [hstatus] at hdone, extends_refl⟩
      rintro p (_ | ⟨_, _ | ⟨_, _ | ⟨_, ⟨⟩⟩⟩⟩) <;> exact safe_of_ne h (by simp)
  | skipped r hark himported =>
      refine ⟨?_, faithful_appended h fun _ => ⟨row, hrow, hark, himported⟩, extends_refl⟩
      rintro p (_ | ⟨_, _ | ⟨_, _ | ⟨_, ⟨⟩⟩⟩⟩) <;> exact safe_of_ne h (by simp)
  | validated r hstatus =>
      refine ⟨?_, faithful_appended h fun hdone => by simp [hstatus] at hdone, extends_refl⟩
      rintro p (_ | ⟨_, _ | ⟨_, ⟨⟩⟩⟩) <;> exact safe_of_ne h (by simp)
  | createFails e hfree =>
      refine ⟨?_, h, extends_refl⟩
      rintro p (_ | ⟨_, _ | ⟨_, ⟨⟩⟩⟩)
      · exact safe_of_ne h (by simp)
      · exact safe_create h hfree
  | createFailsLate e hfree =>
      refine ⟨?_, faithful_createdIn h hrow hfree, createdIn_extends hfree⟩
      rintro p (_ | ⟨_, _ | ⟨_, ⟨⟩⟩⟩)
      · exact safe_of_ne h (by simp)
      · exact safe_create h hfree
  | created r hark hfree =>
      have hcreated := faithful_createdIn h hrow hfree
      refine ⟨?_, faithful_appended hcreated fun _ => ⟨row, hrow, hark, createdIn_imported⟩, createdIn_extends hfree⟩
      rintro p (_ | ⟨_, _ | ⟨_, _ | ⟨_, ⟨⟩⟩⟩⟩)
      · exact safe_of_ne h (by simp)
      · exact safe_create h hfree
      · exact safe_of_ne hcreated (by simp)

theorem tried_settled {t : Trace Disk Op Exc Counter} (h : Faithful cfg rows start d) (hrows : Importable rows)
    (hrow : row ∈ rows) (ht : Tried cfg true row d t) :
    Imported cfg row t.state.chain ∨ Conflict cfg row start ∨ CallFailed row t.points := by
  cases ht with
  | existsFails e | getFails e | createFails e | createFailsLate e =>
      exact .inr (.inr (by simp [CallFailed, Op.isCallFor]))
  | conflict r hstatus hconflict => exact .inr (.inl (conflict_start h hrows hrow hconflict))
  | skipped r hark himported => exact .inl himported
  | validated r hstatus hdry => cases hdry
  | created r hark hfree => exact .inl createdIn_imported

theorem tried_error {t : Trace Disk Op Exc Counter} {e : Exc} (ht : Tried cfg execute row d t)
    (herror : t.result = .error e) : CallFailed row t.points := by
  cases ht with
  | existsFails e | getFails e | createFails e | createFailsLate e => simp [CallFailed, Op.isCallFor]
  | conflict | skipped | validated | created => cases herror

def Trusted (cfg : Importer) (rows : List ImportRow) (chain : ArkId → Option OnChain)
    (completed : List (String × String × String)) : Prop :=
  ∀ ark entry, Dict.get completed ark = some entry → ∃ row ∈ rows, row.darkidentifier = ark ∧ Imported cfg row chain

theorem completedEntry_ok {r : ResultRow} (hrows : Importable rows) (hrow : row ∈ rows)
    (hark : r.darkidentifier = row.darkidentifier) :
    completedEntry r = .ok (row.darkidentifier, strip r.itemurl, lower (strip r.owner)) := by
  obtain ⟨hspelled, hformed⟩ := hrows.canonical row hrow
  unfold completedEntry
  rw [hark, hspelled, parseArk_ark hformed]

theorem loadCompleted_ok (hrows : Importable rows) (h : Faithful cfg rows start d) :
    ∃ completed, loadCompleted d.results = .ok completed ∧ Trusted cfg rows d.chain completed := by
  suffices hloop : ∀ (results : List ResultRow) completed, Trusted cfg rows d.chain completed →
      (∀ r ∈ results, ∃ row ∈ rows, r.darkidentifier = row.darkidentifier ∧ Imported cfg row d.chain) →
      ∃ completed', results.foldlM addCompleted completed = .ok completed' ∧
        Trusted cfg rows d.chain completed' by
    refine hloop _ [] (by rintro ark entry ⟨⟩) fun r hr => ?_
    obtain ⟨hmem, hstatus⟩ := List.mem_filter.mp hr
    exact h.results r hmem hstatus
  intro results
  induction results with
  | nil => exact fun completed htrusted _ => ⟨completed, rfl, htrusted⟩
  | cons r results ih =>
      intro completed htrusted hdone
      obtain ⟨row, hrow, hark, himported⟩ := hdone r List.mem_cons_self
      have hset : Trusted cfg rows d.chain
          (Dict.set completed row.darkidentifier (strip r.itemurl, lower (strip r.owner))) := by
        intro ark entry hget
        rw [Dict.get_set] at hget
        split at hget
        · rename_i hsame
          exact ⟨row, hrow, hsame, himported⟩
        · exact htrusted ark entry hget
      obtain ⟨completed', hrest, htrusted'⟩ := ih _ hset fun r' hr' => hdone r' (List.mem_cons_of_mem _ hr')
      refine ⟨completed', ?_, htrusted'⟩
      rw [List.foldlM_cons, addCompleted, completedEntry_ok hrows hrow hark]
      exact hrest

omit [PyLower] in
theorem eq_of_darkidentifier {row' : ImportRow} (hrows : Importable rows) (hrow : row ∈ rows) (hrow' : row' ∈ rows)
    (hark : row.darkidentifier = row'.darkidentifier) : row = row' := by
  obtain ⟨hspelled, hformed⟩ := hrows.canonical row hrow
  obtain ⟨hspelled', hformed'⟩ := hrows.canonical row' hrow'
  have hparsed := parseArk_ark hformed
  rw [← hspelled, hark, hspelled', parseArk_ark hformed'] at hparsed
  exact List.inj_on_of_nodup_map hrows.distinct hrow hrow' (Except.ok.inj hparsed).symm

omit [PyLower] in
theorem total_count {counts : Counts} {counter : Counter} : (counts.count counter).total = counts.total + 1 := by
  cases counter <;> simp only [Counts.count, Counts.total] <;> omega

variable {E : RunEnv} {completed : List (String × String × String)} {counts : Counts}

theorem importRow_resumed
    (hdone : Dict.get completed row.darkidentifier = some (row.itemurl, lower cfg.walletAddress)) :
    importRow cfg E completed counts row d = ⟨[], .ok (counts.count .resumed), d⟩ := by
  simp [importRow, hdone]

theorem importRow_tried (counts : Counts)
    (hdone : Dict.get completed row.darkidentifier ≠ some (row.itemurl, lower cfg.walletAddress)) :
    (∃ counter t, Tried cfg E.execute row d t ∧ t.result = .ok counter ∧
      importRow cfg E completed counts row d = ⟨t.points, .ok (counts.count counter), t.state⟩) ∨
    ∃ r t, Tried cfg E.execute row d t ∧ CallFailed row t.points ∧ resumable r.status = false ∧
      importRow cfg E completed counts row d =
        ⟨t.points ++ [⟨t.state, .writeResult r, false⟩], .ok (counts.count .failed), appended t.state r⟩ := by
  have htried : Tried cfg E.execute row d (tryRow cfg E.execute (E.calls row) row d) := tryRow_tried
  cases htry : tryRow cfg E.execute (E.calls row) row d with
  | mk points result t =>
      rw [htry] at htried
      cases result with
      | ok counter =>
          refine .inl ⟨counter, _, htried, rfl, ?_⟩
          simp [importRow, hdone, Bind.bind, Prog.bind, Prog.catching, htry]
      | error e =>
          refine .inr ⟨rowResult row .failed "" e.text, _, htried, tried_error htried rfl, rfl, ?_⟩
          simp [importRow, hdone, Bind.bind, Prog.bind, Prog.catching, htry, writeResult, Prog.perform, appended]

theorem RowKept.trans {points points' : List (Point Disk Op)} {t u : Disk} (h : RowKept cfg rows start d points t)
    (h' : RowKept cfg rows start t points' u) : RowKept cfg rows start d (points ++ points') u := by
  refine ⟨fun p hp => ?_, h'.faithful, h.grows.trans h'.grows⟩
  rcases List.mem_append.mp hp with hp | hp
  · exact h.safe p hp
  · exact h'.safe p hp

theorem kept_nil (h : Faithful cfg rows start d) : RowKept cfg rows start d [] d := ⟨by simp, h, extends_refl⟩

theorem kept_op {op : Op} (h : Faithful cfg rows start d) (hne : ∀ k, op ≠ .createArk k) :
    RowKept cfg rows start d [⟨d, op, false⟩] d := by
  refine ⟨?_, h, extends_refl⟩
  rintro p (_ | ⟨_, ⟨⟩⟩)
  exact safe_of_ne h hne

theorem kept_write {r : ResultRow} (h : Faithful cfg rows start d) (hstatus : resumable r.status = false) :
    RowKept cfg rows start d [⟨d, .writeResult r, false⟩] (appended d r) := by
  refine ⟨?_, faithful_appended h fun hdone => by simp [hstatus] at hdone, extends_refl⟩
  rintro p (_ | ⟨_, ⟨⟩⟩)
  exact safe_of_ne h (by simp)

omit [PyLower] in
theorem CallFailed.subset {points points' : List (Point Disk Op)} (h : CallFailed row points)
    (hsub : points ⊆ points') : CallFailed row points' := by
  obtain ⟨p, hp, hfailed⟩ := h
  exact ⟨p, hsub hp, hfailed⟩

omit [PyLower] in
theorem CallFailed.append {points points' : List (Point Disk Op)} (h : CallFailed row points) :
    CallFailed row (points ++ points') := h.subset (List.subset_append_left ..)

def Settled (cfg : Importer) (start : ArkId → Option OnChain) (row : ImportRow) (points : List (Point Disk Op))
    (t : Disk) : Prop :=
  Imported cfg row t.chain ∨ Conflict cfg row start ∨ CallFailed row points

theorem importRow_spec (E : RunEnv) (counts : Counts) (hrows : Importable rows) (h : Faithful cfg rows start d)
    (hrow : row ∈ rows)
    (hcompleted : Trusted cfg rows d.chain completed) :
    ∃ counts', (importRow cfg E completed counts row d).result = .ok counts' ∧ counts'.total = counts.total + 1 ∧
      RowKept cfg rows start d (importRow cfg E completed counts row d).points
        (importRow cfg E completed counts row d).state ∧
      (E.execute = true → Settled cfg start row (importRow cfg E completed counts row d).points
        (importRow cfg E completed counts row d).state) := by
  by_cases hdone : Dict.get completed row.darkidentifier = some (row.itemurl, lower cfg.walletAddress)
  · rw [importRow_resumed hdone]
    obtain ⟨row', hrow', hark, himported⟩ := hcompleted _ _ hdone
    obtain rfl := eq_of_darkidentifier hrows hrow' hrow hark
    exact ⟨_, rfl, total_count, kept_nil h, fun _ => .inl himported⟩
  · rcases importRow_tried counts hdone with
      ⟨counter, t, htried, -, hrun⟩ | ⟨r, t, htried, hfailed, hstatus, hrun⟩
    · rw [hrun]
      exact ⟨_, rfl, total_count, tried_kept h hrow htried,
        fun hexecute => tried_settled h hrows hrow (hexecute ▸ htried)⟩
    · rw [hrun]
      have hkept := tried_kept h hrow htried
      exact ⟨_, rfl, total_count, hkept.trans (kept_write hkept.faithful hstatus), fun _ => .inr (.inr hfailed.append)⟩

theorem invalidRows_spec (invalidRows : List InvalidRow) (h : Faithful cfg rows start d) :
    ∃ t points, (invalidRows.foldlM (fun _ row => writeResult (invalidResult row)) () : Run Unit) d =
      ⟨points, .ok (), t⟩ ∧ RowKept cfg rows start d points t := by
  have hstep : ∀ done (row : InvalidRow) rest points (u : Unit) t, invalidRows = done ++ row :: rest →
      RowKept cfg rows start d points t →
      ∃ u', (writeResult (invalidResult row) t).result = .ok u' ∧
        RowKept cfg rows start d (points ++ (writeResult (invalidResult row) t).points)
          (writeResult (invalidResult row) t).state := by
    intro done row rest points u t _ hkept
    exact ⟨(), rfl, hkept.trans (kept_write hkept.faithful rfl)⟩
  obtain ⟨_, hresult, hkept⟩ := Prog.foldlM_spec
    (J := fun _ points _ t => RowKept cfg rows start d points t) hstep (kept_nil h)
  refine ⟨_, _, ?_, hkept⟩
  rw [← hresult]

/-- What holds in the loop over the rows, of which `done` are done, since the run began with `d`. -/
structure LoopKept (cfg : Importer) (rows : List ImportRow) (start : ArkId → Option OnChain) (E : RunEnv) (d : Disk)
    (base : Nat) (done : List ImportRow) (points : List (Point Disk Op)) (counts : Counts) (t : Disk) : Prop where
  kept : RowKept cfg rows start d points t
  total : counts.total = base + done.length
  settled : E.execute = true → ∀ row ∈ done, Settled cfg start row points t

theorem rows_spec (E : RunEnv) (counts : Counts) (hrows : Importable rows) (h : Faithful cfg rows start d)
    (hcompleted : Trusted cfg rows d.chain completed) :
    ∃ counts' points t, (rows.foldlM (importRow cfg E completed) counts) d = ⟨points, .ok counts', t⟩ ∧
      LoopKept cfg rows start E d counts.total rows points counts' t := by
  have hstep : ∀ done row rest points (counts' : Counts) t, rows = done ++ row :: rest →
      LoopKept cfg rows start E d counts.total done points counts' t →
      ∃ counts'', (importRow cfg E completed counts' row t).result = .ok counts'' ∧
        LoopKept cfg rows start E d counts.total (done ++ [row])
          (points ++ (importRow cfg E completed counts' row t).points) counts''
          (importRow cfg E completed counts' row t).state := by
    intro done row rest points counts' t hsplit hloop
    have hrow : row ∈ rows := by
      simp [hsplit]
    have htrusted : Trusted cfg rows t.chain completed := by
      intro ark entry hget
      obtain ⟨row', hrow', hark, himported⟩ := hcompleted ark entry hget
      exact ⟨row', hrow', hark, himported.mono hloop.kept.grows⟩
    obtain ⟨counts'', hresult, htotal, hkept, hsettled⟩ :=
      importRow_spec E counts' hrows hloop.kept.faithful hrow htrusted
    refine ⟨counts'', hresult, hloop.kept.trans hkept, ?_, fun hexecute row' hrow' => ?_⟩
    · rw [htotal, hloop.total, List.length_append, List.length_singleton, Nat.add_assoc]
    · rcases List.mem_append.mp hrow' with hdone | hnew
      · rcases hloop.settled hexecute row' hdone with himported | hconflict | hfailed
        · exact .inl (himported.mono hkept.grows)
        · exact .inr (.inl hconflict)
        · exact .inr (.inr hfailed.append)
      · obtain rfl := List.mem_singleton.mp hnew
        exact (hsettled hexecute).imp_right fun h => h.imp_right fun hfailed =>
          hfailed.subset (List.subset_append_right ..)
  have hstart : LoopKept cfg rows start E d counts.total [] [] counts d := ⟨kept_nil h, rfl, by simp⟩
  obtain ⟨counts', hresult, hloop⟩ := Prog.foldlM_spec
    (J := LoopKept cfg rows start E d counts.total) hstep hstart
  refine ⟨counts', _, _, ?_, hloop⟩
  rw [← hresult]

def preflight (cfg : Importer) (rows : List ImportRow) (E : RunEnv) : Except Exc Authority :=
  preflightAuthority cfg.authorityId (E.authority.map fun active => ⟨cfg.walletAddress, active⟩) E.isAuthorizedForNaan
    (rows.map (·.naan))

theorem importRows_refused {e : Exc} (hrefused : preflight cfg rows E = .error e) :
    importRows cfg rows invalidRows E d = ⟨[], .error e, d⟩ := by
  unfold preflight at hrefused
  simp [importRows, Bind.bind, Prog.bind, Prog.lift, hrefused]

theorem importRows_spec (invalidRows : List InvalidRow) (hrows : Importable rows) (h : Faithful cfg rows start d)
    {found : Authority}
    (hpasses : preflight cfg rows E = .ok found) :
    ∃ counts points t, importRows cfg rows invalidRows E d = ⟨points, .ok counts, t⟩ ∧
      LoopKept cfg rows start E d invalidRows.length rows points counts t := by
  have hloaded : ∃ completed, (if E.execute then loadCompleted d.results else .ok []) = .ok completed ∧
      Trusted cfg rows d.chain completed := by
    cases E.execute with
    | true => exact loadCompleted_ok hrows h
    | false => exact ⟨[], rfl, by rintro ark entry ⟨⟩⟩
  obtain ⟨completed, hload, htrusted⟩ := hloaded
  obtain ⟨t, points, hinvalid, hkept⟩ := invalidRows_spec invalidRows h
  have hstill : Trusted cfg rows t.chain completed := by
    intro ark entry hget
    obtain ⟨row, hrow, hark, himported⟩ := htrusted ark entry hget
    exact ⟨row, hrow, hark, himported.mono hkept.grows⟩
  obtain ⟨counts, points', u, hrun, hloop⟩ :=
    rows_spec E { invalid := invalidRows.length } hrows hkept.faithful hstill
  refine ⟨counts, ⟨d, .openResults, false⟩ :: points ++ points' ++ [⟨u, .close, false⟩], u, ?_, ?_⟩
  · unfold preflight at hpasses
    simp [importRows, Bind.bind, Prog.bind, Prog.lift, Prog.read, Prog.perform, hpasses, hload, hinvalid, hrun]
  · have hopened : RowKept cfg rows start d [⟨d, .openResults, false⟩] d := kept_op h (by simp)
    have hclosed : RowKept cfg rows start u [⟨u, .close, false⟩] u := kept_op hloop.kept.faithful (by simp)
    refine ⟨((hopened.trans hkept).trans hloop.kept).trans hclosed, ?_, fun hexecute row hrow => ?_⟩
    · simpa [Counts.total] using hloop.total
    · refine (hloop.settled hexecute row hrow).imp_right fun hrest => hrest.imp_right fun hfailed => ?_
      refine hfailed.subset fun p hp => ?_
      simp [hp]

theorem importRows_kept (invalidRows : List InvalidRow) (hrows : Importable rows) (h : Faithful cfg rows start d)
    (E : RunEnv) :
    RowKept cfg rows start d (importRows cfg rows invalidRows E d).points
      (importRows cfg rows invalidRows E d).state := by
  cases hpreflight : preflight cfg rows E with
  | error e =>
      rw [importRows_refused hpreflight]
      exact kept_nil h
  | ok found =>
      obtain ⟨counts, points, t, hrun, hloop⟩ := importRows_spec invalidRows hrows h hpreflight
      rw [hrun]
      exact hloop.kept

theorem faithful_start : Faithful cfg rows start { chain := start } := ⟨fun k => .inl rfl, by simp⟩

theorem reach_faithful (hrows : Importable rows)
    (h : Reach (step cfg rows invalidRows) Free { chain := start } d) : Faithful cfg rows start d := by
  refine h.invariant faithful_start ?_
  intro d a d' hi _ hs
  obtain ⟨p, hp, rfl⟩ := Option.map_eq_some_iff.mp hs
  exact ((importRows_kept invalidRows hrows hi a.env).safe p (List.mem_of_getElem? hp)).1

def importedChain (cfg : Importer) (rows : List ImportRow) (start : ArkId → Option OnChain) (k : ArkId) :
    Option OnChain :=
  match start k with
  | some found => some found
  | none => (rows.find? fun row => row.key = k).map fun row => ⟨cfg.owner, row.itemurl, ""⟩

theorem chain_eq_importedChain (hrows : Importable rows) (h : Faithful cfg rows start d)
    (hall : ∀ row ∈ rows, (d.chain row.key).isSome = true) : d.chain = importedChain cfg rows start := by
  funext k
  unfold importedChain
  rcases h.chain k with hsame | ⟨hnone, row, hrow, rfl, hchain⟩
  · cases hstart : start k with
    | some found => rw [hsame, hstart]
    | none =>
        have habsent : ∀ row ∈ rows, ¬decide (row.key = k) = true := by
          intro row hrow hkey
          have hpresent := hall row hrow
          rw [of_decide_eq_true hkey, hsame, hstart] at hpresent
          cases hpresent
        rw [hsame, hstart, List.find?_eq_none.mpr habsent]
        rfl
  · rw [hnone, hchain]
    cases hfind : rows.find? fun row' => row'.key = row.key with
    | none => exact absurd (decide_eq_true rfl) (List.find?_eq_none.mp hfind row hrow)
    | some row' =>
        have hkey : row'.key = row.key := by
          simpa using List.find?_some hfind
        obtain rfl := List.inj_on_of_nodup_map hrows.distinct (List.mem_of_find?_eq_some hfind) hrow hkey
        rfl

def Completed (t : Trace Disk Op Exc Counts) (counts : Counts) : Prop := t.result = .ok counts

def Untroubled (t : Trace Disk Op Exc Counts) : Prop := ∀ p ∈ t.points, p.failed = false

theorem completed_passes (h : Completed (importRows cfg rows invalidRows E d) counts) :
    ∃ found, preflight cfg rows E = .ok found := by
  cases hpreflight : preflight cfg rows E with
  | ok found => exact ⟨found, rfl⟩
  | error e =>
      rw [Completed, importRows_refused hpreflight] at h
      cases h

theorem completed_settled (hrows : Importable rows) (h : Faithful cfg rows start d) (hexecute : E.execute = true)
    (hcompleted : Completed (importRows cfg rows invalidRows E d) counts) (hrow : row ∈ rows) :
    Settled cfg start row (importRows cfg rows invalidRows E d).points
      (importRows cfg rows invalidRows E d).state := by
  obtain ⟨found, hpasses⟩ := completed_passes hcompleted
  obtain ⟨counts', points, t, hrun, hloop⟩ := importRows_spec invalidRows hrows h hpasses
  rw [hrun]
  exact hloop.settled hexecute row hrow

theorem untroubled_chain (hrows : Importable rows) (h : Faithful cfg rows start d) (hexecute : E.execute = true)
    (hcompleted : Completed (importRows cfg rows invalidRows E d) counts)
    (huntroubled : Untroubled (importRows cfg rows invalidRows E d)) :
    (importRows cfg rows invalidRows E d).state.chain = importedChain cfg rows start := by
  have hkept := importRows_kept invalidRows hrows h E
  refine chain_eq_importedChain hrows hkept.faithful fun row hrow => ?_
  rcases completed_settled hrows h hexecute hcompleted hrow with
    ⟨found, hfound, -⟩ | ⟨found, hfound, -⟩ | ⟨p, hp, hfailed, -⟩
  · simp [hfound]
  · rcases hkept.faithful.chain row.key with hsame | ⟨hnone, -⟩
    · simp [hsame, hfound]
    · simp [hnone] at hfound
  · simp [huntroubled p hp] at hfailed

/-- The import is resumable: whatever the interrupted runs before it left behind, a run creates no
ARK that exists, completes when it passes its preflight, counts every row once, and brings every
row to the chain except for conflicts and for rows one of whose calls raised. -/
theorem import_resumable {urlparse : String → Except String (String × String)} {limit : Option Nat}
    {fieldnames : List String} {raw : List RawRow}
    (hread : readCsv urlparse limit fieldnames raw = .ok (rows, invalidRows))
    (h : Reach (step cfg rows invalidRows) Free { chain := start } d) (E : RunEnv) :
    (∀ p ∈ (importRows cfg rows invalidRows E d).points, ∀ k, p.next = .createArk k → p.state.chain k = none) ∧
      (∀ found, preflight cfg rows E = .ok found →
        ∃ counts, Completed (importRows cfg rows invalidRows E d) counts) ∧
      ∀ counts, Completed (importRows cfg rows invalidRows E d) counts →
        counts.total = min (limit.getD raw.length) raw.length ∧
        (E.execute = true →
          (∀ row ∈ rows, Settled cfg start row (importRows cfg rows invalidRows E d).points
            (importRows cfg rows invalidRows E d).state) ∧
          (Untroubled (importRows cfg rows invalidRows E d) →
            ∀ E' counts', E'.execute = true →
              Completed (importRows cfg rows invalidRows E' { chain := start }) counts' →
              Untroubled (importRows cfg rows invalidRows E' { chain := start }) →
              (importRows cfg rows invalidRows E d).state.chain =
                (importRows cfg rows invalidRows E' { chain := start }).state.chain)) := by
  obtain ⟨hrows, hlength⟩ := readCsv_ok hread
  have hfaithful := reach_faithful hrows h
  refine ⟨fun p hp => ((importRows_kept invalidRows hrows hfaithful E).safe p hp).2, ?_, ?_⟩
  · intro found hpasses
    obtain ⟨counts, points, t, hrun, -⟩ := importRows_spec invalidRows hrows hfaithful hpasses
    exact ⟨counts, by rw [Completed, hrun]⟩
  · intro counts hcompleted
    obtain ⟨found, hpasses⟩ := completed_passes hcompleted
    refine ⟨?_, fun hexecute =>
      ⟨fun row hrow => ?_, fun huntroubled E' counts' hexecute' hcompleted' huntroubled' => ?_⟩⟩
    · obtain ⟨counts', points, t, hrun, hloop⟩ := importRows_spec invalidRows hrows hfaithful hpasses
      rw [Completed, hrun] at hcompleted
      obtain rfl := Except.ok.inj hcompleted
      rw [hloop.total, Nat.add_comm, hlength]
    · exact completed_settled hrows hfaithful hexecute hcompleted hrow
    · rw [untroubled_chain hrows hfaithful hexecute hcompleted huntroubled]
      exact (untroubled_chain hrows faithful_start hexecute' hcompleted' huntroubled').symm

end

section Sample

attribute [local instance] asciiText

def importer : Importer := ⟨"authority-1", "0xABC", "0xabc", by decide⟩

def parsed (_ : String) : Except String (String × String) := .ok ("https", "example.org")

def input : List RawRow :=
  [⟨some "ark:/41046/abc", some "https://example.org/item"⟩, ⟨some "ark:/41046/def", some "https://example.org/other"⟩]

def sampleRow : ImportRow := ⟨2, "ark:41046/abc", "https://example.org/item", "41046", "abc"⟩

def otherRow : ImportRow := ⟨3, "ark:41046/def", "https://example.org/other", "41046", "def"⟩

def bothRows : List ImportRow := [sampleRow, otherRow]

def emptyChain (_ : ArkId) : Option OnChain := none

theorem ok_of_toOption {ε α : Type} {x : Except ε α} {a : α} (h : x.toOption = some a) : x = .ok a := by
  cases x with
  | error e => cases h
  | ok b => exact congrArg Except.ok (Option.some.inj h)

/-- The first run ends between `create_ark` and the checkpoint of its first row, and does not reach the
second one. -/
theorem import_resumable_interrupted :
    ∃ d, Reach (step importer bothRows []) Free { chain := emptyChain } d ∧ d.results = [] ∧
      (d.chain sampleRow.key).isSome = true ∧ d.chain otherRow.key = none ∧
      (∀ p ∈ (importRows importer bothRows [] {} d).points, ∀ k, p.next = .createArk k → p.state.chain k = none) ∧
      ∃ counts, Completed (importRows importer bothRows [] {} d) counts ∧ counts.total = 2 ∧
        ∀ row ∈ bothRows, Settled importer emptyChain row (importRows importer bothRows [] {} d).points
          (importRows importer bothRows [] {} d).state := by
  have hread : readCsv parsed none ["darkidentifier", "itemurl"] input = .ok (bothRows, []) :=
    ok_of_toOption (by decide +kernel)
  have hrun : (step importer bothRows [] { chain := emptyChain } ⟨{}, 3⟩).map (fun d =>
      (d.results, (d.chain sampleRow.key).isSome, (d.chain otherRow.key).isSome)) = some ([], true, false) := by
    decide +kernel
  obtain ⟨d, hd, hleft⟩ := Option.map_eq_some_iff.mp hrun
  obtain ⟨hresults, hleft⟩ := Prod.mk.inj hleft
  obtain ⟨hchain, hother⟩ := Prod.mk.inj hleft
  have hreach : Reach (step importer bothRows []) Free { chain := emptyChain } d := .next .init trivial hd
  obtain ⟨hcreates, hcompletes, hcounts⟩ := import_resumable hread hreach {}
  obtain ⟨found, hpasses⟩ : ∃ found, (preflight importer bothRows {}).toOption = some found :=
    Option.isSome_iff_exists.mp (by decide +kernel)
  obtain ⟨counts, hcompleted⟩ := hcompletes found (ok_of_toOption hpasses)
  obtain ⟨htotal, hsettled⟩ := hcounts counts hcompleted
  have hnone : d.chain otherRow.key = none := Option.isNone_iff_eq_none.mp (Option.isSome_eq_false_iff.mp hother)
  exact ⟨d, hreach, hresults, hchain, hnone, hcreates, counts, hcompleted, htotal, (hsettled rfl).1⟩

/-- A failed `ark_exists` leaves the ARK out though no creation failed, and so does a preflight that
refuses the run. -/
theorem import_leaves_out :
    (∃ E counts, Completed (importRows importer [sampleRow] [] E { chain := emptyChain }) counts ∧
        ¬Imported importer sampleRow (importRows importer [sampleRow] [] E { chain := emptyChain }).state.chain ∧
        ¬Conflict importer sampleRow emptyChain ∧
        ∀ p ∈ (importRows importer [sampleRow] [] E { chain := emptyChain }).points,
          p.next ≠ .createArk sampleRow.key) ∧
      ∃ E e, importRows importer [sampleRow] [] E { chain := emptyChain } =
        ⟨[], .error e, { chain := emptyChain }⟩ := by
  constructor
  · let E : RunEnv := { calls := fun _ => { arkExists := some ⟨.connection, "timeout"⟩ } }
    refine ⟨E, { invalid := 0, failed := 1 }, rfl, ?_, ?_, by decide +kernel⟩
    · rintro ⟨found, hfound, -⟩
      cases hfound
    · rintro ⟨found, hfound, -⟩
      cases hfound
  · exact ⟨{ authority := .ok false }, _, importRows_refused rfl⟩

end Sample

end DarkMinter.ImportRuns
