import DarkMinter.InFlight
import DarkMinter.Lib.Tables
import DarkMinter.Workload

namespace DarkMinter.Monitoring

open Text Processing Records Repository ArkApi Requests Publication ChainCycle Replication Workload Deployment Attempts
open Effects ResultApplication InFlight Lib Lib.Runs Lib.Tables

/-- A row of `ark_records` under its keys, with the row of `ark_metadata` that an outer join gives it. -/
structure Row where
  id : Nat
  ark : ArkId
  record : ARKRecord
  metadata : Option ARKMetadata

def stageLabel : ProcessingStage → String
  | .none => "none"
  | .metadata => "metadata"
  | .availability => "availability"
  | .chain => "chain"
  | .replication => "replication"
  | .complete => "complete"

def codeLabel : ProcessingErrorCode → String
  | .storageUnavailable => "storage_unavailable"
  | .storageInvalidResponse => "storage_invalid_response"
  | .replicationUnavailable => "replication_unavailable"
  | .cidMismatch => "cid_mismatch"
  | .chainRpcUnavailable => "chain_rpc_unavailable"
  | .chainReverted => "chain_reverted"
  | .authorityNotFound => "authority_not_found"
  | .authorizationFailed => "authorization_failed"
  | .chainStateConflict => "chain_state_conflict"
  | .unexpected => "unexpected"

def errorCodes : List ProcessingErrorCode :=
  [.storageUnavailable, .storageInvalidResponse, .replicationUnavailable, .cidMismatch, .chainRpcUnavailable,
    .chainReverted, .authorityNotFound, .authorizationFailed, .chainStateConflict, .unexpected]

def errorLabel (code : Option ProcessingErrorCode) : String :=
  match code with
  | some code => codeLabel code
  | none => "unknown"

def hasFailed (r : Row) : Bool := r.record.processingStatus = .failed

structure Summary where
  total : Nat
  byStage : List (String × Nat)
  byCode : List (String × Nat)

def errorsSummary (rows : List Row) : Summary :=
  let gs := Tables.groups (fun r => (r.record.processingStage, r.record.processingErrorCode)) (rows.filter hasFailed)
  let byStage := Tables.tally (fun g => stageLabel g.1) gs []
  { total := total byStage
    byStage
    byCode := Tables.tally (fun g => errorLabel g.2) gs [] }

/-- The filters of `get_worker_errors`. No stage is the stage `all`. -/
structure ErrorsQuery where
  stage : Option ProcessingStage := none
  authorityId : Option String := none
  errorCode : String := "all"
  pageSize : Nat := 50
  listed : stage ≠ some .none ∧ stage ≠ some .complete
  pageSize_pos : 1 ≤ pageSize
  pageSize_le : pageSize ≤ 200

/-- A text of the request's pattern is the lower case of a member's name just where it is its label. -/
def codeNamed (text : String) : Option ProcessingErrorCode := errorCodes.find? fun code => codeLabel code = text

def ErrorsQuery.takes (q : ErrorsQuery) (r : Row) : Bool :=
  hasFailed r && q.stage.all (· = r.record.processingStage) &&
    q.authorityId.all (fun authorityId => authorityId = "" || authorityId = r.record.authorityId) &&
    (q.errorCode = "all" || (codeNamed q.errorCode).any fun code => r.record.processingErrorCode = some code)

def newestFirst (a b : Row) : Bool :=
  b.record.updatedAt < a.record.updatedAt || a.record.updatedAt = b.record.updatedAt && b.id ≤ a.id

structure ErrorItem where
  ark : ArkId
  publicState : ARKState
  stage : String
  errorCode : String
  detail : Option String
  attempts : Nat
  updatedAt : Time
  level1Cid : Option Cid
  level2Cid : Option Cid

def itemOf (r : Row) : ErrorItem where
  ark := r.ark
  publicState := r.record.state
  stage := stageLabel r.record.processingStage
  errorCode := errorLabel r.record.processingErrorCode
  detail := r.record.processingErrorDetail
  attempts := r.record.processingAttemptCount
  updatedAt := r.record.updatedAt
  level1Cid := r.metadata.bind (·.level1Cid)
  level2Cid := r.metadata.bind (·.originalCid)

structure Errors where
  summary : Summary
  page : Nat
  pageSize : Nat
  total : Nat
  totalPages : Nat
  items : List ErrorItem

def getWorkerErrors (rows : List Row) (q : ErrorsQuery) (page : Nat) : Errors :=
  let found := rows.filter q.takes
  { summary := errorsSummary rows
    page
    pageSize := q.pageSize
    total := found.length
    totalPages := if found.length = 0 then 0 else pages q.pageSize found.length
    items := (Tables.page q.pageSize (found.mergeSort newestFirst) page).map itemOf }

def browse (scan : Nat → List Row) (q : ErrorsQuery) (n : Nat) : List ErrorItem :=
  (List.range n).flatMap fun i => (getWorkerErrors (scan i) q (i + 1)).items

section Listing

variable {rows : List Row} {scan : Nat → List Row} {q : ErrorsQuery}

theorem newestFirst_trans (a b c : Row) (hab : newestFirst a b = true) (hbc : newestFirst b c = true) :
    newestFirst a c = true := by
  simp only [newestFirst, Bool.or_eq_true, Bool.and_eq_true, decide_eq_true_eq] at hab hbc ⊢
  rcases hab with hab | ⟨hab, hid⟩
  · rcases hbc with hbc | ⟨hbc, -⟩
    · exact .inl (Int.lt_trans hbc hab)
    · exact .inl (hbc ▸ hab)
  · rcases hbc with hbc | ⟨hbc, hid'⟩
    · exact .inl (hab ▸ hbc)
    · exact .inr ⟨hab.trans hbc, Nat.le_trans hid' hid⟩

theorem newestFirst_total (a b : Row) : (newestFirst a b || newestFirst b a) = true := by
  simp only [newestFirst, Bool.or_eq_true, Bool.and_eq_true, decide_eq_true_eq]
  rcases Int.lt_trichotomy a.record.updatedAt b.record.updatedAt with h | h | h
  · exact .inr (.inl h)
  · rcases Nat.le_total a.id b.id with hid | hid
    · exact .inr (.inr ⟨h.symm, hid⟩)
    · exact .inl (.inr ⟨h, hid⟩)
  · exact .inl (.inl h)

theorem newestFirst_antisymm (hids : (rows.map Row.id).Nodup) {a b : Row} (ha : a ∈ rows) (hb : b ∈ rows)
    (hab : newestFirst a b = true) (hba : newestFirst b a = true) : a = b := by
  apply List.inj_on_of_nodup_map hids ha hb
  simp only [newestFirst, Bool.or_eq_true, Bool.and_eq_true, decide_eq_true_eq] at hab hba
  rcases hab with hab | ⟨hab, hid⟩
  · rcases hba with hba | ⟨hba, -⟩
    · exact absurd (Int.lt_trans hab hba) (Int.lt_irrefl _)
    · exact absurd (hba ▸ hab) (Int.lt_irrefl _)
  · rcases hba with hba | ⟨-, hid'⟩
    · exact absurd (hab ▸ hba) (Int.lt_irrefl _)
    · exact Nat.le_antisymm hid' hid

theorem sorted_scan (hids : (rows.map Row.id).Nodup) {table : List Row} (htable : table.Perm rows) :
    (table.filter q.takes).mergeSort newestFirst = (rows.filter q.takes).mergeSort newestFirst := by
  refine mergeSort_scan newestFirst_trans newestFirst_total (fun a ha b hb => ?_) (htable.filter _)
  exact newestFirst_antisymm hids (List.mem_filter.mp ha).1 (List.mem_filter.mp hb).1

theorem items_scan (hids : (rows.map Row.id).Nodup) {table : List Row} (htable : table.Perm rows) (n : Nat) :
    (getWorkerErrors table q n).items =
      (Tables.page q.pageSize ((rows.filter q.takes).mergeSort newestFirst) n).map itemOf := by
  simp only [getWorkerErrors, sorted_scan hids htable]

theorem totalPages_eq (rows : List Row) (q : ErrorsQuery) (n : Nat) : (getWorkerErrors rows q n).totalPages =
    pages q.pageSize ((rows.filter q.takes).mergeSort newestFirst).length := by
  rw [List.length_mergeSort]
  simp only [getWorkerErrors]
  split
  · rename_i hnone
    have hlt : 0 + q.pageSize - 1 < q.pageSize := by have hpos := q.pageSize_pos; omega
    rw [hnone, pages, Nat.div_eq_of_lt hlt]
  · rfl

/-- Page by page, each page found in a scan of its own, every row that the filters take is listed once,
the newest first. A page is full as long as there is enough left for it. -/
theorem errors_listed_once (hids : (rows.map Row.id).Nodup) (hscan : ∀ i, (scan i).Perm rows) :
    (browse scan q (getWorkerErrors rows q 1).totalPages).Perm ((rows.filter q.takes).map itemOf) ∧
      ((browse scan q (getWorkerErrors rows q 1).totalPages).map (·.updatedAt)).Pairwise (· ≥ ·) ∧
      ∀ i, (getWorkerErrors (scan i) q (i + 1)).total = (rows.filter q.takes).length ∧
        (getWorkerErrors (scan i) q (i + 1)).items.length =
          min q.pageSize ((rows.filter q.takes).length - i * q.pageSize) := by
  have hall : browse scan q (getWorkerErrors rows q 1).totalPages =
      ((rows.filter q.takes).mergeSort newestFirst).map itemOf := by
    rw [totalPages_eq, browse]
    simp only [fun i => items_scan (q := q) hids (hscan i) (i + 1)]
    rw [← List.map_flatMap, pages_flatten q.pageSize_pos]
  rw [hall]
  refine ⟨(List.mergeSort_perm _ _).map _, ?_, fun i => ⟨((hscan i).filter _).length_eq, ?_⟩⟩
  · rw [List.map_map, List.pairwise_map]
    have hsorted := List.pairwise_mergeSort newestFirst_trans newestFirst_total (rows.filter q.takes)
    refine hsorted.imp fun {a b} hab => ?_
    simp only [newestFirst, Bool.or_eq_true, Bool.and_eq_true, decide_eq_true_eq] at hab
    rcases hab with hab | ⟨hab, -⟩
    · exact Int.le_of_lt hab
    · exact Int.le_of_eq hab.symm
  · rw [items_scan hids (hscan i), List.length_map, page_length, List.length_mergeSort, Nat.add_sub_cancel]

end Listing

section Summaries

variable {rows : List Row} {q : ErrorsQuery} {page : Nat}

theorem stageLabel_inj {a b : ProcessingStage} : stageLabel a = stageLabel b ↔ a = b := by
  cases a <;> cases b <;> simp [stageLabel]

theorem errorLabel_inj {a b : Option ProcessingErrorCode} : errorLabel a = errorLabel b ↔ a = b := by
  rcases a with _ | a
  · rcases b with _ | b
    · simp
    · cases b <;> simp [errorLabel, codeLabel]
  · rcases b with _ | b
    · cases a <;> simp [errorLabel, codeLabel]
    · cases a <;> cases b <;> simp [errorLabel, codeLabel]

theorem codeNamed_label (code : ProcessingErrorCode) : codeNamed (codeLabel code) = some code := by
  cases code <;> simp [codeNamed, errorCodes, codeLabel]

theorem codeLabel_ne_all (code : ProcessingErrorCode) : codeLabel code ≠ "all" := by
  cases code <;> simp [codeLabel]

theorem total_found (rows : List Row) (q : ErrorsQuery) (page : Nat) :
    (getWorkerErrors rows q page).total = rows.countP q.takes :=
  List.countP_eq_length_filter.symm

theorem summary_total (rows : List Row) : (errorsSummary rows).total = rows.countP hasFailed := by
  simp only [errorsSummary, total_rows, List.countP_eq_length_filter]

theorem getD_count {n : Nat} : (if n = 0 then none else some n).getD 0 = n := by
  split
  · rename_i hzero
    exact hzero.symm
  · rfl

theorem byStage_count (rows : List Row) (stage : ProcessingStage) :
    (Dict.get (errorsSummary rows).byStage (stageLabel stage)).getD 0 =
      rows.countP fun r => hasFailed r && r.record.processingStage = stage := by
  simp only [errorsSummary, get_tally, getD_count, stageLabel_inj, List.countP_filter]
  exact List.countP_congr fun r _ => by rw [Bool.and_comm]

theorem byCode_count (rows : List Row) (code : Option ProcessingErrorCode) :
    (Dict.get (errorsSummary rows).byCode (errorLabel code)).getD 0 =
      rows.countP fun r => hasFailed r && r.record.processingErrorCode = code := by
  simp only [errorsSummary, get_tally, getD_count, errorLabel_inj, List.countP_filter]
  exact List.countP_congr fun r _ => by rw [Bool.and_comm]

theorem code_total (rows : List Row) {q : ErrorsQuery} {code : ProcessingErrorCode} (page : Nat)
    (hstage : q.stage = none) (hauthority : q.authorityId = none) (hcode : q.errorCode = codeLabel code) :
    (getWorkerErrors rows q page).total =
      rows.countP fun r => hasFailed r && r.record.processingErrorCode = some code := by
  rw [total_found]
  refine List.countP_congr fun r _ => ?_
  simp [ErrorsQuery.takes, hauthority, hcode, hstage, codeNamed_label, codeLabel_ne_all]

/-- The figures of the summary are the totals of the listings that they stand for. -/
theorem summary_agrees (rows : List Row) :
    (errorsSummary rows).total = rows.countP hasFailed ∧
      total (errorsSummary rows).byCode = (errorsSummary rows).total ∧
      (∀ (q : ErrorsQuery) (page : Nat), q.authorityId = none → q.errorCode = "all" →
        (q.stage = none → (getWorkerErrors rows q page).total = (errorsSummary rows).total) ∧
        ∀ stage, q.stage = some stage → (getWorkerErrors rows q page).total =
          (Dict.get (errorsSummary rows).byStage (stageLabel stage)).getD 0) ∧
      ∀ (q : ErrorsQuery) (page : Nat) (code : ProcessingErrorCode), q.stage = none → q.authorityId = none →
        q.errorCode = codeLabel code → (getWorkerErrors rows q page).total =
          (Dict.get (errorsSummary rows).byCode (codeLabel code)).getD 0 := by
  refine ⟨summary_total rows, ?_, fun q page hauthority hcode => ⟨fun hstage => ?_, fun stage hstage => ?_⟩, ?_⟩
  · simp only [errorsSummary, total_rows]
  · rw [total_found, summary_total]
    exact List.countP_congr fun r _ => by simp [ErrorsQuery.takes, hauthority, hcode, hstage]
  · rw [total_found, byStage_count]
    refine List.countP_congr fun r _ => ?_
    have hflip : stage = r.record.processingStage ↔ r.record.processingStage = stage := eq_comm
    simp [ErrorsQuery.takes, hauthority, hcode, hstage, hflip]
  · intro q page code hstage hauthority hcode
    rw [code_total rows page hstage hauthority hcode, show codeLabel code = errorLabel (some code) from rfl,
      byCode_count]

end Summaries

section Balance

variable {now : Time} {table : List Cell} {name : Worker} {item : Item} {g : Group} {key : Key}

def isWaiting (key : Key) : Bool := key.status = .waiting && !key.due

def isFailed (key : Key) : Bool := key.status = .failed

theorem foldl_counts {f : Item → Nat} {q : Key → Bool} {F : (Worker → Item) → Group → Worker → Item}
    (hF : ∀ result g, f (F result g name) = f (result name) + if q g.key then g.count else 0)
    (gs : List Group) (result : Worker → Item) : f (gs.foldl F result name) =
      f (result name) + total ((gs.map fun g => (g.key, g.count)).filter fun e => q e.1) := by
  induction gs generalizing result with
  | nil => rfl
  | cons g gs ih =>
      rw [List.foldl_cons, ih, hF, List.map_cons, List.filter_cons]
      cases hq : q g.key <;> simp [total, sumOf, Nat.add_assoc]

theorem item_counts {f : Item → Nat} {p : Key → Bool} (hzero : f {} = 0)
    (hadd : ∀ item g, f (Workload.tally now item g) = f item + if p g.key then g.count else 0) :
    f ((workload now table).item name) =
      (reported table).countP fun r => owner r.processingStage = some name && p (keyOf now r) := by
  have hgroups : ((Workload.groups now (reported table)).map fun g => (g.key, g.count)) =
      Tables.groups (keyOf now) (reported table) := by
    simp only [Workload.groups, Tables.groups, List.map_map]
    exact List.map_congr_left fun key _ => by rw [Function.comp_apply, groupOf_count]; rfl
  change f (tallyAll now (Workload.groups now (reported table)) name) = _
  unfold tallyAll
  refine (foldl_counts (f := f) (q := fun key => owner key.stage = some name && p key) ?_ _ _).trans ?_
  · intro result g
    cases howner : owner g.key.stage with
    | none => simp
    | some other =>
        by_cases hname : other = name
        · subst hname
          simp [hadd]
        · simp [Function.update_of_ne (Ne.symm hname), hname]
  · rw [hgroups, hzero, Nat.zero_add, total_groups fun key : Key => owner key.stage = some name && p key]
    rfl

theorem tally_figures (now : Time) (item : Item) (g : Group) :
    (Workload.tally now item g).waiting = item.waiting + (if isWaiting g.key then g.count else 0) ∧
      (Workload.tally now item g).failed = item.failed + (if isFailed g.key then g.count else 0) ∧
      ∀ stage, (Dict.get (Workload.tally now item g).byStage stage).getD {} =
        { readyNow := ((Dict.get item.byStage stage).getD {}).readyNow +
            if decide (g.key.stage = stage) && isReadyNow g.key then g.count else 0
          waiting := ((Dict.get item.byStage stage).getD {}).waiting +
            if decide (g.key.stage = stage) && isWaiting g.key then g.count else 0
          failed := ((Dict.get item.byStage stage).getD {}).failed +
            if decide (g.key.stage = stage) && isFailed g.key then g.count else 0 } := by
  obtain ⟨⟨stage, status, reason, due⟩, count, earliest, oldest⟩ := g
  cases status
  all_goals cases due
  all_goals refine ⟨by simp [Workload.tally, isReadyNow, isWaiting], by simp [Workload.tally, isReadyNow, isFailed],
    fun stage' => ?_⟩
  all_goals by_cases hstage : stage = stage'
  all_goals simp [Workload.tally, isReadyNow, isWaiting, isFailed, hstage]

/-- The figures of a worker are the sums of those of its stages, and its waits those of their reasons. -/
structure Balanced (item : Item) : Prop where
  readyNow : sumOf (·.readyNow) item.byStage = item.readyNow
  waiting : sumOf (·.waiting) item.byStage = item.waiting
  failed : sumOf (·.failed) item.byStage = item.failed
  reasons : total item.waitingReasons = item.waiting

theorem sumOf_stage {f : StageTotals → Nat} (hf : f {} = 0) (d : List (ProcessingStage × StageTotals))
    (stage : ProcessingStage) (n : Nat) {v : StageTotals} (hv : f v = f ((Dict.get d stage).getD {}) + n) :
    sumOf f (Dict.set d stage v) = sumOf f d + n := by
  have h := sumOf_set f d stage v
  cases hget : Dict.get d stage with
  | none =>
      rw [hget] at h hv
      simp only [Option.map_none, Option.getD_none, hf] at h hv
      omega
  | some u =>
      rw [hget] at h hv
      simp only [Option.map_some, Option.getD_some] at h hv
      omega

theorem stage_sums (d : List (ProcessingStage × StageTotals)) (stage : ProcessingStage) (ready waiting failed : Nat)
    {v u : StageTotals} (hu : (Dict.get d stage).getD {} = u)
    (hv : v = ⟨u.readyNow + ready, u.waiting + waiting, u.failed + failed⟩) :
    sumOf (·.readyNow) (Dict.set d stage v) = sumOf (·.readyNow) d + ready ∧
      sumOf (·.waiting) (Dict.set d stage v) = sumOf (·.waiting) d + waiting ∧
      sumOf (·.failed) (Dict.set d stage v) = sumOf (·.failed) d + failed := by
  subst hu
  subst hv
  exact ⟨sumOf_stage rfl d stage ready rfl, sumOf_stage rfl d stage waiting rfl, sumOf_stage rfl d stage failed rfl⟩

theorem tally_balanced (h : Balanced item) : Balanced (Workload.tally now item g) := by
  obtain ⟨hready, hwaiting, hfailed, hreasons⟩ := h
  have hsums := stage_sums item.byStage g.key.stage
  unfold Workload.tally
  simp only
  split
  · obtain ⟨h1, h2, h3⟩ := hsums g.count 0 0 rfl rfl
    exact ⟨h1.trans (by rw [hready]), h2.trans hwaiting, h3.trans hfailed, hreasons⟩
  · split
    · obtain ⟨h1, h2, h3⟩ := hsums 0 g.count 0 rfl rfl
      exact ⟨h1.trans hready, h2.trans (by rw [hwaiting]), h3.trans hfailed, total_add.trans (by rw [hreasons])⟩
    · split
      · obtain ⟨h1, h2, h3⟩ := hsums 0 0 g.count rfl rfl
        exact ⟨h1.trans hready, h2.trans hwaiting, h3.trans (by rw [hfailed]), hreasons⟩
      · obtain ⟨h1, h2, h3⟩ := hsums 0 0 0 rfl rfl
        exact ⟨h1.trans hready, h2.trans hwaiting, h3.trans hfailed, hreasons⟩

theorem item_balanced (now : Time) (table : List Cell) (name : Worker) :
    Balanced ((workload now table).item name) := by
  change Balanced (tallyAll now (Workload.groups now (reported table)) name)
  unfold tallyAll
  refine List.foldlRecOn (motive := fun result : Worker → Item => ∀ name, Balanced (result name)) _ _
    (fun _ => ⟨rfl, rfl, rfl, rfl⟩) (fun result hresult g _ name => ?_) name
  cases owner g.key.stage with
  | none => exact hresult name
  | some other =>
      by_cases hname : name = other
      · subst hname
        simp only [Function.update_self]
        exact tally_balanced (hresult name)
      · simp only [Function.update_of_ne hname]
        exact hresult name

structure Least (o : Option Time) (p : Time → Prop) : Prop where
  some : ∀ t, o = .some t → p t ∧ ∀ u, p u → t ≤ u
  none : o = .none → ∀ u, ¬p u

theorem Least.congr {o : Option Time} {p q : Time → Prop} (h : Least o p) (hpq : ∀ t, p t ↔ q t) : Least o q := by
  obtain rfl : p = q := funext fun t => propext (hpq t)
  exact h

theorem least_min (l : List Time) : Least l.min? (· ∈ l) := by
  refine ⟨fun t ht => List.min?_eq_some_iff.mp ht, fun h u hu => ?_⟩
  rw [List.min?_eq_none_iff] at h
  simp [h] at hu

theorem earlier_least {a b : Option Time} {p q : Time → Prop} (ha : Least a p) (hb : Least b q) :
    Least (earlier a b) fun t => p t ∨ q t := by
  cases a with
  | none =>
      refine hb.congr fun t => ⟨.inr, fun h => h.resolve_left (ha.none rfl t)⟩
  | some t =>
      obtain ⟨hpt, ht⟩ := ha.some t rfl
      cases b with
      | none => exact ha.congr fun u => ⟨.inl, fun h => h.resolve_right (hb.none rfl u)⟩
      | some u =>
          obtain ⟨hqu, hu⟩ := hb.some u rfl
          simp only [earlier]
          constructor
          · intro v hv
            obtain rfl := Option.some.inj hv
            split
            · rename_i hlt
              exact ⟨.inl hpt, fun w hw => hw.elim (ht w) fun hqw => Int.le_trans (Int.le_of_lt hlt) (hu w hqw)⟩
            · rename_i hnlt
              exact ⟨.inr hqu, fun w hw => hw.elim (fun hpw => Int.le_trans (Int.not_lt.mp hnlt) (ht w hpw)) (hu w)⟩
          · intro h
            cases h

theorem tally_next (now : Time) (item : Item) (g : Group) : (Workload.tally now item g).nextActionAt =
    if isWaiting g.key then earlier g.earliest item.nextActionAt else item.nextActionAt := by
  obtain ⟨⟨stage, status, reason, due⟩, count, earliest, oldest⟩ := g
  cases status <;> cases due <;> simp [Workload.tally, isReadyNow, isWaiting]

def Awaits (now : Time) (name : Worker) (r : ARKRecord) (t : Time) : Prop :=
  owner r.processingStage = some name ∧ isWaiting (keyOf now r) = true ∧ r.nextActionAt = some t

theorem group_next (now : Time) (rows : List ARKRecord) (name : Worker) (key : Key) {o : Option Time} {p : Time → Prop}
    (h : Least o p) :
    Least (if owner key.stage = some name ∧ isWaiting key = true then earlier (groupOf now rows key).earliest o else o)
      fun t => p t ∨ ∃ r ∈ rows, keyOf now r = key ∧ Awaits now name r t := by
  split
  · rename_i hkey
    refine (earlier_least (least_min _) h).congr fun t => ?_
    rw [or_comm]
    refine or_congr_right ?_
    simp only [List.mem_filterMap, List.mem_filter, decide_eq_true_eq]
    constructor
    · rintro ⟨r, ⟨hr, rfl⟩, ht⟩
      exact ⟨r, hr, rfl, hkey.1, hkey.2, ht⟩
    · rintro ⟨r, hr, hk, -, -, ht⟩
      exact ⟨r, ⟨hr, hk⟩, ht⟩
  · rename_i hkey
    refine h.congr fun t => ⟨.inl, fun ht => ht.resolve_right ?_⟩
    rintro ⟨r, -, rfl, howner, hwaits, -⟩
    exact hkey ⟨howner, hwaits⟩

theorem foldl_next {rows : List ARKRecord} {F : (Worker → Item) → Group → Worker → Item}
    (hF : ∀ result g, (F result g name).nextActionAt =
      if owner g.key.stage = some name ∧ isWaiting g.key = true then earlier g.earliest (result name).nextActionAt
      else (result name).nextActionAt) (keys : List Key) {result : Worker → Item} {p : Time → Prop}
    (h : Least (result name).nextActionAt p) :
    Least (((keys.map (groupOf now rows)).foldl F result) name).nextActionAt fun t =>
      p t ∨ ∃ r ∈ rows, keyOf now r ∈ keys ∧ Awaits now name r t := by
  induction keys generalizing result p with
  | nil => exact h.congr fun t => by simp
  | cons key keys ih =>
      have hstep := group_next now rows name key h
      have hF' := hF result (groupOf now rows key)
      rw [show (groupOf now rows key).key = key from rfl] at hF'
      rw [← hF'] at hstep
      refine (ih hstep).congr fun t => ?_
      simp only [List.mem_cons, or_assoc, or_and_right, and_or_left, exists_or]

theorem item_next (now : Time) (table : List Cell) (name : Worker) :
    Least ((workload now table).item name).nextActionAt fun t => ∃ r ∈ reported table, Awaits now name r t := by
  change Least (tallyAll now (Workload.groups now (reported table)) name).nextActionAt _
  unfold tallyAll Workload.groups
  refine (foldl_next (p := fun _ => False) (fun result g => ?_) _ ⟨fun t ht => ?_, fun _ _ h => h⟩).congr fun t => ?_
  · cases howner : owner g.key.stage with
    | none => simp
    | some other =>
        by_cases hname : other = name
        · subst hname
          simp [tally_next]
        · simp [Function.update_of_ne (Ne.symm hname), hname]
  · cases ht
  · simp only [false_or, List.mem_dedup, List.mem_map]
    constructor
    · rintro ⟨r, hr, -, hawaits⟩
      exact ⟨r, hr, hawaits⟩
    · rintro ⟨r, hr, hawaits⟩
      exact ⟨r, hr, ⟨r, hr, rfl⟩, hawaits⟩

/-- What the report says of a worker, against the rows that it is about. -/
structure Accounted (now : Time) (rows : List ARKRecord) (name : Worker) (item : Item) : Prop where
  balanced : Balanced item
  whole : item.readyNow + item.waiting + item.failed = rows.countP fun r =>
    decide (owner r.processingStage = some name) && decide (r.processingStatus ∈ [.ready, .waiting, .failed])
  stages : ∀ stage, owner stage = some name → (Dict.get item.byStage stage).getD {} =
    { readyNow := rows.countP fun r => decide (r.processingStage = stage) && isReadyNow (keyOf now r)
      waiting := rows.countP fun r => decide (r.processingStage = stage) && isWaiting (keyOf now r)
      failed := rows.countP fun r => decide (r.processingStage = stage) && isFailed (keyOf now r) }
  next : Least item.nextActionAt fun t => ∃ r ∈ rows, Awaits now name r t

theorem stage_counts (table : List Cell) {stage : ProcessingStage} (hstage : owner stage = some name)
    {f : StageTotals → Nat} {p : Key → Bool} (hzero : f {} = 0)
    (hadd : ∀ item g, f ((Dict.get (Workload.tally now item g).byStage stage).getD {}) =
      f ((Dict.get item.byStage stage).getD {}) + if decide (g.key.stage = stage) && p g.key then g.count else 0) :
    f ((Dict.get ((workload now table).item name).byStage stage).getD {}) =
      (reported table).countP fun r => decide (r.processingStage = stage) && p (keyOf now r) := by
  refine (item_counts (f := fun item => f ((Dict.get item.byStage stage).getD {}))
    (p := fun key => decide (key.stage = stage) && p key) hzero hadd).trans ?_
  refine List.countP_congr fun r _ => ?_
  simp only [Bool.and_eq_true, decide_eq_true_eq]
  constructor
  · exact fun h => h.2
  · rintro ⟨rfl, hp⟩
    exact ⟨hstage, rfl, hp⟩

theorem reported_key (key : Key) :
    (isReadyNow key || isWaiting key || isFailed key) = decide (key.status ∈ [.ready, .waiting, .failed]) := by
  obtain ⟨stage, status, reason, due⟩ := key
  cases status <;> cases due <;> rfl

/-- The workload of a worker is a partition of the rows that are its own. -/
theorem workload_accounted (now : Time) (table : List Cell) (name : Worker) :
    Accounted now (reported table) name ((workload now table).item name) := by
  refine ⟨item_balanced now table name, ?_, fun stage hstage => ?_, item_next now table name⟩
  · rw [item_counts (f := fun item => item.readyNow + item.waiting + item.failed)
      (p := fun key => isReadyNow key || isWaiting key || isFailed key) rfl]
    · simp only [reported_key, keyOf]
    · intro item g
      obtain ⟨hwaiting, hfailed, -⟩ := tally_figures now item g
      simp only [tally_readyNow, hwaiting, hfailed]
      obtain ⟨⟨stage, status, reason, due⟩, count, earliest, oldest⟩ := g
      cases status <;> cases due <;> simp [isReadyNow, isWaiting, isFailed] <;> omega
  · have hready := stage_counts (f := (·.readyNow)) (p := isReadyNow) table hstage rfl fun item g =>
      congrArg (·.readyNow) ((tally_figures now item g).2.2 stage)
    have hwaiting := stage_counts (f := (·.waiting)) (p := isWaiting) table hstage rfl fun item g =>
      congrArg (·.waiting) ((tally_figures now item g).2.2 stage)
    have hfailed := stage_counts (f := (·.failed)) (p := isFailed) table hstage rfl fun item g =>
      congrArg (·.failed) ((tally_figures now item g).2.2 stage)
    rw [← hready, ← hwaiting, ← hfailed]

end Balance

section Coded

def Coded (c : Cell) : Prop :=
  ∀ r, c.record = some r → r.processingStatus = .failed → r.processingErrorCode.isSome

def tableOf (cells : ArkId → Cell) (keys : List (Nat × ArkId)) : List Row :=
  keys.filterMap fun e => (cells e.2).record.map fun record => ⟨e.1, e.2, record, (cells e.2).metadata⟩

theorem mem_tableOf {cells : ArkId → Cell} {keys : List (Nat × ArkId)} {r : Row} (h : r ∈ tableOf cells keys) :
    (cells r.ark).record = some r.record := by
  obtain ⟨e, -, he⟩ := List.mem_filterMap.mp h
  obtain ⟨record, hrecord, rfl⟩ := Option.map_eq_some_iff.mp he
  exact hrecord

variable [PyLower] {cfg : Config} {s : Sys} {c c' : Cell} {k : ArkId} {op : Op}

theorem coded_effect (h : Coded c) (heffect : Effect cfg k c op c') : Coded c' := by
  have hnoted : ∀ {c'}, Noted c c' → Coded c' := by
    intro c' hn
    cases hn with
    | failed | deferred =>
        rintro _ ⟨⟩ -
        rfl
  cases heffect with
  | none => exact h
  | reserved | raced =>
      rintro _ ⟨⟩
      simp [Reservation.record, createReserved]
  | staged hstaged =>
      obtain ⟨b, r, json, -, -, -, -, -, -, rfl⟩ := hstaged.ex
      rintro _ ⟨⟩
      simp [stagedRecord]
  | tombstoned htomb =>
      refine htomb.keeps h (fun info r _ => ?_) fun b r _ _ => ?_
      · rintro _ ⟨⟩
        simp
      · rintro _ ⟨⟩
        simp [tombstonedRecord]
  | retried =>
      rintro _ ⟨⟩
      simp [Retry.retriedRecord]
  | persisted =>
      rintro _ ⟨⟩
      simp [Persistence.persistedRecord]
  | @observed E r m _ _ level1 level2 repaired =>
      rintro _ ⟨⟩
      have hrecord := (reconciledRows_rows cfg.replication E level1 level2 r m repaired).1
      generalize (reconciledRows cfg.replication E level1 level2 r m repaired).1 = r' at hrecord ⊢
      cases hrecord with
      | chain | complete | again | waiting => simp
  | published _ _ hpub =>
      obtain ⟨m, cid, -, -, -, -, rfl⟩ := hpub
      rintro _ ⟨⟩
      simp [publishedRecord]
  | persistNoted _ _ hn | reconcileNoted _ _ hn | publishNoted _ _ hn | unassigned _ _ hn | resultNoted _ hn =>
      exact hnoted hn
  | publishedItem hpub =>
      obtain ⟨-, -, r, -, rfl⟩ := hpub
      rintro _ ⟨⟩
      simp [publishedRecord]

theorem reach_coded (h : Reach (step cfg) Free {} s) (k : ArkId) : Coded (s.cells k) := by
  refine reach_cells (I := Coded) h ?_ ?_ k
  · rintro _ ⟨⟩
  · intro s a k op _ _ _ heffect hc
    exact coded_effect hc heffect

def codeQuery (code : ProcessingErrorCode) : ErrorsQuery where
  errorCode := codeLabel code
  listed := ⟨Option.some_ne_none _ ∘ Eq.symm, Option.some_ne_none _ ∘ Eq.symm⟩
  pageSize_pos := Nat.le_add_left 1 49
  pageSize_le := Nat.le_add_left 50 150

omit [PyLower] in
theorem countP_codes {rows : List Row} (h : ∀ r ∈ rows, hasFailed r = true → r.record.processingErrorCode.isSome) :
    (errorCodes.map fun code => rows.countP fun r => hasFailed r && r.record.processingErrorCode = some code).sum =
      rows.countP hasFailed := by
  induction rows with
  | nil => rfl
  | cons r rows ih =>
      rw [List.countP_cons, ← ih fun r hr => h r (List.mem_cons_of_mem _ hr)]
      simp only [List.countP_cons, List.sum_map_add]
      congr 1
      cases hfailed : hasFailed r with
      | false => simp
      | true =>
          obtain ⟨code, hcode⟩ := Option.isSome_iff_exists.mp (h r (List.mem_cons_self ..) hfailed)
          cases code <;> simp [hcode, errorCodes]

/-- Whoever goes through the failures code by code misses none. -/
theorem failures_coded (h : Reach (step cfg) Free {} s) (keys : List (Nat × ArkId)) :
    Dict.get (errorsSummary (tableOf s.cells keys)).byCode "unknown" = none ∧
      (errorCodes.map fun code => (getWorkerErrors (tableOf s.cells keys) (codeQuery code) 1).total).sum =
        (errorsSummary (tableOf s.cells keys)).total := by
  have hcoded : ∀ r ∈ tableOf s.cells keys, hasFailed r = true → r.record.processingErrorCode.isSome := by
    intro r hr hfailed
    exact reach_coded h r.ark r.record (mem_tableOf hr) (of_decide_eq_true hfailed)
  constructor
  · have hnone : ((tableOf s.cells keys).filter hasFailed).countP (fun r =>
        errorLabel r.record.processingErrorCode = "unknown") = 0 := by
      refine List.countP_eq_zero.mpr fun r hr hunknown => ?_
      obtain ⟨hr, hfailed⟩ := List.mem_filter.mp hr
      have hlabel : errorLabel r.record.processingErrorCode = errorLabel none := of_decide_eq_true hunknown
      have hsome := hcoded r hr hfailed
      rw [errorLabel_inj.mp hlabel] at hsome
      cases hsome
    simp only [errorsSummary, get_tally, hnone, if_true]
  · rw [summary_total, ← countP_codes hcoded]
    congr 1
    refine List.map_congr_left fun code _ => ?_
    exact code_total (tableOf s.cells keys) 1 rfl rfl rfl

end Coded

section Sample

attribute [local instance] asciiText

open Deployment.Sample

def failedRow (id : Nat) (name : String) : Row where
  id
  ark := ⟨"1", name⟩
  record :=
    { state := .draft, authorityId := "A", createdAt := 0, updatedAt := 7, processingStage := .availability
      processingStatus := .failed, processingErrorCode := some .cidMismatch }
  metadata := none

def onePerPage : ErrorsQuery :=
  { codeQuery .cidMismatch with pageSize := 1, pageSize_pos := Nat.le_refl 1, pageSize_le := Nat.le_add_left 1 199 }

def scans (i : Nat) : List Row :=
  if i = 0 then [failedRow 1 "a", failedRow 2 "b"] else [failedRow 2 "b", failedRow 1 "a"]

theorem errors_listed_once_sample :
    (browse scans onePerPage 2).Perm ([failedRow 1 "a", failedRow 2 "b"].map itemOf) := by
  have hids : ([failedRow 1 "a", failedRow 2 "b"].map Row.id).Nodup := by decide
  have hscan : ∀ i, (scans i).Perm [failedRow 1 "a", failedRow 2 "b"] := by
    intro i
    unfold scans
    split
    · exact .refl _
    · exact .swap ..
  have hpages : (getWorkerErrors [failedRow 1 "a", failedRow 2 "b"] onePerPage 1).totalPages = 2 := by decide
  have hfound : [failedRow 1 "a", failedRow 2 "b"].filter onePerPage.takes = [failedRow 1 "a", failedRow 2 "b"] :=
    List.filter_eq_self.mpr (by decide)
  have hlisted := (errors_listed_once (q := onePerPage) hids hscan).1
  rw [hpages, hfound] at hlisted
  exact hlisted

/-- A process that does not serve the authority has marked the ARK. -/
theorem failures_coded_sample : ∃ s, Reach (step config) Free {} s ∧
    (errorsSummary (tableOf s.cells [(1, ark)])).total = 1 ∧
    (errorCodes.map fun code => (getWorkerErrors (tableOf s.cells [(1, ark)]) (codeQuery code) 1).total).sum = 1 := by
  have hrun : ((run (step config) (toChain ++ [.select 1 4 [ark], .readMetadata 1, .plan 1, .markUnassigned 1 10])
      {}).map fun s => (errorsSummary (tableOf s.cells [(1, ark)])).total) = some 1 := by decide
  obtain ⟨s, hs, htotal⟩ := Option.map_eq_some_iff.mp hrun
  exact ⟨s, run_reach hs, htotal, (failures_coded (run_reach hs) [(1, ark)]).2.trans htotal⟩

end Sample

end DarkMinter.Monitoring
