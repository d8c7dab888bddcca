import DarkMinter.Lib.Dict
import DarkMinter.Repository
import Mathlib.Algebra.BigOperators.Group.List.Lemmas
import Mathlib.Algebra.GroupWithZero.Nat

namespace DarkMinter.Workload

open Processing Records Repository Lib

inductive Worker
  | metadata
  | replication
  | chain
  deriving DecidableEq

/-- `owner`, the reverse of `WORKER_STAGES`. -/
def owner : ProcessingStage → Option Worker
  | .metadata => some .metadata
  | .availability | .replication => some .replication
  | .chain => some .chain
  | .none | .complete => none

structure StageTotals where
  readyNow : Nat := 0
  waiting : Nat := 0
  failed : Nat := 0

/-- What `_workload` reports of one worker. The oldest wait is in microseconds. -/
structure Item where
  readyNow : Nat := 0
  waiting : Nat := 0
  oldestWait : Int := 0
  nextActionAt : Option Time := none
  waitingReasons : List (ProcessingWaitReason × Nat) := []
  failed : Nat := 0
  byStage : List (ProcessingStage × StageTotals) := []

inductive MaintenanceBlock
  | metadataBacklog
  | firstPinBacklog

structure Report where
  item : Worker → Item
  maintenanceReady : Nat
  maintenanceBlockedBy : Option MaintenanceBlock

/-- The columns that the rows are grouped by, with whether their time has come. -/
structure Key where
  stage : ProcessingStage
  status : ProcessingStatus
  reason : ProcessingWaitReason
  due : Bool
  deriving DecidableEq

structure Group where
  key : Key
  count : Nat
  earliest : Option Time
  oldestCreated : Option Time

def keyOf (now : Time) (r : ARKRecord) : Key :=
  ⟨r.processingStage, r.processingStatus, r.processingWaitReason, r.nextActionAt.any (· ≤ now)⟩

def reported (table : List Cell) : List ARKRecord :=
  (table.filterMap (·.record)).filter fun r => r.state ∈ [ARKState.draft, .update, .published]

def groupOf (now : Time) (rows : List ARKRecord) (key : Key) : Group :=
  let members := rows.filter fun r => keyOf now r = key
  { key
    count := members.length
    earliest := (members.filterMap (·.nextActionAt)).min?
    oldestCreated := (members.map (·.createdAt)).min? }

def groups (now : Time) (rows : List ARKRecord) : List Group :=
  (rows.map (keyOf now)).dedup.map (groupOf now rows)

def earlier (a b : Option Time) : Option Time :=
  match a, b with
  | some t, some u => some (if t < u then t else u)
  | some t, none => some t
  | none, b => b

def isReadyNow (key : Key) : Bool := key.status = .ready || key.status = .waiting && key.due

def tally (now : Time) (item : Item) (g : Group) : Item :=
  let totals := (Dict.get item.byStage g.key.stage).getD {}
  if isReadyNow g.key then
    { item with
      readyNow := item.readyNow + g.count
      byStage := Dict.set item.byStage g.key.stage { totals with readyNow := totals.readyNow + g.count } }
  else if g.key.status = .waiting then
    { item with
      waiting := item.waiting + g.count
      byStage := Dict.set item.byStage g.key.stage { totals with waiting := totals.waiting + g.count }
      waitingReasons := Dict.set item.waitingReasons g.key.reason
        ((Dict.get item.waitingReasons g.key.reason).getD 0 + g.count)
      nextActionAt := earlier g.earliest item.nextActionAt
      oldestWait := match g.oldestCreated with
        | some created => max item.oldestWait (now - created)
        | none => item.oldestWait }
  else if g.key.status = .failed then
    { item with
      failed := item.failed + g.count
      byStage := Dict.set item.byStage g.key.stage { totals with failed := totals.failed + g.count } }
  else { item with byStage := Dict.set item.byStage g.key.stage totals }

def tallyAll (now : Time) (gs : List Group) : Worker → Item :=
  gs.foldl (fun result g => match owner g.key.stage with
    | some name => Function.update result name (tally now (result name) g)
    | none => result) fun _ => {}

def awaitsDurability (c : Cell) : Bool :=
  c.record.any fun r => r.state = .published && r.processingStage = .replication &&
    r.processingStatus ∈ activeStatuses

/-- `_workload`, over the rows of the ARKs in the table. -/
def workload (now : Time) (table : List Cell) : Report where
  item := tallyAll now (groups now (reported table))
  maintenanceReady := table.countP awaitsDurability
  maintenanceBlockedBy :=
    if table.any metadataBacklog then some .metadataBacklog
    else if table.any firstPinBacklog then some .firstPinBacklog
    else none

def countedReady (now : Time) (name : Worker) (r : ARKRecord) : Bool :=
  owner r.processingStage = some name && isReadyNow (keyOf now r)

def readyCount (name : Worker) (g : Group) : Nat :=
  if owner g.key.stage = some name ∧ isReadyNow g.key = true then g.count else 0

theorem tally_readyNow (now : Time) (item : Item) (g : Group) :
    (tally now item g).readyNow = item.readyNow + if isReadyNow g.key then g.count else 0 := by
  unfold tally
  simp only
  split
  · rfl
  · split
    · rfl
    · split <;> rfl

theorem tallyAll_readyNow (now : Time) (gs : List Group) (name : Worker) :
    (tallyAll now gs name).readyNow = (gs.map (readyCount name)).sum := by
  have h : ∀ (gs : List Group) (result : Worker → Item),
      (gs.foldl (fun result g => match owner g.key.stage with
        | some name => Function.update result name (tally now (result name) g)
        | none => result) result name).readyNow =
      (result name).readyNow + (gs.map (readyCount name)).sum := by
    intro gs
    induction gs with
    | nil => simp
    | cons g gs ih =>
        intro result
        rw [List.foldl_cons, ih, List.map_cons, List.sum_cons, ← Nat.add_assoc]
        congr 1
        unfold readyCount
        cases howner : owner g.key.stage with
        | none => simp
        | some other =>
            by_cases hname : other = name
            · subst hname
              simp [tally_readyNow]
            · simp [Function.update_of_ne (Ne.symm hname), hname]
  simpa [tallyAll] using h gs fun _ => {}

theorem groupOf_count (now : Time) (rows : List ARKRecord) (key : Key) :
    (groupOf now rows key).count = (rows.map (keyOf now)).count key := by
  rw [List.count, List.countP_map, List.countP_eq_length_filter]
  simp [groupOf, Function.comp_def, beq_eq_decide]

theorem readyNow_groups (now : Time) (rows : List ARKRecord) (name : Worker) :
    ((groups now rows).map (readyCount name)).sum = rows.countP (countedReady now name) := by
  have hkeys : ∀ keys : List Key, ((keys.map (groupOf now rows)).map (readyCount name)).sum =
      ((keys.filter fun key => owner key.stage = some name && isReadyNow key).map fun key =>
        (rows.map (keyOf now)).count key).sum := by
    intro keys
    induction keys with
    | nil => rfl
    | cons key keys ih =>
        rw [List.map_cons, List.map_cons, List.sum_cons, ih, List.filter_cons]
        have hkey : (groupOf now rows key).key = key := rfl
        by_cases h : owner key.stage = some name ∧ isReadyNow key = true
        · simp [readyCount, hkey, h, groupOf_count]
        · rw [if_neg (by simpa using h)]
          simp [readyCount, hkey, h]
  rw [groups, hkeys, List.sum_map_count_dedup_filter_eq_countP, List.countP_map]
  rfl

theorem workload_readyNow (now : Time) (table : List Cell) (name : Worker) :
    ((workload now table).item name).readyNow = (reported table).countP (countedReady now name) := by
  change (tallyAll now (groups now (reported table)) name).readyNow = _
  rw [tallyAll_readyNow, readyNow_groups]

theorem workload_insert (now : Time) (before after : List Cell) {c : Cell} {r : ARKRecord}
    (hr : c.record = some r) (hstate : r.state = .draft ∨ r.state = .update ∨ r.state = .published)
    (name : Worker) :
    ((workload now (before ++ c :: after)).item name).readyNow =
      ((workload now (before ++ after)).item name).readyNow +
        if countedReady now name r then 1 else 0 := by
  have hrow : ∀ table, reported (c :: table) = r :: reported table := by
    intro table
    simp [reported, hr, hstate]
  have happend : ∀ table table', reported (table ++ table') = reported table ++ reported table' := by
    intro table table'
    simp [reported]
  rw [workload_readyNow, workload_readyNow, happend, happend, hrow, List.countP_append, List.countP_cons,
    List.countP_append, Nat.add_assoc]

end DarkMinter.Workload
