import DarkMinter.Repository

namespace DarkMinter.WakePlan

open Text Processing Records Repository

/-- The settings of `ReplicationReconciliationWorker` that size and pace its cycles, after the
clamping of its constructor. -/
structure Pace where
  pageSize : Int
  promotionBatchSize : Int
  maintenanceCycleSeconds : Int
  idleSleepSeconds : Int
  pageSize_pos : 1 ≤ pageSize
  promotionBatchSize_pos : 1 ≤ promotionBatchSize
  maintenanceCycleSeconds_pos : 1 ≤ maintenanceCycleSeconds
  idleSleepSeconds_pos : 1 ≤ idleSleepSeconds

theorem one_le_max_one (value : Int) : 1 ≤ max value 1 := Int.le_max_right value 1

def Pace.init (page promotionBatch maintenanceCycle idleSleep : Int) : Pace where
  pageSize := max page 1
  promotionBatchSize := min (max promotionBatch 1) 200
  maintenanceCycleSeconds := max maintenanceCycle 1
  idleSleepSeconds := max idleSleep 1
  pageSize_pos := one_le_max_one page
  promotionBatchSize_pos := by omega
  maintenanceCycleSeconds_pos := one_le_max_one maintenanceCycle
  idleSleepSeconds_pos := one_le_max_one idleSleep

/-- The order of the queue: by the scheduled action and then by the last check, nulls first, and
then by row, which the table has its cells in. -/
def queueOrder (a b : Cell) : Bool :=
  ((compare (a.record.bind (·.nextActionAt)) (b.record.bind (·.nextActionAt))).then
    (compare (a.metadata.bind (·.replicationCheckedAt)) (b.metadata.bind (·.replicationCheckedAt)))).isLE

def getReconciliationCandidates (limit : Int) (stage : ProcessingStage) (now : Time) (table : List Cell) :
    List Cell :=
  ((table.filter (reconciliationCandidate stage now)).mergeSort queueOrder).take limit.toNat

def reconciliationActionAt (c : Cell) : Option Time :=
  match c.record, c.metadata with
  | some r, some m =>
      if r.processingStage ∈ [ProcessingStage.availability, .replication] ∧
        m.level1Cid.isSome = true ∧ m.originalCid.isSome = true then r.nextActionAt else none
  | _, _ => none

def getNextReconciliationActionAt (table : List Cell) : Option Time :=
  (table.filterMap reconciliationActionAt).min?

def maintenancePageSize (cfg : Pace) : Int := max 1 (min cfg.pageSize ((cfg.promotionBatchSize + 1) / 2))

def cycleRecords (cfg : Pace) (now : Time) (table : List Cell) : List Cell × Bool :=
  let records := getReconciliationCandidates cfg.pageSize .availability now table
  if records = [] ∧ hasCriticalReconciliationBacklog table = false then
    (getReconciliationCandidates (maintenancePageSize cfg) .replication now table, true)
  else (records, false)

/-- The delay and its reason, with the whole seconds of a positive or negative difference. -/
def nextWakePlan (cfg : Pace) (now : Time) (table : List Cell) : Int × String :=
  if getReconciliationCandidates 1 .availability now table ≠ [] then (0, "continue_due_work")
  else if hasCriticalReconciliationBacklog table = false ∧
    getReconciliationCandidates 1 .replication now table ≠ [] then
    (cfg.maintenanceCycleSeconds, "maintenance_paced")
  else match getNextReconciliationActionAt table with
    | none => (cfg.idleSleepSeconds, "idle_no_work")
    | some nextDue =>
        (min (max ((nextDue - now).tdiv (seconds 1)) 0) cfg.idleSleepSeconds, "sleeping_until_due")

/-- A plan that does not wait finds work in the cycle that it leads to. -/
def NeverSpins (cfg : Pace) (now : Time) (table : List Cell) : Prop :=
  (nextWakePlan cfg now table).1 = 0 → (cycleRecords cfg now table).1 ≠ []

def HasCandidate (stage : ProcessingStage) (now : Time) (table : List Cell) : Prop :=
  ∃ c ∈ table, reconciliationCandidate stage now c = true

def Workable (now : Time) (table : List Cell) : Prop :=
  HasCandidate .availability now table ∨
    hasCriticalReconciliationBacklog table = false ∧ HasCandidate .replication now table

def Quiet (now : Time) (table : List Cell) : Prop :=
  ∀ c ∈ table, ∀ t, reconciliationActionAt c = some t → seconds 1 ≤ t - now

variable {cfg : Pace} {now : Time} {table : List Cell} {stage : ProcessingStage} {limit : Int}

theorem candidates_ne_nil (stage : ProcessingStage) (now : Time) (table : List Cell) (h : 1 ≤ limit) :
    getReconciliationCandidates limit stage now table ≠ [] ↔ HasCandidate stage now table := by
  have hlimit : limit.toNat ≠ 0 := by omega
  rw [getReconciliationCandidates, ne_eq, List.take_eq_nil_iff, or_iff_right hlimit, ← ne_eq,
    ← List.length_pos_iff, List.length_mergeSort, List.length_pos_iff, ne_eq, List.filter_eq_nil_iff]
  simp only [HasCandidate, not_forall, not_not, exists_prop]

theorem nextAction_none : getNextReconciliationActionAt table = none ↔
    ∀ c ∈ table, ∀ t, reconciliationActionAt c ≠ some t := by
  rw [getNextReconciliationActionAt, List.min?_eq_none_iff, List.filterMap_eq_nil_iff]
  exact forall₂_congr fun c _ => Option.eq_none_iff_forall_ne_some

theorem wholeSeconds_pos {delta : Int} : 1 ≤ delta.tdiv (seconds 1) ↔ seconds 1 ≤ delta := by
  change 1 ≤ delta.tdiv 1000000 ↔ (1000000 : Int) ≤ delta
  by_cases hsign : 0 ≤ delta
  · rw [Int.tdiv_eq_ediv_of_nonneg hsign]
    omega
  · have hnonpos : delta.tdiv 1000000 ≤ 0 := by
      rw [← Int.neg_neg delta, Int.neg_tdiv, Int.neg_nonpos_iff]
      exact Int.tdiv_nonneg (by omega) (by omega)
    omega

theorem quiet_of_next {t : Time} (h : getNextReconciliationActionAt table = some t) :
    Quiet now table ↔ seconds 1 ≤ t - now := by
  obtain ⟨hmem, hle⟩ := List.min?_eq_some_iff.mp h
  constructor
  · intro hquiet
    obtain ⟨c, hc, ht⟩ := List.mem_filterMap.mp hmem
    exact hquiet c hc t ht
  · intro ht c hc u hu
    have htu : t ≤ u := hle u (List.mem_filterMap.mpr ⟨c, hc, hu⟩)
    exact Int.le_trans ht (Int.sub_le_sub_right htu now)

theorem quiet_of_none (h : getNextReconciliationActionAt table = none) : Quiet now table := by
  intro c hc t ht
  exact absurd ht (nextAction_none.mp h c hc t)

theorem cycleRecords_ne_nil (cfg : Pace) : (cycleRecords cfg now table).1 ≠ [] ↔ Workable now table := by
  have hmaintained : 1 ≤ maintenancePageSize cfg := Int.le_max_left ..
  have hfirst := candidates_ne_nil .availability now table cfg.pageSize_pos
  have hmaintenance := candidates_ne_nil .replication now table hmaintained
  rw [Workable, ← hfirst, ← hmaintenance, cycleRecords]
  by_cases hnone : getReconciliationCandidates cfg.pageSize .availability now table = []
  · rw [or_iff_right (not_not.mpr hnone)]
    by_cases hbacklog : hasCriticalReconciliationBacklog table = false
    · rw [if_pos ⟨hnone, hbacklog⟩, and_iff_right hbacklog]
    · rw [if_neg (fun h => hbacklog h.2)]
      exact ⟨fun h => absurd hnone h, fun h => absurd h.1 hbacklog⟩
  · rw [if_neg (fun h => hnone h.1)]
    exact ⟨.inl, fun _ => hnone⟩

theorem nextWakePlan_zero (cfg : Pace) :
    (nextWakePlan cfg now table).1 = 0 ↔ HasCandidate .availability now table ∨
      ¬Workable now table ∧ ¬Quiet now table := by
  have hidle := cfg.idleSleepSeconds_pos
  have hmaintenance := cfg.maintenanceCycleSeconds_pos
  have hone : ∀ stage, getReconciliationCandidates 1 stage now table ≠ [] ↔ HasCandidate stage now table :=
    fun _ => candidates_ne_nil _ _ _ (Int.le_refl 1)
  rw [Workable, nextWakePlan]
  by_cases hfirst : HasCandidate .availability now table
  · rw [if_pos ((hone _).mpr hfirst)]
    exact ⟨fun _ => .inl hfirst, fun _ => rfl⟩
  · rw [if_neg (mt (hone _).mp hfirst), or_iff_right hfirst, or_iff_right hfirst, ← hone]
    by_cases hdue : hasCriticalReconciliationBacklog table = false ∧
        getReconciliationCandidates 1 .replication now table ≠ []
    · rw [if_pos hdue]
      exact ⟨fun h => by omega, fun h => absurd hdue h.1⟩
    · rw [if_neg hdue, and_iff_right hdue]
      cases hnext : getNextReconciliationActionAt table with
      | none =>
          change cfg.idleSleepSeconds = 0 ↔ _
          exact ⟨fun h => by omega, fun h => absurd (quiet_of_none hnext) h⟩
      | some t =>
          change min (max ((t - now).tdiv (seconds 1)) 0) cfg.idleSleepSeconds = 0 ↔ _
          rw [quiet_of_next hnext, ← wholeSeconds_pos]
          omega

/-- The loop never spins exactly where a cycle finds work or nothing is scheduled within a second. -/
theorem replication_never_spins_iff (cfg : Pace) (now : Time) (table : List Cell) :
    NeverSpins cfg now table ↔ Workable now table ∨ Quiet now table := by
  rw [NeverSpins, nextWakePlan_zero, cycleRecords_ne_nil]
  constructor
  · intro h
    by_contra hnot
    obtain ⟨hwork, hquiet⟩ := not_or.mp hnot
    exact hwork (h (.inr ⟨hwork, hquiet⟩))
  · rintro (hwork | hquiet) hzero
    · exact hwork
    · exact (hzero.imp .inl fun h => absurd hquiet h.2).elim id id

/-- What is scheduled within a second behind a backlog that is not due is planned for at once and
left out of the cycle, for as long as the table stays as it is. -/
theorem spins_of_blocked (cfg : Pace) {c : Cell} {t : Time} (hbacklog : hasCriticalReconciliationBacklog table = true)
    (hfirst : ¬HasCandidate .availability now table) (hc : c ∈ table) (ht : reconciliationActionAt c = some t)
    (hnear : t - now < seconds 1) :
    (nextWakePlan cfg now table).1 = 0 ∧ (cycleRecords cfg now table).1 = [] := by
  have hwork : ¬Workable now table := by
    rintro (h | ⟨h, -⟩)
    · exact hfirst h
    · rw [hbacklog] at h
      cases h
  have hquiet : ¬Quiet now table := fun h => Int.not_le.mpr hnear (h c hc t ht)
  exact ⟨(nextWakePlan_zero cfg).mpr (.inr ⟨hwork, hquiet⟩), not_not.mp fun h =>
    hwork ((cycleRecords_ne_nil cfg).mp h)⟩

def defaults : Pace := .init 100 100 5 2

def queued (stage : ProcessingStage) (state : ARKState) (cids : Option Cid) (at_ : Time) : Cell where
  record := some
    { state, authorityId := "", createdAt := 0, updatedAt := 0, processingStage := stage,
      processingStatus := .waiting, nextActionAt := some at_ }
  metadata := some
    { level1Json := none, originalContent := none, originalSchema := "", level1Cid := cids,
      originalCid := cids, createdAt := 0, updatedAt := 0 }

def blocked : List Cell :=
  [queued .replication .published (some ⟨"a", by decide⟩) (seconds 10),
    queued .metadata .draft none (seconds 1800)]

theorem replication_spins_blocked :
    (nextWakePlan defaults (seconds 20) blocked).1 = 0 ∧ (cycleRecords defaults (seconds 20) blocked).1 = [] ∧
      ¬NeverSpins defaults (seconds 20) blocked := by
  have hfirst : ¬HasCandidate .availability (seconds 20) blocked := by
    simp [HasCandidate, blocked, queued, reconciliationCandidate]
  obtain ⟨hplan, hcycle⟩ := spins_of_blocked defaults (by decide) hfirst
    (List.mem_cons_self ..) (t := seconds 10) rfl (by decide)
  exact ⟨hplan, hcycle, fun h => h hplan hcycle⟩

end DarkMinter.WakePlan
