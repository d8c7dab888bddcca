import DarkMinter.Records
import DarkMinter.Lib.Percentile
import Mathlib.Data.Rat.Floor
import Mathlib.Order.MinMax

namespace DarkMinter.BacklogAge

open Processing Records Lib.Percentile

def stageCode : ProcessingStage → Nat
  | .none => 0
  | .metadata => 1
  | .availability => 2
  | .chain => 3
  | .replication => 4
  | .complete => 5

def statusCode : ProcessingStatus → Nat
  | .ready => 1
  | .waiting => 2
  | .failed => 3
  | .done => 4
  | .cancelled => 5

def counted (r : ARKRecord) : Bool :=
  stageCode r.processingStage ∈ [ProcessingStage.metadata, .availability, .chain].map stageCode &&
    statusCode r.processingStatus ∈ [ProcessingStatus.ready, .waiting].map statusCode

/-- The `WHERE` of the statement that computes the percentiles. -/
def ranked (r : ARKRecord) : Bool :=
  stageCode r.processingStage ∈ [1, 2, 4] && statusCode r.processingStatus ∈ [1, 2]

def age (now : Time) (r : ARKRecord) : ℚ := ((now - r.createdAt : Int) : ℚ) / 1000000

structure BacklogAgeMetrics where
  count : Nat
  oldestSeconds : ℚ
  p50Seconds : Option ℚ
  p95Seconds : Option ℚ

/-- `_backlog_age_metrics` on PostgreSQL, with no figure rounded. -/
def backlogAgeMetrics (now : Time) (table : List ARKRecord) : BacklogAgeMetrics :=
  let backlog := table.filter counted
  let ages := (table.filter ranked).map (age now)
  { count := backlog.length
    oldestSeconds := match (backlog.map (·.createdAt)).min? with
      | some oldest => ((now - oldest : Int) : ℚ) / 1000000
      | none => 0
    p50Seconds := if backlog = [] then none else some ((percentileCont (1 / 2) ages).getD 0)
    p95Seconds := if backlog = [] then none else some ((percentileCont (95 / 100) ages).getD 0) }

def InBacklog (r : ARKRecord) : Prop :=
  r.processingStage ∈ [ProcessingStage.metadata, .availability, .chain] ∧
    r.processingStatus ∈ [ProcessingStatus.ready, .waiting]

theorem counted_iff {r : ARKRecord} : counted r = true ↔ InBacklog r := by
  cases hstage : r.processingStage <;> cases hstatus : r.processingStatus <;>
    simp [counted, InBacklog, stageCode, statusCode, hstage, hstatus]

theorem ranked_iff {r : ARKRecord} : (ranked r = counted r) ↔
    (r.processingStatus ∈ [ProcessingStatus.ready, .waiting] →
      r.processingStage ≠ .chain ∧ r.processingStage ≠ .replication) := by
  cases hstage : r.processingStage <;> cases hstatus : r.processingStatus <;>
    simp [counted, ranked, stageCode, statusCode, hstage, hstatus]

theorem count_pos_iff {now : Time} {table : List ARKRecord} :
    0 < (backlogAgeMetrics now table).count ↔ ∃ r ∈ table, InBacklog r := by
  simp only [backlogAgeMetrics, List.length_filter_pos_iff, counted_iff]

theorem age_le_oldest {now : Time} {rows : List ARKRecord} {oldest : Time}
    (h : (rows.map (·.createdAt)).min? = some oldest) {r : ARKRecord} (hr : r ∈ rows) :
    age now r ≤ ((now - oldest : Int) : ℚ) / 1000000 := by
  have hle : oldest ≤ r.createdAt := (List.min?_eq_some_iff.mp h).2 _ (List.mem_map_of_mem hr)
  have hsub : ((now - r.createdAt : Int) : ℚ) ≤ ((now - oldest : Int) : ℚ) := by
    exact_mod_cast Int.sub_le_sub_left hle now
  exact div_le_div_of_nonneg_right hsub (by norm_num)

/-- All figures are about the backlog, and stand in the order of their names. Over an empty backlog
the percentiles are not computed. -/
structure OnePopulation (now : Time) (table : List ARKRecord) : Prop where
  count : ∀ r ∈ table, counted r = true ↔ InBacklog r
  percentiles : 0 < (backlogAgeMetrics now table).count → ∀ r ∈ table, ranked r = true ↔ InBacklog r
  ordered : 0 < (backlogAgeMetrics now table).count → ∃ p50 p95, (backlogAgeMetrics now table).p50Seconds = some p50 ∧
    (backlogAgeMetrics now table).p95Seconds = some p95 ∧ p50 ≤ p95 ∧ p95 ≤ (backlogAgeMetrics now table).oldestSeconds

theorem percentiles_ordered (now : Time) {rows : List ARKRecord} (hne : rows ≠ []) :
    ∃ p50 p95 oldest, percentileCont (1 / 2) (rows.map (age now)) = some p50 ∧
      percentileCont (95 / 100) (rows.map (age now)) = some p95 ∧ (rows.map (·.createdAt)).min? = some oldest ∧
      p50 ≤ p95 ∧ p95 ≤ ((now - oldest : Int) : ℚ) / 1000000 := by
  have hages : rows.map (age now) ≠ [] := by simpa using hne
  obtain ⟨p50, h50⟩ := percentileCont_some (1 / 2 : ℚ) hages
  obtain ⟨p95, h95⟩ := percentileCont_some (95 / 100 : ℚ) hages
  obtain ⟨oldest, holdest⟩ : ∃ oldest, (rows.map (·.createdAt)).min? = some oldest := by
    rw [← Option.isSome_iff_exists, List.isSome_min?_iff]
    simpa using hne
  have hbound : ∀ x ∈ rows.map (age now), x ≤ ((now - oldest : Int) : ℚ) / 1000000 :=
    List.forall_mem_map.mpr fun r hr => age_le_oldest holdest hr
  refine ⟨p50, p95, oldest, h50, h95, holdest, ?_, ?_⟩
  · exact percentileCont_mono (by norm_num) (by norm_num) (by norm_num) h50 h95
  · exact percentileCont_le (by norm_num) (by norm_num) hbound h95

/-- The figures describe one population exactly where the backlog is empty, or no record is at the
chain stage, which the percentiles leave out, or at the replication stage, which they take in. -/
theorem onePopulation_iff (now : Time) (table : List ARKRecord) : OnePopulation now table ↔
    ((∃ r ∈ table, InBacklog r) → ∀ r ∈ table, r.processingStatus ∈ [ProcessingStatus.ready, .waiting] →
      r.processingStage ≠ .chain ∧ r.processingStage ≠ .replication) := by
  constructor
  · intro h hbacklog r hr
    rw [← ranked_iff, Bool.eq_iff_iff, h.percentiles (count_pos_iff.mpr hbacklog) r hr, h.count r hr]
  · intro h
    have hsame : 0 < (backlogAgeMetrics now table).count → ∀ r ∈ table, ranked r = counted r :=
      fun hcount r hr => ranked_iff.mpr (h (count_pos_iff.mp hcount) r hr)
    refine ⟨fun _ _ => counted_iff, fun hcount r hr => ?_, fun hcount => ?_⟩
    · rw [hsame hcount r hr, counted_iff]
    · have hrows : table.filter ranked = table.filter counted := List.filter_congr (hsame hcount)
      have hne : table.filter counted ≠ [] := List.length_pos_iff.mp hcount
      obtain ⟨p50, p95, oldest, h50, h95, holdest, hmono, hbound⟩ := percentiles_ordered now hne
      refine ⟨p50, p95, ?_, ?_, hmono, ?_⟩
      · simp only [backlogAgeMetrics, if_neg hne, hrows, h50, Option.getD_some]
      · simp only [backlogAgeMetrics, if_neg hne, hrows, h95, Option.getD_some]
      · simp only [backlogAgeMetrics, holdest]
        exact hbound

def mixed : List ARKRecord :=
  [{ state := .draft, authorityId := "A", createdAt := seconds 1990, updatedAt := 0,
     processingStage := .metadata, processingStatus := .ready },
   { state := .published, authorityId := "A", createdAt := seconds 1000, updatedAt := 0,
     processingStage := .replication, processingStatus := .waiting }]

theorem mixed_populations : ¬OnePopulation (seconds 2000) mixed := by
  intro h
  have hfigures : (backlogAgeMetrics (seconds 2000) mixed).oldestSeconds = 10 ∧
      (backlogAgeMetrics (seconds 2000) mixed).p50Seconds = some 505 := by decide +kernel
  obtain ⟨p50, p95, h50, -, hmono, hbound⟩ := h.ordered (by decide)
  obtain rfl := Option.some.inj (hfigures.2.symm.trans h50)
  rw [hfigures.1] at hbound
  linarith

end DarkMinter.BacklogAge
