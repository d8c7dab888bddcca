import DarkMinter.Lib.Runs
import DarkMinter.Processing

namespace DarkMinter.RuntimeStatus

open Processing Lib.Runs

structure Stats where
  totalProcessed : Nat := 0
  totalSucceeded : Nat := 0
  totalFailed : Nat := 0
  totalPermanentFailures : Nat := 0
  lastRunAt : Option Time := none
  lastRunDuration : Option Time := none
  lastRunProcessed : Nat := 0
  lastRunSucceeded : Nat := 0
  lastRunFailed : Nat := 0
  lastReconciliationAt : Option Time := none
  lastReconciliationChecked : Nat := 0
  lastReconciliationAdvanced : Nat := 0
  lastReconciliationWaiting : Nat := 0
  lastReconciliationRepaired : Nat := 0
  lastReconciliationPurged : Nat := 0
  lastReconciliationFailed : Nat := 0
  lastReplicationPromotionsAccepted : Nat := 0
  lastReplicationConfirmedCids : Nat := 0
  lastReplicationPendingCids : Nat := 0
  lastReplicationBatchLatencyMs : Nat := 0
  deriving DecidableEq

/-- What `_extract_runtime_stats` hands to `upsert_status`. -/
structure CycleStats where
  lastCycleAt : Option Time := none
  lastCycleDurationSeconds : Option Time := none
  lastCycleProcessed : Option Nat := none
  lastCycleSucceeded : Option Nat := none
  lastCycleFailed : Option Nat := none
  lastReconciliationAt : Option Time := none
  lastReconciliationChecked : Nat := 0
  lastReconciliationAdvanced : Nat := 0
  lastReconciliationWaiting : Nat := 0
  lastReconciliationRepaired : Nat := 0
  lastReconciliationPurged : Nat := 0
  lastReconciliationFailed : Nat := 0
  lastReplicationPromotionsAccepted : Nat := 0
  lastReplicationConfirmedCids : Nat := 0
  lastReplicationPendingCids : Nat := 0
  lastReplicationBatchLatencyMs : Nat := 0
  totalProcessed : Nat := 0
  totalSucceeded : Nat := 0
  totalFailed : Nat := 0
  totalPermanentFailures : Nat := 0
  deriving DecidableEq

structure Report where
  instanceId : String
  host : String
  pid : Int
  status : String
  startedAt : Time
  nextWakeAt : Option Time := none
  lastError : Option String := none
  deriving DecidableEq

structure Heartbeat where
  report : Report
  heartbeatAt : Time
  stats : CycleStats
  deriving DecidableEq

structure WorkerRuntimeStatus where
  heartbeat : Heartbeat
  consecutiveNoProgressCycles : Nat := 0
  deriving DecidableEq

def extractRuntimeStats : Option Stats → CycleStats
  | none => {}
  | some stats =>
      { lastCycleAt := stats.lastRunAt
        lastCycleDurationSeconds := stats.lastRunDuration
        lastCycleProcessed := some stats.lastRunProcessed
        lastCycleSucceeded := some stats.lastRunSucceeded
        lastCycleFailed := some stats.lastRunFailed
        lastReconciliationAt := stats.lastReconciliationAt
        lastReconciliationChecked := stats.lastReconciliationChecked
        lastReconciliationAdvanced := stats.lastReconciliationAdvanced
        lastReconciliationWaiting := stats.lastReconciliationWaiting
        lastReconciliationRepaired := stats.lastReconciliationRepaired
        lastReconciliationPurged := stats.lastReconciliationPurged
        lastReconciliationFailed := stats.lastReconciliationFailed
        lastReplicationPromotionsAccepted := stats.lastReplicationPromotionsAccepted
        lastReplicationConfirmedCids := stats.lastReplicationConfirmedCids
        lastReplicationPendingCids := stats.lastReplicationPendingCids
        lastReplicationBatchLatencyMs := stats.lastReplicationBatchLatencyMs
        totalProcessed := stats.totalProcessed
        totalSucceeded := stats.totalSucceeded
        totalFailed := stats.totalFailed
        totalPermanentFailures := stats.totalPermanentFailures }

def attempted (stats : CycleStats) : Nat := stats.lastCycleProcessed.getD 0

def progress (workerName : String) (stats : CycleStats) : Nat :=
  if workerName ≠ "" ∧ stats.lastReconciliationAt.isSome = true then
    stats.lastReconciliationAdvanced + stats.lastReconciliationWaiting + stats.lastReconciliationRepaired
  else stats.lastCycleSucceeded.getD 0

def noProgress (workerName : String) (stats : CycleStats) : Bool :=
  0 < attempted stats && progress workerName stats = 0

def upsertStatus (workerName : String) (row : Option WorkerRuntimeStatus) (h : Heartbeat) : WorkerRuntimeStatus :=
  match row with
  | none => { heartbeat := h }
  | some record =>
      { heartbeat := h
        consecutiveNoProgressCycles :=
          if noProgress workerName h.stats then min (record.consecutiveNoProgressCycles + 1) smallintMax else 0 }

/-- A worker process with the row of its name. The statistics of its last finished cycle, and its
calls, the newest first, are remembered. -/
structure Worker where
  publisher : Option Stats := none
  finished : Option Stats := none
  row : Option WorkerRuntimeStatus
  calls : List Heartbeat := []

inductive Act
  | createPublisher
  | update (stats : Stats)
  | finish (at_ : Time) (stats : Stats)
  | upsert (report : Report) (heartbeatAt : Time)

def Worker.heartbeat (s : Worker) (report : Report) (heartbeatAt : Time) : Heartbeat :=
  ⟨report, heartbeatAt, extractRuntimeStats s.publisher⟩

/-- A cycle updates the statistics of the publisher on its way, and ends at a time of its own. -/
def step (workerName : String) (s : Worker) : Act → Option Worker
  | .createPublisher => if s.publisher = none then some { s with publisher := some {}, finished := some {} } else none
  | .update stats => s.publisher.map fun _ => { s with publisher := some stats }
  | .finish at_ stats =>
      if s.publisher.isSome = true ∧ ∀ h ∈ s.calls, h.stats.lastCycleAt ≠ some at_ then
        let cycle := some { stats with lastRunAt := some at_ }
        some { s with publisher := cycle, finished := cycle }
      else none
  | .upsert report heartbeatAt =>
      let h := s.heartbeat report heartbeatAt
      some { s with row := some (upsertStatus workerName s.row h), calls := h :: s.calls }

def start (row : Option WorkerRuntimeStatus) : Worker := { row }

def isReported (calls : List Heartbeat) (stats : CycleStats) : Bool :=
  calls.any fun h => h.stats.lastCycleAt = stats.lastCycleAt

/-- The distinct completed cycles that the calls report, each by its first report, and the newest
first. -/
def completedCycles : List Heartbeat → List CycleStats
  | [] => []
  | h :: calls =>
      if h.stats.lastCycleAt = none ∨ isReported calls h.stats = true then completedCycles calls
      else h.stats :: completedCycles calls

def noProgressCycles (workerName : String) (calls : List Heartbeat) : Nat :=
  ((completedCycles calls).takeWhile (noProgress workerName)).length

def Counted (workerName : String) (s : Worker) : Prop :=
  ∀ h calls, s.calls = h :: calls →
    s.row.map (·.consecutiveNoProgressCycles) = some (min (noProgressCycles workerName s.calls) smallintMax)

/-- A call reports no cycle that is still under way, and each cycle without progress once, after
the worker has written its row. -/
def Once (workerName : String) (s : Worker) (a : Act) : Prop :=
  ∀ report heartbeatAt, a = .upsert report heartbeatAt →
    s.publisher = s.finished ∧ (noProgress workerName (extractRuntimeStats s.publisher) = true →
      s.calls ≠ [] ∧ isReported s.calls (extractRuntimeStats s.publisher) = false)

variable {workerName : String} {s t : Worker} {a : Act} {row : Option WorkerRuntimeStatus}
variable {calls : List Heartbeat} {h : Heartbeat}

theorem completedCycles_old (hold : h.stats.lastCycleAt = none ∨ isReported calls h.stats = true) :
    completedCycles (h :: calls) = completedCycles calls := if_pos hold

theorem completedCycles_new (hsome : h.stats.lastCycleAt ≠ none) (hnew : isReported calls h.stats = false) :
    completedCycles (h :: calls) = h.stats :: completedCycles calls :=
  if_neg (not_or.mpr ⟨hsome, by rw [hnew]; decide⟩)

theorem isReported_iff {stats : CycleStats} :
    isReported calls stats = true ↔ ∃ h ∈ calls, h.stats.lastCycleAt = stats.lastCycleAt := by
  simp only [isReported, List.any_eq_true, decide_eq_true_eq]

/-- Of the cycles that are reported only the newest can be the one that the worker finished last,
with the statistics that it finished with. -/
structure Aligned (workerName : String) (s : Worker) : Prop where
  counted : Counted workerName s
  initial : s.publisher = none → s.finished = none
  unfinished : (extractRuntimeStats s.finished).lastCycleAt = none →
    attempted (extractRuntimeStats s.finished) = 0 ∧ completedCycles s.calls = []
  newest : (extractRuntimeStats s.finished).lastCycleAt ≠ none →
    isReported s.calls (extractRuntimeStats s.finished) = true →
      (completedCycles s.calls).head? = some (extractRuntimeStats s.finished)

theorem attempted_of_noProgress {stats : CycleStats} (h : noProgress workerName stats = true) :
    attempted stats ≠ 0 := by
  simp only [noProgress, Bool.and_eq_true, decide_eq_true_eq] at h
  omega

theorem takeWhile_of_head {p : CycleStats → Bool} {cycles : List CycleStats} {stats : CycleStats}
    (hhead : cycles.head? = some stats) (hp : p stats = false) : cycles.takeWhile p = [] := by
  cases cycles with
  | nil => rfl
  | cons cycle cycles =>
      obtain rfl := Option.some.inj hhead
      rw [List.takeWhile_cons, hp]
      rfl

theorem completedCycles_head (hsome : h.stats.lastCycleAt ≠ none)
    (hnewest : isReported calls h.stats = true → (completedCycles calls).head? = some h.stats) :
    (completedCycles (h :: calls)).head? = some h.stats := by
  by_cases hreported : isReported calls h.stats = true
  · rw [completedCycles_old (.inr hreported)]
    exact hnewest hreported
  · rw [completedCycles_new hsome (Bool.eq_false_iff.mpr hreported)]
    rfl

theorem upsert_counted (hi : Aligned workerName s)
    (hstats : h.stats = extractRuntimeStats s.finished)
    (hfirst : noProgress workerName h.stats = true → s.calls ≠ [] ∧ isReported s.calls h.stats = false) :
    (upsertStatus workerName s.row h).consecutiveNoProgressCycles =
      min (noProgressCycles workerName (h :: s.calls)) smallintMax := by
  by_cases hstalled : noProgress workerName h.stats = true
  · obtain ⟨hcalls, hnew⟩ := hfirst hstalled
    have hsome : h.stats.lastCycleAt ≠ none := by
      intro hnone
      rw [hstats] at hnone hstalled
      exact attempted_of_noProgress hstalled (hi.unfinished hnone).1
    obtain ⟨g, calls, hcons⟩ := List.exists_cons_of_ne_nil hcalls
    obtain ⟨record, hrow, hcount⟩ := Option.map_eq_some_iff.mp (hi.counted g calls hcons)
    rw [noProgressCycles, completedCycles_new hsome hnew, List.takeWhile_cons_of_pos hstalled, List.length_cons]
    simp only [hrow, upsertStatus, if_pos hstalled, hcount, noProgressCycles]
    omega
  · have hprogress : noProgress workerName h.stats = false := Bool.eq_false_iff.mpr hstalled
    have hzero : (upsertStatus workerName s.row h).consecutiveNoProgressCycles = 0 := by
      cases hrow : s.row with
      | none => rfl
      | some record => simp only [upsertStatus, hprogress, Bool.false_eq_true, if_false]
    have hnone : (completedCycles (h :: s.calls)).takeWhile (noProgress workerName) = [] := by
      by_cases hlast : h.stats.lastCycleAt = none
      · rw [completedCycles_old (.inl hlast), (hi.unfinished (hstats ▸ hlast)).2]
        rfl
      · refine takeWhile_of_head (completedCycles_head hlast ?_) hprogress
        rw [hstats] at hlast ⊢
        exact hi.newest hlast
    rw [hzero, noProgressCycles, hnone]
    rfl

theorem upsert_aligned {report : Report} {heartbeatAt : Time} (hi : Aligned workerName s)
    (hg : Once workerName s (.upsert report heartbeatAt))
    (hs : step workerName s (.upsert report heartbeatAt) = some t) : Aligned workerName t := by
  obtain rfl := Option.some.inj hs
  obtain ⟨hfinished, hfirst⟩ := hg report heartbeatAt rfl
  rw [hfinished] at hfirst
  have hstats : (s.heartbeat report heartbeatAt).stats = extractRuntimeStats s.finished := by
    rw [Worker.heartbeat, hfinished]
  constructor
  · rintro h calls hcons
    obtain ⟨rfl, rfl⟩ := List.cons.inj hcons
    exact congrArg some (upsert_counted hi hstats (hstats ▸ hfirst))
  · exact hi.initial
  · intro hnone
    obtain ⟨hattempted, hcycles⟩ := hi.unfinished hnone
    refine ⟨hattempted, ?_⟩
    rw [completedCycles_old (.inl (hstats ▸ hnone)), hcycles]
  · intro hsome _
    rw [← hstats] at hsome ⊢
    exact completedCycles_head hsome fun hreported => hstats ▸ hi.newest (hstats ▸ hsome) (hstats ▸ hreported)

theorem step_aligned (hi : Aligned workerName s) (hg : Once workerName s a) (hs : step workerName s a = some t) :
    Aligned workerName t := by
  cases a with
  | upsert report heartbeatAt => exact upsert_aligned hi hg hs
  | createPublisher =>
      simp only [step, Option.ite_none_right_eq_some, Option.some.injEq] at hs
      obtain ⟨hnone, rfl⟩ := hs
      have hcycles : completedCycles s.calls = [] := by
        refine (hi.unfinished ?_).2
        rw [hi.initial hnone]
        rfl
      exact ⟨hi.counted, nofun, fun _ => ⟨rfl, hcycles⟩, fun hsome => absurd rfl hsome⟩
  | update stats =>
      obtain ⟨_, _, rfl⟩ := Option.map_eq_some_iff.mp hs
      exact ⟨hi.counted, nofun, hi.unfinished, hi.newest⟩
  | finish at_ stats =>
      simp only [step, Option.ite_none_right_eq_some, Option.some.injEq] at hs
      obtain ⟨⟨_, hnew⟩, rfl⟩ := hs
      refine ⟨hi.counted, nofun, nofun, fun _ hreported => ?_⟩
      obtain ⟨h, hmem, hat⟩ := isReported_iff.mp hreported
      exact absurd hat (hnew h hmem)

theorem reach_aligned (h : Reach (step workerName) (Once workerName) (start row) s) : Aligned workerName s := by
  refine h.invariant ?_ fun _ _ _ hi hg hs => step_aligned hi hg hs
  constructor
  · intro h calls hcons
    cases hcons
  · exact fun _ => rfl
  · exact fun _ => ⟨rfl, rfl⟩
  · exact fun hsome => absurd rfl hsome

theorem noProgressCycles_repeated (hreported : isReported calls h.stats = true) :
    noProgressCycles workerName (h :: calls) = noProgressCycles workerName calls := by
  rw [noProgressCycles, completedCycles_old (.inr hreported)]
  rfl

/-- The row counts cycles where each one without progress is reported once: in every run of such
calls, over any row that is there before. -/
theorem no_progress_counts_cycles (h : Reach (step workerName) (Once workerName) (start row) s) :
    Counted workerName s ∧ ∀ report heartbeatAt t, Once workerName s (.upsert report heartbeatAt) →
      step workerName s (.upsert report heartbeatAt) = some t →
      isReported s.calls (extractRuntimeStats s.publisher) = true →
        t.row.map (·.consecutiveNoProgressCycles) = s.row.map (·.consecutiveNoProgressCycles) := by
  refine ⟨(reach_aligned h).counted, fun report heartbeatAt t hg hs hreported => ?_⟩
  have ht := (reach_aligned (h.next hg hs)).counted
  obtain rfl := Option.some.inj hs
  obtain ⟨g, calls, hcons⟩ : ∃ g calls, s.calls = g :: calls := by
    cases hcalls : s.calls with
    | nil => simp [isReported, hcalls] at hreported
    | cons g calls => exact ⟨g, calls, rfl⟩
  rw [ht _ _ rfl, (reach_aligned h).counted g calls hcons]
  exact congrArg (fun n => some (min n smallintMax)) (noProgressCycles_repeated hreported)

section Sample

def sender (status : String) : Report := ⟨"i", "h", 7, status, 0, none, none⟩

def failedCycle : Stats := { totalProcessed := 1, totalFailed := 1, lastRunProcessed := 1, lastRunFailed := 1 }

def stalled : Worker where
  publisher := some { failedCycle with lastRunAt := some 3 }
  finished := some { failedCycle with lastRunAt := some 3 }
  row := some { heartbeat := ⟨sender "STARTING", 1, {}⟩ }
  calls := [⟨sender "STARTING", 1, {}⟩]

def oneCycle : List Act := [.upsert (sender "STARTING") 1, .createPublisher, .finish 3 failedCycle]

theorem run_stalled (name : String) : run (step name) oneCycle (start none) = some stalled := rfl

theorem once_report {name : String} {report : Report} {heartbeatAt : Time}
    (hfinished : s.publisher = s.finished) (hfirst : noProgress name (extractRuntimeStats s.publisher) = true →
      s.calls ≠ [] ∧ isReported s.calls (extractRuntimeStats s.publisher) = false) :
    Once name s (.upsert report heartbeatAt) := by
  intro _ _ _
  exact ⟨hfinished, hfirst⟩

theorem no_progress_counts_cycles_stalled :
    ∃ s, Reach (step "metadata-persistence") (Once "metadata-persistence") (start none) s ∧
      s.row.map (·.consecutiveNoProgressCycles) = some 1 ∧ Counted "metadata-persistence" s := by
  have hstart : Reach (step "metadata-persistence") (Once "metadata-persistence") (start none) _ :=
    Reach.next .init (once_report rfl (by decide)) (a := .upsert (sender "STARTING") 1) rfl
  have hstalled : Reach (step "metadata-persistence") (Once "metadata-persistence") (start none) stalled :=
    (hstart.next (a := .createPublisher) nofun rfl).next (a := .finish 3 failedCycle) nofun rfl
  have hreport : Reach (step "metadata-persistence") (Once "metadata-persistence") (start none) _ :=
    hstalled.next (once_report rfl fun _ => ⟨nofun, rfl⟩) (a := .upsert (sender "RUNNING") 4) rfl
  exact ⟨_, hreport, rfl, (no_progress_counts_cycles hreport).1⟩

theorem no_progress_counts_heartbeats :
    ∃ s, Reach (step "metadata-persistence") Free (start none) s ∧
      s.row.map (·.consecutiveNoProgressCycles) = some 2 ∧ noProgressCycles "metadata-persistence" s.calls = 1 ∧
        ¬Counted "metadata-persistence" s := by
  have hreach : Reach (step "metadata-persistence") Free (start none) stalled := run_reach (run_stalled _)
  have hends := (hreach.next (a := .upsert (sender "RUNNING") 4) trivial rfl).next
    (a := .upsert (sender "SLEEPING") 5) trivial rfl
  exact ⟨_, hends, by decide, by decide, fun h => absurd (h _ _ rfl) (by decide)⟩

end Sample

end DarkMinter.RuntimeStatus
