import DarkMinter.ChainPacing
import DarkMinter.Workload
import Mathlib.Data.List.Chain

namespace DarkMinter.IdleBackoff

open Workload (Worker)

structure Runtime where
  pageSize : Int
  sleepSeconds : Int
  maxIdleSleepSeconds : Int
  congestionRetrySeconds : Int

structure Stats where
  lastRunPageSize : Int
  lastRun : ChainPacing.Outcome

def lastCyclePageSize (rt : Runtime) (stats : Stats) : Int :=
  if 0 < stats.lastRunPageSize then stats.lastRunPageSize else max rt.pageSize 1

def lastCycleCongestionSaturated (rt : Runtime) (stats : Stats) : Bool :=
  ChainPacing.saturated (lastCyclePageSize rt stats) stats.lastRun

/-- The plan is the one of `next_wake_plan`, of a publisher that has it. -/
def selectNextSleepSeconds (plan : Option (Int × String)) (rt : Runtime) (stats : Stats) : Int × String :=
  match plan with
  | some planned => planned
  | none =>
      if lastCyclePageSize rt stats ≤ stats.lastRun.processed then (0, "continue")
      else (max rt.sleepSeconds 0, "sleep")

def progressiveIdleSleepSeconds (worker : Worker) (processed emptyCycles : Nat) (base maxIdle : Int) :
    Int × Nat × String :=
  if worker = .replication ∨ 0 < processed then (base, 0, if base = 0 then "continue" else "sleep")
  else
    let emptyCycles := emptyCycles + 1
    let cap := max maxIdle 1
    if 10 ≤ emptyCycles then (min 10 cap, emptyCycles, "idle_backoff_10s")
    else if 3 ≤ emptyCycles then (min 5 cap, emptyCycles, "idle_backoff_5s")
    else (base, emptyCycles, "idle_minimum")

def congestionPauseSleepSeconds (rt : Runtime) : Int := max rt.congestionRetrySeconds 1

/-- One round of the loop of `run_worker`: it pauses before the cycle, for the storage or for the
chain, or the cycle runs. -/
inductive Round
  | paused
  | cycle (stats : Stats)

structure Cycle where
  stats : Stats
  seconds : Int
  emptyCycleCount : Nat
  saturated : Bool

structure Loop where
  emptyCycleCount : Nat := 0
  cycles : List Cycle := []

def Loop.after (s : Loop) (c : Cycle) : Loop := ⟨c.emptyCycleCount, s.cycles ++ [c]⟩

def cycleAfter (worker : Worker) (rt : Runtime) (emptyCycleCount : Nat) (stats : Stats) : Cycle :=
  if worker = .chain ∧ lastCycleCongestionSaturated rt stats = true then
    ⟨stats, congestionPauseSleepSeconds rt, emptyCycleCount, true⟩
  else
    let chosen := selectNextSleepSeconds none rt stats
    let idle := progressiveIdleSleepSeconds worker stats.lastRun.processed emptyCycleCount chosen.1
      rt.maxIdleSleepSeconds
    ⟨stats, idle.1, idle.2.1, false⟩

def step (worker : Worker) (rt : Runtime) (s : Loop) : Round → Loop
  | .paused => s
  | .cycle stats => s.after (cycleAfter worker rt s.emptyCycleCount stats)

def runWorker (worker : Worker) (rt : Runtime) (rounds : List Round) : Loop := rounds.foldl (step worker rt) {}

def Cycle.Empty (c : Cycle) : Prop := c.stats.lastRun.processed = 0

/-- The sleeps of consecutive empty cycles grow, from the configured one on, and a cycle that
processes a record ends them. -/
structure BacksOff (rt : Runtime) (cycles : List Cycle) : Prop where
  grows : cycles.IsChain fun c next => c.Empty → next.Empty → c.seconds ≤ next.seconds
  atLeast : ∀ c ∈ cycles, c.Empty → rt.sleepSeconds ≤ c.seconds
  resets : ∀ c ∈ cycles, ¬c.Empty → c.emptyCycleCount = 0 ∧
    (c.saturated = false → c.seconds = (selectNextSleepSeconds none rt c.stats).1)

/-- The third empty cycle in a row and those after it find a configured sleep of at most five
seconds and at most the longest, and a saturated chain page finds no empty cycle counted. -/
def Tame (worker : Worker) (rt : Runtime) (s : Loop) : Round → Prop
  | .paused => True
  | .cycle stats =>
      (stats.lastRun.processed = 0 → 2 ≤ s.emptyCycleCount → rt.sleepSeconds ≤ min 5 rt.maxIdleSleepSeconds) ∧
        (worker = .chain → lastCycleCongestionSaturated rt stats = true → s.emptyCycleCount = 0)

def AllTame (worker : Worker) (rt : Runtime) (rounds : List Round) : Prop :=
  ∀ earlier round later, rounds = earlier ++ round :: later → Tame worker rt (runWorker worker rt earlier) round

def idleSleep (rt : Runtime) (n : Nat) : Int :=
  if 10 ≤ n then min 10 (max rt.maxIdleSleepSeconds 1)
  else if 3 ≤ n then min 5 (max rt.maxIdleSleepSeconds 1) else max rt.sleepSeconds 0

section

variable {worker : Worker} {rt : Runtime} {s : Loop} {stats : Stats} {n : Nat} {rounds : List Round}

theorem lastCyclePageSize_pos (rt : Runtime) (stats : Stats) : 1 ≤ lastCyclePageSize rt stats := by
  rw [lastCyclePageSize]
  split <;> omega

theorem saturated_processed (h : lastCycleCongestionSaturated rt stats = true) : stats.lastRun.processed ≠ 0 := by
  have hpage := lastCyclePageSize_pos rt stats
  rw [lastCycleCongestionSaturated, ChainPacing.saturated, Bool.and_eq_true, Bool.and_eq_true] at h
  have hfull : lastCyclePageSize rt stats ≤ stats.lastRun.processed := of_decide_eq_true h.1.1
  omega

theorem cycleAfter_stats (worker : Worker) (rt : Runtime) (n : Nat) (stats : Stats) :
    (cycleAfter worker rt n stats).stats = stats := by
  rw [cycleAfter]
  split <;> rfl

theorem cycleAfter_empty (hworker : worker ≠ .replication) (h : stats.lastRun.processed = 0) :
    cycleAfter worker rt n stats = ⟨stats, idleSleep rt (n + 1), n + 1, false⟩ := by
  have hpage := lastCyclePageSize_pos rt stats
  have hunsaturated : ¬(worker = .chain ∧ lastCycleCongestionSaturated rt stats = true) :=
    fun hsaturated => saturated_processed hsaturated.2 h
  have hchosen : selectNextSleepSeconds none rt stats = (max rt.sleepSeconds 0, "sleep") := by
    rw [selectNextSleepSeconds, if_neg (by omega)]
  have hidle : ¬(worker = .replication ∨ 0 < stats.lastRun.processed) := by simp [hworker, h]
  simp only [cycleAfter, if_neg hunsaturated, progressiveIdleSleepSeconds, if_neg hidle, hchosen, idleSleep]
  split
  · rfl
  · split <;> rfl

theorem cycleAfter_busy (h : stats.lastRun.processed ≠ 0)
    (hunsaturated : ¬(worker = .chain ∧ lastCycleCongestionSaturated rt stats = true)) :
    cycleAfter worker rt n stats = ⟨stats, (selectNextSleepSeconds none rt stats).1, 0, false⟩ := by
  have hbusy : worker = .replication ∨ 0 < stats.lastRun.processed := .inr (Nat.pos_of_ne_zero h)
  simp only [cycleAfter, if_neg hunsaturated, progressiveIdleSleepSeconds, if_pos hbusy]

theorem cycleAfter_saturated (h : worker = .chain ∧ lastCycleCongestionSaturated rt stats = true) :
    cycleAfter worker rt n stats = ⟨stats, congestionPauseSleepSeconds rt, n, true⟩ := if_pos h

theorem runWorker_concat (worker : Worker) (rt : Runtime) (rounds : List Round) (round : Round) :
    runWorker worker rt (rounds ++ [round]) = step worker rt (runWorker worker rt rounds) round := by
  rw [runWorker, List.foldl_append]
  rfl

theorem allTame_concat (round : Round) : AllTame worker rt (rounds ++ [round]) ↔
    AllTame worker rt rounds ∧ Tame worker rt (runWorker worker rt rounds) round := by
  constructor
  · intro h
    refine ⟨?_, h rounds round [] rfl⟩
    rintro earlier r later rfl
    exact h earlier r (later ++ [round]) (by simp)
  · rintro ⟨hall, hlast⟩ earlier r later heq
    rcases List.eq_nil_or_concat' later with rfl | ⟨later, last, rfl⟩
    · obtain ⟨rfl, hround⟩ := List.append_inj' heq rfl
      obtain rfl := List.singleton_inj.mp hround
      exact hlast
    · have hsplit : rounds ++ [round] = (earlier ++ r :: later) ++ [last] := by rw [heq]; simp
      obtain ⟨hrounds, -⟩ := List.append_inj' hsplit rfl
      exact hall earlier r later hrounds

theorem backsOff_concat {cycles : List Cycle} (c : Cycle) : BacksOff rt (cycles ++ [c]) ↔ BacksOff rt cycles ∧
    (∀ last ∈ cycles.getLast?, last.Empty → c.Empty → last.seconds ≤ c.seconds) ∧
    (c.Empty → rt.sleepSeconds ≤ c.seconds) ∧
    (¬c.Empty → c.emptyCycleCount = 0 ∧
      (c.saturated = false → c.seconds = (selectNextSleepSeconds none rt c.stats).1)) := by
  have hchain : ∀ R : Cycle → Cycle → Prop, (cycles ++ [c]).IsChain R ↔
      cycles.IsChain R ∧ ∀ last ∈ cycles.getLast?, R last c := by
    intro R
    rw [List.isChain_append]
    simp
  constructor
  · rintro ⟨hgrows, hleast, hresets⟩
    obtain ⟨hgrows, hlast⟩ := (hchain _).mp hgrows
    exact ⟨⟨hgrows, fun d hd => hleast d (List.mem_append_left _ hd),
      fun d hd => hresets d (List.mem_append_left _ hd)⟩, hlast, hleast c (by simp), hresets c (by simp)⟩
  · rintro ⟨⟨hgrows, hleast, hresets⟩, hlast, hc, hreset⟩
    refine ⟨(hchain _).mpr ⟨hgrows, hlast⟩, ?_, ?_⟩
    · intro d hd
      rcases List.mem_append.mp hd with hd | hd
      · exact hleast d hd
      · exact List.mem_singleton.mp hd ▸ hc
    · intro d hd
      rcases List.mem_append.mp hd with hd | hd
      · exact hresets d hd
      · exact List.mem_singleton.mp hd ▸ hreset

theorem last_sleep (hworker : worker ≠ .replication) (rounds : List Round) {c : Cycle}
    (h : (runWorker worker rt rounds).cycles.getLast? = some c) (hempty : c.Empty) :
    c.seconds = idleSleep rt (runWorker worker rt rounds).emptyCycleCount := by
  induction rounds using List.reverseRecOn with
  | nil => cases h
  | append_singleton rounds round ih =>
      rw [runWorker_concat] at h ⊢
      cases round with
      | paused => exact ih h
      | cycle stats =>
          rw [step, Loop.after, List.getLast?_concat] at h
          obtain rfl := Option.some.inj h
          rw [Cycle.Empty, cycleAfter_stats] at hempty
          rw [step, Loop.after, cycleAfter_empty hworker hempty]

theorem short_of_counted (hworker : worker ≠ .replication) (hall : AllTame worker rt rounds)
    (h : 3 ≤ (runWorker worker rt rounds).emptyCycleCount) : rt.sleepSeconds ≤ min 5 rt.maxIdleSleepSeconds := by
  induction rounds using List.reverseRecOn with
  | nil => cases h
  | append_singleton rounds round ih =>
      obtain ⟨hrounds, htame⟩ := (allTame_concat round).mp hall
      rw [runWorker_concat] at h
      cases round with
      | paused => exact ih hrounds h
      | cycle stats =>
          rw [step, Loop.after] at h
          by_cases hempty : stats.lastRun.processed = 0
          · rw [cycleAfter_empty hworker hempty] at h
            exact htame.1 hempty (Nat.le_of_succ_le_succ h)
          · by_cases hsaturated : worker = .chain ∧ lastCycleCongestionSaturated rt stats = true
            · rw [cycleAfter_saturated hsaturated] at h
              exact ih hrounds h
            · rw [cycleAfter_busy hempty hsaturated] at h
              cases h

theorem idleSleep_grows (hmax : 1 ≤ rt.maxIdleSleepSeconds)
    (h : 2 ≤ n → rt.sleepSeconds ≤ min 5 rt.maxIdleSleepSeconds) : idleSleep rt n ≤ idleSleep rt (n + 1) := by
  rw [idleSleep, idleSleep]
  split_ifs <;> omega

theorem idleSleep_least (hmax : 1 ≤ rt.maxIdleSleepSeconds)
    (h : 2 ≤ n → rt.sleepSeconds ≤ min 5 rt.maxIdleSleepSeconds) : rt.sleepSeconds ≤ idleSleep rt (n + 1) := by
  rw [idleSleep]
  split_ifs <;> omega

/-- The idle sleep backs off exactly in the tame runs. -/
theorem backsOff_iff (hworker : worker ≠ .replication) (hmax : 1 ≤ rt.maxIdleSleepSeconds) (rounds : List Round) :
    BacksOff rt (runWorker worker rt rounds).cycles ↔ AllTame worker rt rounds := by
  induction rounds using List.reverseRecOn with
  | nil => exact iff_of_true ⟨.nil, nofun, nofun⟩ fun earlier round later h => by simp at h
  | append_singleton rounds round ih =>
      rw [allTame_concat, runWorker_concat]
      cases round with
      | paused => rw [step, ih, Tame, and_true]
      | cycle stats =>
          rw [step, Loop.after, backsOff_concat, ih]
          refine and_congr_right fun hall => ?_
          by_cases hempty : stats.lastRun.processed = 0
          · rw [cycleAfter_empty hworker hempty]
            constructor
            · rintro ⟨-, hleast, -⟩
              refine ⟨fun _ hcount => ?_, fun _ hsaturated => absurd hempty (saturated_processed hsaturated)⟩
              have hle : rt.sleepSeconds ≤ idleSleep rt ((runWorker worker rt rounds).emptyCycleCount + 1) :=
                hleast hempty
              by_cases hthird : 3 ≤ (runWorker worker rt rounds).emptyCycleCount
              · exact short_of_counted hworker hall hthird
              · rw [idleSleep, if_neg (by omega), if_pos (by omega), max_eq_left hmax] at hle
                exact hle
            · rintro ⟨hshort, -⟩
              refine ⟨fun last hlast hlastEmpty _ => ?_, fun _ => idleSleep_least hmax (hshort hempty),
                fun hbusy => absurd hempty hbusy⟩
              rw [last_sleep hworker rounds hlast hlastEmpty]
              exact idleSleep_grows hmax (hshort hempty)
          · by_cases hsaturated : worker = .chain ∧ lastCycleCongestionSaturated rt stats = true
            · rw [cycleAfter_saturated hsaturated]
              constructor
              · rintro ⟨-, -, hreset⟩
                exact ⟨fun h => absurd h hempty, fun _ _ => (hreset hempty).1⟩
              · rintro ⟨-, hcount⟩
                exact ⟨fun _ _ _ h => absurd h hempty, fun h => absurd h hempty,
                  fun _ => ⟨hcount hsaturated.1 hsaturated.2, nofun⟩⟩
            · rw [cycleAfter_busy hempty hsaturated]
              exact iff_of_true ⟨fun _ _ _ h => absurd h hempty, fun h => absurd h hempty, fun _ => ⟨rfl, fun _ => rfl⟩⟩
                ⟨fun h => absurd h hempty, fun hchain hfull => absurd ⟨hchain, hfull⟩ hsaturated⟩

end

def runtime (sleepSeconds : Int) : Runtime := ⟨100, sleepSeconds, 10, 30⟩

def emptyPage : Stats := ⟨100, ⟨0, 0, 0⟩⟩

theorem backsOff_iff_short : BacksOff (runtime 2)
    (runWorker .metadata (runtime 2) [.cycle emptyPage, .cycle emptyPage, .paused, .cycle emptyPage]).cycles := by
  refine (backsOff_iff (by decide) (by decide) _).mpr fun earlier round later _ => ?_
  cases round with
  | paused => trivial
  | cycle stats => exact ⟨fun _ _ => by decide, nofun⟩

/-- A minute between two looks for work becomes five seconds at the third empty one. -/
theorem idle_sleep_shrinks : ¬∀ (worker : Worker) (rt : Runtime) (rounds : List Round), worker ≠ .replication →
    0 ≤ rt.sleepSeconds → 1 ≤ rt.maxIdleSleepSeconds → BacksOff rt (runWorker worker rt rounds).cycles := by
  intro hall
  have hbacks := hall .metadata (runtime 60) [.cycle emptyPage, .cycle emptyPage, .cycle emptyPage] (by decide)
    (by decide) (by decide)
  have hthird : ⟨emptyPage, 5, 3, false⟩ ∈
      (runWorker .metadata (runtime 60) [.cycle emptyPage, .cycle emptyPage, .cycle emptyPage]).cycles :=
    .tail _ (.tail _ (.head _))
  exact absurd (hbacks.atLeast _ hthird rfl) (by decide)

end DarkMinter.IdleBackoff
