import DarkMinter.RuntimeRows

namespace DarkMinter.WorkerReports

open Text Processing Lib.Runs RuntimeRows
open RuntimeStatus (Heartbeat WorkerRuntimeStatus CycleStats upsertStatus)
open DarkMinter.Singleton (Phase)

inductive Kind
  | metadata | replication | chain
  deriving DecidableEq

structure WorkerConfig where
  kind : Kind
  name : String
  enabled : Bool

structure Settings where
  metadataWorkerRuntimeName : String
  metadataWorkerEnabled : Bool
  replicationWorkerRuntimeName : String
  replicationWorkerEnabled : Bool
  chainWorkerRuntimeName : String
  chainWorkerEnabled : Bool
  workerHeartbeatStaleAfterSeconds : Int

def config (S : Settings) : List WorkerConfig :=
  [⟨.metadata, S.metadataWorkerRuntimeName, S.metadataWorkerEnabled⟩,
    ⟨.replication, S.replicationWorkerRuntimeName, S.replicationWorkerEnabled⟩,
    ⟨.chain, S.chainWorkerRuntimeName, S.chainWorkerEnabled⟩]

inductive ProcessState
  | disabled | down | paused | sleeping | running | starting
  deriving DecidableEq

structure LastCycle where
  observed : Nat
  advanced : Nat
  waiting : Nat := 0
  repaired : Nat := 0
  failed : Nat
  durationSeconds : Option Time
  transientDeferred : Option Nat := none

structure ReplicationMetrics where
  promotionsAccepted : Nat
  confirmedCids : Nat
  pendingCids : Nat
  batchLatencyMs : Nat

structure Totals where
  processed : Nat
  advanced : Nat
  failed : Nat

structure Activity where
  activity : String
  wakeAt : Option Time
  wakeIn : Time
  lastCycleAt : Option Time
  lastCycle : LastCycle
  noProgressCycles : Nat
  stalledSuspected : Bool
  replicationMetrics : Option ReplicationMetrics
  totals : Totals

structure ProcessReport where
  enabled : Bool := true
  alive : Bool
  processState : ProcessState
  pauseReason : Option String := none
  heartbeatAge : Option Time := none
  lastError : Option String := none
  activity : Option Activity := none

def startsWith (word s : String) : Bool := decide (word.toList <+: s.toList)

def dropWord (word s : String) : String :=
  if startsWith word s then String.ofList (s.toList.drop word.toList.length) else s

/-- A heartbeat written as its cycle ended is one of the wait after it. -/
def isSleeping (h : Heartbeat) (now : Time) : Bool :=
  (h.report.status = "SLEEPING" && h.report.nextWakeAt.any fun wakeAt => now < wakeAt) ||
    (h.report.status = "RUNNING" && h.stats.lastCycleAt = some h.heartbeatAt)

def aliveState (h : Heartbeat) (now : Time) : ProcessState :=
  if isSleeping h now then .sleeping else if h.report.status = "STARTING" then .starting else .running

def lastCycle (kind : Kind) (stats : CycleStats) : LastCycle :=
  match kind with
  | .replication =>
      { observed := stats.lastReconciliationChecked
        advanced := stats.lastReconciliationAdvanced
        waiting := stats.lastReconciliationWaiting
        repaired := stats.lastReconciliationRepaired
        failed := stats.lastCycleFailed.getD 0
        durationSeconds := stats.lastCycleDurationSeconds
        transientDeferred := some stats.lastReconciliationFailed }
  | _ =>
      { observed := stats.lastCycleProcessed.getD 0
        advanced := stats.lastCycleSucceeded.getD 0
        failed := stats.lastCycleFailed.getD 0
        durationSeconds := stats.lastCycleDurationSeconds }

def replicationMetrics (kind : Kind) (stats : CycleStats) : Option ReplicationMetrics :=
  if kind = .replication then
    some ⟨stats.lastReplicationPromotionsAccepted, stats.lastReplicationConfirmedCids,
      stats.lastReplicationPendingCids, stats.lastReplicationBatchLatencyMs⟩
  else none

def activityOf (kind : Kind) (row : WorkerRuntimeStatus) (now : Time) : Activity :=
  let h := row.heartbeat
  let wakeAt := if isSleeping h now then h.report.nextWakeAt else none
  { activity := if isSleeping h now then "sleeping_until_due" else "working"
    wakeAt
    wakeIn := (wakeAt.map fun wakeAt => max 0 (wakeAt - now)).getD 0
    lastCycleAt := h.stats.lastCycleAt
    lastCycle := lastCycle kind h.stats
    noProgressCycles := row.consecutiveNoProgressCycles
    stalledSuspected := 3 ≤ row.consecutiveNoProgressCycles
    replicationMetrics := replicationMetrics kind h.stats
    totals := ⟨h.stats.totalProcessed, h.stats.totalSucceeded, h.stats.totalFailed⟩ }

/-- Whether a heartbeat is too old, or the last word of its process. -/
def isOver (h : Heartbeat) (now : Time) (staleAfter : Int) : Bool :=
  decide (seconds staleAfter < now - h.heartbeatAt) || h.report.status ∈ ["ERROR", "STOPPED"]

inductive Overall
  | ok | degraded | down
  deriving DecidableEq

def isStalled (report : ProcessReport) : Bool := report.activity.any (·.stalledSuspected)

def states (reports : List ProcessReport) : List ProcessState := (reports.filter (·.enabled)).map (·.processState)

def overall (reports : List ProcessReport) : Overall :=
  if states reports ≠ [] ∧ ∀ state ∈ states reports, state = .down then .down
  else if (∃ state ∈ states reports, state = .down ∨ state = .paused) ∨ reports.any isStalled then .degraded
  else .ok

section

variable [PyLower]

def process (cfg : WorkerConfig) (record : Option WorkerRuntimeStatus) (now : Time) (staleAfter : Int) :
    ProcessReport :=
  if cfg.enabled then
    match record with
    | none => { alive := false, processState := .down }
    | some row =>
        let h := row.heartbeat
        let age := some (now - h.heartbeatAt)
        if isOver h now staleAfter then
          { alive := false, processState := .down, heartbeatAge := age, lastError := h.report.lastError }
        else if startsWith "PAUSED_" h.report.status then
          { alive := true, processState := .paused, pauseReason := some (dropWord "paused_" (lower h.report.status))
            heartbeatAge := age, lastError := h.report.lastError }
        else
          { alive := true, processState := aliveState h now, heartbeatAge := age, lastError := h.report.lastError
            activity := some (activityOf cfg.kind row now) }
  else { enabled := false, alive := false, processState := .disabled }

structure SimpleStatus where
  overall : Overall
  workers : List (Kind × ProcessReport)

def simpleStatus (S : Settings) (rows : String → Option WorkerRuntimeStatus) (now : Time) : SimpleStatus :=
  let workers := (config S).map fun cfg =>
    (cfg.kind, process cfg (rows cfg.name) now S.workerHeartbeatStaleAfterSeconds)
  { overall := overall (workers.map (·.2)), workers }

end

variable {P : Type*} [DecidableEq P] {C : Crew P} {s t u : Sys P} {a : Act P} {p q : P}
  {files : Nat → String → Option (Singleton.File P)} {rows : String → Option WorkerRuntimeStatus} {name : String}

/-- The newest heartbeat of the workers of a name that reached the database, one of the row there was before. -/
def lastHeard (C : Crew P) (rows : String → Option WorkerRuntimeStatus) (s : Sys P) (name : String) :
    Option Heartbeat :=
  ((s.writes.find? fun w => C.workerName w.writer = name).map (·.heartbeat)).or ((rows name).map (·.heartbeat))

/-- A heartbeat is stored over the row that was selected for it: no other write of the row comes in
between. -/
def Apart (C : Crew P) (s : Sys P) (a : Act P) : Prop :=
  ∀ selected, committed s a = some selected → selected = s.rows (C.workerName a.actor)

instance : Decidable (Apart C s a) :=
  match hcommitted : committed s a with
  | none => .isTrue fun _ h => by cases hcommitted.symm.trans h
  | some selected => decidable_of_iff (selected = s.rows (C.workerName a.actor))
      ⟨fun h _ h' => Option.some.inj (hcommitted.symm.trans h') ▸ h, fun h => h selected hcommitted⟩

theorem lastHeard_written {w : Write P} {selected : Selected} (h : Written C s a t w selected) (name : String) :
    lastHeard C rows t name =
      if C.workerName a.actor = name then some w.heartbeat else lastHeard C rows s name := by
  unfold lastHeard
  rw [h.writes, List.find?_cons, h.writer]
  by_cases hname : C.workerName a.actor = name <;> simp [hname]

def Shows (C : Crew P) (rows : String → Option WorkerRuntimeStatus) (s : Sys P) : Prop :=
  ∀ name, (s.rows name).map (·.heartbeat) = lastHeard C rows s name

/-- The row of a name has the time of the newest heartbeat. -/
def Dated (C : Crew P) (rows : String → Option WorkerRuntimeStatus) (s : Sys P) : Prop :=
  ∀ name, (s.rows name).map (·.heartbeat.heartbeatAt) = (lastHeard C rows s name).map (·.heartbeatAt)

theorem step_shows (hi : Shows C rows s) (hg : Apart C s a) (hs : step C s a = some t) : Shows C rows t := by
  intro name
  rcases turns_written (step_turns hs) with ⟨hrows, hwrites⟩ | ⟨w, selected, hw⟩
  · rw [hrows, hi name, lastHeard, lastHeard, hwrites]
  · obtain rfl := hg selected hw.committed
    rw [lastHeard_written hw, hw.rows]
    split
    · rename_i hname
      rw [← hname, Function.update_self, Option.map_some, commitStatus_apart hw.row]
    · rename_i hname
      rw [Function.update_of_ne (Ne.symm hname), hi name]

/-- Writes that overlap may leave columns of one another, but not the time. -/
theorem step_dated (hi : Dated C rows s) (hs : step C s a = some t) : Dated C rows t := by
  intro name
  rcases turns_written (step_turns hs) with ⟨hrows, hwrites⟩ | ⟨w, selected, hw⟩
  · rw [hrows, hi name, lastHeard, lastHeard, hwrites]
  · rw [lastHeard_written hw, hw.rows]
    split
    · rename_i hname
      rw [← hname, Function.update_self, Option.map_some, Option.map_some, commitStatus_at hw.row]
    · rename_i hname
      rw [Function.update_of_ne (Ne.symm hname), hi name]

theorem reach_shows (h : Reach (step C) (Apart C) (start files rows) s) : Shows C rows s :=
  h.invariant (fun _ => rfl) fun _ _ _ hi hg hs => step_shows hi hg hs

theorem reach_dated {G : Sys P → Act P → Prop} (h : Reach (step C) G (start files rows) s) : Dated C rows s := by
  refine h.invariant (fun name => ?_) fun _ _ _ hi _ hs => step_dated hi hs
  rw [lastHeard]
  exact (Option.map_map ..).symm

/-- The worker is heard of: its newest heartbeat is not stale, and it does not say that it ended. -/
def Heard (C : Crew P) (rows : String → Option WorkerRuntimeStatus) (s : Sys P) (now : Time) (staleAfter : Int)
    (name : String) : Prop :=
  ∃ h, lastHeard C rows s name = some h ∧ now ≤ h.heartbeatAt + seconds staleAfter ∧ h.report.status ≠ "ERROR" ∧
    h.report.status ≠ "STOPPED"

/-- The process has not started, or it has ended, and no thread of it is left. -/
structure Silent (s : Sys P) (p : P) : Prop where
  phase : s.base.phase p = .unstarted ∨ s.base.phase p = .ended
  exit : (s.procs p).exit = .none
  supervisor : (s.procs p).supervisor = .absent

def Unmanned (C : Crew P) (name : String) (_ : Sys P) (a : Act P) : Prop :=
  ∀ p, C.workerName p = name → a ≠ .boot (.start p)

theorem silent_boot {F : Singleton.Fleet P} {b b' : Singleton.Sys P} {a : Singleton.Act P}
    (hs : Singleton.step F b a = some b') (hphase : b.phase a.actor = .unstarted ∨ b.phase a.actor = .ended)
    (hstart : ∀ p, a ≠ .start p) : b'.phase a.actor = .unstarted ∨ b'.phase a.actor = .ended := by
  cases a with
  | start p => exact absurd rfl (hstart p)
  | connectionEnds p =>
      obtain rfl := Option.some.inj hs
      exact hphase
  | die p =>
      simp only [Singleton.step] at hs
      split at hs
      · cases hs
      · obtain rfl := Option.some.inj hs
        exact .inr Singleton.enter_phase
  | openPid p | readPid p | judge p running | unlinkPid p | reopenPid p | writePid p | acquire p | beginCycle p
  | endCycle p | leave p | release p unlocked | readOwnPid p | removePid p =>
      simp only [Singleton.Act.actor] at hphase
      rcases hphase with hphase | hphase <;> simp [Singleton.step, hphase] at hs

omit [DecidableEq P] in
theorem Silent.inactive (h : Silent s p) : ¬Active s p := by
  rintro (hloop | hsupervisor | hexit)
  · rcases looping_iff.mp hloop with hphase | hphase <;> rcases h.phase with h | h <;> cases hphase.symm.trans h
  · exact hsupervisor h.supervisor
  · exact hexit h.exit

theorem Silent.refuses (h : Silent s p) {a : Singleton.Act P} {base : Singleton.Sys P}
    (ha : a = .acquire p ∨ a = .leave p) : Singleton.step C.toFleet s.base a ≠ some base := by
  rcases ha with rfl | rfl <;> rcases h.phase with h | h <;> simp [Singleton.step, h]

theorem silent_step (h : Silent s p) (hs : step C s a = some t) (hstart : a ≠ .boot (.start p)) : Silent t p := by
  have hturns := step_turns hs
  by_cases hp : p = a.actor
  · subst hp
    cases hturns with
    | boot hboot hbase =>
        refine ⟨silent_boot hbase h.phase fun p hp => ?_, h.exit, h.supervisor⟩
        subst hp
        exact hstart rfl
    | acquired hbase | refused hbase => exact absurd hbase (h.refuses (.inl rfl))
    | raised hbase | left hbase => exact absurd hbase (h.refuses (.inr rfl))
    | works hactive | writes hactive => exact absurd (hactive.imp_right .inl) h.inactive
    | @selects p hexit =>
        rw [show (s.procs p).exit = .none from h.exit] at hexit
        cases hexit
    | stopRaised hexit | stopFinishing hexit | persistError hexit | persistStopped hexit | released hexit =>
        cases hexit.symm.trans h.exit
    | died hbase =>
        refine ⟨silent_boot hbase h.phase nofun, ?_, ?_⟩ <;> simp [Act.actor]
  · have hframe := step_frame hturns hp
    exact ⟨hframe.phase ▸ h.phase, hframe.proc ▸ h.exit, hframe.proc ▸ h.supervisor⟩

theorem silent_rows (h : ∀ p, C.workerName p = name → Silent s p) (hs : step C s a = some t) :
    t.rows name = s.rows name := by
  rcases turns_written (step_turns hs) with ⟨hrows, -⟩ | ⟨w, selected, hw⟩
  · rw [hrows]
  · rw [hw.rows]
    exact Function.update_of_ne (fun hname => (h _ hname.symm).inactive hw.active) ..

theorem silence_stays (hsilent : ∀ p, C.workerName p = name → Silent s p) (h : Reach (step C) (Unmanned C name) s u) :
    (∀ p, C.workerName p = name → Silent u p) ∧ u.rows name = s.rows name := by
  refine h.invariant (I := fun v => (∀ p, C.workerName p = name → Silent v p) ∧ v.rows name = s.rows name)
    ⟨hsilent, rfl⟩ ?_
  rintro v a w ⟨hv, hrow⟩ hg hs
  exact ⟨fun p hp => silent_step (hv p hp) hs (hg p hp), (silent_rows hv hs).trans hrow⟩

section

variable [PyLower] {S : Settings} {cfg : WorkerConfig} {now : Time} {staleAfter : Int}

omit [PyLower] in
theorem isOver_iff {h : Heartbeat} : isOver h now staleAfter = false ↔
    now ≤ h.heartbeatAt + seconds staleAfter ∧ h.report.status ≠ "ERROR" ∧ h.report.status ≠ "STOPPED" := by
  rw [isOver, Bool.or_eq_false_iff, decide_eq_false_iff_not, decide_eq_false_iff_not]
  have hage : ¬seconds staleAfter < now - h.heartbeatAt ↔ now ≤ h.heartbeatAt + seconds staleAfter := by
    rw [Int.not_lt]
    exact ⟨Int.le_add_of_sub_left_le, Int.sub_left_le_of_le_add⟩
  simp [hage]

omit [PyLower] in
theorem aliveState_alive (h : Heartbeat) (now : Time) : aliveState h now ≠ .down ∧ aliveState h now ≠ .paused := by
  unfold aliveState
  split
  · exact ⟨nofun, nofun⟩
  · split <;> exact ⟨nofun, nofun⟩

inductive Reported (cfg : WorkerConfig) (row : Option WorkerRuntimeStatus) (now : Time) (staleAfter : Int) :
    ProcessReport → Prop
  | disabled {report : ProcessReport} (hcfg : cfg.enabled = false) (hreport : report.enabled = false)
      (halive : report.alive = false) (hstalled : isStalled report = false) : Reported cfg row now staleAfter report
  | down {report : ProcessReport} (hcfg : cfg.enabled = true) (hreport : report.enabled = true)
      (halive : report.alive = false) (hstate : report.processState = .down)
      (hover : ∀ r, row = some r → isOver r.heartbeat now staleAfter = true) :
      Reported cfg row now staleAfter report
  | alive {report : ProcessReport} {r : WorkerRuntimeStatus} (hcfg : cfg.enabled = true)
      (hreport : report.enabled = true) (halive : report.alive = true) (hrow : row = some r)
      (hover : isOver r.heartbeat now staleAfter = false) (hdown : report.processState ≠ .down)
      (hpaused : report.processState = .paused ↔ startsWith "PAUSED_" r.heartbeat.report.status = true)
      (hstalled : isStalled report = true ↔
        startsWith "PAUSED_" r.heartbeat.report.status = false ∧ 3 ≤ r.consecutiveNoProgressCycles) :
      Reported cfg row now staleAfter report

theorem process_reported (cfg : WorkerConfig) (row : Option WorkerRuntimeStatus) (now : Time) (staleAfter : Int) :
    Reported cfg row now staleAfter (process cfg row now staleAfter) := by
  unfold process
  split
  · rename_i hcfg
    cases row with
    | none =>
        refine .down hcfg rfl rfl rfl ?_
        rintro _ ⟨⟩
    | some r =>
        simp only
        split
        · rename_i hover
          refine .down hcfg rfl rfl rfl ?_
          rintro _ ⟨⟩
          exact hover
        · rename_i hover
          have hover : isOver r.heartbeat now staleAfter = false := Bool.not_eq_true _ ▸ hover
          split
          · rename_i hpaused
            refine .alive hcfg rfl rfl rfl hover ?_ (iff_of_true rfl hpaused) ?_
            · rintro ⟨⟩
            · simp [isStalled, hpaused]
          · rename_i hpaused
            obtain ⟨hdown, hne⟩ := aliveState_alive r.heartbeat now
            refine .alive hcfg rfl rfl rfl hover hdown (iff_of_false hne hpaused) ?_
            simp [isStalled, activityOf, hpaused]
  · rename_i hcfg
    exact .disabled (Bool.not_eq_true _ ▸ hcfg) rfl rfl rfl

section

variable {reports : List ProcessReport}

omit [PyLower] in
theorem mem_states {state : ProcessState} :
    state ∈ states reports ↔ ∃ r ∈ reports, r.enabled = true ∧ r.processState = state := by
  simp [states, and_assoc]

omit [PyLower] in
theorem states_ne_nil : states reports ≠ [] ↔ ∃ r ∈ reports, r.enabled = true := by
  simp [states]

omit [PyLower] in
theorem overall_down_iff : overall reports = .down ↔
    (∃ r ∈ reports, r.enabled = true) ∧ ∀ r ∈ reports, r.enabled = true → r.processState = .down := by
  have hdown : (∀ state ∈ states reports, state = .down) ↔
      ∀ r ∈ reports, r.enabled = true → r.processState = .down := by
    constructor
    · intro h r hr henabled
      exact h _ (mem_states.mpr ⟨r, hr, henabled, rfl⟩)
    · intro h state hstate
      obtain ⟨r, hr, henabled, rfl⟩ := mem_states.mp hstate
      exact h r hr henabled
  rw [← states_ne_nil, ← hdown]
  unfold overall
  split
  · rename_i h
    exact iff_of_true rfl h
  · rename_i h
    refine iff_of_false ?_ h
    split <;> nofun

omit [PyLower] in
theorem overall_ok_iff : overall reports = .ok ↔ ∀ r ∈ reports,
    (r.enabled = true → r.processState ≠ .down ∧ r.processState ≠ .paused) ∧ isStalled r = false := by
  unfold overall
  split
  · rename_i h
    refine iff_of_false nofun fun hall => ?_
    obtain ⟨r, hr, henabled⟩ := states_ne_nil.mp h.1
    exact ((hall r hr).1 henabled).1 (h.2 _ (mem_states.mpr ⟨r, hr, henabled, rfl⟩))
  · split
    · rename_i h
      refine iff_of_false nofun fun hall => ?_
      rcases h with ⟨state, hstate, hbad⟩ | hstalled
      · obtain ⟨r, hr, henabled, rfl⟩ := mem_states.mp hstate
        exact hbad.elim ((hall r hr).1 henabled).1 ((hall r hr).1 henabled).2
      · obtain ⟨r, hr, hstalled⟩ := List.any_eq_true.mp hstalled
        exact Bool.false_ne_true ((hall r hr).2.symm.trans hstalled)
    · rename_i h
      refine iff_of_true rfl fun r hr => ⟨fun henabled => ?_, ?_⟩
      · constructor
        · exact fun hstate => h (.inl ⟨_, mem_states.mpr ⟨r, hr, henabled, rfl⟩, .inl hstate⟩)
        · exact fun hstate => h (.inl ⟨_, mem_states.mpr ⟨r, hr, henabled, rfl⟩, .inr hstate⟩)
      · exact Bool.eq_false_iff.mpr fun hstalled => h (.inr (List.any_eq_true.mpr ⟨r, hr, hstalled⟩))

end

/-- A process of the worker is heard of, is not paused, and its cycles are not without progress. -/
def Well (C : Crew P) (rows : String → Option WorkerRuntimeStatus) (s : Sys P) (now : Time) (staleAfter : Int)
    (name : String) : Prop :=
  Heard C rows s now staleAfter name ∧ ∀ r, s.rows name = some r →
    startsWith "PAUSED_" r.heartbeat.report.status = false ∧ r.consecutiveNoProgressCycles < 3

omit [DecidableEq P] [PyLower] in
theorem heard_iff (hshows : Shows C rows s) : Heard C rows s now staleAfter name ↔
    ∃ r, s.rows name = some r ∧ isOver r.heartbeat now staleAfter = false := by
  unfold Heard
  rw [← hshows name]
  constructor
  · rintro ⟨h, hrow, hheard⟩
    obtain ⟨r, hr, rfl⟩ := Option.map_eq_some_iff.mp hrow
    exact ⟨r, hr, isOver_iff.mpr hheard⟩
  · rintro ⟨r, hr, hover⟩
    exact ⟨r.heartbeat, by rw [hr]; rfl, isOver_iff.mp hover⟩

omit [DecidableEq P] [PyLower] in
theorem reported_down_iff (hshows : Shows C rows s) {report : ProcessReport}
    (h : Reported cfg (s.rows cfg.name) now staleAfter report) (henabled : cfg.enabled = true) :
    report.processState = .down ↔ ¬Heard C rows s now staleAfter cfg.name := by
  rw [heard_iff hshows]
  cases h with
  | disabled hcfg => cases henabled.symm.trans hcfg
  | down _ _ _ hstate hover =>
      refine iff_of_true hstate ?_
      rintro ⟨r, hr, hheard⟩
      cases hheard.symm.trans (hover r hr)
  | alive _ _ _ hrow hover hdown => exact iff_of_false hdown (not_not_intro ⟨_, hrow, hover⟩)

omit [DecidableEq P] [PyLower] in
theorem reported_well_iff (hshows : Shows C rows s) {report : ProcessReport}
    (h : Reported cfg (s.rows cfg.name) now staleAfter report) :
    (report.enabled = true → report.processState ≠ .down ∧ report.processState ≠ .paused) ∧ isStalled report = false ↔
      (cfg.enabled = true → Well C rows s now staleAfter cfg.name) := by
  unfold Well
  rw [heard_iff hshows]
  cases h with
  | disabled hcfg hreport halive hstalled =>
      refine iff_of_true ⟨fun henabled => ?_, hstalled⟩ fun henabled => ?_
      · cases hreport.symm.trans henabled
      · cases hcfg.symm.trans henabled
  | down hcfg hreport halive hstate hover =>
      refine iff_of_false (fun h => (h.1 hreport).1 hstate) fun h => ?_
      obtain ⟨⟨r, hr, hheard⟩, -⟩ := h hcfg
      cases hheard.symm.trans (hover r hr)
  | @alive r hcfg hreport halive hrow hover hdown hpaused hstalled =>
      constructor
      · rintro ⟨hstate, hmoves⟩ -
        have hunpaused : startsWith "PAUSED_" r.heartbeat.report.status = false :=
          Bool.eq_false_iff.mpr fun h => (hstate hreport).2 (hpaused.mpr h)
        refine ⟨⟨r, hrow, hover⟩, fun r' hr' => ?_⟩
        obtain rfl := Option.some.inj (hrow.symm.trans hr')
        refine ⟨hunpaused, Nat.lt_of_not_le fun hthree => ?_⟩
        cases hmoves.symm.trans (hstalled.mpr ⟨hunpaused, hthree⟩)
      · intro hwell
        obtain ⟨hunpaused, hmoves⟩ := (hwell hcfg).2 r hrow
        refine ⟨fun _ => ⟨hdown, fun hstate => ?_⟩, Bool.eq_false_iff.mpr fun h => ?_⟩
        · cases hunpaused.symm.trans (hpaused.mp hstate)
        · exact Nat.not_le_of_lt hmoves (hstalled.mp h).2

theorem process_enabled (row : Option WorkerRuntimeStatus) :
    (process cfg row now staleAfter).enabled = cfg.enabled := by
  cases process_reported cfg row now staleAfter with
  | disabled hcfg hreport | down hcfg hreport | alive hcfg hreport => rw [hcfg, hreport]

theorem simpleStatus_overall (S : Settings) (rows : String → Option WorkerRuntimeStatus) (now : Time) :
    (simpleStatus S rows now).overall =
      overall ((config S).map fun cfg => process cfg (rows cfg.name) now S.workerHeartbeatStaleAfterSeconds) := by
  rfl

omit [DecidableEq P] in
theorem overall_well_iff (hshows : Shows C rows s) :
    (simpleStatus S s.rows now).overall = .ok ↔ ∀ cfg ∈ config S, cfg.enabled = true →
      Well C rows s now S.workerHeartbeatStaleAfterSeconds cfg.name := by
  rw [simpleStatus_overall, overall_ok_iff, List.forall_mem_map]
  exact forall₂_congr fun cfg _ => reported_well_iff hshows (process_reported ..)

omit [DecidableEq P] in
theorem overall_unheard_iff (hshows : Shows C rows s) :
    (simpleStatus S s.rows now).overall = .down ↔ (∃ cfg ∈ config S, cfg.enabled = true) ∧
      ∀ cfg ∈ config S, cfg.enabled = true → ¬Heard C rows s now S.workerHeartbeatStaleAfterSeconds cfg.name := by
  rw [simpleStatus_overall, overall_down_iff, List.forall_mem_map]
  refine and_congr ?_ (forall₂_congr fun cfg _ => ?_)
  · simp [process_enabled]
  · rw [process_enabled]
    exact forall_congr' fun henabled => reported_down_iff hshows (process_reported ..) henabled

/-- The overall status is what was heard of the enabled workers, where no two writes of one row overlap. -/
theorem status_truthful (h : Reach (step C) (Apart C) (start files rows) s) :
    ((simpleStatus S s.rows now).overall = .ok ↔ ∀ cfg ∈ config S, cfg.enabled = true →
        Well C rows s now S.workerHeartbeatStaleAfterSeconds cfg.name) ∧
      ((simpleStatus S s.rows now).overall = .down ↔ (∃ cfg ∈ config S, cfg.enabled = true) ∧
        ∀ cfg ∈ config S, cfg.enabled = true →
          ¬Heard C rows s now S.workerHeartbeatStaleAfterSeconds cfg.name) :=
  ⟨overall_well_iff (reach_shows h), overall_unheard_iff (reach_shows h)⟩

theorem process_over {row : Option WorkerRuntimeStatus} (henabled : cfg.enabled = true)
    (hover : ∀ r, row = some r → isOver r.heartbeat now staleAfter = true) :
    (process cfg row now staleAfter).processState = .down := by
  cases process_reported cfg row now staleAfter with
  | disabled hcfg => cases henabled.symm.trans hcfg
  | down _ _ _ hstate => exact hstate
  | alive _ _ _ hrow halive => cases (hover _ hrow).symm.trans halive

theorem overall_process_down {rows : String → Option WorkerRuntimeStatus} (hcfg : cfg ∈ config S)
    (henabled : cfg.enabled = true)
    (hdown : (process cfg (rows cfg.name) now S.workerHeartbeatStaleAfterSeconds).processState = .down) :
    (simpleStatus S rows now).overall ≠ .ok := by
  rw [simpleStatus_overall, Ne, overall_ok_iff]
  intro hall
  refine ((hall _ (List.mem_map_of_mem hcfg)).1 ?_).1 hdown
  rw [process_enabled, henabled]

/-- A worker all of whose processes have ended, however they ended, is reported as down from the time on at
which the newest heartbeat is stale, until one is started again. -/
theorem outage_reported (h : Reach (step C) Free (start files rows) s) (hcfg : cfg ∈ config S)
    (henabled : cfg.enabled = true) (hsilent : ∀ p, C.workerName p = cfg.name → Silent s p)
    (hstale : ∀ h, lastHeard C rows s cfg.name = some h →
      h.heartbeatAt + seconds S.workerHeartbeatStaleAfterSeconds < now)
    (hu : Reach (step C) (Unmanned C cfg.name) s u) :
    (process cfg (u.rows cfg.name) now S.workerHeartbeatStaleAfterSeconds).processState = .down ∧
      (simpleStatus S u.rows now).overall ≠ .ok := by
  have hdown : (process cfg (u.rows cfg.name) now S.workerHeartbeatStaleAfterSeconds).processState = .down := by
    refine process_over henabled fun r hr => ?_
    rw [(silence_stays hsilent hu).2] at hr
    have hdated := reach_dated h cfg.name
    rw [hr] at hdated
    obtain ⟨h', hlast, hat⟩ := Option.map_eq_some_iff.mp hdated.symm
    refine Bool.not_eq_false _ ▸ fun hover => Int.not_le.mpr (hstale h' hlast) ?_
    rw [hat]
    exact (isOver_iff.mp hover).1
  exact ⟨hdown, overall_process_down hcfg henabled hdown⟩

end

section Sample

attribute [local instance] asciiText

open DarkMinter.Singleton (twoHosts)

def twoWorkers : Crew Bool :=
  { crew with
    workerName := fun p => if p then "metadata-publisher" else "chain-publisher"
    sha256 := fun name => if name = "chain-publisher" then twoHosts.sha256 name else
      [147, 27, 229, 183, 20, 69, 219, 2, 40, 51, 250, 36, 171, 55, 221, 107, 127, 202, 106, 148, 81, 83, 44, 203,
        34, 199, 209, 107, 163, 131, 68, 194] }

def chainAndMetadata : Settings where
  metadataWorkerRuntimeName := "metadata-publisher"
  metadataWorkerEnabled := true
  replicationWorkerRuntimeName := "replication-publisher"
  replicationWorkerEnabled := false
  chainWorkerRuntimeName := "chain-publisher"
  chainWorkerEnabled := true
  workerHeartbeatStaleAfterSeconds := 30

def persisting (p : Bool) (now : Time) : List (Act Bool) := [.select p, .persistCurrent p now true]

def beating : List (Act Bool) :=
  reporting false ++ reporting true ++ [.setHeartbeatState false { status := "RUNNING" }] ++
    persisting false (seconds 20) ++
      [.startSupervisor false, .tick false (seconds 30), .tickSelect false, .ticked false true]

theorem status_truthful_sample : ∃ s, Reach (step twoWorkers) (Apart twoWorkers) fresh s ∧ s.writes.length = 4 ∧
    ((simpleStatus chainAndMetadata s.rows (seconds 40)).overall = .ok ↔
        ∀ cfg ∈ config chainAndMetadata, cfg.enabled = true →
          Well twoWorkers (fun _ => none) s (seconds 40) 30 cfg.name) ∧
      ((simpleStatus chainAndMetadata s.rows (seconds 40)).overall = .down ↔
        (∃ cfg ∈ config chainAndMetadata, cfg.enabled = true) ∧ ∀ cfg ∈ config chainAndMetadata, cfg.enabled = true →
          ¬Heard twoWorkers (fun _ => none) s (seconds 40) 30 cfg.name) := by
  have hrun : ((guardedRun (step twoWorkers) (Apart twoWorkers) beating fresh).map fun s => s.writes.length) =
      some 4 := by decide +kernel
  obtain ⟨s, hs, hlength⟩ := Option.map_eq_some_iff.mp hrun
  exact ⟨s, guardedRun_reach hs, hlength, status_truthful (guardedRun_reach hs)⟩

/-- A heartbeat of the thread that was under way while the loop paused leaves the pause in the row. -/
example : ((run (step twoWorkers) (beating ++ [.tick false (seconds 31), .tickSelect false,
    .setHeartbeatState false { status := "PAUSED_RPC_UNAVAILABLE" }] ++ persisting false (seconds 32) ++
      [.ticked false true]) fresh).map fun s => ((s.rows "chain-publisher").map (·.heartbeat.report.status),
        (lastHeard twoWorkers (fun _ => none) s "chain-publisher").map (·.report.status))) =
          some (some "PAUSED_RPC_UNAVAILABLE", some "RUNNING") := by decide +kernel

def isSilent (s : Sys Bool) (p : Bool) : Bool :=
  (s.base.phase p = .unstarted || s.base.phase p = .ended) && match (s.procs p).exit, (s.procs p).supervisor with
    | .none, .absent => true
    | _, _ => false

theorem silent_of_isSilent {s : Sys Bool} {p : Bool} (h : isSilent s p = true) : Silent s p := by
  obtain ⟨hphase, hproc⟩ := (Bool.and_eq_true _ _).mp h
  have hphase : s.base.phase p = .unstarted ∨ s.base.phase p = .ended := by simpa using hphase
  split at hproc
  · exact ⟨hphase, ‹_›, ‹_›⟩
  · cases hproc

theorem outage_reported_sample : ∃ s u, Reach (step twoWorkers) Free fresh s ∧
    Reach (step twoWorkers) (Unmanned twoWorkers "chain-publisher") s u ∧ u.writes.length = 5 ∧
      (process ⟨.chain, "chain-publisher", true⟩ (u.rows "chain-publisher") (seconds 61) 30).processState = .down ∧
        (simpleStatus chainAndMetadata u.rows (seconds 61)).overall ≠ .ok := by
  have hrun : ((run (step twoWorkers) (beating ++ [.die false]) fresh).bind fun s =>
      (run (step twoWorkers) (persisting true (seconds 60)) s).map fun u => (isSilent s false,
        (lastHeard twoWorkers (fun _ => none) s "chain-publisher").map (·.heartbeatAt), u.writes.length)) =
          some (true, some (seconds 30), 5) := by decide +kernel
  obtain ⟨s, hs, hrest⟩ := Option.bind_eq_some_iff.mp hrun
  obtain ⟨u, hu, hstate⟩ := Option.map_eq_some_iff.mp hrest
  obtain ⟨hsilent, hstate⟩ := Prod.mk.inj hstate
  obtain ⟨hlast, hlength⟩ := Prod.mk.inj hstate
  have hunmanned : Reach (step twoWorkers) (Unmanned twoWorkers "chain-publisher") s u := by
    refine (run_guarded (fun _ => True) hu trivial (fun _ a ha _ => ?_) fun _ _ _ _ _ _ => trivial).1
    simp only [persisting, List.mem_cons, List.not_mem_nil, or_false] at ha
    rcases ha with rfl | rfl <;> exact fun _ _ => nofun
  have hcfg : ⟨.chain, "chain-publisher", true⟩ ∈ config chainAndMetadata := by simp [config, chainAndMetadata]
  refine ⟨s, u, run_reach hs, hunmanned, hlength,
    outage_reported (run_reach hs) hcfg rfl (fun p hp => ?_) (fun h hh => ?_) hunmanned⟩
  · cases p
    · exact silent_of_isSilent hsilent
    · exact absurd hp (by decide)
  · have hat : h.heartbeatAt = seconds 30 := by
      rw [hh] at hlast
      exact Option.some.inj hlast
    rw [hat]
    decide

end Sample

end DarkMinter.WorkerReports
