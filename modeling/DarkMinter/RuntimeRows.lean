import DarkMinter.RuntimeStatus
import DarkMinter.Singleton

namespace DarkMinter.RuntimeRows

open Text Processing Lib.Runs
open RuntimeStatus (Stats CycleStats Report Heartbeat WorkerRuntimeStatus extractRuntimeStats upsertStatus)
open DarkMinter.Singleton (Fleet Phase InLoop)

structure Crew (P : Type*) extends Fleet P where
  instanceId : P → String
  hostname : Nat → String
  startedAt : P → Time

/-- `heartbeat_state`; a worker reports STARTING before it has one. -/
structure HeartbeatState where
  status : String := "STARTING"
  lastError : Option String := none
  nextWakeAt : Option Time := none

/-- How far a worker that leaves its `try` block is: in the `except` branch before and after it has
stopped the supervisor, and so in the `finally` branch. -/
inductive Exit
  | none
  | raised (error : String)
  | recording (error : String)
  | finishing
  | stopping
  | done
  deriving DecidableEq

abbrev Selected := Option WorkerRuntimeStatus

/-- The heartbeat thread, and what it has selected for its write. A detached one has been told to
stop, and still writes. -/
inductive Supervisor
  | absent
  | waiting
  | writing (h : Heartbeat) (session : Option Selected)
  | detached (h : Heartbeat) (session : Option Selected)

/-- A process. `session` is the one in which its main thread writes a heartbeat, from the SELECT on. -/
structure Proc where
  exit : Exit := .none
  state : HeartbeatState := {}
  publisher : Option Stats := none
  session : Option Selected := none
  supervisor : Supervisor := .absent

structure Write (P : Type*) where
  writer : P
  held : Bool
  heartbeat : Heartbeat
  row : WorkerRuntimeStatus

/-- The processes, the runtime rows by worker name, and what happened: the writes, the newest first,
and the exceptions with which the holders of a lock left their `try` blocks. -/
structure Sys (P : Type*) where
  base : Singleton.Sys P
  procs : P → Proc := fun _ => {}
  rows : String → Option WorkerRuntimeStatus
  writes : List (Write P) := []
  failed : P → Option String := fun _ => none

/-- Where a write is not `stored` its exception is logged, and nothing else comes of it. -/
inductive Act (P : Type*)
  | boot (a : Singleton.Act P)
  | acquire (p : P)
  | setHeartbeatState (p : P) (state : HeartbeatState)
  | report (p : P) (stats : Stats)
  | select (p : P)
  | persistCurrent (p : P) (now : Time) (stored : Bool)
  | startSupervisor (p : P)
  | tick (p : P) (now : Time)
  | tickSelect (p : P)
  | ticked (p : P) (stored : Bool)
  | raise (p : P) (error : String)
  | leave (p : P)
  | stopSupervisor (p : P) (timedOut : Bool)
  | persistError (p : P) (now : Time) (stored : Bool)
  | persistStopped (p : P) (now : Time) (stored : Bool)
  | release (p : P) (unlocked : Bool)
  | die (p : P)

def Act.actor {P : Type*} : Act P → P
  | .boot a => a.actor
  | .acquire p | .setHeartbeatState p _ | .report p _ | .select p | .persistCurrent p _ _ | .startSupervisor p
  | .tick p _ | .tickSelect p | .ticked p _ | .raise p _ | .leave p | .stopSupervisor p _ | .persistError p _ _
  | .persistStopped p _ _ | .release p _ | .die p => p

def isBoot {P : Type*} : Singleton.Act P → Bool
  | .acquire _ | .leave _ | .release _ _ | .die _ => false
  | _ => true

section Columns

/-- A column after an UPDATE, which sets the columns that differ from what was loaded. -/
def updated {α : Type*} [DecidableEq α] (loaded new current : α) : α := if new = loaded then current else new

@[simp] theorem updated_loaded {α : Type*} [DecidableEq α] (loaded new : α) : updated loaded new loaded = new := by
  unfold updated
  split
  · exact Eq.symm ‹_›
  · rfl

def updateReport (loaded new current : Report) : Report where
  instanceId := updated loaded.instanceId new.instanceId current.instanceId
  host := updated loaded.host new.host current.host
  pid := updated loaded.pid new.pid current.pid
  status := updated loaded.status new.status current.status
  startedAt := updated loaded.startedAt new.startedAt current.startedAt
  nextWakeAt := updated loaded.nextWakeAt new.nextWakeAt current.nextWakeAt
  lastError := updated loaded.lastError new.lastError current.lastError

def updateStats (loaded new current : CycleStats) : CycleStats where
  lastCycleAt := updated loaded.lastCycleAt new.lastCycleAt current.lastCycleAt
  lastCycleDurationSeconds :=
    updated loaded.lastCycleDurationSeconds new.lastCycleDurationSeconds current.lastCycleDurationSeconds
  lastCycleProcessed := updated loaded.lastCycleProcessed new.lastCycleProcessed current.lastCycleProcessed
  lastCycleSucceeded := updated loaded.lastCycleSucceeded new.lastCycleSucceeded current.lastCycleSucceeded
  lastCycleFailed := updated loaded.lastCycleFailed new.lastCycleFailed current.lastCycleFailed
  lastReconciliationAt := updated loaded.lastReconciliationAt new.lastReconciliationAt current.lastReconciliationAt
  lastReconciliationChecked :=
    updated loaded.lastReconciliationChecked new.lastReconciliationChecked current.lastReconciliationChecked
  lastReconciliationAdvanced :=
    updated loaded.lastReconciliationAdvanced new.lastReconciliationAdvanced current.lastReconciliationAdvanced
  lastReconciliationWaiting :=
    updated loaded.lastReconciliationWaiting new.lastReconciliationWaiting current.lastReconciliationWaiting
  lastReconciliationRepaired :=
    updated loaded.lastReconciliationRepaired new.lastReconciliationRepaired current.lastReconciliationRepaired
  lastReconciliationPurged :=
    updated loaded.lastReconciliationPurged new.lastReconciliationPurged current.lastReconciliationPurged
  lastReconciliationFailed :=
    updated loaded.lastReconciliationFailed new.lastReconciliationFailed current.lastReconciliationFailed
  lastReplicationPromotionsAccepted := updated loaded.lastReplicationPromotionsAccepted
    new.lastReplicationPromotionsAccepted current.lastReplicationPromotionsAccepted
  lastReplicationConfirmedCids :=
    updated loaded.lastReplicationConfirmedCids new.lastReplicationConfirmedCids current.lastReplicationConfirmedCids
  lastReplicationPendingCids :=
    updated loaded.lastReplicationPendingCids new.lastReplicationPendingCids current.lastReplicationPendingCids
  lastReplicationBatchLatencyMs := updated loaded.lastReplicationBatchLatencyMs new.lastReplicationBatchLatencyMs
    current.lastReplicationBatchLatencyMs
  totalProcessed := updated loaded.totalProcessed new.totalProcessed current.totalProcessed
  totalSucceeded := updated loaded.totalSucceeded new.totalSucceeded current.totalSucceeded
  totalFailed := updated loaded.totalFailed new.totalFailed current.totalFailed
  totalPermanentFailures :=
    updated loaded.totalPermanentFailures new.totalPermanentFailures current.totalPermanentFailures

/-- The time is read off the clock for every heartbeat, and always set. -/
def updateRow (loaded new current : WorkerRuntimeStatus) : WorkerRuntimeStatus where
  heartbeat :=
    { report := updateReport loaded.heartbeat.report new.heartbeat.report current.heartbeat.report
      heartbeatAt := new.heartbeat.heartbeatAt
      stats := updateStats loaded.heartbeat.stats new.heartbeat.stats current.heartbeat.stats }
  consecutiveNoProgressCycles := updated loaded.consecutiveNoProgressCycles new.consecutiveNoProgressCycles
    current.consecutiveNoProgressCycles

theorem updateRow_loaded (loaded new : WorkerRuntimeStatus) : updateRow loaded new loaded = new := by
  simp [updateRow, updateReport, updateStats]

/-- The row that the commit of a heartbeat leaves. Where nothing was selected it is an INSERT, which a
row that is there by now refuses. -/
def commitStatus (workerName : String) (selected current : Option WorkerRuntimeStatus) (h : Heartbeat) :
    Option WorkerRuntimeStatus :=
  match selected, current with
  | none, none => some (upsertStatus workerName none h)
  | some loaded, some row => some (updateRow loaded (upsertStatus workerName (some loaded) h) row)
  | _, _ => none

variable {workerName : String} {selected current : Option WorkerRuntimeStatus} {row : WorkerRuntimeStatus}
  {h : Heartbeat}

theorem upsert_heartbeat : (upsertStatus workerName selected h).heartbeat = h := by
  cases selected <;> rfl

theorem commitStatus_apart (hrow : commitStatus workerName current current h = some row) : row.heartbeat = h := by
  cases current with
  | none =>
      obtain rfl := Option.some.inj hrow
      exact upsert_heartbeat
  | some loaded =>
      rw [commitStatus, updateRow_loaded] at hrow
      obtain rfl := Option.some.inj hrow
      exact upsert_heartbeat

theorem commitStatus_same (workerName : String) (current : Option WorkerRuntimeStatus) (h : Heartbeat) :
    ∃ row, commitStatus workerName current current h = some row := by
  cases current <;> exact ⟨_, rfl⟩

theorem commitStatus_at (hrow : commitStatus workerName selected current h = some row) :
    row.heartbeat.heartbeatAt = h.heartbeatAt := by
  unfold commitStatus at hrow
  split at hrow
  · obtain rfl := Option.some.inj hrow
    rfl
  · obtain rfl := Option.some.inj hrow
    rfl
  · cases hrow

end Columns

variable {P : Type*} [DecidableEq P]

def Sys.setProc (s : Sys P) (p : P) (proc : Proc) : Sys P := { s with procs := Function.update s.procs p proc }

def Sys.setExit (s : Sys P) (p : P) (exit : Exit) : Sys P := s.setProc p { s.procs p with exit }

def Sys.setSession (s : Sys P) (p : P) (session : Option Selected) : Sys P :=
  s.setProc p { s.procs p with session }

def Sys.setSupervisor (s : Sys P) (p : P) (supervisor : Supervisor) : Sys P :=
  s.setProc p { s.procs p with supervisor }

def holdsLock (C : Crew P) (s : Sys P) (p : P) : Bool := s.base.locks (C.key p) = some p

def heartbeat (C : Crew P) (s : Sys P) (p : P) (now : Time) (state : HeartbeatState) : Heartbeat where
  report :=
    { instanceId := C.instanceId p, host := C.hostname (C.host p), pid := C.pid p, status := state.status,
      startedAt := C.startedAt p, nextWakeAt := state.nextWakeAt, lastError := state.lastError }
  heartbeatAt := now
  stats := extractRuntimeStats (s.procs p).publisher

/-- The end of `_persist_worker_heartbeat`: the session that has selected the row is committed. -/
def persistWorkerHeartbeat (C : Crew P) (s : Sys P) (p : P) (selected : Selected) (h : Heartbeat) (stored : Bool) :
    Sys P :=
  match stored, commitStatus (C.workerName p) selected (s.rows (C.workerName p)) h with
  | true, some row =>
      { s with
        rows := Function.update s.rows (C.workerName p) (some row)
        writes := ⟨p, holdsLock C s p, h, row⟩ :: s.writes }
  | _, _ => s

def stop (s : Sys P) (p : P) (timedOut : Bool) : Option (Sys P) :=
  match (s.procs p).supervisor with
  | .writing h session | .detached h session =>
      if timedOut then some (s.setSupervisor p (.detached h session)) else none
  | .absent | .waiting => some (s.setSupervisor p .absent)

def alreadyHeld (workerName : String) : String := "Worker advisory lock already held for " ++ workerName

def looping (s : Sys P) (p : P) : Bool := s.base.phase p ∈ [.running, .cycling]

def isIdle (s : Sys P) (p : P) : Bool := (s.procs p).session.isNone

def Exit.isWriting : Exit → Bool
  | .recording _ | .stopping => true
  | _ => false

/-- While the main thread is in a session it takes no other step; a connection ends at any time. -/
def isReady (s : Sys P) : Singleton.Act P → Bool
  | .connectionEnds _ => true
  | a => isIdle s a.actor

def step (C : Crew P) (s : Sys P) : Act P → Option (Sys P)
  | .boot a =>
      if isBoot a && isReady s a then (Singleton.step C.toFleet s.base a).map fun base => { s with base } else none
  | .acquire p =>
      (Singleton.step C.toFleet s.base (.acquire p)).map fun base =>
        if base.phase p = .stopping then { s with base }.setExit p (.raised (alreadyHeld (C.workerName p)))
        else { s with base }
  | .setHeartbeatState p state =>
      if looping s p && isIdle s p then some (s.setProc p { s.procs p with state }) else none
  | .report p stats =>
      if looping s p && isIdle s p then some (s.setProc p { s.procs p with publisher := some stats }) else none
  | .select p =>
      if (looping s p || (s.procs p).exit.isWriting) && isIdle s p then
        some (s.setSession p (some (s.rows (C.workerName p))))
      else none
  | .persistCurrent p now stored => match (s.procs p).session with
      | some selected =>
          if looping s p then
            let h := heartbeat C s p now (s.procs p).state
            some ((persistWorkerHeartbeat C s p selected h stored).setSession p none)
          else none
      | none => none
  | .startSupervisor p => if looping s p && isIdle s p then
      match (s.procs p).supervisor with
      | .absent => some (s.setSupervisor p .waiting)
      | _ => none
    else none
  | .tick p now => match (s.procs p).supervisor with
      | .waiting => some (s.setSupervisor p (.writing (heartbeat C s p now (s.procs p).state) none))
      | _ => none
  | .tickSelect p => match (s.procs p).supervisor with
      | .writing h none => some (s.setSupervisor p (.writing h (some (s.rows (C.workerName p)))))
      | .detached h none => some (s.setSupervisor p (.detached h (some (s.rows (C.workerName p)))))
      | _ => none
  | .ticked p stored => match (s.procs p).supervisor with
      | .writing h (some selected) =>
          some ((persistWorkerHeartbeat C s p selected h stored).setSupervisor p .waiting)
      | .detached h (some selected) =>
          some ((persistWorkerHeartbeat C s p selected h stored).setSupervisor p .absent)
      | _ => none
  | .raise p error =>
      if isIdle s p then
        (Singleton.step C.toFleet s.base (.leave p)).map fun base =>
          let failed := if holdsLock C s p then Function.update s.failed p (some error) else s.failed
          { s with base, failed }.setExit p (.raised error)
      else none
  | .leave p =>
      if isIdle s p then
        (Singleton.step C.toFleet s.base (.leave p)).map fun base => { s with base }.setExit p .finishing
      else none
  | .stopSupervisor p timedOut => match (s.procs p).exit, (s.procs p).session with
      | .raised error, none => (stop s p timedOut).map fun s => s.setExit p (.recording error)
      | .finishing, none => (stop s p timedOut).map fun s => s.setExit p .stopping
      | _, _ => none
  | .persistError p now stored => match (s.procs p).exit, (s.procs p).session with
      | .recording error, some selected =>
          let h := heartbeat C s p now { status := "ERROR", lastError := some (take 1000 error) }
          some (((persistWorkerHeartbeat C s p selected h stored).setSession p none).setExit p .finishing)
      | _, _ => none
  | .persistStopped p now stored => match (s.procs p).exit, (s.procs p).session with
      | .stopping, some selected =>
          let h := heartbeat C s p now { status := "STOPPED" }
          some (((persistWorkerHeartbeat C s p selected h stored).setSession p none).setExit p .done)
      | _, _ => none
  | .release p unlocked => match (s.procs p).exit with
      | .done => (Singleton.step C.toFleet s.base (.release p unlocked)).map fun base =>
          { s with base }.setExit p .none
      | _ => none
  | .die p => (Singleton.step C.toFleet s.base (.die p)).map fun base => { s with base }.setProc p {}

def start (files : Nat → String → Option (Singleton.File P)) (rows : String → Option WorkerRuntimeStatus) : Sys P :=
  { base := Singleton.start files, rows }

def committed (s : Sys P) : Act P → Option Selected
  | .persistCurrent p _ true | .persistError p _ true | .persistStopped p _ true => (s.procs p).session
  | .ticked p true => match (s.procs p).supervisor with
      | .writing _ session | .detached _ session => session
      | _ => none
  | _ => none

def lastRow (s : Sys P) (p : P) : Option Heartbeat := (s.writes.find? fun w => w.writer = p).map (·.row.heartbeat)

def Reported (s : Sys P) (p : P) (error : String) : Prop :=
  ∃ h, lastRow s p = some h ∧ h.report.status = "ERROR" ∧ h.report.lastError = some (take 1000 error)

def Past (phase : Phase) : Prop := phase = .closed ∨ phase = .removing ∨ phase = .ended

/-- Every write is by the holder of the lock, and the last one of a holder that ended by an exception
shows it. -/
structure Owned (s : Sys P) : Prop where
  held : ∀ w ∈ s.writes, w.held = true
  reported : ∀ p error, s.failed p = some error → Past (s.base.phase p) → Reported s p error

def Holding (phase : Phase) : Prop := InLoop phase ∨ phase = .stopping

/-- A process waits for a free lock and leaves its `try` block only once it holds it, keeps its
connection until it has released it, and its supervisor is stopped in time. A holder that ends by an
exception is not killed on its way out, and its last heartbeat is stored. -/
def Orderly (C : Crew P) (s : Sys P) : Act P → Prop
  | .boot (.connectionEnds p) => ¬Holding (s.base.phase p)
  | .acquire p => s.base.locks (C.key p) = none
  | .raise p _ | .leave p => s.base.phase p ≠ .initializing
  | .stopSupervisor _ timedOut => timedOut = false
  | .persistStopped p _ stored => s.failed p ≠ none → stored = true
  | .die p => s.failed p ≠ none → (s.procs p).exit = .none
  | _ => True

variable {C : Crew P} {s t : Sys P} {a : Act P} {p q : P} {h : Heartbeat} {stored : Bool} {selected : Selected}

section Frames

theorem persist_cases (C : Crew P) (s : Sys P) (p : P) (selected : Selected) (h : Heartbeat) (stored : Bool) :
    persistWorkerHeartbeat C s p selected h stored = s ∨ ∃ row, stored = true ∧
      commitStatus (C.workerName p) selected (s.rows (C.workerName p)) h = some row ∧
      persistWorkerHeartbeat C s p selected h stored =
        { s with
          rows := Function.update s.rows (C.workerName p) (some row)
          writes := ⟨p, holdsLock C s p, h, row⟩ :: s.writes } := by
  unfold persistWorkerHeartbeat
  split
  · rename_i row hrow
    exact .inr ⟨row, rfl, hrow, rfl⟩
  · exact .inl rfl

@[simp] theorem persist_base : (persistWorkerHeartbeat C s p selected h stored).base = s.base := by
  unfold persistWorkerHeartbeat
  split <;> rfl

@[simp] theorem persist_procs : (persistWorkerHeartbeat C s p selected h stored).procs = s.procs := by
  unfold persistWorkerHeartbeat
  split <;> rfl

@[simp] theorem persist_failed : (persistWorkerHeartbeat C s p selected h stored).failed = s.failed := by
  unfold persistWorkerHeartbeat
  split <;> rfl

@[simp] theorem setProc_self {proc : Proc} : (s.setProc p proc).procs p = proc := Function.update_self ..

theorem setProc_other {proc : Proc} (hne : q ≠ p) : (s.setProc p proc).procs q = s.procs q :=
  Function.update_of_ne hne ..

theorem lastRow_other (hne : q ≠ p) : lastRow (persistWorkerHeartbeat C s p selected h stored) q = lastRow s q := by
  rcases persist_cases C s p selected h stored with hsame | ⟨row, -, -, hrow⟩
  · rw [hsame]
  · rw [hrow, lastRow, List.find?_cons_of_neg]
    · rfl
    · simpa using hne.symm

theorem lastRow_self : lastRow (persistWorkerHeartbeat C s p (s.rows (C.workerName p)) h true) p = some h := by
  obtain ⟨row, hrow⟩ := commitStatus_same (C.workerName p) (s.rows (C.workerName p)) h
  simp [persistWorkerHeartbeat, hrow, lastRow, commitStatus_apart hrow]

end Frames

structure Frame (C : Crew P) (s t : Sys P) (q : P) : Prop where
  phase : t.base.phase q = s.base.phase q
  proc : t.procs q = s.procs q
  failed : t.failed q = s.failed q
  last : lastRow t q = lastRow s q
  lock : s.base.locks (C.key q) = some q → t.base.locks (C.key q) = some q

theorem frame_base {a : Singleton.Act P} {base : Singleton.Sys P} (hs : Singleton.step C.toFleet s.base a = some base)
    (hne : q ≠ a.actor) : base.phase q = s.base.phase q ∧
      (s.base.locks (C.key q) = some q → base.locks (C.key q) = some q) := by
  rcases Singleton.step_moves hs with ⟨p, rfl, rfl⟩ | hmoves
  · exact ⟨rfl, Singleton.disconnect_other hne⟩
  · exact ⟨hmoves.others q hne, hmoves.keeps q _ hne⟩

theorem frame_proc {proc : Proc} (hne : q ≠ p) (h : Frame C s t q) : Frame C s (t.setProc p proc) q :=
  ⟨h.phase, (setProc_other hne).trans h.proc, h.failed, h.last, h.lock⟩

theorem frame_persist (hne : q ≠ p) : Frame C s (persistWorkerHeartbeat C s p selected h stored) q :=
  ⟨by simp, by simp, by simp, lastRow_other hne, by simp⟩

theorem frame_refl : Frame C s s q := ⟨rfl, rfl, rfl, rfl, id⟩

/-- What a step can do. In the loop and under the supervisor it works on the process that takes it,
with a heartbeat written or not. -/
inductive Turns (C : Crew P) (s : Sys P) : Act P → Sys P → Prop
  | boot {a : Singleton.Act P} {base : Singleton.Sys P} (hboot : isBoot a = true)
      (hbase : Singleton.step C.toFleet s.base a = some base) : Turns C s (.boot a) { s with base }
  | acquired {p : P} {base : Singleton.Sys P} (hbase : Singleton.step C.toFleet s.base (.acquire p) = some base)
      (hphase : base.phase p ≠ .stopping) : Turns C s (.acquire p) { s with base }
  | refused {p : P} {base : Singleton.Sys P} (hbase : Singleton.step C.toFleet s.base (.acquire p) = some base)
      (hphase : base.phase p = .stopping) :
      Turns C s (.acquire p) ({ s with base }.setExit p (.raised (alreadyHeld (C.workerName p))))
  | raised {p : P} {error : String} {base : Singleton.Sys P}
      (hbase : Singleton.step C.toFleet s.base (.leave p) = some base) :
      Turns C s (.raise p error)
        ({ s with base, failed := if holdsLock C s p then Function.update s.failed p (some error) else s.failed
          }.setExit p (.raised error))
  | left {p : P} {base : Singleton.Sys P} (hbase : Singleton.step C.toFleet s.base (.leave p) = some base) :
      Turns C s (.leave p) ({ s with base }.setExit p .finishing)
  | works {a : Act P} {proc : Proc}
      (hactive : looping s a.actor = true ∨ (s.procs a.actor).supervisor ≠ .absent)
      (hexit : proc.exit = (s.procs a.actor).exit) : Turns C s a (s.setProc a.actor proc)
  | writes {a : Act P} {proc : Proc} {selected : Selected} {h : Heartbeat} {stored : Bool}
      (hactive : looping s a.actor = true ∨ (s.procs a.actor).supervisor ≠ .absent)
      (hexit : proc.exit = (s.procs a.actor).exit) (hcommitted : stored = true → committed s a = some selected) :
      Turns C s a ((persistWorkerHeartbeat C s a.actor selected h stored).setProc a.actor proc)
  | selects {p : P} (hexit : (s.procs p).exit.isWriting = true) :
      Turns C s (.select p) (s.setSession p (some (s.rows (C.workerName p))))
  | stopRaised {p : P} {timedOut : Bool} {error : String} {supervisor : Supervisor}
      (hexit : (s.procs p).exit = .raised error) (hstop : timedOut = false → supervisor = .absent) :
      Turns C s (.stopSupervisor p timedOut) ((s.setSupervisor p supervisor).setExit p (.recording error))
  | stopFinishing {p : P} {timedOut : Bool} {supervisor : Supervisor} (hexit : (s.procs p).exit = .finishing)
      (hsession : (s.procs p).session = none) (hstop : timedOut = false → supervisor = .absent) :
      Turns C s (.stopSupervisor p timedOut) ((s.setSupervisor p supervisor).setExit p .stopping)
  | persistError {p : P} {now : Time} {stored : Bool} {error : String} {selected : Selected}
      (hexit : (s.procs p).exit = .recording error) (hsession : (s.procs p).session = some selected) :
      Turns C s (.persistError p now stored) (((persistWorkerHeartbeat C s p selected (heartbeat C s p now
        { status := "ERROR", lastError := some (take 1000 error) }) stored).setSession p none).setExit p .finishing)
  | persistStopped {p : P} {now : Time} {stored : Bool} {selected : Selected} (hexit : (s.procs p).exit = .stopping)
      (hsession : (s.procs p).session = some selected) :
      Turns C s (.persistStopped p now stored) (((persistWorkerHeartbeat C s p selected (heartbeat C s p now
        { status := "STOPPED" }) stored).setSession p none).setExit p .done)
  | released {p : P} {unlocked : Bool} {base : Singleton.Sys P} (hexit : (s.procs p).exit = .done)
      (hbase : Singleton.step C.toFleet s.base (.release p unlocked) = some base) :
      Turns C s (.release p unlocked) ({ s with base }.setExit p .none)
  | died {p : P} {base : Singleton.Sys P} (hbase : Singleton.step C.toFleet s.base (.die p) = some base) :
      Turns C s (.die p) ({ s with base }.setProc p {})

theorem stop_turns {u : Sys P} {timedOut : Bool} (h : stop s p timedOut = some u) :
    ∃ supervisor, u = s.setSupervisor p supervisor ∧ (timedOut = false → supervisor = .absent) := by
  unfold stop at h
  split at h
  · simp only [Option.ite_none_right_eq_some, Option.some.injEq] at h
    exact ⟨_, h.2.symm, fun hnot => by rw [hnot] at h; cases h.1⟩
  · simp only [Option.ite_none_right_eq_some, Option.some.injEq] at h
    exact ⟨_, h.2.symm, fun hnot => by rw [hnot] at h; cases h.1⟩
  · exact ⟨_, (Option.some.inj h).symm, fun _ => rfl⟩
  · exact ⟨_, (Option.some.inj h).symm, fun _ => rfl⟩

theorem step_turns (hs : step C s a = some t) : Turns C s a t := by
  cases a with
  | boot a =>
      simp only [step, Option.ite_none_right_eq_some, Bool.and_eq_true] at hs
      obtain ⟨base, hb, rfl⟩ := Option.map_eq_some_iff.mp hs.2
      exact .boot hs.1.1 hb
  | acquire p =>
      obtain ⟨base, hb, rfl⟩ := Option.map_eq_some_iff.mp hs
      split
      · exact .refused hb ‹_›
      · exact .acquired hb ‹_›
  | raise p error =>
      simp only [step, Option.ite_none_right_eq_some] at hs
      obtain ⟨base, hb, rfl⟩ := Option.map_eq_some_iff.mp hs.2
      exact .raised hb
  | leave p =>
      simp only [step, Option.ite_none_right_eq_some] at hs
      obtain ⟨base, hb, rfl⟩ := Option.map_eq_some_iff.mp hs.2
      exact .left hb
  | setHeartbeatState p state | report p stats =>
      simp only [step, Option.ite_none_right_eq_some, Bool.and_eq_true, Option.some.injEq] at hs
      obtain ⟨⟨hloop, -⟩, rfl⟩ := hs
      exact .works (.inl hloop) rfl
  | select p =>
      simp only [step, Option.ite_none_right_eq_some, Bool.and_eq_true, Bool.or_eq_true, Option.some.injEq] at hs
      obtain ⟨⟨hloop | hwriting, -⟩, rfl⟩ := hs
      · exact .works (.inl hloop) rfl
      · exact .selects hwriting
  | persistCurrent p now stored =>
      simp only [step] at hs
      split at hs
      · rename_i selected hsession
        simp only [Option.ite_none_right_eq_some, Option.some.injEq] at hs
        obtain ⟨hloop, rfl⟩ := hs
        refine .writes (.inl hloop) (by rw [persist_procs]; rfl) fun hstored => ?_
        subst hstored
        exact hsession
      · cases hs
  | startSupervisor p =>
      simp only [step, Option.ite_none_right_eq_some, Bool.and_eq_true] at hs
      obtain ⟨⟨hloop, -⟩, hs⟩ := hs
      split at hs
      · obtain rfl := Option.some.inj hs
        exact .works (.inl hloop) rfl
      · cases hs
  | tick p now =>
      simp only [step] at hs
      split at hs
      · rename_i hwaiting
        obtain rfl := Option.some.inj hs
        exact .works (.inr (by simp [Act.actor, hwaiting])) rfl
      · cases hs
  | tickSelect p =>
      simp only [step] at hs
      split at hs
      · rename_i hwriting
        obtain rfl := Option.some.inj hs
        exact .works (.inr (by simp [Act.actor, hwriting])) rfl
      · rename_i hdetached
        obtain rfl := Option.some.inj hs
        exact .works (.inr (by simp [Act.actor, hdetached])) rfl
      · cases hs
  | ticked p stored =>
      simp only [step] at hs
      split at hs
      · rename_i hwriting
        obtain rfl := Option.some.inj hs
        refine .writes (.inr (by simp [Act.actor, hwriting])) (by rw [persist_procs]; rfl) fun hstored => ?_
        simp [committed, hstored, hwriting]
      · rename_i hdetached
        obtain rfl := Option.some.inj hs
        refine .writes (.inr (by simp [Act.actor, hdetached])) (by rw [persist_procs]; rfl) fun hstored => ?_
        simp [committed, hstored, hdetached]
      · cases hs
  | stopSupervisor p timedOut =>
      simp only [step] at hs
      split at hs
      · obtain ⟨u, hu, rfl⟩ := Option.map_eq_some_iff.mp hs
        obtain ⟨supervisor, rfl, hstop⟩ := stop_turns hu
        exact .stopRaised ‹_› hstop
      · obtain ⟨u, hu, rfl⟩ := Option.map_eq_some_iff.mp hs
        obtain ⟨supervisor, rfl, hstop⟩ := stop_turns hu
        exact .stopFinishing ‹_› ‹_› hstop
      · cases hs
  | persistError p now stored =>
      simp only [step] at hs
      split at hs
      · obtain rfl := Option.some.inj hs
        exact .persistError ‹_› ‹_›
      · cases hs
  | persistStopped p now stored =>
      simp only [step] at hs
      split at hs
      · obtain rfl := Option.some.inj hs
        exact .persistStopped ‹_› ‹_›
      · cases hs
  | release p unlocked =>
      simp only [step] at hs
      split at hs
      · obtain ⟨base, hb, rfl⟩ := Option.map_eq_some_iff.mp hs
        exact .released ‹_› hb
      · cases hs
  | die p =>
      obtain ⟨base, hb, rfl⟩ := Option.map_eq_some_iff.mp hs
      exact .died hb

theorem step_frame (h : Turns C s a t) (hne : q ≠ a.actor) : Frame C s t q := by
  have hbase : ∀ {b : Singleton.Act P} {base : Singleton.Sys P},
      Singleton.step C.toFleet s.base b = some base → q ≠ b.actor → Frame C s { s with base } q :=
    fun hb hne => ⟨(frame_base hb hne).1, rfl, rfl, rfl, (frame_base hb hne).2⟩
  cases h with
  | boot _ hb | acquired hb => exact hbase hb hne
  | refused hb | left hb | released _ hb | died hb => exact frame_proc hne (hbase hb hne)
  | raised hb =>
      obtain ⟨hphase, hlock⟩ := frame_base hb hne
      refine frame_proc hne ⟨hphase, rfl, ?_, rfl, hlock⟩
      simp only
      split
      · exact Function.update_of_ne hne ..
      · rfl
  | works | selects => exact frame_proc hne frame_refl
  | writes => exact frame_proc hne (frame_persist hne)
  | persistError | persistStopped => exact frame_proc hne (frame_proc hne (frame_persist hne))
  | stopRaised | stopFinishing => exact frame_proc hne (frame_proc hne frame_refl)

def Active (s : Sys P) (p : P) : Prop :=
  looping s p = true ∨ (s.procs p).supervisor ≠ .absent ∨ (s.procs p).exit ≠ .none

/-- What a step writes is one heartbeat of the process that takes it, over the row of its name. -/
structure Written (C : Crew P) (s : Sys P) (a : Act P) (t : Sys P) (w : Write P) (selected : Selected) : Prop where
  active : Active s a.actor
  writer : w.writer = a.actor
  held : w.held = holdsLock C s a.actor
  committed : committed s a = some selected
  row : commitStatus (C.workerName a.actor) selected (s.rows (C.workerName a.actor)) w.heartbeat = some w.row
  rows : t.rows = Function.update s.rows (C.workerName a.actor) (some w.row)
  writes : t.writes = w :: s.writes

theorem turns_written (h : Turns C s a t) :
    t.rows = s.rows ∧ t.writes = s.writes ∨ ∃ w selected, Written C s a t w selected := by
  have hpersist : ∀ {u : Sys P} {selected : Selected} {h : Heartbeat} {stored : Bool}, Active s a.actor →
      (stored = true → committed s a = some selected) →
      u.rows = (persistWorkerHeartbeat C s a.actor selected h stored).rows →
      u.writes = (persistWorkerHeartbeat C s a.actor selected h stored).writes →
        u.rows = s.rows ∧ u.writes = s.writes ∨ ∃ w selected, Written C s a u w selected := by
    intro u selected h stored hactive hcommitted hrows hwrites
    rcases persist_cases C s a.actor selected h stored with hsame | ⟨row, hstored, hrow, hwritten⟩
    · exact .inl ⟨by rw [hrows, hsame], by rw [hwrites, hsame]⟩
    · refine .inr ⟨⟨a.actor, holdsLock C s a.actor, h, row⟩, selected, ?_⟩
      refine ⟨hactive, rfl, rfl, hcommitted hstored, hrow, ?_, ?_⟩
      · rw [hrows, hwritten]
      · rw [hwrites, hwritten]
  cases h with
  | boot | acquired | refused | raised | left | works | selects | stopRaised | stopFinishing | released | died =>
      exact .inl ⟨rfl, rfl⟩
  | writes hactive _ hcommitted => exact hpersist (hactive.imp_right .inl) hcommitted rfl rfl
  | persistError hexit hsession | persistStopped hexit hsession =>
      refine hpersist (.inr (.inr (by simp [Act.actor, hexit]))) (fun hstored => ?_) rfl rfl
      subst hstored
      exact hsession

def Leaving (exit : Exit) : Prop := exit ≠ .none ∧ exit ≠ .done

structure Stopped (s : Sys P) (p : P) : Prop where
  row : ∃ h, lastRow s p = some h ∧ h.report.status = "STOPPED" ∧ h.report.lastError = none
  phase : s.base.phase p = .stopping ∨ Past (s.base.phase p)
  supervisor : (s.procs p).supervisor = .absent

structure Sound (C : Crew P) (s : Sys P) (p : P) : Prop where
  locked : Holding (s.base.phase p) → s.base.locks (C.key p) = some p
  exiting : (s.procs p).exit ≠ .none → s.base.phase p = .stopping
  alive : (s.procs p).supervisor ≠ .absent →
    InLoop (s.base.phase p) ∨ (∃ error, (s.procs p).exit = .raised error) ∨ (s.procs p).exit = .finishing
  loaded : (s.procs p).exit = .stopping → ∀ selected, (s.procs p).session = some selected →
    selected = s.rows (C.workerName p)
  stopped : s.failed p ≠ none → Leaving (s.procs p).exit ∨ Stopped s p

theorem Sound.framed (hsound : Sound C s q) (h : Frame C s t q)
    (hrow : (s.procs q).exit = .stopping → t.rows (C.workerName q) = s.rows (C.workerName q)) : Sound C t q := by
  obtain ⟨hphase, hproc, hfailed, hlast, hlock⟩ := h
  constructor
  · rw [hphase]
    exact fun hholding => hlock (hsound.locked hholding)
  · rw [hphase, hproc]
    exact hsound.exiting
  · rw [hphase, hproc]
    exact hsound.alive
  · rw [hproc]
    exact fun hexit selected hsession => (hsound.loaded hexit selected hsession).trans (hrow hexit).symm
  · rw [hfailed, hproc]
    refine fun hfail => (hsound.stopped hfail).imp_right fun hstopped => ?_
    exact ⟨by rw [hlast]; exact hstopped.row, by rw [hphase]; exact hstopped.phase,
      by rw [hproc]; exact hstopped.supervisor⟩

theorem Sound.fresh (hsound : Sound C s p) (hphase : s.base.phase p ≠ .stopping ∧ ¬Past (s.base.phase p)) :
    (s.procs p).exit = .none ∧ s.failed p = none := by
  have hexit : (s.procs p).exit = .none := by
    by_contra hne
    exact hphase.1 (hsound.exiting hne)
  refine ⟨hexit, ?_⟩
  by_contra hfail
  rcases hsound.stopped hfail with hleaving | hstopped
  · exact hleaving.1 hexit
  · exact hstopped.phase.elim hphase.1 hphase.2

theorem loop_not_past {phase : Phase} (h : InLoop phase) : phase ≠ .stopping ∧ ¬Past phase := by
  rcases h with rfl | rfl <;> simp [Past]

omit [DecidableEq P] in
theorem looping_iff : looping s p = true ↔ InLoop (s.base.phase p) := by
  simp [looping, InLoop]

theorem createPid_moves {F : Fleet P} {b : Singleton.Sys P} {refused : Phase} (hrefused : ¬Holding refused) :
    (Singleton.createPid F b p refused).locks = b.locks ∧
      ¬Holding ((Singleton.createPid F b p refused).phase p) := by
  unfold Singleton.createPid
  split
  · exact ⟨rfl, by rwa [Singleton.enter_phase]⟩
  · exact ⟨rfl, by simp [Holding, InLoop]⟩

theorem boot_moves {a : Singleton.Act P} {F : Fleet P} {b b' : Singleton.Sys P} (hboot : isBoot a = true)
    (hs : Singleton.step F b a = some b') :
    (∃ p, a = .connectionEnds p ∧ b'.phase = b.phase) ∨
      b'.locks = b.locks ∧ (InLoop (b.phase a.actor) ∧ InLoop (b'.phase a.actor) ∨
        ¬Holding (b.phase a.actor) ∧ ¬Holding (b'.phase a.actor) ∧
          (Past (b.phase a.actor) → Past (b'.phase a.actor))) := by
  have hguard : ∀ {c : Prop} [Decidable c] {u : Singleton.Sys P}, (if c then some u else none) = some b' →
      c ∧ u = b' := by
    intro c _ u h
    simpa using h
  cases a with
  | acquire | leave | release | die => cases hboot
  | connectionEnds p =>
      obtain rfl := Option.some.inj hs
      exact .inl ⟨p, rfl, rfl⟩
  | start p | readPid p | unlinkPid p =>
      obtain ⟨hphase, rfl⟩ := hguard hs
      exact .inr ⟨rfl, .inr (by simp [Singleton.Act.actor, hphase, Holding, InLoop, Past])⟩
  | openPid p | reopenPid p =>
      obtain ⟨hphase, rfl⟩ := hguard hs
      refine .inr ⟨(createPid_moves ?_).1, .inr ⟨?_, (createPid_moves ?_).2, ?_⟩⟩
      · simp [Holding, InLoop]
      · simp [Singleton.Act.actor, hphase, Holding, InLoop]
      · simp [Holding, InLoop]
      · simp [Singleton.Act.actor, hphase, Past]
  | judge p running =>
      simp only [Singleton.step] at hs
      split at hs
      · rename_i existingPid hphase
        obtain rfl := Option.some.inj hs
        refine .inr ⟨rfl, .inr ?_⟩
        cases F.isTaken p existingPid running <;> simp [Singleton.Act.actor, hphase, Holding, InLoop, Past]
      · cases hs
  | writePid p =>
      obtain ⟨hphase, rfl⟩ := hguard hs
      refine .inr ⟨?_, .inr (by simp [Singleton.Act.actor, hphase, Holding, InLoop, Past])⟩
      unfold Singleton.writePayload
      split <;> rfl
  | beginCycle p | endCycle p =>
      obtain ⟨hphase, rfl⟩ := hguard hs
      exact .inr ⟨rfl, .inl (by simp [Singleton.Act.actor, hphase, InLoop])⟩
  | readOwnPid p =>
      obtain ⟨hphase, rfl⟩ := hguard hs
      refine .inr ⟨rfl, .inr ?_⟩
      cases F.ownsFile p (b.fileOf F p) <;> simp [Singleton.Act.actor, hphase, Holding, InLoop, Past]
  | removePid p =>
      obtain ⟨hphase, rfl⟩ := hguard hs
      exact .inr ⟨rfl, .inr (by simp [Singleton.Act.actor, hphase, Holding, InLoop, Past])⟩

theorem leave_moves {F : Fleet P} {b b' : Singleton.Sys P} (hphase : b.phase p ≠ .initializing)
    (hs : Singleton.step F b (.leave p) = some b') :
    InLoop (b.phase p) ∧ b'.phase p = .stopping ∧ b'.locks = b.locks := by
  simp only [Singleton.step, Option.ite_none_right_eq_some, Option.some.injEq, List.mem_cons, List.not_mem_nil,
    or_false] at hs
  obtain ⟨hmem, rfl⟩ := hs
  exact ⟨hmem.resolve_left hphase, Singleton.enter_phase, rfl⟩

theorem Sound.rebased {base : Singleton.Sys P} (hsound : Sound C s p)
    (hlocked : Holding (base.phase p) → base.locks (C.key p) = some p)
    (hstopping : s.base.phase p = .stopping → base.phase p = .stopping)
    (hloop : InLoop (s.base.phase p) → InLoop (base.phase p)) (hpast : Past (s.base.phase p) → Past (base.phase p)) :
    Sound C { s with base } p := by
  refine ⟨hlocked, fun hexit => hstopping (hsound.exiting hexit), fun halive => ?_, hsound.loaded, fun hfail => ?_⟩
  · exact (hsound.alive halive).imp_left hloop
  · refine (hsound.stopped hfail).imp_right fun hstopped => ?_
    exact ⟨hstopped.row, hstopped.phase.imp hstopping hpast, hstopped.supervisor⟩

theorem sound_boot {a : Singleton.Act P} {base : Singleton.Sys P} (hsound : Sound C s a.actor) (hboot : isBoot a = true)
    (hg : ∀ p, a = .connectionEnds p → ¬Holding (s.base.phase p))
    (hs : Singleton.step C.toFleet s.base a = some base) : Sound C { s with base } a.actor := by
  rcases boot_moves hboot hs with ⟨p, rfl, hphase⟩ | ⟨hlocks, ⟨hbefore, hafter⟩ | ⟨hbefore, hafter, hpast⟩⟩
  · refine hsound.rebased ?_ ?_ ?_ ?_
    · exact fun hholding => absurd (hphase ▸ hholding) (hg p rfl)
    all_goals rw [hphase]; exact id
  · refine hsound.rebased ?_ ?_ (fun _ => hafter) ?_
    · rw [hlocks]
      exact fun _ => hsound.locked (.inl hbefore)
    · exact fun hstop => absurd hstop (loop_not_past hbefore).1
    · exact fun hpast => absurd hpast (loop_not_past hbefore).2
  · refine hsound.rebased (fun hholding => absurd hholding hafter) ?_ ?_ hpast
    · exact fun hstop => absurd (.inr hstop) hbefore
    · exact fun hloop => absurd (.inl hloop) hbefore

theorem sound_active (hsound : Sound C s p) (hactive : looping s p = true ∨ (s.procs p).supervisor ≠ .absent)
    (hbase : t.base = s.base) (hexit : (t.procs p).exit = (s.procs p).exit) (hfailed : t.failed = s.failed) :
    Sound C t p := by
  have halive : InLoop (s.base.phase p) ∨ (∃ error, (s.procs p).exit = .raised error) ∨
      (s.procs p).exit = .finishing := hactive.elim (fun hloop => .inl (looping_iff.mp hloop)) hsound.alive
  have hleaving : s.failed p ≠ none → Leaving (s.procs p).exit := by
    intro hfail
    rcases halive with hloop | ⟨error, hraised⟩ | hfinishing
    · exact absurd (hsound.fresh (loop_not_past hloop)).2 hfail
    · rw [hraised]
      exact ⟨nofun, nofun⟩
    · rw [hfinishing]
      exact ⟨nofun, nofun⟩
  constructor
  · rw [hbase]
    exact hsound.locked
  · rw [hbase, hexit]
    exact hsound.exiting
  · rw [hbase, hexit]
    exact fun _ => halive
  · rw [hexit]
    intro hstopping
    rcases halive with hloop | ⟨error, hraised⟩ | hfinishing
    · exact absurd (hsound.exiting (by simp [hstopping])) (loop_not_past hloop).1
    · cases hstopping.symm.trans hraised
    · cases hstopping.symm.trans hfinishing
  · rw [hfailed, hexit]
    exact fun hfail => .inl (hleaving hfail)

theorem Sound.supervisor_absent (hsound : Sound C s p) (hstopping : s.base.phase p = .stopping)
    (hraised : ∀ error, (s.procs p).exit ≠ .raised error) (hfinishing : (s.procs p).exit ≠ .finishing) :
    (s.procs p).supervisor = .absent := by
  by_contra hne
  rcases hsound.alive hne with hloop | ⟨error, hexit⟩ | hexit
  · exact (loop_not_past hloop).1 hstopping
  · exact hraised error hexit
  · exact hfinishing hexit

theorem sound_raise {base : Singleton.Sys P} {error : String} (hsound : Sound C s p)
    (hphase : s.base.phase p ≠ .initializing) (hs : Singleton.step C.toFleet s.base (.leave p) = some base) :
    Sound C ({ s with base, failed := if holdsLock C s p then Function.update s.failed p (some error) else s.failed
      }.setExit p (.raised error)) p := by
  obtain ⟨hloop, hstopping, hlocks⟩ := leave_moves hphase hs
  have hlock := hsound.locked (.inl hloop)
  refine ⟨fun _ => hlocks ▸ hlock, fun _ => hstopping, fun _ => .inr (.inl ⟨error, ?_⟩), fun hexit => ?_,
    fun _ => .inl ?_⟩
  · simp [Sys.setExit]
  · simp [Sys.setExit] at hexit
  · rw [Sys.setExit, setProc_self]
    exact ⟨nofun, nofun⟩

theorem sound_leave {base : Singleton.Sys P} (hsound : Sound C s p) (hphase : s.base.phase p ≠ .initializing)
    (hs : Singleton.step C.toFleet s.base (.leave p) = some base) :
    Sound C ({ s with base }.setExit p .finishing) p := by
  obtain ⟨hloop, hstopping, hlocks⟩ := leave_moves hphase hs
  have hlock := hsound.locked (.inl hloop)
  refine ⟨fun _ => hlocks ▸ hlock, fun _ => hstopping, fun _ => .inr (.inr ?_), fun hexit => ?_, fun _ => .inl ?_⟩
  · simp [Sys.setExit]
  · simp [Sys.setExit] at hexit
  · rw [Sys.setExit, setProc_self]
    exact ⟨nofun, nofun⟩

theorem sound_acquire {base : Singleton.Sys P} (hsound : Sound C s p) (hfree : s.base.locks (C.key p) = none)
    (hs : Singleton.step C.toFleet s.base (.acquire p) = some base) :
    base.phase p = .running ∧ Sound C { s with base } p := by
  simp only [Singleton.step, Option.ite_none_right_eq_some, Option.some.injEq] at hs
  obtain ⟨hphase, rfl⟩ := hs
  have hnot : s.base.phase p ≠ .stopping ∧ ¬Past (s.base.phase p) := by simp [hphase, Past]
  have hrunning : (Singleton.acquire C.toFleet s.base p).phase p = .running := by
    rw [Singleton.acquire, if_pos hfree, Singleton.enter_phase]
  refine ⟨hrunning, hsound.rebased (fun _ => ?_) ?_ ?_ ?_⟩
  · rw [Singleton.acquire, if_pos hfree]
    simp
  · exact fun hstop => absurd hstop hnot.1
  · exact fun _ => .inl hrunning
  · exact fun hpast => absurd hpast hnot.2

theorem sound_exits (hsound : Sound C s p) (hstopping : s.base.phase p = .stopping) (hbase : t.base = s.base)
    (halive : (t.procs p).supervisor = .absent) (hleaving : Leaving (t.procs p).exit)
    (hloaded : (t.procs p).exit = .stopping → ∀ selected, (t.procs p).session = some selected →
      selected = t.rows (C.workerName p)) : Sound C t p := by
  refine ⟨?_, fun _ => ?_, fun hne => absurd halive hne, hloaded, fun _ => .inl hleaving⟩
  · rw [hbase]
    exact hsound.locked
  · rw [hbase]
    exact hstopping

theorem sound_selects (hsound : Sound C s p) (hwriting : (s.procs p).exit.isWriting = true) :
    Sound C (s.setSession p (some (s.rows (C.workerName p)))) p := by
  have hexit : (s.procs p).exit ≠ .none ∧ (s.procs p).exit ≠ .done ∧
      (∀ error, (s.procs p).exit ≠ .raised error) ∧ (s.procs p).exit ≠ .finishing := by
    cases h : (s.procs p).exit <;> simp [h, Exit.isWriting] at hwriting ⊢
  have hstopping := hsound.exiting hexit.1
  refine sound_exits hsound hstopping rfl ?_ ?_ fun _ selected hsession => ?_
  · rw [Sys.setSession, setProc_self]
    exact hsound.supervisor_absent hstopping hexit.2.2.1 hexit.2.2.2
  · rw [Sys.setSession, setProc_self]
    exact ⟨hexit.1, hexit.2.1⟩
  · rw [Sys.setSession, setProc_self] at hsession
    exact (Option.some.inj hsession).symm

theorem sound_persistStopped (hsound : Sound C s p) (hexit : (s.procs p).exit = .stopping)
    (hsession : (s.procs p).session = some selected) (hstored : s.failed p ≠ none → stored = true)
    (hstatus : h.report.status = "STOPPED" ∧ h.report.lastError = none) :
    Sound C (((persistWorkerHeartbeat C s p selected h stored).setSession p none).setExit p .done) p := by
  have hstopping : s.base.phase p = .stopping := hsound.exiting (by simp [hexit])
  have habsent : (s.procs p).supervisor = .absent :=
    hsound.supervisor_absent hstopping (by simp [hexit]) (by simp [hexit])
  have hsupervisor : (((persistWorkerHeartbeat C s p selected h stored).setSession p none).setExit p
      .done).procs p = { s.procs p with session := none, exit := .done } := by
    simp [Sys.setExit, Sys.setSession]
  constructor
  · change Holding ((persistWorkerHeartbeat C s p selected h stored).base.phase p) →
      (persistWorkerHeartbeat C s p selected h stored).base.locks (C.key p) = some p
    rw [persist_base]
    exact hsound.locked
  · intro _
    change (persistWorkerHeartbeat C s p selected h stored).base.phase p = .stopping
    rwa [persist_base]
  · rw [hsupervisor]
    exact fun hne => absurd habsent hne
  · rw [hsupervisor]
    nofun
  · intro hfail
    change (persistWorkerHeartbeat C s p selected h stored).failed p ≠ none at hfail
    rw [persist_failed] at hfail
    obtain rfl := hstored hfail
    obtain rfl := hsound.loaded hexit selected hsession
    refine .inr ⟨⟨h, lastRow_self, hstatus⟩, .inl ?_, ?_⟩
    · change (persistWorkerHeartbeat C s p (s.rows (C.workerName p)) h true).base.phase p = .stopping
      rwa [persist_base]
    · rw [hsupervisor]
      exact habsent

theorem sound_gone {base : Singleton.Sys P} {proc : Proc} (hsound : Sound C s p) (hpast : Past (base.phase p))
    (hleaving : s.failed p ≠ none → ¬Leaving (s.procs p).exit)
    (hproc : proc.exit = .none ∧ proc.supervisor = .absent) : Sound C ({ s with base }.setProc p proc) p := by
  have hnot : ¬Holding (base.phase p) := by
    rcases hpast with h | h | h <;> simp [h, Holding, InLoop]
  refine ⟨fun hholding => absurd hholding hnot, ?_, ?_, ?_, fun hfail => .inr ?_⟩
  · rw [setProc_self]
    exact fun hexit => absurd hproc.1 hexit
  · rw [setProc_self]
    exact fun halive => absurd hproc.2 halive
  · rw [setProc_self, hproc.1]
    exact fun hexit => absurd hexit (by decide)
  · have hstopped := (hsound.stopped hfail).resolve_left (hleaving hfail)
    exact ⟨hstopped.row, .inr hpast, by rw [setProc_self]; exact hproc.2⟩

theorem step_own (hsound : Sound C s a.actor) (hg : Orderly C s a) (h : Turns C s a t) : Sound C t a.actor := by
  cases h with
  | boot hboot hb => exact sound_boot hsound hboot (fun p hp => by subst hp; exact hg) hb
  | acquired hb => exact (sound_acquire hsound hg hb).2
  | @refused p base hb hphase =>
      rw [show base.phase p = _ from (sound_acquire hsound hg hb).1] at hphase
      cases hphase
  | raised hb => exact sound_raise hsound hg hb
  | left hb => exact sound_leave hsound hg hb
  | works hactive hexit =>
      refine sound_active hsound hactive rfl ?_ rfl
      rw [setProc_self, hexit]
  | writes hactive hexit =>
      refine sound_active hsound hactive persist_base ?_ persist_failed
      rw [setProc_self, hexit]
  | selects hexit => exact sound_selects hsound hexit
  | @stopRaised p _ error _ hexit hstop =>
      obtain rfl := hstop hg
      refine sound_exits hsound (hsound.exiting (by simp [Act.actor, hexit])) rfl ?_ ?_ ?_
      · simp [Act.actor, Sys.setExit, Sys.setSupervisor]
      · simp [Act.actor, Sys.setExit, Leaving]
      · simp [Act.actor, Sys.setExit]
  | stopFinishing hexit hsession hstop =>
      obtain rfl := hstop hg
      refine sound_exits hsound (hsound.exiting (by simp [Act.actor, hexit])) rfl ?_ ?_ ?_
      · simp [Act.actor, Sys.setExit, Sys.setSupervisor]
      · simp [Act.actor, Sys.setExit, Leaving]
      · simp [Act.actor, Sys.setExit, Sys.setSupervisor, hsession]
  | @persistError p _ _ error _ hexit hsession =>
      have hstopping : s.base.phase p = .stopping := hsound.exiting (by simp [Act.actor, hexit])
      refine sound_exits hsound hstopping persist_base ?_ ?_ ?_
      · simp only [Act.actor, Sys.setExit, Sys.setSession, setProc_self, persist_procs]
        exact hsound.supervisor_absent hstopping (by simp [Act.actor, hexit]) (by simp [Act.actor, hexit])
      · simp [Act.actor, Sys.setExit, Leaving]
      · simp [Act.actor, Sys.setExit]
  | persistStopped hexit hsession => exact sound_persistStopped hsound hexit hsession hg ⟨rfl, rfl⟩
  | @released p unlocked base hexit hb =>
      replace hsound : Sound C s p := hsound
      have hstopping : s.base.phase p = .stopping := hsound.exiting (by simp [hexit])
      have hclosed : base.phase p = .closed := by
        simp only [Singleton.step, hstopping, if_true, Option.some.injEq] at hb
        rw [← hb, Singleton.release]
        split <;> exact Singleton.enter_phase
      refine sound_gone hsound (.inl hclosed) (fun _ hleaving => hleaving.2 hexit) ⟨rfl, ?_⟩
      exact hsound.supervisor_absent hstopping (by simp [hexit]) (by simp [hexit])
  | @died p base hb =>
      have hended : base.phase p = .ended := by
        simp only [Singleton.step, Option.ite_none_left_eq_some, Option.some.injEq] at hb
        obtain ⟨-, rfl⟩ := hb
        exact Singleton.enter_phase
      exact sound_gone hsound (.inr (.inr hended)) (fun hfail hleaving => hleaving.1 (hg hfail)) ⟨rfl, rfl⟩

/-- Whoever writes a runtime row holds its lock. -/
theorem Sound.holds (hsound : Sound C s p) (h : Active s p) : s.base.locks (C.key p) = some p := by
  refine hsound.locked ?_
  rcases h with hloop | halive | hexit
  · exact .inl (looping_iff.mp hloop)
  · rcases hsound.alive halive with hloop | ⟨error, hexit⟩ | hexit
    · exact .inl hloop
    · exact .inr (hsound.exiting (by simp [hexit]))
    · exact .inr (hsound.exiting (by simp [hexit]))
  · exact .inr (hsound.exiting hexit)

theorem step_held (hsound : Sound C s a.actor) (h : Turns C s a t) :
    ∀ w ∈ t.writes, w ∈ s.writes ∨ w.held = true := by
  rcases turns_written h with ⟨-, hwrites⟩ | ⟨w, selected, hw⟩
  · rw [hwrites]
    exact fun _ => .inl
  · rw [hw.writes]
    rintro _ (_ | ⟨_, hmem⟩)
    · exact .inr (hw.held.trans (decide_eq_true (hsound.holds hw.active)))
    · exact .inl hmem

/-- No one writes the row of a name whose lock another process holds. -/
theorem step_rows (hsound : Sound C s a.actor) (h : Turns C s a t) (hne : q ≠ a.actor)
    (hlock : s.base.locks (C.key q) = some q) : t.rows (C.workerName q) = s.rows (C.workerName q) := by
  rcases turns_written h with ⟨hrows, -⟩ | ⟨w, selected, hw⟩
  · rw [hrows]
  · rw [hw.rows]
    refine Function.update_of_ne (fun hname => hne ?_) ..
    have hkey : C.key q = C.key a.actor := by rw [Singleton.Fleet.key, hname, ← Singleton.Fleet.key]
    exact Option.some.inj ((hkey ▸ hlock).symm.trans (hsound.holds hw.active))

structure Invariant (C : Crew P) (s : Sys P) : Prop where
  sound : ∀ p, Sound C s p
  held : ∀ w ∈ s.writes, w.held = true

theorem step_invariant (hi : Invariant C s) (hg : Orderly C s a) (hs : step C s a = some t) : Invariant C t := by
  have hturns := step_turns hs
  constructor
  · intro q
    by_cases hq : q = a.actor
    · subst hq
      exact step_own (hi.sound _) hg hturns
    · refine (hi.sound q).framed (step_frame hturns hq) fun hexit => ?_
      exact step_rows (hi.sound _) hturns hq ((hi.sound q).holds (.inr (.inr (by simp [hexit]))))
  · intro w hw
    exact (step_held (hi.sound _) hturns w hw).elim (hi.held w) id

variable {files : Nat → String → Option (Singleton.File P)} {rows : String → Option WorkerRuntimeStatus}

theorem start_sound : Sound C (start files rows) p :=
  ⟨fun hholding => by simp [start, Singleton.start, Holding, InLoop] at hholding, fun hexit => absurd rfl hexit,
    fun halive => absurd rfl halive, nofun, fun hfail => absurd rfl hfail⟩

theorem reach_invariant (h : Reach (step C) (Orderly C) (start files rows) s) : Invariant C s := by
  refine h.invariant ⟨fun _ => start_sound, ?_⟩ fun _ _ _ hi hg hs => step_invariant hi hg hs
  exact fun _ hw => absurd hw List.not_mem_nil

theorem Sound.overwritten (hsound : Sound C s p) (hfail : s.failed p ≠ none) (hpast : Past (s.base.phase p)) :
    ∃ h, lastRow s p = some h ∧ h.report.status = "STOPPED" ∧ h.report.lastError = none := by
  have hexit : (s.procs p).exit = .none := by
    by_contra hne
    rw [hsound.exiting hne] at hpast
    simp [Past] at hpast
  exact ((hsound.stopped hfail).resolve_left fun hleaving => hleaving.1 hexit).row

/-- In every run of orderly steps the runtime row of a name is only written by the holder of its lock,
and the row belongs to the holders exactly as long as none of them has ended by an exception: the last
row of one that has says STOPPED. -/
theorem runtime_rows_owned (h : Reach (step C) (Orderly C) (start files rows) s) :
    (∀ w ∈ s.writes, w.held = true) ∧
      (Owned s ↔ ∀ p, s.failed p ≠ none → ¬Past (s.base.phase p)) ∧
        ∀ p, s.failed p ≠ none → Past (s.base.phase p) →
          ∃ h, lastRow s p = some h ∧ h.report.status = "STOPPED" ∧ h.report.lastError = none := by
  have hi := reach_invariant h
  refine ⟨hi.held, ⟨fun howned p hfail hpast => ?_, fun hnone => ?_⟩, fun p => (hi.sound p).overwritten⟩
  · obtain ⟨error, herror⟩ := Option.ne_none_iff_exists'.mp hfail
    obtain ⟨h, hlast, hstatus, -⟩ := howned.reported p error herror hpast
    obtain ⟨h', hlast', hstatus', -⟩ := (hi.sound p).overwritten hfail hpast
    obtain rfl := Option.some.inj (hlast.symm.trans hlast')
    rw [hstatus] at hstatus'
    exact absurd hstatus' (by decide)
  · refine ⟨hi.held, fun p error hfail hpast => ?_⟩
    exact absurd hpast (hnone p (by simp [hfail]))

section Sample

open DarkMinter.Singleton (twoHosts noFiles)

def crew : Crew Bool :=
  { twoHosts with
    instanceId := fun p => if p then "b" else "a"
    hostname := fun _ => "worker"
    startedAt := fun _ => 0 }

def booting (p : Bool) : List (Act Bool) := [.boot (.start p), .boot (.openPid p), .boot (.writePid p)]

def isHolding (phase : Phase) : Bool := phase ∈ [.running, .cycling, .stopping]

theorem isHolding_iff {phase : Phase} : isHolding phase = true ↔ Holding phase := by
  simp [isHolding, Holding, InLoop, or_assoc]

instance (s : Sys Bool) : (a : Act Bool) → Decidable (Orderly crew s a)
  | .boot (.connectionEnds p) => decidable_of_iff (¬isHolding (s.base.phase p) = true) (not_congr isHolding_iff)
  | .acquire p => inferInstanceAs (Decidable (s.base.locks (crew.key p) = none))
  | .raise p _ | .leave p => inferInstanceAs (Decidable (s.base.phase p ≠ .initializing))
  | .stopSupervisor _ timedOut => inferInstanceAs (Decidable (timedOut = false))
  | .persistStopped p _ stored => inferInstanceAs (Decidable (s.failed p ≠ none → stored = true))
  | .die p => inferInstanceAs (Decidable (s.failed p ≠ none → (s.procs p).exit = .none))
  | .boot (.start _) | .boot (.openPid _) | .boot (.readPid _) | .boot (.judge _ _) | .boot (.unlinkPid _)
  | .boot (.reopenPid _) | .boot (.writePid _) | .boot (.acquire _) | .boot (.beginCycle _) | .boot (.endCycle _)
  | .boot (.leave _) | .boot (.release _ _) | .boot (.readOwnPid _) | .boot (.removePid _) | .boot (.die _)
  | .setHeartbeatState _ _ | .report _ _ | .select _ | .persistCurrent _ _ _ | .startSupervisor _ | .tick _ _
  | .tickSelect _ | .ticked _ _ | .persistError _ _ _ | .release _ _ => .isTrue trivial

def reporting (p : Bool) : List (Act Bool) := booting p ++ [.acquire p, .select p, .persistCurrent p 1 true]

def exiting (p : Bool) : List (Act Bool) :=
  [.stopSupervisor p false, .select p, .persistError p 2 true, .stopSupervisor p false, .select p,
    .persistStopped p 3 true, .release p true]

def taken : List (Act Bool) :=
  reporting false ++ booting true ++
    [.acquire true, .stopSupervisor true false, .select true, .persistError true 2 true]

def stopped : List (Act Bool) := booting false ++ [.acquire false, .raise false "timed out"] ++ exiting false

def fresh : Sys Bool := start noFiles fun _ => none

def reportOf (s : Sys Bool) : Option (String × String × Option String) :=
  (s.rows "chain-publisher").map fun row =>
    (row.heartbeat.report.instanceId, row.heartbeat.report.status, row.heartbeat.report.lastError)

theorem runtime_rows_owned_succession :
    (∃ s, Reach (step crew) (Orderly crew) fresh s ∧ reportOf s = some ("a", "STARTING", none) ∧ Owned s) ∧
      ∃ s, Reach (step crew) (Orderly crew) fresh s ∧ looping s true = true ∧ s.writes.length = 4 ∧
        (∀ w ∈ s.writes, w.held = true) ∧ ¬Owned s := by
  constructor
  · have hrun : ((guardedRun (step crew) (Orderly crew) (reporting false) fresh).map fun s =>
        (reportOf s, s.failed false, s.failed true)) = some (some ("a", "STARTING", none), none, none) := by
      decide +kernel
    obtain ⟨s, hs, hstate⟩ := Option.map_eq_some_iff.mp hrun
    obtain ⟨hreport, hstate⟩ := Prod.mk.inj hstate
    obtain ⟨hfalse, htrue⟩ := Prod.mk.inj hstate
    have hreach := guardedRun_reach hs
    refine ⟨s, hreach, hreport, (runtime_rows_owned hreach).2.1.mpr fun p hfail => ?_⟩
    cases p
    · exact absurd hfalse hfail
    · exact absurd htrue hfail
  · have hrun : ((guardedRun (step crew) (Orderly crew)
        (reporting false ++ [.raise false "timed out"] ++ exiting false ++ reporting true) fresh).map fun s =>
          (looping s true, s.writes.length, s.failed false, s.base.phase false)) =
            some (true, 4, some "timed out", .closed) := by decide +kernel
    obtain ⟨s, hs, hstate⟩ := Option.map_eq_some_iff.mp hrun
    obtain ⟨hloop, hstate⟩ := Prod.mk.inj hstate
    obtain ⟨hlength, hstate⟩ := Prod.mk.inj hstate
    obtain ⟨hfailed, hclosed⟩ := Prod.mk.inj hstate
    have howned := runtime_rows_owned (guardedRun_reach hs)
    refine ⟨s, guardedRun_reach hs, hloop, hlength, howned.1, fun h => ?_⟩
    exact howned.2.1.mp h false (by simp [hfailed]) (.inl hclosed)

/-- A worker on a second host overwrites the row of the healthy first one, and the exception with
which a worker ends is overwritten by the worker itself. -/
theorem row_overwritten :
    (∃ s, Reach (step crew) Free fresh s ∧ looping s false = true ∧ holdsLock crew s false = true ∧
        reportOf s = some ("b", "ERROR", some (alreadyHeld "chain-publisher")) ∧ ¬Owned s) ∧
      ∃ s, Reach (step crew) Free fresh s ∧ s.failed false = some "timed out" ∧ Past (s.base.phase false) ∧
        reportOf s = some ("a", "STOPPED", none) ∧ ¬Owned s := by
  constructor
  · have hrun : ((run (step crew) taken fresh).map fun s => (looping s false, holdsLock crew s false)) =
        some (true, true) := by decide +kernel
    have hrows : ((run (step crew) taken fresh).map fun s => (reportOf s, s.writes.map (·.held))) =
        some (some ("b", "ERROR", some (alreadyHeld "chain-publisher")), [false, true]) := by decide +kernel
    obtain ⟨s, hs, hstate⟩ := Option.map_eq_some_iff.mp hrun
    rw [hs] at hrows
    obtain ⟨hloop, hholds⟩ := Prod.mk.inj hstate
    obtain ⟨hreport, hheld⟩ := Prod.mk.inj (Option.some.inj hrows)
    refine ⟨s, run_reach hs, hloop, hholds, hreport, fun howned => ?_⟩
    obtain ⟨w, hw, hfalse⟩ := List.mem_map.mp (hheld ▸ List.mem_cons_self : false ∈ s.writes.map (·.held))
    rw [howned.held w hw] at hfalse
    cases hfalse
  · have hrun : ((run (step crew) stopped fresh).map fun s => (s.failed false, s.base.phase false)) =
        some (some "timed out", .closed) := by decide +kernel
    have hrows : ((run (step crew) stopped fresh).map fun s =>
        (reportOf s, (lastRow s false).map (·.report.status))) =
          some (some ("a", "STOPPED", none), some "STOPPED") := by decide +kernel
    obtain ⟨s, hs, hstate⟩ := Option.map_eq_some_iff.mp hrun
    rw [hs] at hrows
    obtain ⟨hfailed, hclosed⟩ := Prod.mk.inj hstate
    obtain ⟨hreport, hlast⟩ := Prod.mk.inj (Option.some.inj hrows)
    refine ⟨s, run_reach hs, hfailed, .inl hclosed, hreport, fun howned => ?_⟩
    obtain ⟨h, hh, herror, -⟩ := howned.reported false _ hfailed (.inl hclosed)
    rw [hh, Option.map_some, herror] at hlast
    exact absurd hlast (by decide)

end Sample

end DarkMinter.RuntimeRows
