import DarkMinter.ChainCycle
import DarkMinter.Requests
import DarkMinter.Retry
import DarkMinter.Replication
import DarkMinter.Lib.Runs

namespace DarkMinter.Deployment

open Text Processing Records Repository Authority ArkApi Retry Persistence Replication Publication
open ChainCycle Lib.Runs

/-- The settings that all processes share, and the authorities that each of
the processes serves. -/
structure Config where
  catalogue : ErrorCatalogue
  replication : ReplicationConfig
  assigned : Nat → String → Bool
  rpcBatchSize : Nat
  rpcBatchSize_pos : 0 < rpcBatchSize

inductive Mutation
  | put (identity : Identity) (request : UpdateARKMetadataRequest) (E : PutEnv)
  | delete (identity : Identity) (E : DeleteEnv)
  | retry (identity : Identity) (E : RetryEnv)
  | persist (E : PersistEnv)
  | reconcile (E : ReconcileEnv)
  | publish (E : PublishEnv)

inductive Op
  | reserve (row : Reservation)
  | mutation (m : Mutation)
  | unassigned (authorityId : String) (now : Time)
  | result (item : PipelineItem) (result : ARKPublishResult) (E : ResultEnv)

structure Call where
  authorityId : String
  operations : List ARKPublishOperation
  answer : Answer

structure StagedPut where
  authorityId : String
  request : UpdateARKMetadataRequest
  level1 : Except Raised Json

structure Control where
  phase : Nat → Phase := fun _ => .idle
  locks : ArkId → Option Nat := fun _ => none
  calls : List Call := []

/-- The database, the chain workers in it, and what happened so far: the calls
made, and for each ARK the payloads staged, the newest first. -/
structure Sys where
  cells : ArkId → Cell := fun _ => {}
  control : Control := {}
  puts : ArkId → List StagedPut := fun _ => []

/-- One step. Those with a process number are steps of its chain cycle. -/
inductive Act
  | reserve (rows : List (ArkId × Reservation))
  | mutate (k : ArkId) (m : Mutation)
  | select (p : Nat) (now : Time) (page : List ArkId)
  | readMetadata (p : Nat)
  | plan (p : Nat)
  | markUnassigned (p : Nat) (now : Time)
  | submit (p : Nat) (answer : Answer)
  | acquire (p : Nat)
  | check (p : Nat)
  | finish (p : Nat) (E : ResultEnv)
  | stop (p : Nat)

def Act.proc : Act → Option Nat
  | .reserve _ | .mutate _ _ => none
  | .select p _ _ | .readMetadata p | .plan p | .markUnassigned p _ | .submit p _ | .acquire p
  | .check p | .finish p _ | .stop p => some p

def Control.set (ctl : Control) (p : Nat) (phase : Phase) : Control :=
  { ctl with phase := Function.update ctl.phase p phase }

def Control.lock (ctl : Control) (k : ArkId) (p : Nat) : Control :=
  { ctl with locks := Function.update ctl.locks k (some p) }

def Control.unlock (ctl : Control) (k : ArkId) : Control :=
  { ctl with locks := Function.update ctl.locks k none }

/-- An ARK whose holder goes is unlocked. -/
def Control.release (ctl : Control) (p : Nat) : Control :=
  match ctl.phase p with
  | .holding item _ _ _ => ctl.unlock item.ark
  | _ => ctl

@[simp] theorem Control.set_phase (ctl : Control) (p q : Nat) (phase : Phase) :
    (ctl.set p phase).phase q = if q = p then phase else ctl.phase q := by
  simp [Control.set, Function.update_apply]

@[simp] theorem Control.set_locks (ctl : Control) (p : Nat) (phase : Phase) :
    (ctl.set p phase).locks = ctl.locks := rfl

@[simp] theorem Control.set_calls (ctl : Control) (p : Nat) (phase : Phase) :
    (ctl.set p phase).calls = ctl.calls := rfl

@[simp] theorem Control.lock_phase (ctl : Control) (k : ArkId) (p : Nat) :
    (ctl.lock k p).phase = ctl.phase := rfl

@[simp] theorem Control.lock_calls (ctl : Control) (k : ArkId) (p : Nat) :
    (ctl.lock k p).calls = ctl.calls := rfl

@[simp] theorem Control.lock_locks (ctl : Control) (j k : ArkId) (p : Nat) :
    (ctl.lock k p).locks j = if j = k then some p else ctl.locks j := by
  simp [Control.lock, Function.update_apply]

@[simp] theorem Control.unlock_phase (ctl : Control) (k : ArkId) :
    (ctl.unlock k).phase = ctl.phase := rfl

@[simp] theorem Control.unlock_calls (ctl : Control) (k : ArkId) :
    (ctl.unlock k).calls = ctl.calls := rfl

@[simp] theorem Control.unlock_locks (ctl : Control) (j k : ArkId) :
    (ctl.unlock k).locks j = if j = k then none else ctl.locks j := by
  simp [Control.unlock, Function.update_apply]

@[simp] theorem Control.release_phase (ctl : Control) (p : Nat) :
    (ctl.release p).phase = ctl.phase := by
  unfold Control.release
  split <;> rfl

@[simp] theorem Control.release_calls (ctl : Control) (p : Nat) :
    (ctl.release p).calls = ctl.calls := by
  unfold Control.release
  split <;> rfl

variable [PyLower]

def Mutation.run (cfg : Config) (k : ArkId) : Mutation → Cell → Cell
  | .put identity request E, c => (ArkApi.put identity k request E c).2
  | .delete identity E, c => (ArkApi.delete identity k E c).2
  | .retry identity E, c => (retryFailedArk identity E c).2
  | .persist E, c => (Persistence.persist cfg.catalogue k E c).cell
  | .reconcile E, c => (Replication.reconcile cfg.catalogue cfg.replication k E c).cell
  | .publish E, c => (publishSingleArk cfg.catalogue k E c).cell

/-- An exception before the commit leaves the rows as they were. -/
def settle (outcome : Except Exc Cell) (c : Cell) : Cell :=
  match outcome with
  | .ok c' => c'
  | .error _ => c

def Op.run (cfg : Config) (k : ArkId) : Op → Cell → Cell
  | .reserve row, c => { c with record := some row.record }
  | .mutation m, c => m.run cfg k c
  | .unassigned authorityId now, c =>
      settle (Publication.markUnassigned cfg.catalogue k authorityId now c) c
  | .result item res E, c => settle ((settleResult cfg.catalogue item res E c).map (·.cell)) c

/-- What the step `a` does to the rows of `k`. -/
def opOf (s : Sys) (a : Act) (k : ArkId) : Option Op :=
  match a with
  | .reserve rows => (rows.find? fun row => row.1 = k).map fun row => .reserve row.2
  | .mutate j m => if j = k ∧ s.control.locks k = none then some (.mutation m) else none
  | .markUnassigned p now => match s.control.phase p with
    | .working (.fail item :: _) =>
        if item.ark = k ∧ s.control.locks k = none then some (.unassigned item.authorityId now)
        else none
    | _ => none
  | .finish p E => match s.control.phase p with
    | .holding item result _ _ => if item.ark = k then some (.result item result E) else none
    | _ => none
  | _ => none

/-- The steps that work on the rows of `k`, and what each does to them. -/
inductive Performs (s : Sys) (k : ArkId) : Act → Op → Prop
  | reserve {rows : List (ArkId × Reservation)} {row : ArkId × Reservation} (hrow : row ∈ rows) (hk : row.1 = k) :
      Performs s k (.reserve rows) (.reserve row.2)
  | mutate {m : Mutation} (hlock : s.control.locks k = none) : Performs s k (.mutate k m) (.mutation m)
  | markUnassigned {p : Nat} {now : Time} {item : PipelineItem} {tasks : List Task}
      (hphase : s.control.phase p = .working (.fail item :: tasks)) (hk : item.ark = k)
      (hlock : s.control.locks k = none) : Performs s k (.markUnassigned p now) (.unassigned item.authorityId now)
  | finish {p : Nat} {E : ResultEnv} {item : PipelineItem} {result : ARKPublishResult} {checked : Bool}
      {tasks : List Task} (hphase : s.control.phase p = .holding item result checked tasks) (hk : item.ark = k) :
      Performs s k (.finish p E) (.result item result E)

omit [PyLower] in
theorem opOf_performs {s : Sys} {a : Act} {k : ArkId} {op : Op} (h : opOf s a k = some op) : Performs s k a op := by
  cases a with
  | reserve rows =>
      obtain ⟨row, hrow, rfl⟩ := Option.map_eq_some_iff.mp h
      have hk := List.find?_some hrow
      exact .reserve (List.mem_of_find?_eq_some hrow) (of_decide_eq_true hk)
  | mutate j m =>
      simp only [opOf, Option.ite_none_right_eq_some, Option.some.injEq] at h
      obtain ⟨⟨rfl, hlock⟩, rfl⟩ := h
      exact .mutate hlock
  | markUnassigned p now =>
      simp only [opOf] at h
      split at h
      · simp only [Option.ite_none_right_eq_some, Option.some.injEq] at h
        obtain ⟨⟨hk, hlock⟩, rfl⟩ := h
        exact .markUnassigned ‹_› hk hlock
      · cases h
  | finish p E =>
      simp only [opOf] at h
      split at h
      · simp only [Option.ite_none_right_eq_some, Option.some.injEq] at h
        obtain ⟨hk, rfl⟩ := h
        exact .finish ‹_› hk
      · cases h
  | select | readMetadata | plan | submit | acquire | check | stop => cases h

def failsCycle (cfg : Config) (s : Sys) (k : ArkId) (op : Op) : Bool :=
  match op with
  | .unassigned authorityId now =>
      (Publication.markUnassigned cfg.catalogue k authorityId now (s.cells k)).isOk = false
  | .result item result E => (settleResult cfg.catalogue item result E (s.cells k)).isOk = false
  | _ => false

/-- The phases, locks and calls after a step, where it is enabled. -/
def control (cfg : Config) (s : Sys) : Act → Option Control
  | .reserve rows =>
      if (rows.map (·.1)).Nodup ∧ ∀ row ∈ rows, (s.cells row.1).record = none then some s.control
      else none
  | .mutate _ _ => some s.control
  | .select p now page => match s.control.phase p with
    | .idle =>
        if isPage now s.cells page then
          some (s.control.set p (.reading (selectedRows s.cells page) []))
        else none
    | _ => none
  | .readMetadata p => match s.control.phase p with
    | .reading ((k, r) :: rows) items =>
        some (s.control.set p (.reading rows (items ++ (itemOf k r (s.cells k)).toList)))
    | _ => none
  | .plan p => match s.control.phase p with
    | .reading [] items =>
        some (s.control.set p (.working (ChainCycle.plan (cfg.assigned p) cfg.rpcBatchSize items)))
    | _ => none
  | .markUnassigned p now => match s.control.phase p with
    | .working (.fail item :: tasks) =>
        if s.control.locks item.ark = none ∧
          failsCycle cfg s item.ark (.unassigned item.authorityId now) then
          some (s.control.set p .idle)
        else some (s.control.set p (.working tasks))
    | _ => none
  | .submit p answer => match s.control.phase p with
    | .working (.submit authorityId items :: tasks) =>
        let applied := items.map fun item => Task.apply item (resultFor answer item)
        some { s.control.set p (.working (applied ++ tasks)) with
          calls := ⟨authorityId, items.map (·.operation), answer⟩ :: s.control.calls }
    | _ => none
  | .acquire p => match s.control.phase p with
    | .working (.apply item result :: tasks) =>
        if s.control.locks item.ark = none then
          some ((s.control.lock item.ark p).set p (.holding item result false tasks))
        else some (s.control.set p (.working tasks))
    | _ => none
  | .check p => match s.control.phase p with
    | .holding item result false tasks =>
        if result.status = "confirmed" then none
        else if isCurrent item (s.cells item.ark) then
          some (s.control.set p (.holding item result true tasks))
        else some ((s.control.unlock item.ark).set p (.working tasks))
    | _ => none
  | .finish p E => match s.control.phase p with
    | .holding item result checked tasks =>
        if result.status = "confirmed" ∨ checked = true then
          if failsCycle cfg s item.ark (.result item result E) then
            some ((s.control.unlock item.ark).set p .idle)
          else some ((s.control.unlock item.ark).set p (.working tasks))
        else none
    | _ => none
  | .stop p => some ((s.control.release p).set p .idle)

def isPendingOf (A : String) (c : Cell) : Bool :=
  c.record.any fun r => r.authorityId = A && r.state ∈ [.draft, .update]

/-- The payload that the step `a` stages for `k`: a PUT of `A` was accepted
where the ARK is pending for `A` only after it. -/
def stagedBy (s : Sys) (a : Act) (k : ArkId) (c' : Cell) : Option StagedPut :=
  match a with
  | .mutate j (.put identity request E) =>
      if j = k ∧ isPendingOf identity.authorityId c' ∧
        ¬isPendingOf identity.authorityId (s.cells k) then
        some ⟨identity.authorityId, request, level1Json k request E⟩
      else none
  | _ => none

def cellsAfter (cfg : Config) (s : Sys) (a : Act) (k : ArkId) : Cell :=
  match opOf s a k with
  | some op => op.run cfg k (s.cells k)
  | none => s.cells k

def step (cfg : Config) (s : Sys) (a : Act) : Option Sys :=
  (control cfg s a).map fun ctl =>
    { cells := cellsAfter cfg s a
      control := ctl
      puts := fun k => (stagedBy s a k (cellsAfter cfg s a k)).toList ++ s.puts k }

variable {cfg : Config} {s t : Sys} {a : Act} {k : ArkId} {p q : Nat}

theorem step_eq (h : step cfg s a = some t) :
    control cfg s a = some t.control ∧ t.cells = cellsAfter cfg s a ∧
      t.puts = fun k => (stagedBy s a k (t.cells k)).toList ++ s.puts k := by
  obtain ⟨ctl, hctl, rfl⟩ := Option.map_eq_some_iff.mp h
  exact ⟨hctl, rfl, rfl⟩

theorem step_cells (h : step cfg s a = some t) (k : ArkId) :
    opOf s a k = none ∧ t.cells k = s.cells k ∨
      ∃ op, opOf s a k = some op ∧ t.cells k = op.run cfg k (s.cells k) := by
  rw [(step_eq h).2.1]
  unfold cellsAfter
  cases hop : opOf s a k with
  | none => exact .inl ⟨rfl, rfl⟩
  | some op => exact .inr ⟨op, rfl, rfl⟩

/-- What a step can do to the phases, the locks and the calls. -/
inductive Moves (cfg : Config) (s : Sys) : Act → Control → Prop
  | reserve {rows : List (ArkId × Reservation)} (hnodup : (rows.map (·.1)).Nodup)
      (hfresh : ∀ row ∈ rows, (s.cells row.1).record = none) : Moves cfg s (.reserve rows) s.control
  | mutate {k : ArkId} {m : Mutation} : Moves cfg s (.mutate k m) s.control
  | select {p : Nat} {now : Time} {page : List ArkId} (h : s.control.phase p = .idle)
      (hpage : isPage now s.cells page = true) :
      Moves cfg s (.select p now page) (s.control.set p (.reading (selectedRows s.cells page) []))
  | readMetadata {p : Nat} {k : ArkId} {r : ARKRecord} {rows : List (ArkId × ARKRecord)}
      {items : List PipelineItem} (h : s.control.phase p = .reading ((k, r) :: rows) items) :
      Moves cfg s (.readMetadata p)
        (s.control.set p (.reading rows (items ++ (itemOf k r (s.cells k)).toList)))
  | plan {p : Nat} {items : List PipelineItem} (h : s.control.phase p = .reading [] items) :
      Moves cfg s (.plan p)
        (s.control.set p (.working (ChainCycle.plan (cfg.assigned p) cfg.rpcBatchSize items)))
  | markFailed {p : Nat} {now : Time} {item : PipelineItem} {tasks : List Task}
      (h : s.control.phase p = .working (.fail item :: tasks)) :
      Moves cfg s (.markUnassigned p now) (s.control.set p .idle)
  | marked {p : Nat} {now : Time} {item : PipelineItem} {tasks : List Task}
      (h : s.control.phase p = .working (.fail item :: tasks)) :
      Moves cfg s (.markUnassigned p now) (s.control.set p (.working tasks))
  | submit {p : Nat} {answer : Answer} {authorityId : String} {items : List PipelineItem}
      {tasks : List Task} (h : s.control.phase p = .working (.submit authorityId items :: tasks)) :
      Moves cfg s (.submit p answer)
        { s.control.set p (.working
            ((items.map fun item => Task.apply item (resultFor answer item)) ++ tasks)) with
          calls := ⟨authorityId, items.map (·.operation), answer⟩ :: s.control.calls }
  | acquire {p : Nat} {item : PipelineItem} {result : ARKPublishResult} {tasks : List Task}
      (h : s.control.phase p = .working (.apply item result :: tasks))
      (hlock : s.control.locks item.ark = none) :
      Moves cfg s (.acquire p) ((s.control.lock item.ark p).set p (.holding item result false tasks))
  | busy {p : Nat} {item : PipelineItem} {result : ARKPublishResult} {tasks : List Task}
      (h : s.control.phase p = .working (.apply item result :: tasks)) :
      Moves cfg s (.acquire p) (s.control.set p (.working tasks))
  | checked {p : Nat} {item : PipelineItem} {result : ARKPublishResult} {tasks : List Task}
      (h : s.control.phase p = .holding item result false tasks)
      (hcurrent : isCurrent item (s.cells item.ark) = true) :
      Moves cfg s (.check p) (s.control.set p (.holding item result true tasks))
  | stale {p : Nat} {item : PipelineItem} {result : ARKPublishResult} {tasks : List Task}
      (h : s.control.phase p = .holding item result false tasks) :
      Moves cfg s (.check p) ((s.control.unlock item.ark).set p (.working tasks))
  | finish {p : Nat} {E : ResultEnv} {item : PipelineItem} {result : ARKPublishResult}
      {checked : Bool} {tasks : List Task} {phase : Phase}
      (h : s.control.phase p = .holding item result checked tasks)
      (hchecked : result.status = "confirmed" ∨ checked = true)
      (hphase : phase = .idle ∨ phase = .working tasks) :
      Moves cfg s (.finish p E) ((s.control.unlock item.ark).set p phase)
  | stop {p : Nat} : Moves cfg s (.stop p) ((s.control.release p).set p .idle)

theorem control_moves {ctl : Control} (h : control cfg s a = some ctl) : Moves cfg s a ctl := by
  cases a with
  | reserve rows =>
      simp only [control, Option.ite_none_right_eq_some, Option.some.injEq] at h
      obtain ⟨⟨hnodup, hfresh⟩, rfl⟩ := h
      exact .reserve hnodup hfresh
  | mutate k m =>
      obtain rfl := Option.some.inj h
      exact .mutate
  | select p now page =>
      simp only [control] at h
      split at h
      · simp only [Option.ite_none_right_eq_some, Option.some.injEq] at h
        obtain ⟨hpage, rfl⟩ := h
        exact .select ‹_› hpage
      · cases h
  | readMetadata p =>
      simp only [control] at h
      split at h
      · obtain rfl := Option.some.inj h
        exact .readMetadata ‹_›
      · cases h
  | plan p =>
      simp only [control] at h
      split at h
      · obtain rfl := Option.some.inj h
        exact .plan ‹_›
      · cases h
  | markUnassigned p now =>
      simp only [control] at h
      split at h
      · split at h
        · obtain rfl := Option.some.inj h
          exact .markFailed ‹_›
        · obtain rfl := Option.some.inj h
          exact .marked ‹_›
      · cases h
  | submit p answer =>
      simp only [control] at h
      split at h
      · obtain rfl := Option.some.inj h
        exact .submit ‹_›
      · cases h
  | acquire p =>
      simp only [control] at h
      split at h
      · split at h
        · obtain rfl := Option.some.inj h
          exact .acquire ‹_› ‹_›
        · obtain rfl := Option.some.inj h
          exact .busy ‹_›
      · cases h
  | check p =>
      simp only [control] at h
      split at h
      · split at h
        · cases h
        · split at h
          · obtain rfl := Option.some.inj h
            exact .checked ‹_› ‹_›
          · obtain rfl := Option.some.inj h
            exact .stale ‹_›
      · cases h
  | finish p E =>
      simp only [control] at h
      split at h
      · split at h
        · split at h
          · obtain rfl := Option.some.inj h
            exact .finish ‹_› ‹_› (.inl rfl)
          · obtain rfl := Option.some.inj h
            exact .finish ‹_› ‹_› (.inr rfl)
        · cases h
      · cases h
  | stop p =>
      obtain rfl := Option.some.inj h
      exact .stop

omit [PyLower] in
theorem Moves.phase_of_ne {ctl : Control} (h : Moves cfg s a ctl) (hq : a.proc ≠ some q) :
    ctl.phase q = s.control.phase q := by
  have hne : ∀ p, a.proc = some p → q ≠ p := by
    rintro p hp rfl
    exact hq hp
  cases h with
  | reserve | mutate => rfl
  | _ => simp [hne _ rfl]

omit [PyLower] in
theorem Moves.tasks {ctl : Control} {task : Task} (h : Moves cfg s a ctl)
    (hmem : task ∈ (ctl.phase q).tasks) :
    task ∈ (s.control.phase q).tasks ∨
      (∃ items, s.control.phase q = .reading [] items ∧
        task ∈ ChainCycle.plan (cfg.assigned q) cfg.rpcBatchSize items) ∨
      ∃ answer authorityId items tasks, a = .submit q answer ∧
        s.control.phase q = .working (.submit authorityId items :: tasks) ∧
        ∃ item ∈ items, task = .apply item (resultFor answer item) := by
  by_cases hq : a.proc = some q
  · cases h with
    | reserve | mutate => cases hq
    | plan hp =>
        obtain rfl := Option.some.inj hq
        simp only [Control.set_phase, if_true, Phase.tasks] at hmem
        exact .inr (.inl ⟨_, hp, hmem⟩)
    | submit hp =>
        obtain rfl := Option.some.inj hq
        simp only [Control.set_phase, if_true, Phase.tasks, List.mem_append, List.mem_map] at hmem
        rcases hmem with ⟨item, hitem, rfl⟩ | hmem
        · exact .inr (.inr ⟨_, _, _, _, rfl, hp, item, hitem, rfl⟩)
        · exact .inl (by simp [hp, Phase.tasks, hmem])
    | finish hp _ hnext =>
        obtain rfl := Option.some.inj hq
        rcases hnext with rfl | rfl
        · simp [Phase.tasks] at hmem
        · simp only [Control.set_phase, if_true, Phase.tasks] at hmem
          exact .inl (by simp [hp, Phase.tasks, hmem])
    | select | readMetadata | markFailed | stop =>
        obtain rfl := Option.some.inj hq
        simp [Phase.tasks] at hmem
    | marked hp | busy hp | stale hp =>
        obtain rfl := Option.some.inj hq
        simp only [Control.set_phase, if_true, Phase.tasks] at hmem
        exact .inl (by simp [hp, Phase.tasks, hmem])
    | acquire hp | checked hp =>
        obtain rfl := Option.some.inj hq
        simp only [Control.set_phase, if_true, Phase.tasks, List.mem_cons] at hmem
        exact .inl (by simpa [hp, Phase.tasks] using hmem)
  · rw [h.phase_of_ne hq] at hmem
    exact .inl hmem

omit [PyLower] in
theorem Moves.reading {ctl : Control} {rows : List (ArkId × ARKRecord)} {items : List PipelineItem}
    (h : Moves cfg s a ctl) (hphase : ctl.phase q = .reading rows items) :
    s.control.phase q = .reading rows items ∨
      (∃ now page, a = .select q now page ∧ isPage now s.cells page = true ∧
        rows = selectedRows s.cells page ∧ items = []) ∨
      ∃ k r read, a = .readMetadata q ∧ s.control.phase q = .reading ((k, r) :: rows) read ∧
        items = read ++ (itemOf k r (s.cells k)).toList := by
  by_cases hq : a.proc = some q
  · cases h with
    | reserve | mutate => cases hq
    | @select p now page hp hpage =>
        obtain rfl := Option.some.inj hq
        simp only [Control.set_phase, if_true, Phase.reading.injEq] at hphase
        obtain ⟨rfl, rfl⟩ := hphase
        exact .inr (.inl ⟨now, page, rfl, hpage, rfl, rfl⟩)
    | readMetadata hp =>
        obtain rfl := Option.some.inj hq
        simp only [Control.set_phase, if_true, Phase.reading.injEq] at hphase
        obtain ⟨rfl, rfl⟩ := hphase
        exact .inr (.inr ⟨_, _, _, rfl, hp, rfl⟩)
    | finish _ _ hnext =>
        obtain rfl := Option.some.inj hq
        rcases hnext with rfl | rfl <;> simp at hphase
    | _ =>
        obtain rfl := Option.some.inj hq
        simp at hphase
  · rw [h.phase_of_ne hq] at hphase
    exact .inl hphase

namespace Sample

/-- The default worker settings. Process 0 serves every authority, and no
other process serves any. -/
def config : Config where
  catalogue := seededCatalogue
  replication := .init 15 60 300 300 900 3600 120 900 1 2
  assigned p _ := p = 0
  rpcBatchSize := 50
  rpcBatchSize_pos := by decide

def ark : ArkId := ⟨"1", "a"⟩

omit [PyLower] in
theorem owner_stripped : strip "A" = "A" := by decide

omit [PyLower] in
theorem owner_nonempty : "A" ≠ "" := by decide

def owner : Identity := ⟨"A", owner_stripped, owner_nonempty⟩

def unread : Exc := ⟨.timeout, ""⟩

def noReads : OwnerReads := ⟨.error unread, .error unread, .error unread⟩

def ownReads : OwnerReads := ⟨.ok ⟨"w", true⟩, .ok ⟨"u", "c1", "w"⟩, .ok true⟩

def request : UpdateARKMetadataRequest := ⟨"A", "t", [], "m", "s", "text/xml"⟩

def putEnv : PutEnv where
  now := 1
  checkdigit := false
  fails _ := none
  arkExists := .error unread
  importArk := .error unread
  importAuthority := .error unread
  raced := none
  owner := noReads
  level1Metadata fields := .ok (.obj fields)

def cid1 : Cid := ⟨"c1", by decide⟩

def cid2 : Cid := ⟨"c2", by decide⟩

def storage : Storage where
  storeLevel2 _ _ _ := .ok cid2
  storeLevel1WithLevel2Reference _ _ := .ok cid1

def persistEnv : PersistEnv := { readyAt := 2, storage, storedAt := 2, failedAt := 2 }

def reconcileEnv : ReconcileEnv :=
  { readyAt := 3, assigned := fun _ => true, now := 3,
    statuses := .ok fun _ => some ⟨"pinned", 2, none⟩, storage, scheduledAt := 3, failedAt := 3 }

def resultEnv : ResultEnv :=
  { identity := noReads, chain := .error unread, failureIdentity := noReads, now := 9 }

def deleteEnv : DeleteEnv where
  now := 5
  checkdigit := false
  fails _ := none
  owner := noReads
  ownerAgain := ownReads

def confirmed : Answer := .ok [⟨ark, "confirmed", none⟩]

/-- One ARK, reserved, staged, stored and found available. -/
def toChain : List Act :=
  [.reserve [(ark, ⟨"A", none, 0⟩)], .mutate ark (.put owner request putEnv),
    .mutate ark (.persist persistEnv), .mutate ark (.reconcile reconcileEnv)]

def upToSubmit : List Act := toChain ++ [.select 0 4 [ark], .readMetadata 0, .plan 0]

end Sample

end DarkMinter.Deployment
