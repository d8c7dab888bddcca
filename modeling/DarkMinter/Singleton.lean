import DarkMinter.Encoding
import DarkMinter.Lib.Runs
import DarkMinter.Text
import Mathlib.Logic.Function.Basic

namespace DarkMinter.Singleton

open Lib.Runs Encoding

/-- The worker processes ever started, a restarted one being another process, and what each of
them finds on its host. -/
structure Fleet (P : Type*) where
  host : P → Nat
  pid : P → Nat
  workerName : P → String
  dockerenv : Nat → Bool
  sha256 : String → Bytes
  pyInt : String → Option Int

inductive Phase
  | unstarted
  | opening
  | found
  | judging (existingPid : Option Int)
  | unlinking
  | reopening
  | writing
  | initializing
  | running
  | cycling
  | stopping
  | closed
  | removing
  | ended
  deriving DecidableEq

structure File (P : Type*) where
  creator : Option P
  text : String

structure Sys (P : Type*) where
  phase : P → Phase := fun _ => .unstarted
  db : P → Bool := fun _ => false
  files : Nat → String → Option (File P)
  locks : Nat → Option P := fun _ => none

inductive Act (P : Type*)
  | start (p : P)
  | openPid (p : P)
  | readPid (p : P)
  | judge (p : P) (running : Bool)
  | unlinkPid (p : P)
  | reopenPid (p : P)
  | writePid (p : P)
  | acquire (p : P)
  | beginCycle (p : P)
  | endCycle (p : P)
  | leave (p : P)
  | release (p : P) (unlocked : Bool)
  | readOwnPid (p : P)
  | removePid (p : P)
  | die (p : P)
  | connectionEnds (p : P)

def Act.actor {P : Type*} : Act P → P
  | .start p | .openPid p | .readPid p | .judge p _ | .unlinkPid p | .reopenPid p | .writePid p | .acquire p
  | .beginCycle p | .endCycle p | .leave p | .release p _ | .readOwnPid p | .removePid p | .die p
  | .connectionEnds p => p

variable {P : Type*} [DecidableEq P]

def pidFile (workerName : String) : String := "/tmp/dark-core-" ++ workerName ++ ".pid"

def fromBytes (b : Bytes) : Nat := b.foldl (fun n c => 256 * n + c.toNat) 0

def buildAdvisoryLockKey (sha256 : String → Bytes) (workerName : String) : Nat :=
  fromBytes ((sha256 workerName).take 8) &&& 0x7FFFFFFFFFFFFFFF

namespace Fleet

variable (F : Fleet P)

def key (p : P) : Nat := buildAdvisoryLockKey F.sha256 (F.workerName p)

def pidPayload (p : P) : String := toString (F.pid p) ++ "\n"

def readWorkerPid : Option (File P) → Option Int
  | none => none
  | some file => F.pyInt (Text.strip file.text)

/-- The pidfile names a running process that is not this one in a restarted container. -/
def isTaken (p : P) (existingPid : Option Int) (running : Bool) : Bool :=
  existingPid.any (· ≠ 0) && !(existingPid = some (F.pid p : Int) && F.dockerenv (F.host p)) && running

def ownsFile (p : P) (file : Option (File P)) : Bool :=
  file.any fun file => Text.strip file.text = toString (F.pid p)

end Fleet

namespace Sys

def enter (s : Sys P) (p : P) (phase : Phase) : Sys P :=
  { s with phase := Function.update s.phase p phase }

def fileOf (F : Fleet P) (s : Sys P) (p : P) : Option (File P) :=
  s.files (F.host p) (pidFile (F.workerName p))

def setFile (F : Fleet P) (s : Sys P) (p : P) (file : Option (File P)) : Sys P :=
  let directory := Function.update (s.files (F.host p)) (pidFile (F.workerName p)) file
  { s with files := Function.update s.files (F.host p) directory }

def setDb (s : Sys P) (p : P) (db : Bool) : Sys P := { s with db := Function.update s.db p db }

def unlock (s : Sys P) (key : Nat) (p : P) : Sys P :=
  if s.locks key = some p then { s with locks := Function.update s.locks key none } else s

/-- PostgreSQL frees the locks of a session whose connection is gone. -/
def disconnect (s : Sys P) (p : P) : Sys P :=
  { s with locks := fun key => if s.locks key = some p then none else s.locks key }

end Sys

def createPid (F : Fleet P) (s : Sys P) (p : P) (refused : Phase) : Sys P :=
  if (s.fileOf F p).isSome then s.enter p refused
  else (s.setFile F p (some ⟨some p, ""⟩)).enter p .writing

/-- The payload is written to the file that was opened, which may be unlinked by now. -/
def writePayload (F : Fleet P) (s : Sys P) (p : P) : Sys P :=
  if (s.fileOf F p).any (fun file => file.creator = some p) then
    s.setFile F p (some ⟨some p, F.pidPayload p⟩)
  else s

def acquire (F : Fleet P) (s : Sys P) (p : P) : Sys P :=
  if s.locks (F.key p) = none then
    (({ s with locks := Function.update s.locks (F.key p) (some p) }).setDb p true).enter p .running
  else s.enter p .stopping

def release (F : Fleet P) (s : Sys P) (p : P) (unlocked : Bool) : Sys P :=
  if s.db p && unlocked then ((s.unlock (F.key p) p).setDb p false).enter p .closed
  else (s.setDb p false).enter p .closed

def step (F : Fleet P) (s : Sys P) : Act P → Option (Sys P)
  | .start p => if s.phase p = .unstarted then some (s.enter p .opening) else none
  | .openPid p => if s.phase p = .opening then some (createPid F s p .found) else none
  | .readPid p =>
      if s.phase p = .found then some (s.enter p (.judging (F.readWorkerPid (s.fileOf F p)))) else none
  | .judge p running =>
      match s.phase p with
      | .judging existingPid => some (s.enter p (if F.isTaken p existingPid running then .ended else .unlinking))
      | _ => none
  | .unlinkPid p => if s.phase p = .unlinking then some ((s.setFile F p none).enter p .reopening) else none
  | .reopenPid p => if s.phase p = .reopening then some (createPid F s p .ended) else none
  | .writePid p => if s.phase p = .writing then some ((writePayload F s p).enter p .initializing) else none
  | .acquire p => if s.phase p = .initializing then some (acquire F s p) else none
  | .beginCycle p => if s.phase p = .running then some (s.enter p .cycling) else none
  | .endCycle p => if s.phase p = .cycling then some (s.enter p .running) else none
  | .leave p => if s.phase p ∈ [.initializing, .running, .cycling] then some (s.enter p .stopping) else none
  | .release p unlocked => if s.phase p = .stopping then some (release F s p unlocked) else none
  | .readOwnPid p =>
      if s.phase p = .closed then
        some (s.enter p (if F.ownsFile p (s.fileOf F p) then .removing else .ended))
      else none
  | .removePid p => if s.phase p = .removing then some ((s.setFile F p none).enter p .ended) else none
  | .die p => if s.phase p = .unstarted then none else some (s.enter p .ended)
  | .connectionEnds p => some (s.disconnect p)

def start (files : Nat → String → Option (File P)) : Sys P := { files := files }

variable {F : Fleet P} {s t : Sys P} {a : Act P} {p q : P}

def InLoop (phase : Phase) : Prop := phase = .running ∨ phase = .cycling

/-- No worker loses the connection of its lock while it is in its loop. -/
def Connected (s : Sys P) (a : Act P) : Prop := ∀ p, a = .connectionEnds p → ¬InLoop (s.phase p)

def Locked (F : Fleet P) (s : Sys P) : Prop := ∀ p, InLoop (s.phase p) → s.locks (F.key p) = some p

section Frames

variable {phase : Phase} {file : Option (File P)} {refused : Phase} {key : Nat} {unlocked : Bool}

@[simp] theorem enter_locks : (s.enter p phase).locks = s.locks := rfl

@[simp] theorem enter_phase : (s.enter p phase).phase p = phase := Function.update_self ..

theorem enter_other (h : q ≠ p) : (s.enter p phase).phase q = s.phase q := Function.update_of_ne h ..

omit [DecidableEq P] in
@[simp] theorem setFile_locks : (s.setFile F p file).locks = s.locks := rfl

omit [DecidableEq P] in
@[simp] theorem setFile_phase : (s.setFile F p file).phase = s.phase := rfl

@[simp] theorem setDb_locks {db : Bool} : (s.setDb p db).locks = s.locks := rfl

@[simp] theorem setDb_phase {db : Bool} : (s.setDb p db).phase = s.phase := rfl

@[simp] theorem unlock_phase : (s.unlock key p).phase = s.phase := by
  unfold Sys.unlock
  split <;> rfl

theorem unlock_other (hne : q ≠ p) (h : s.locks key = some q) {key' : Nat} :
    (s.unlock key' p).locks key = some q := by
  unfold Sys.unlock
  split
  · rename_i hheld
    have hkey : key ≠ key' := by
      rintro rfl
      exact hne (Option.some.inj (h.symm.trans hheld))
    rw [← h]
    exact Function.update_of_ne hkey ..
  · exact h

theorem disconnect_other (hne : q ≠ p) (h : s.locks key = some q) :
    (s.disconnect p).locks key = some q := by
  simp [Sys.disconnect, h, hne]

end Frames

structure Moves (F : Fleet P) (p : P) (s t : Sys P) : Prop where
  others : ∀ q, q ≠ p → t.phase q = s.phase q
  keeps : ∀ q key, q ≠ p → s.locks key = some q → t.locks key = some q
  loop : InLoop (t.phase p) → t.locks (F.key p) = some p ∨ InLoop (s.phase p) ∧ t.locks = s.locks

theorem moves_out {u : Sys P} {phase : Phase} (hphase : u.phase = s.phase)
    (hkeeps : ∀ q key, q ≠ p → s.locks key = some q → u.locks key = some q) (hout : ¬InLoop phase) :
    Moves F p s (u.enter p phase) := by
  constructor
  · intro q hne
    rw [enter_other hne, hphase]
  · exact hkeeps
  · intro hloop
    rw [enter_phase] at hloop
    exact absurd hloop hout

theorem moves_loop {phase : Phase} (hloop : InLoop (s.phase p)) : Moves F p s (s.enter p phase) :=
  ⟨fun _ hne => enter_other hne, fun _ _ _ h => h, fun _ => .inr ⟨hloop, rfl⟩⟩

theorem moves_createPid {refused : Phase} (hout : ¬InLoop refused) : Moves F p s (createPid F s p refused) := by
  unfold createPid
  split
  · exact moves_out rfl (fun _ _ _ h => h) hout
  · exact moves_out rfl (fun _ _ _ h => h) (by simp [InLoop])

theorem moves_write : Moves F p s ((writePayload F s p).enter p .initializing) := by
  unfold writePayload
  split
  · exact moves_out rfl (fun _ _ _ h => h) (by simp [InLoop])
  · exact moves_out rfl (fun _ _ _ h => h) (by simp [InLoop])

theorem moves_acquire : Moves F p s (acquire F s p) := by
  unfold acquire
  split
  · rename_i hfree
    constructor
    · intro q hne
      rw [enter_other hne, setDb_phase]
    · intro q key hne h
      have hkey : key ≠ F.key p := by
        rintro rfl
        simp [hfree] at h
      simp [Function.update_of_ne hkey, h]
    · intro _
      exact .inl (by simp)
  · exact moves_out rfl (fun _ _ _ h => h) (by simp [InLoop])

theorem moves_release {unlocked : Bool} : Moves F p s (release F s p unlocked) := by
  unfold release
  split
  · refine moves_out (by simp) (fun q key hne h => ?_) (by simp [InLoop])
    exact unlock_other hne h
  · exact moves_out rfl (fun _ _ _ h => h) (by simp [InLoop])

theorem step_moves (h : step F s a = some t) :
    (∃ p, a = .connectionEnds p ∧ t = s.disconnect p) ∨ Moves F a.actor s t := by
  have hguard : ∀ {c : Prop} [Decidable c] {u : Sys P}, (if c then some u else none) = some t → c ∧ u = t := by
    intro c _ u h
    simpa using h
  have hout : ∀ {p phase}, ¬InLoop phase → Moves F p s (s.enter p phase) := fun hphase =>
    moves_out rfl (fun _ _ _ h => h) hphase
  cases a with
  | connectionEnds p => exact .inl ⟨p, rfl, (Option.some.inj h).symm⟩
  | start p | readPid p | leave p =>
      obtain ⟨-, rfl⟩ := hguard h
      exact .inr (hout (by simp [InLoop]))
  | openPid p | reopenPid p =>
      obtain ⟨-, rfl⟩ := hguard h
      exact .inr (moves_createPid (by simp [InLoop]))
  | judge p running =>
      simp only [step] at h
      split at h
      · obtain rfl := Option.some.inj h
        refine .inr (hout ?_)
        split <;> simp [InLoop]
      · cases h
  | unlinkPid p | removePid p =>
      obtain ⟨-, rfl⟩ := hguard h
      exact .inr (moves_out rfl (fun _ _ _ h => h) (by simp [InLoop]))
  | writePid p =>
      obtain ⟨-, rfl⟩ := hguard h
      exact .inr moves_write
  | acquire p =>
      obtain ⟨-, rfl⟩ := hguard h
      exact .inr moves_acquire
  | beginCycle p =>
      obtain ⟨hrunning, rfl⟩ := hguard h
      exact .inr (moves_loop (.inl hrunning))
  | endCycle p =>
      obtain ⟨hcycling, rfl⟩ := hguard h
      exact .inr (moves_loop (.inr hcycling))
  | release p unlocked =>
      obtain ⟨-, rfl⟩ := hguard h
      exact .inr moves_release
  | readOwnPid p =>
      obtain ⟨-, rfl⟩ := hguard h
      refine .inr (hout ?_)
      split <;> simp [InLoop]
  | die p =>
      simp only [step, Option.ite_none_left_eq_some, Option.some.injEq] at h
      obtain ⟨-, rfl⟩ := h
      exact .inr (hout (by simp [InLoop]))

theorem locked_step (hi : Locked F s) (hg : Connected s a) (h : step F s a = some t) : Locked F t := by
  intro q hloop
  rcases step_moves h with ⟨p, rfl, rfl⟩ | hmoves
  · have hne : q ≠ p := by
      rintro rfl
      exact hg q rfl hloop
    exact disconnect_other hne (hi q hloop)
  · by_cases hq : q = a.actor
    · subst hq
      rcases hmoves.loop hloop with hlock | ⟨hbefore, hsame⟩
      · exact hlock
      · rw [hsame]
        exact hi _ hbefore
    · rw [hmoves.others q hq] at hloop
      exact hmoves.keeps q _ hq (hi q hloop)

theorem reach_locked {files : Nat → String → Option (File P)} (h : Reach (step F) Connected (start files) s) :
    Locked F s := by
  refine h.invariant ?_ fun _ _ _ hi hg hs => locked_step hi hg hs
  intro p hloop
  simp [start, InLoop] at hloop

/-- Two processes of one worker name are never in a cycle at once, as long as no worker loses the
connection of its lock in its loop. -/
theorem cycles_exclusive {files : Nat → String → Option (File P)}
    (h : Reach (step F) Connected (start files) s) (hname : F.workerName p = F.workerName q)
    (hp : s.phase p = .cycling) (hq : s.phase q = .cycling) : p = q := by
  have hlocked := reach_locked h
  have hkey : F.key p = F.key q := by
    unfold Fleet.key
    rw [hname]
  have hheld := hlocked p (.inr hp)
  rw [hkey] at hheld
  exact Option.some.inj (hheld.symm.trans (hlocked q (.inr hq)))

section Sample

def twoHosts : Fleet Bool where
  host p := if p then 1 else 0
  pid _ := 7
  workerName _ := "chain-publisher"
  dockerenv _ := true
  sha256 _ := [169, 191, 175, 126, 193, 131, 222, 118, 50, 220, 115, 130, 55, 69, 244, 144,
    137, 226, 214, 197, 25, 80, 30, 14, 59, 115, 158, 28, 141, 99, 120, 242]
  pyInt := canonicalInt

def noFiles (_ : Nat) (_ : String) : Option (File Bool) := none

def startup (p : Bool) : List (Act Bool) := [.start p, .openPid p, .writePid p, .acquire p, .beginCycle p]

/-- The second worker is refused, and the first one goes on. -/
theorem cycles_exclusive_sample :
    ∃ s, Reach (step twoHosts) Connected (start noFiles) s ∧ s.phase false = .cycling ∧ s.phase true = .stopping ∧
      ∀ q, s.phase q = .cycling → false = q := by
  have hrun : ((run (step twoHosts) (startup false ++ (startup true).take 4) (start noFiles)).map
      fun s => (s.phase false, s.phase true)) = some (.cycling, .stopping) := by decide +kernel
  obtain ⟨s, hs, hstate⟩ := Option.map_eq_some_iff.mp hrun
  obtain ⟨hcycling, hrefused⟩ := Prod.mk.inj hstate
  have hkept : ∀ a ∈ startup false ++ (startup true).take 4, ∀ p, a ≠ .connectionEnds p := by simp [startup]
  have hreach : Reach (step twoHosts) Connected (start noFiles) s :=
    (run_guarded (fun _ => True) hs trivial (fun _ a ha _ p h => absurd h (hkept a ha p))
      fun _ _ _ _ _ _ => trivial).1
  exact ⟨s, hreach, hcycling, hrefused, fun q hq => cycles_exclusive hreach rfl hcycling hq⟩

/-- A worker that has lost the connection of its lock goes on with its cycles. -/
theorem cycles_overlap :
    ∃ s, Reach (step twoHosts) Free (start noFiles) s ∧ s.phase false = .cycling ∧ s.phase true = .cycling := by
  have hrun : ((run (step twoHosts) (startup false ++ [.connectionEnds false] ++ startup true)
      (start noFiles)).map fun s => (s.phase false, s.phase true)) = some (.cycling, .cycling) := by decide +kernel
  obtain ⟨s, hs, hcycling⟩ := Option.map_eq_some_iff.mp hrun
  obtain ⟨hfalse, htrue⟩ := Prod.mk.inj hcycling
  exact ⟨s, run_reach hs, hfalse, htrue⟩

end Sample

end DarkMinter.Singleton
