import DarkMinter.Lib.Runs
import DarkMinter.Lib.SessionLocks
import DarkMinter.Lib.Turns
import DarkMinter.Records
import DarkMinter.Singleton

namespace DarkMinter.ArkLocks

open Lib.Runs Lib.SessionLocks Lib.Turns Encoding Records

/-- `ark_lock_key`: the digest read as a signed big-endian number. -/
def arkLockKey (blake2b : String → Bytes) (ark : ArkId) : Int :=
  (BitVec.ofNat 64 (Singleton.fromBytes (blake2b ark.ark))).toInt

/-- The entries of `acquire_ark_lock` ever made, each the process that makes it and its ARK. -/
structure Fleet (P E : Type*) where
  engine : P → E
  ark : P → ArkId
  blake2b : String → Bytes

def Fleet.key {P E : Type*} (F : Fleet P E) (p : P) : Int := arkLockKey F.blake2b (F.ark p)

inductive Phase
  | unstarted
  | connected
  | answered
  | refused
  | holding
  | closing
  | unlocking
  | committing
  | invalidating
  | returning
  | ended
  deriving DecidableEq

structure Attempt (B : Type*) where
  phase : Phase := .unstarted
  backend : Option B := none
  acquired : Bool := false
  invalidated : Bool := false

inductive Place (P E : Type*)
  | fresh
  | idle (e : E)
  | lent (p : P)
  | other (e : E)
  | gone
  deriving DecidableEq

/-- The attempts, and the database backends: where their connections are, which of them run, their
session locks, what their open transactions wrote, and what was committed for each ARK. -/
structure Sys (P B E V : Type*) where
  attempt : P → Attempt B := fun _ => {}
  place : B → Place P E := fun _ => .fresh
  alive : B → Bool := fun _ => true
  locks : Table Int B := Table.empty
  pending : B → List (P × V) := fun _ => []
  log : List (P × V) := []

/-- What comes of a statement. A lost one may have been executed all the same. -/
inductive Reply
  | ok
  | error
  | lost (executed : Bool)
  deriving DecidableEq

def Reply.reaches : Reply → Bool
  | .ok | .error => true
  | .lost executed => executed

inductive Act (P B E V : Type*)
  | connect (p : P) (b : B)
  | connectFails (p : P)
  | tryLock (p : P) (reply : Reply)
  | commitLock (p : P) (reply : Reply)
  | write (p : P) (v : V) (reply : Reply)
  | commit (p : P) (reply : Reply)
  | rollback (p : P) (reply : Reply)
  | leave (p : P)
  | closeSession (p : P) (reply : Option Reply)
  | unlock (p : P) (reply : Reply)
  | commitUnlock (p : P) (reply : Reply)
  | invalidate (p : P)
  | closeConnection (p : P) (kept : Bool)
  | borrow (e : E) (b : B)
  | restore (e : E) (b : B) (kept : Bool)
  | discard (e : E) (b : B)
  | terminate (b : B)
  | crash (e : E)

variable {P B E V : Type*} [DecidableEq P] [DecidableEq B] [DecidableEq E]

namespace Sys

def set (s : Sys P B E V) (p : P) (x : Attempt B) : Sys P B E V :=
  { s with attempt := Function.update s.attempt p x }

def move (s : Sys P B E V) (b : B) (place : Place P E) : Sys P B E V :=
  { s with place := Function.update s.place b place }

def abort (s : Sys P B E V) (b : B) : Sys P B E V :=
  { s with pending := Function.update s.pending b [] }

def append (s : Sys P B E V) (b : B) (p : P) (v : V) : Sys P B E V :=
  { s with pending := Function.update s.pending b (s.pending b ++ [(p, v)]) }

def commit (s : Sys P B E V) (b : B) : Sys P B E V :=
  { s with pending := Function.update s.pending b [], log := s.log ++ s.pending b }

/-- What the pool of an engine hands out: an idle connection that answers the ping, or a new one. -/
def offers (s : Sys P B E V) (e : E) (b : B) : Bool :=
  s.place b = .fresh || s.place b = .idle e && s.alive b

def statement (s : Sys P B E V) (p : P) (reply : Reply) (b : B) (effect : Sys P B E V) (good : Attempt B)
    (bad : Phase) : Option (Sys P B E V) :=
  if reply.reaches && !s.alive b then none
  else match reply with
    | .ok => some (effect.set p good)
    | .error => some ((s.abort b).set p { s.attempt p with phase := bad })
    | .lost executed =>
        some ((if executed then effect else s).set p { s.attempt p with phase := bad, invalidated := true })

/-- A statement of the body, which the listeners reject once the connection is lost. -/
def bodyStatement (s : Sys P B E V) (p : P) (reply : Reply) (effect : B → Sys P B E V) :
    Option (Sys P B E V) :=
  let x := s.attempt p
  x.backend.bind fun b =>
    if x.phase ≠ .holding then none
    else if x.invalidated then some s
    else s.statement p reply b (effect b) x .holding

end Sys

def afterClose (x : Attempt B) : Phase :=
  if x.acquired && !x.invalidated then .unlocking else .returning

def placeEngine (F : Fleet P E) : Place P E → Option E
  | .idle e | .other e => some e
  | .lent p => some (F.engine p)
  | .fresh | .gone => none

/-- The process of an engine is gone, and with it the client end of all its connections. -/
def crash (F : Fleet P E) (s : Sys P B E V) (e : E) : Sys P B E V :=
  { s with
    attempt := fun p => if F.engine p = e then { phase := .ended } else s.attempt p
    place := fun b => if placeEngine F (s.place b) = some e then .gone else s.place b }

def terminate (s : Sys P B E V) (b : B) : Sys P B E V :=
  { s with
    alive := Function.update s.alive b false
    locks := s.locks.endSession b
    pending := Function.update s.pending b [] }

def step (F : Fleet P E) (s : Sys P B E V) : Act P B E V → Option (Sys P B E V)
  | .connect p b =>
      if (s.attempt p).phase = .unstarted ∧ s.offers (F.engine p) b then
        some ((s.move b (.lent p)).set p { phase := .connected, backend := some b })
      else none
  | .connectFails p =>
      if (s.attempt p).phase = .unstarted then some (s.set p { phase := .ended }) else none
  | .tryLock p reply =>
      (s.attempt p).backend.bind fun b =>
        if (s.attempt p).phase ≠ .connected then none
        else match s.locks.tryLock (F.key p) b with
          | some locks =>
              s.statement p reply b { s with locks := locks }
                { s.attempt p with phase := .answered, acquired := true } .closing
          | none => s.statement p reply b s { s.attempt p with phase := .answered } .closing
  | .commitLock p reply =>
      (s.attempt p).backend.bind fun b =>
        if (s.attempt p).phase ≠ .answered then none
        else
          let phase := if (s.attempt p).acquired then .holding else .refused
          s.statement p reply b s { s.attempt p with phase := phase } .closing
  | .write p v reply => s.bodyStatement p reply fun b => s.append b p v
  | .commit p reply => s.bodyStatement p reply fun b => s.commit b
  | .rollback p reply => s.bodyStatement p reply fun b => s.abort b
  | .leave p =>
      if (s.attempt p).phase ∈ [.holding, .refused] then some (s.set p { s.attempt p with phase := .closing })
      else none
  | .closeSession p reply =>
      (s.attempt p).backend.bind fun b =>
        let x := s.attempt p
        if x.phase ≠ .closing then none
        else match reply with
          | none =>
              if x.invalidated || (s.pending b).isEmpty then some (s.set p { x with phase := afterClose x })
              else none
          | some reply =>
              if x.invalidated then none
              else s.statement p reply b (s.abort b) { x with phase := afterClose x } .invalidating
  | .unlock p reply =>
      (s.attempt p).backend.bind fun b =>
        if (s.attempt p).phase ≠ .unlocking then none
        else match s.locks.unlock (F.key p) b with
          | some locks =>
              s.statement p reply b { s with locks := locks } { s.attempt p with phase := .committing } .invalidating
          | none => s.statement p reply b s { s.attempt p with phase := .invalidating } .invalidating
  | .commitUnlock p reply =>
      (s.attempt p).backend.bind fun b =>
        if (s.attempt p).phase ≠ .committing then none
        else s.statement p reply b s { s.attempt p with phase := .returning } .invalidating
  | .invalidate p =>
      if (s.attempt p).phase = .invalidating then
        some (s.set p { s.attempt p with phase := .returning, invalidated := true })
      else none
  | .closeConnection p kept =>
      (s.attempt p).backend.bind fun b =>
        if (s.attempt p).phase ≠ .returning then none
        else
          let place := if kept && !(s.attempt p).invalidated then .idle (F.engine p) else .gone
          some (((s.abort b).move b place).set p { phase := .ended })
  | .borrow e b => if s.offers e b then some (s.move b (.other e)) else none
  | .restore e b kept =>
      if s.place b = .other e then some (s.move b (if kept then .idle e else .gone)) else none
  | .discard e b => if s.place b = .idle e then some (s.move b .gone) else none
  | .terminate b => some (terminate s b)
  | .crash e => some (crash F s e)

def start : Sys P B E V := {}

def Phase.locked (phase : Phase) : Bool := phase ∈ [.answered, .holding, .closing, .unlocking]

/-- The attempt has the lock of its ARK, unless its connection is lost. -/
def Attempt.keeps (x : Attempt B) : Bool := x.acquired && x.phase.locked

def Attempt.discards (x : Attempt B) : Bool := x.invalidated || x.phase = .invalidating

def Attempt.early (x : Attempt B) : Bool := x.phase ∈ [.unstarted, .connected]

structure Attempt.Sane (x : Attempt B) : Prop where
  connected : x.phase = .connected → x.invalidated = false
  refused : x.phase ∈ [.connected, .refused] → x.acquired = false
  holding : x.phase ∈ [.holding, .unlocking] → x.acquired = true
  detached : x.backend = none ↔ x.phase = .unstarted ∨ x.phase = .ended

omit [DecidableEq B] in
theorem Attempt.Sane.attached {x : Attempt B} (h : x.Sane) (hopen : x.phase ∉ [.unstarted, .ended]) :
    ∃ b, x.backend = some b := by
  refine Option.ne_none_iff_exists'.mp fun hnone => hopen ?_
  simpa using h.detached.mp hnone

structure Attempt.Follows (x y : Attempt B) : Prop where
  backend : y.backend = x.backend
  keeps_back : y.keeps → x.keeps
  keeps : x.keeps → y.keeps ∨ y.discards
  discards : x.discards → y.discards
  early : y.early → x.early
  sane : y.Sane

variable {F : Fleet P E} {s t : Sys P B E V} {a : Act P B E V} {p q : P} {b c : B}

inductive Moves (F : Fleet P E) (s : Sys P B E V) : Sys P B E V → Prop
  | stays : Moves F s s
  | connects {p : P} {b : B} (hphase : (s.attempt p).phase = .unstarted) (hoffer : s.offers (F.engine p) b) :
      Moves F s ((s.move b (.lent p)).set p { phase := .connected, backend := some b })
  | refuses {p : P} (hphase : (s.attempt p).phase = .unstarted) : Moves F s (s.set p { phase := .ended })
  | goes {p : P} {b : B} {x : Attempt B} (hb : (s.attempt p).backend = some b)
      (hx : (s.attempt p).Follows x) : Moves F s (s.set p x)
  | aborts {p : P} {b : B} {x : Attempt B} (hb : (s.attempt p).backend = some b)
      (hx : (s.attempt p).Follows x) : Moves F s ((s.abort b).set p x)
  | locks {p : P} {b : B} {x : Attempt B} {locks : Table Int B} (hb : (s.attempt p).backend = some b)
      (hphase : (s.attempt p).phase = .connected) (halive : s.alive b)
      (hlocks : s.locks.tryLock (F.key p) b = some locks) (hbackend : x.backend = some b)
      (hkeeps : x.keeps ∨ x.discards) (hearly : x.early = false) (hsane : x.Sane) :
      Moves F s ({ s with locks := locks }.set p x)
  | unlocks {p : P} {b : B} {x : Attempt B} {locks : Table Int B} (hb : (s.attempt p).backend = some b)
      (hkeeps : (s.attempt p).keeps) (halive : s.alive b) (hlocks : s.locks.unlock (F.key p) b = some locks)
      (hbackend : x.backend = some b) (hgave : x.keeps = false) (hearly : x.early = false) (hsane : x.Sane) :
      Moves F s ({ s with locks := locks }.set p x)
  | writes {p : P} {b : B} {v : V} {x : Attempt B} (hb : (s.attempt p).backend = some b)
      (hphase : (s.attempt p).phase = .holding) (halive : s.alive b) (hx : (s.attempt p).Follows x) :
      Moves F s ((s.append b p v).set p x)
  | commits {p : P} {b : B} {x : Attempt B} (hb : (s.attempt p).backend = some b)
      (hphase : (s.attempt p).phase = .holding) (hvalid : (s.attempt p).invalidated = false) (halive : s.alive b)
      (hx : (s.attempt p).Follows x) : Moves F s ((s.commit b).set p x)
  | closes {p : P} {b : B} {place : Place P E} (hb : (s.attempt p).backend = some b)
      (hphase : (s.attempt p).phase = .returning)
      (hplace : place = .gone ∨ (s.attempt p).invalidated = false ∧ place = .idle (F.engine p)) :
      Moves F s (((s.abort b).move b place).set p { phase := .ended })
  | moves {b : B} {place : Place P E} (hgone : s.place b ≠ .gone) (hlent : ∀ p, s.place b ≠ .lent p)
      (hplace : ∀ p, place ≠ .lent p) : Moves F s (s.move b place)
  | terminates {b : B} : Moves F s (terminate s b)
  | crashes {e : E} : Moves F s (crash F s e)

section Inversion

variable {x : Attempt B} {phase : Phase} {invalidated : Bool}

omit [DecidableEq B] in
theorem follows (hsane : x.Sane) (hopen : x.phase ∉ [.unstarted, .ended])
    (hgoes : phase ∉ [.unstarted, .connected, .ended])
    (hlocked : x.phase.locked → phase.locked ∨ phase = .invalidating ∨ invalidated ∨ x.acquired = false)
    (hback : phase.locked → x.phase.locked ∨ x.acquired = false)
    (hdiscards : x.discards → invalidated ∨ phase = .invalidating)
    (hholding : phase ∈ [.holding, .unlocking] → x.acquired) (hrefused : phase = .refused → x.acquired = false) :
    x.Follows { x with phase := phase, invalidated := invalidated } := by
  simp only [List.mem_cons, List.not_mem_nil, or_false, not_or] at hopen hgoes
  constructor
  · rfl
  · intro h
    obtain ⟨hacquired, hphase⟩ := Bool.and_eq_true_iff.mp h
    rcases hback hphase with hphase | hfree
    · exact Bool.and_eq_true_iff.mpr ⟨hacquired, hphase⟩
    · simp [hfree] at hacquired
  · intro h
    obtain ⟨hacquired, hphase⟩ := Bool.and_eq_true_iff.mp h
    rcases hlocked hphase with h | h | h | h
    · exact .inl (Bool.and_eq_true_iff.mpr ⟨hacquired, h⟩)
    · exact .inr (by simp [Attempt.discards, h])
    · exact .inr (by simp [Attempt.discards, h])
    · simp [h] at hacquired
  · intro h
    rcases hdiscards h with h | h <;> simp [Attempt.discards, h]
  · intro h
    simp [Attempt.early, hgoes.1, hgoes.2.1] at h
  · refine ⟨fun h => absurd h hgoes.2.1, fun h => hrefused ?_, hholding, ?_⟩
    · simpa [hgoes.2.1] using h
    · rw [hsane.detached]
      simp [hopen.1, hopen.2, hgoes.1, hgoes.2.2]

theorem statement_moves {reply : Reply} {effect : Sys P B E V} {good : Attempt B} {bad : Phase}
    (hb : (s.attempt p).backend = some b) (h : s.statement p reply b effect good bad = some t)
    (heffect : ∀ x, s.alive b → x = good ∨ x = { s.attempt p with phase := bad, invalidated := true } →
      Moves F s (effect.set p x))
    (hbad : ∀ lost, ((s.attempt p).invalidated → lost = true) →
      (s.attempt p).Follows { s.attempt p with phase := bad, invalidated := lost }) : Moves F s t := by
  unfold Sys.statement at h
  split at h
  · cases h
  · rename_i hreach
    have halive : reply.reaches → s.alive b := by
      intro hreaches
      simpa [hreaches] using hreach
    cases reply with
    | ok =>
        obtain rfl := Option.some.inj h
        exact heffect good (halive rfl) (.inl rfl)
    | error =>
        obtain rfl := Option.some.inj h
        exact .aborts hb (hbad _ id)
    | lost executed =>
        obtain rfl := Option.some.inj h
        cases executed with
        | false => exact .goes hb (hbad true fun _ => rfl)
        | true => exact heffect _ (halive rfl) (.inr rfl)

theorem bodyStatement_moves {reply : Reply} {effect : B → Sys P B E V} (hsane : (s.attempt p).Sane)
    (h : s.bodyStatement p reply effect = some t)
    (heffect : ∀ b x, (s.attempt p).backend = some b → (s.attempt p).phase = .holding →
      (s.attempt p).invalidated = false → s.alive b → (s.attempt p).Follows x → Moves F s ((effect b).set p x)) :
    Moves F s t := by
  obtain ⟨b, hb, h⟩ := Option.bind_eq_some_iff.mp h
  obtain ⟨hphase, h⟩ := Option.ite_none_left_eq_some.mp h
  rw [ne_eq, not_not] at hphase
  split at h
  · obtain rfl := Option.some.inj h
    exact .stays
  · rename_i hvalid
    have hlocked : (s.attempt p).phase.locked := by rw [hphase]; rfl
    have hfollows : ∀ lost, ((s.attempt p).invalidated → lost = true) →
        (s.attempt p).Follows { s.attempt p with phase := .holding, invalidated := lost } := by
      intro lost hlost
      refine follows hsane (by simp [hphase]) (by simp) (fun _ => .inl rfl) (fun _ => .inl hlocked) (fun h => ?_)
        (fun _ => hsane.holding (by simp [hphase])) (by simp)
      rw [Attempt.discards, hphase] at h
      exact .inl (hlost (by simpa using h))
    refine statement_moves hb h (fun x halive hx => ?_) hfollows
    refine heffect b x hb hphase (by simpa using hvalid) halive ?_
    rcases hx with rfl | rfl
    · have := hfollows _ id
      rwa [← hphase] at this
    · exact hfollows true fun _ => rfl

theorem tryLock_moves {reply : Reply} (hsane : (s.attempt p).Sane) (h : step F s (.tryLock p reply) = some t) :
    Moves F s t := by
  obtain ⟨b, hb, h⟩ := Option.bind_eq_some_iff.mp h
  obtain ⟨hphase, h⟩ := Option.ite_none_left_eq_some.mp h
  rw [ne_eq, not_not] at hphase
  have hacquired := hsane.refused (by simp [hphase])
  have hinvalidated := hsane.connected hphase
  have hfollows : ∀ phase lost, phase ∈ [.answered, .closing] →
      (s.attempt p).Follows { s.attempt p with phase := phase, invalidated := lost } := by
    intro phase lost hgoes
    refine follows hsane (by simp [hphase]) (fun h => ?_) (fun h => ?_) (fun _ => .inr hacquired) (fun h => ?_)
      (fun h => ?_) fun _ => hacquired
    · rcases (by simpa using hgoes) with rfl | rfl <;> simp at h
    · exact .inr (.inr (.inr hacquired))
    · simp [Attempt.discards, hinvalidated, hphase] at h
    · rcases (by simpa using hgoes) with rfl | rfl <;> simp at h
  split at h
  · rename_i locks hlocks
    refine statement_moves hb h (fun x halive hx => ?_) fun lost _ => hfollows .closing lost (by simp)
    rcases hx with rfl | rfl
    · refine .locks hb hphase halive hlocks hb (.inl rfl) rfl ⟨by simp, by simp, by simp, ?_⟩
      simpa [hphase] using hsane.detached
    · exact .locks hb hphase halive hlocks hb (.inr rfl) rfl (hfollows .closing true (by simp)).sane
  · refine statement_moves hb h (fun x _ hx => ?_) fun lost _ => hfollows .closing lost (by simp)
    rcases hx with rfl | rfl
    · exact .goes hb (hfollows .answered (s.attempt p).invalidated (by simp))
    · exact .goes hb (hfollows .closing true (by simp))

theorem commitLock_moves {reply : Reply} (hsane : (s.attempt p).Sane)
    (h : step F s (.commitLock p reply) = some t) : Moves F s t := by
  obtain ⟨b, hb, h⟩ := Option.bind_eq_some_iff.mp h
  obtain ⟨hphase, h⟩ := Option.ite_none_left_eq_some.mp h
  rw [ne_eq, not_not] at hphase
  have hlocked : (s.attempt p).phase.locked := by rw [hphase]; rfl
  have hclosing : ∀ lost, ((s.attempt p).invalidated → lost = true) →
      (s.attempt p).Follows { s.attempt p with phase := .closing, invalidated := lost } := by
    intro lost hlost
    refine follows hsane (by simp [hphase]) (by simp) (fun _ => .inl rfl) (fun _ => .inl hlocked) (fun h => ?_)
      (by simp) (by simp)
    rw [Attempt.discards, hphase] at h
    exact .inl (hlost (by simpa using h))
  refine statement_moves hb h (fun x _ hx => ?_) hclosing
  rcases hx with rfl | rfl
  · refine .goes hb (follows hsane (by simp [hphase]) ?_ (fun _ => ?_) (fun _ => .inl hlocked) (fun h => ?_)
      (fun h => ?_) fun h => ?_)
    · split <;> simp
    · cases hacquired : (s.attempt p).acquired with
      | false => exact .inr (.inr (.inr rfl))
      | true => exact .inl rfl
    · rw [Attempt.discards, hphase] at h
      exact .inl (by simpa using h)
    · cases hacquired : (s.attempt p).acquired with
      | false => simp [hacquired] at h
      | true => rfl
    · cases hacquired : (s.attempt p).acquired with
      | false => rfl
      | true => simp [hacquired] at h
  · exact .goes hb (hclosing true fun _ => rfl)

theorem closeSession_moves {reply : Option Reply} (hsane : (s.attempt p).Sane)
    (h : step F s (.closeSession p reply) = some t) : Moves F s t := by
  obtain ⟨b, hb, h⟩ := Option.bind_eq_some_iff.mp h
  obtain ⟨hphase, h⟩ := Option.ite_none_left_eq_some.mp h
  rw [ne_eq, not_not] at hphase
  have hlocked : (s.attempt p).phase.locked := by rw [hphase]; rfl
  have hclosed : (s.attempt p).Follows { s.attempt p with phase := afterClose (s.attempt p) } := by
    refine follows hsane (by simp [hphase]) ?_ (fun _ => ?_) (fun _ => .inl hlocked) (fun h => ?_) (fun h => ?_)
      fun h => ?_
    · unfold afterClose
      split <;> simp
    · unfold afterClose
      cases (s.attempt p).acquired <;> cases (s.attempt p).invalidated <;> simp [Phase.locked]
    · rw [Attempt.discards, hphase] at h
      exact .inl (by simpa using h)
    · unfold afterClose at h
      cases hacquired : (s.attempt p).acquired with
      | false => simp [hacquired] at h
      | true => rfl
    · unfold afterClose at h
      split at h <;> cases h
  split at h
  · obtain ⟨-, h⟩ := Option.ite_none_right_eq_some.mp h
    obtain rfl := Option.some.inj h
    exact .goes hb hclosed
  · obtain ⟨-, h⟩ := Option.ite_none_left_eq_some.mp h
    have hfailed : ∀ lost, (s.attempt p).Follows { s.attempt p with phase := .invalidating, invalidated := lost } :=
      fun lost => follows hsane (by simp [hphase]) (by simp) (fun _ => .inr (.inl rfl)) (fun _ => .inl hlocked)
        (fun _ => .inr rfl) (by simp) (by simp)
    refine statement_moves hb h (fun x _ hx => ?_) fun lost _ => hfailed lost
    rcases hx with rfl | rfl
    · exact .aborts hb hclosed
    · exact .aborts hb (hfailed true)

theorem unlock_moves {reply : Reply} (hsane : (s.attempt p).Sane) (h : step F s (.unlock p reply) = some t) :
    Moves F s t := by
  obtain ⟨b, hb, h⟩ := Option.bind_eq_some_iff.mp h
  obtain ⟨hphase, h⟩ := Option.ite_none_left_eq_some.mp h
  rw [ne_eq, not_not] at hphase
  have hlocked : (s.attempt p).phase.locked := by rw [hphase]; rfl
  have hfailed : ∀ lost, (s.attempt p).Follows { s.attempt p with phase := .invalidating, invalidated := lost } :=
    fun lost => follows hsane (by simp [hphase]) (by simp) (fun _ => .inr (.inl rfl)) (fun _ => .inl hlocked)
      (fun _ => .inr rfl) (by simp) (by simp)
  split at h
  · rename_i locks hlocks
    have hkeeps : (s.attempt p).keeps := Bool.and_eq_true_iff.mpr ⟨hsane.holding (by simp [hphase]), hlocked⟩
    refine statement_moves hb h (fun x halive hx => ?_) fun lost _ => hfailed lost
    rcases hx with rfl | rfl
    · refine .unlocks hb hkeeps halive hlocks hb (Bool.and_false _) rfl ⟨by simp, by simp, by simp, ?_⟩
      simpa [hphase] using hsane.detached
    · exact .unlocks hb hkeeps halive hlocks hb (Bool.and_false _) rfl (hfailed true).sane
  · refine statement_moves hb h (fun x _ hx => ?_) fun lost _ => hfailed lost
    rcases hx with rfl | rfl
    · exact .goes hb (hfailed (s.attempt p).invalidated)
    · exact .goes hb (hfailed true)

theorem commitUnlock_moves {reply : Reply} (hsane : (s.attempt p).Sane)
    (h : step F s (.commitUnlock p reply) = some t) : Moves F s t := by
  obtain ⟨b, hb, h⟩ := Option.bind_eq_some_iff.mp h
  obtain ⟨hphase, h⟩ := Option.ite_none_left_eq_some.mp h
  rw [ne_eq, not_not] at hphase
  have hout : (s.attempt p).phase.locked = false := by rw [hphase]; rfl
  have hfollows : ∀ phase lost, phase ∈ [.returning, .invalidating] → ((s.attempt p).invalidated → lost = true) →
      (s.attempt p).Follows { s.attempt p with phase := phase, invalidated := lost } := by
    intro phase lost hgoes hlost
    refine follows hsane (by simp [hphase]) (fun h => ?_) (fun h => ?_) (fun h => ?_) (fun h => ?_) (fun h => ?_)
      fun h => ?_
    · rcases (by simpa using hgoes) with rfl | rfl <;> simp at h
    · simp [hout] at h
    · rcases (by simpa using hgoes) with rfl | rfl <;> cases h
    · rw [Attempt.discards, hphase] at h
      exact .inl (hlost (by simpa using h))
    · rcases (by simpa using hgoes) with rfl | rfl <;> simp at h
    · rcases (by simpa using hgoes) with rfl | rfl <;> cases h
  refine statement_moves hb h (fun x _ hx => ?_) fun lost hlost => hfollows .invalidating lost (by simp) hlost
  rcases hx with rfl | rfl
  · exact .goes hb (hfollows .returning (s.attempt p).invalidated (by simp) id)
  · exact .goes hb (hfollows .invalidating true (by simp) fun _ => rfl)

omit [DecidableEq B] in
theorem leave_follows {x : Attempt B} (hsane : x.Sane) (hphase : x.phase ∈ [.holding, .refused]) :
    x.Follows { x with phase := .closing } := by
  have hcases : x.phase = .holding ∨ x.phase = .refused := by simpa using hphase
  refine follows hsane ?_ (by simp) (fun _ => .inl rfl) (fun _ => ?_) (fun h => ?_) (by simp) (by simp)
  · rcases hcases with h | h <;> simp [h]
  · rcases hcases with h | h
    · exact .inl (by rw [h]; rfl)
    · exact .inr (hsane.refused (by simp [h]))
  · rcases hcases with hphase | hphase <;> exact .inl (by simpa [Attempt.discards, hphase] using h)

omit [DecidableEq B] in
theorem offers_gone {e : E} (h : s.offers e b) : s.place b ≠ .gone := by
  intro hplace
  simp [Sys.offers, hplace] at h

omit [DecidableEq B] in
theorem offers_lent {e : E} (h : s.offers e b) (p : P) : s.place b ≠ .lent p := by
  intro hplace
  simp [Sys.offers, hplace] at h

theorem step_moves (hsane : ∀ p, (s.attempt p).Sane) (h : step F s a = some t) : Moves F s t := by
  cases a with
  | connect p b =>
      obtain ⟨⟨hphase, hoffer⟩, h⟩ := Option.ite_none_right_eq_some.mp h
      obtain rfl := Option.some.inj h
      exact .connects hphase hoffer
  | connectFails p =>
      obtain ⟨hphase, h⟩ := Option.ite_none_right_eq_some.mp h
      obtain rfl := Option.some.inj h
      exact .refuses hphase
  | tryLock p reply => exact tryLock_moves (hsane p) h
  | commitLock p reply => exact commitLock_moves (hsane p) h
  | write p v reply =>
      exact bodyStatement_moves (hsane p) h fun _ _ hb hphase _ halive hx =>
        .writes hb hphase halive hx
  | commit p reply =>
      exact bodyStatement_moves (hsane p) h fun _ _ hb hphase hvalid halive hx =>
        .commits hb hphase hvalid halive hx
  | rollback p reply =>
      exact bodyStatement_moves (hsane p) h fun _ _ hb _ _ _ hx => .aborts hb hx
  | leave p =>
      obtain ⟨hphase, h⟩ := Option.ite_none_right_eq_some.mp h
      obtain rfl := Option.some.inj h
      obtain ⟨b, hb⟩ := (hsane p).attached (by rcases (by simpa using hphase) with h | h <;> simp [h])
      exact .goes hb (leave_follows (hsane p) hphase)
  | closeSession p reply => exact closeSession_moves (hsane p) h
  | unlock p reply => exact unlock_moves (hsane p) h
  | commitUnlock p reply => exact commitUnlock_moves (hsane p) h
  | invalidate p =>
      obtain ⟨hphase, h⟩ := Option.ite_none_right_eq_some.mp h
      obtain rfl := Option.some.inj h
      obtain ⟨b, hb⟩ := (hsane p).attached (by simp [hphase])
      refine .goes hb (follows (hsane p) (by simp [hphase]) (by simp) (fun _ => .inr (.inr (.inl rfl))) ?_ ?_ ?_ ?_)
      · exact fun h => absurd h (by simp [Phase.locked])
      · exact fun _ => .inl rfl
      · exact fun h => absurd h (by simp)
      · exact fun h => absurd h (by simp)
  | closeConnection p kept =>
      obtain ⟨b, hb, h⟩ := Option.bind_eq_some_iff.mp h
      obtain ⟨hphase, h⟩ := Option.ite_none_left_eq_some.mp h
      obtain rfl := Option.some.inj h
      refine .closes hb (by simpa using hphase) ?_
      split
      · rename_i hkept
        simp only [Bool.and_eq_true, Bool.not_eq_true'] at hkept
        exact .inr ⟨hkept.2, rfl⟩
      · exact .inl rfl
  | borrow e b =>
      obtain ⟨hoffer, h⟩ := Option.ite_none_right_eq_some.mp h
      obtain rfl := Option.some.inj h
      exact .moves (offers_gone hoffer) (offers_lent hoffer) (by simp)
  | restore e b kept =>
      obtain ⟨hplace, h⟩ := Option.ite_none_right_eq_some.mp h
      obtain rfl := Option.some.inj h
      exact .moves (by simp [hplace]) (by simp [hplace]) (by split <;> simp)
  | discard e b =>
      obtain ⟨hplace, h⟩ := Option.ite_none_right_eq_some.mp h
      obtain rfl := Option.some.inj h
      exact .moves (by simp [hplace]) (by simp [hplace]) (by simp)
  | terminate b =>
      obtain rfl := Option.some.inj h
      exact .terminates
  | crash e =>
      obtain rfl := Option.some.inj h
      exact .crashes

end Inversion

end DarkMinter.ArkLocks
