import DarkMinter.Lib.Runs
import Mathlib.Data.List.Perm.Basic
import Mathlib.Data.List.Nodup

namespace DarkMinter.Lib.ThreadPool

open Runs

variable {κ α : Type*}

/-- A batch of jobs in a pool, each on the entry of its own key. A job that is done keeps the entry that
it found, until its caller collects it. -/
structure Pool (κ α : Type*) where
  waiting : List κ
  running : List κ := []
  finished : List (κ × α) := []
  collected : List (κ × α) := []
  stopped : Bool := false
  entries : κ → α

inductive Act (κ α : Type*)
  | start
  | finish (k : κ)
  | collect (k : κ)
  | touch (k : κ) (x : α)

structure Rules (κ α : Type*) where
  threads : Nat
  job : κ → α → α
  exclusive : κ → Bool
  fails : κ × α → Bool

def begin (keys : List κ) (entries : κ → α) : Pool κ α := { waiting := keys, entries }

variable [DecidableEq κ]

def step (R : Rules κ α) (s : Pool κ α) : Act κ α → Option (Pool κ α)
  | .start => match s.waiting with
    | [] => none
    | k :: waiting =>
        if s.running.length < R.threads then some { s with waiting, running := s.running ++ [k] } else none
  | .finish k =>
      if k ∈ s.running then
        some { s with
          running := s.running.erase k
          finished := s.finished ++ [(k, s.entries k)]
          entries := Function.update s.entries k (R.job k (s.entries k)) }
      else none
  | .collect k =>
      if s.stopped then none
      else (s.finished.find? fun e => e.1 = k).map fun e =>
        { s with
          finished := s.finished.eraseP fun e => e.1 = k
          collected := s.collected ++ [e]
          stopped := R.fails e }
  | .touch k x =>
      if k ∈ s.running ∧ R.exclusive k then none else some { s with entries := Function.update s.entries k x }

namespace Pool

def done (s : Pool κ α) : List (κ × α) := s.finished ++ s.collected

def keys (s : Pool κ α) : List κ := s.waiting ++ (s.running ++ s.done.map Prod.fst)

def Ended (s : Pool κ α) : Prop := s.waiting = [] ∧ s.running = [] ∧ (s.finished = [] ∨ s.stopped = true)

def left (s : Pool κ α) : Nat := 3 * s.waiting.length + 2 * s.running.length + s.finished.length

end Pool

variable {R : Rules κ α} {keys : List κ} {entries : κ → α} {s t : Pool κ α} {a : Act κ α} {k : κ} {x : α}

inductive Moves (R : Rules κ α) (s : Pool κ α) : Act κ α → Pool κ α → Prop
  | start {k : κ} {waiting : List κ} (hwaiting : s.waiting = k :: waiting) (hroom : s.running.length < R.threads) :
      Moves R s .start { s with waiting, running := s.running ++ [k] }
  | finish {k : κ} (hk : k ∈ s.running) :
      Moves R s (.finish k) { s with
        running := s.running.erase k
        finished := s.finished ++ [(k, s.entries k)]
        entries := Function.update s.entries k (R.job k (s.entries k)) }
  | collect {k : κ} {x : α} {finished : List (κ × α)} (hgoes : s.stopped = false)
      (hmem : s.finished.Perm ((k, x) :: finished)) :
      Moves R s (.collect k) { s with
        finished
        collected := s.collected ++ [(k, x)]
        stopped := R.fails (k, x) }
  | touch {k : κ} {x : α} (hfree : ¬(k ∈ s.running ∧ R.exclusive k)) :
      Moves R s (.touch k x) { s with entries := Function.update s.entries k x }

theorem find_perm {l : List (κ × α)} {e : κ × α} (h : l.find? (fun e => e.1 = k) = some e) :
    e.1 = k ∧ l.Perm (e :: l.eraseP fun e => e.1 = k) := by
  induction l with
  | nil => cases h
  | cons b l ih =>
      by_cases hb : b.1 = k
      · rw [List.find?_cons_of_pos (by simpa using hb), Option.some.injEq] at h
        subst h
        rw [List.eraseP_cons_of_pos (by simpa using hb)]
        exact ⟨hb, .refl _⟩
      · rw [List.find?_cons_of_neg (by simpa using hb)] at h
        obtain ⟨hk, hperm⟩ := ih h
        rw [List.eraseP_cons_of_neg (by simpa using hb)]
        exact ⟨hk, (hperm.cons b).trans (.swap ..)⟩

theorem step_moves (h : step R s a = some t) : Moves R s a t := by
  cases a with
  | start =>
      unfold step at h
      cases hwaiting : s.waiting with
      | nil => simp [hwaiting] at h
      | cons k waiting =>
          simp only [hwaiting, Option.ite_none_right_eq_some, Option.some.injEq] at h
          obtain ⟨hroom, rfl⟩ := h
          exact .start hwaiting hroom
  | finish k =>
      obtain ⟨hk, h⟩ := Option.ite_none_right_eq_some.mp h
      obtain rfl := Option.some.inj h
      exact .finish hk
  | collect k =>
      obtain ⟨hgoes, h⟩ := Option.ite_none_left_eq_some.mp h
      obtain ⟨e, hfind, rfl⟩ := Option.map_eq_some_iff.mp h
      obtain ⟨rfl, hperm⟩ := find_perm hfind
      exact .collect (by simpa using hgoes) hperm
  | touch k x =>
      obtain ⟨hfree, h⟩ := Option.ite_none_left_eq_some.mp h
      obtain rfl := Option.some.inj h
      exact .touch hfree

/-- No job is lost or done twice, and no more run at once than may. The caller stops with the first
failure that it collects. -/
structure Sound (R : Rules κ α) (keys : List κ) (s : Pool κ α) : Prop where
  perm : s.keys.Perm keys
  bounded : s.running.length ≤ R.threads
  stopped : s.stopped = true ↔ ∃ e ∈ s.collected, R.fails e = true

omit [DecidableEq κ] in
theorem sound_begin : Sound R keys (begin keys entries) := by
  constructor
  · simp [begin, Pool.keys, Pool.done]
  · exact Nat.zero_le _
  · simp [begin]

omit [DecidableEq κ] in
theorem collected_perm {finished rest collected : List (κ × α)} (h : finished.Perm ((k, x) :: rest)) :
    (rest ++ (collected ++ [(k, x)])).Perm (finished ++ collected) := by
  refine List.Perm.trans ?_ (h.symm.append_right collected)
  rw [← List.append_assoc]
  exact List.perm_append_singleton ..

theorem moves_keys (h : Moves R s a t) : t.keys.Perm s.keys := by
  cases h with
  | @start k waiting hwaiting _ =>
      have hrest : ((s.running ++ [k]) ++ s.done.map Prod.fst).Perm (k :: (s.running ++ s.done.map Prod.fst)) := by
        rw [List.append_assoc]
        exact List.perm_middle
      simp only [Pool.keys, hwaiting]
      exact (hrest.append_left waiting).trans List.perm_middle
  | @finish k hk =>
      apply List.Perm.append_left
      have hrun : (k :: s.running.erase k).Perm s.running := (List.perm_cons_erase hk).symm
      have hdone : ((s.finished ++ [(k, s.entries k)] ++ s.collected).map Prod.fst).Perm
          (k :: s.done.map Prod.fst) := by
        simp only [Pool.done, List.append_assoc, List.singleton_append]
        have hmiddle : (s.finished ++ (k, s.entries k) :: s.collected).Perm ((k, s.entries k) :: s.done) :=
          List.perm_middle
        exact hmiddle.map Prod.fst
      refine (hdone.append_left _).trans (List.perm_middle.trans ?_)
      exact hrun.append_right _
  | @collect k x finished _ hmem =>
      apply List.Perm.append_left
      apply List.Perm.append_left
      apply List.Perm.map
      exact collected_perm hmem
  | touch => exact .refl _

theorem moves_sound (hs : Sound R keys s) (h : Moves R s a t) : Sound R keys t := by
  refine ⟨(moves_keys h).trans hs.perm, ?_, ?_⟩
  · cases h with
    | start _ hroom =>
        simp only [List.length_append, List.length_singleton]
        omega
    | finish => exact Nat.le_trans List.length_erase_le hs.bounded
    | collect | touch => exact hs.bounded
  · cases h with
    | @collect k x _ hgoes _ =>
        have hbefore : ¬∃ e ∈ s.collected, R.fails e = true := by
          rw [← hs.stopped, hgoes]
          exact Bool.false_ne_true
        simp only [List.mem_append, List.mem_singleton]
        constructor
        · exact fun hfails => ⟨(k, x), .inr rfl, hfails⟩
        · rintro ⟨e, he | rfl, hfails⟩
          · exact absurd ⟨e, he, hfails⟩ hbefore
          · exact hfails
    | start | finish | touch => exact hs.stopped

theorem reach_sound {G : Pool κ α → Act κ α → Prop} (h : Reach (step R) G (begin keys entries) s) :
    Sound R keys s :=
  h.invariant sound_begin fun _ _ _ hs _ hstep => moves_sound hs (step_moves hstep)

def Quiet (keys : List κ) (_ : Pool κ α) : Act κ α → Prop
  | .touch k _ => k ∉ keys
  | _ => True

/-- Each job found the entry that was there in the beginning, and the entries of the other keys are
as they were. -/
structure Undisturbed (R : Rules κ α) (keys : List κ) (entries : κ → α) (s : Pool κ α) : Prop where
  found : ∀ e ∈ s.done, e.2 = entries e.1
  worked : ∀ k ∈ keys, k ∈ s.done.map Prod.fst → s.entries k = R.job k (entries k)
  untouched : ∀ k ∈ keys, k ∉ s.done.map Prod.fst → s.entries k = entries k

theorem moves_undisturbed (hnodup : keys.Nodup) (hs : Sound R keys s) (hu : Undisturbed R keys entries s)
    (hquiet : Quiet keys s a) (h : Moves R s a t) : Undisturbed R keys entries t := by
  cases h with
  | start => exact ⟨hu.found, hu.worked, hu.untouched⟩
  | @finish k hk =>
      have hdisjoint := (hs.perm.nodup_iff.mpr hnodup).of_append_right
      have hnew : k ∉ s.done.map Prod.fst := fun hdone => (List.disjoint_of_nodup_append hdisjoint) hk hdone
      have hmem : k ∈ keys := hs.perm.subset (by simp [Pool.keys, hk])
      have hdone : ∀ e, e ∈ s.finished ++ [(k, s.entries k)] ++ s.collected ↔ e ∈ s.done ∨ e = (k, s.entries k) := by
        intro e
        simp only [Pool.done, List.mem_append, List.mem_singleton]
        tauto
      have hkeys : ∀ j, j ∈ (s.finished ++ [(k, s.entries k)] ++ s.collected).map Prod.fst ↔
          j ∈ s.done.map Prod.fst ∨ j = k := by
        intro j
        simp only [List.mem_map, hdone, or_and_right, exists_or, exists_eq_left]
        rw [eq_comm (a := k)]
      have hentry := hu.untouched k hmem hnew
      constructor
      · intro e he
        rcases (hdone e).mp he with he | rfl
        · exact hu.found e he
        · exact hentry
      · intro j hj hmem
        by_cases hjk : j = k
        · subst hjk
          exact (Function.update_self ..).trans (congrArg _ hentry)
        · exact (Function.update_of_ne hjk ..).trans (hu.worked j hj (((hkeys j).mp hmem).resolve_right hjk))
      · intro j hj hnot
        obtain ⟨hnot, hjk⟩ := not_or.mp (mt (hkeys j).mpr hnot)
        exact (Function.update_of_ne hjk ..).trans (hu.untouched j hj hnot)
  | @collect k x finished _ hmem =>
      have hperm : (finished ++ (s.collected ++ [(k, x)])).Perm s.done := collected_perm hmem
      have hkeys : ∀ j, j ∈ (finished ++ (s.collected ++ [(k, x)])).map Prod.fst ↔ j ∈ s.done.map Prod.fst :=
        fun j => (hperm.map Prod.fst).mem_iff
      constructor
      · exact fun e he => hu.found e (hperm.mem_iff.mp he)
      · exact fun j hj hmem => hu.worked j hj ((hkeys j).mp hmem)
      · exact fun j hj hnot => hu.untouched j hj (mt (hkeys j).mpr hnot)
  | @touch k x _ =>
      have hne : ∀ j ∈ keys, j ≠ k := fun j hj hjk => hquiet (hjk ▸ hj)
      constructor
      · exact hu.found
      · intro j hj hmem
        exact (Function.update_of_ne (hne j hj) ..).trans (hu.worked j hj hmem)
      · intro j hj hnot
        exact (Function.update_of_ne (hne j hj) ..).trans (hu.untouched j hj hnot)

theorem reach_undisturbed (hnodup : keys.Nodup) (h : Reach (step R) (Quiet keys) (begin keys entries) s) :
    Undisturbed R keys entries s := by
  have hstart : Undisturbed R keys entries (begin keys entries) :=
    ⟨by simp [begin, Pool.done], by simp [begin, Pool.done], fun _ _ _ => rfl⟩
  have hboth : Sound R keys s ∧ Undisturbed R keys entries s := by
    refine h.invariant (I := fun s => Sound R keys s ∧ Undisturbed R keys entries s) ⟨sound_begin, hstart⟩ ?_
    intro s a t hi hquiet hstep
    have hmoves := step_moves hstep
    exact ⟨moves_sound hi.1 hmoves, moves_undisturbed hnodup hi.1 hi.2 hquiet hmoves⟩
  exact hboth.2

omit [DecidableEq κ] in
theorem ended_done (hs : Sound R keys s) (hend : s.Ended) : (s.done.map Prod.fst).Perm keys := by
  have hperm := hs.perm
  rw [Pool.keys, hend.1, hend.2.1] at hperm
  exact hperm

omit [DecidableEq κ] in
/-- Where the caller did not stop, it has collected every job. -/
theorem ended_collected (hs : Sound R keys s) (hend : s.Ended) (hgoes : s.stopped = false) :
    (s.collected.map Prod.fst).Perm keys := by
  have hperm := ended_done hs hend
  rw [Pool.done, hend.2.2.resolve_right (by simp [hgoes])] at hperm
  exact hperm

def own : Act κ α → Bool
  | .touch _ _ => false
  | _ => true

theorem reach_outside (h : Reach (step R) (fun _ a => own a = true) (begin keys entries) s) (hk : k ∉ keys) :
    s.entries k = entries k := by
  have hboth : Sound R keys s ∧ s.entries k = entries k := by
    refine h.invariant (I := fun s => Sound R keys s ∧ s.entries k = entries k) ⟨sound_begin, rfl⟩ ?_
    rintro s a t ⟨hs, hsame⟩ hown hstep
    have hmoves := step_moves hstep
    refine ⟨moves_sound hs hmoves, ?_⟩
    cases hmoves with
    | start | collect => exact hsame
    | @finish j hj =>
        have hjk : k ≠ j := fun hjk => hk (hs.perm.subset (by simp [Pool.keys, hjk, hj]))
        exact (Function.update_of_ne hjk ..).trans hsame
    | touch => cases hown
  exact hboth.2

theorem moves_left (h : Moves R s a t) : t.left + (own a).toNat = s.left := by
  cases h with
  | start hwaiting _ =>
      simp only [Pool.left, hwaiting, List.length_append, List.length_cons, List.length_nil, own, Bool.toNat_true]
      omega
  | @finish k hk =>
      have hlength := List.length_erase_of_mem hk
      have hpos := List.length_pos_of_mem hk
      simp only [Pool.left, hlength, List.length_append, List.length_cons, List.length_nil, own, Bool.toNat_true]
      omega
  | collect _ hmem => simp only [Pool.left, hmem.length_eq, List.length_cons, own, Bool.toNat_true]; omega
  | touch => rfl

theorem run_left {acts : List (Act κ α)} (h : run (step R) acts s = some t) :
    t.left + acts.countP own = s.left := by
  induction acts generalizing s with
  | nil =>
      obtain rfl := Option.some.inj h
      rfl
  | cons a acts ih =>
      obtain ⟨u, hu, hrest⟩ := Option.bind_eq_some_iff.mp h
      have hstep := moves_left (step_moves hu)
      have hrun := ih hrest
      cases hown : own a with
      | true =>
          rw [hown, Bool.toNat_true] at hstep
          rw [List.countP_cons_of_pos hown]
          omega
      | false =>
          rw [hown, Bool.toNat_false] at hstep
          rw [List.countP_cons_of_neg (by simp [hown])]
          omega

theorem own_step (hthreads : 0 < R.threads) (hend : ¬s.Ended) : ∃ a, own a = true ∧ (step R s a).isSome := by
  cases hrunning : s.running with
  | cons k running => exact ⟨.finish k, rfl, by simp [step, hrunning]⟩
  | nil =>
      cases hwaiting : s.waiting with
      | cons k waiting => exact ⟨.start, rfl, by simp [step, hwaiting, hrunning, hthreads]⟩
      | nil =>
          have hopen : s.finished ≠ [] ∧ ¬s.stopped = true :=
            not_or.mp fun h => hend ⟨hwaiting, hrunning, h⟩
          obtain ⟨e, finished, hfinished⟩ := List.exists_cons_of_ne_nil hopen.1
          exact ⟨.collect e.1, rfl, by simp [step, hopen.2, hfinished]⟩

end DarkMinter.Lib.ThreadPool
