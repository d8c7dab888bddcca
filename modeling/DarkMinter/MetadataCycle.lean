import DarkMinter.Lib.ThreadPool
import DarkMinter.Selection
import DarkMinter.StagedPayload

namespace DarkMinter.MetadataCycle

open Lib Lib.Runs Lib.ThreadPool Text Processing Records Repository Persistence Attempts
open PipelineInvariant StagedPayload

structure Settings where
  pageSize : Nat
  concurrency : Nat
  minConcurrency : Nat
  minConcurrency_pos : 1 ≤ minConcurrency
  minConcurrency_le : minConcurrency ≤ concurrency

def availabilityBacklogSize (table : List Cell) : Nat :=
  table.countP fun c =>
    c.record.any fun r => r.processingStage = .availability && r.processingStatus ∈ activeStatuses

def effectiveConcurrency (cfg : Settings) (table : List Cell) : Nat :=
  if 2000 < availabilityBacklogSize table then cfg.minConcurrency else cfg.concurrency

/-- The threads of a cycle. A request for none is one for all. -/
def threads (cfg : Settings) (effective : Option Nat) : Nat :=
  let own := max cfg.concurrency 1
  let requested := if effective.getD 0 = 0 then own else effective.getD 0
  max 1 (min requested own)

theorem effectiveConcurrency_bounds (cfg : Settings) (table : List Cell) :
    cfg.minConcurrency ≤ effectiveConcurrency cfg table ∧ effectiveConcurrency cfg table ≤ cfg.concurrency := by
  have hle := cfg.minConcurrency_le
  unfold effectiveConcurrency
  split <;> omega

theorem threads_effective (cfg : Settings) (table : List Cell) :
    threads cfg (some (effectiveConcurrency cfg table)) = effectiveConcurrency cfg table := by
  have hpos := cfg.minConcurrency_pos
  have hbounds := effectiveConcurrency_bounds cfg table
  have hne : effectiveConcurrency cfg table ≠ 0 := by omega
  simp only [threads, Option.getD_some, hne, if_false]
  omega

/-- Whether the lock of an ARK is free when its attempt begins, and the rest of the attempt. -/
structure CycleEnv where
  free : ArkId → Bool
  attempt : ArkId → PersistEnv

section

variable [PyLower]

def persistArk (catalogue : ErrorCatalogue) (E : CycleEnv) (k : ArkId) (c : Cell) : Attempt :=
  if E.free k then persist catalogue k (E.attempt k) c else { cell := c, result := .ok false }

def raises (a : Attempt) : Bool :=
  match a.result with
  | .ok _ => false
  | .error _ => true

def rules (catalogue : ErrorCatalogue) (cfg : Settings) (effective : Option Nat) (E : CycleEnv) : Rules ArkId Cell where
  threads := threads cfg effective
  job k c := (persistArk catalogue E k c).cell
  exclusive := E.free
  fails e := raises (persistArk catalogue E e.1 e.2)

def noted (stats : Stats) (a : Attempt) : Stats :=
  { stats with
    deferred := stats.deferred + a.stats.deferred
    permanentFailures := stats.permanentFailures + a.stats.permanentFailures }

def counted (stats : Stats) (result : Except Exc Bool) : Stats :=
  match result with
  | .ok true => { stats with processed := stats.processed + 1, succeeded := stats.succeeded + 1 }
  | .ok false => { stats with processed := stats.processed + 1, failed := stats.failed + 1 }
  | .error _ => { stats with processed := stats.processed + 1 }

structure Cycle where
  pool : Pool ArkId Cell
  stats : Stats
  raised : Option Exc := none

def begin (page : List ArkId) (cells : ArkId → Cell) (stats : Stats) : Cycle :=
  { pool := ThreadPool.begin page cells, stats }

def collected (catalogue : ErrorCatalogue) (E : CycleEnv) (s : Cycle) (e : ArkId × Cell) : Cycle :=
  let result := (persistArk catalogue E e.1 e.2).result
  { s with
    stats := counted s.stats result
    raised := match result with
      | .ok _ => s.raised
      | .error x => some x }

def step (catalogue : ErrorCatalogue) (cfg : Settings) (effective : Option Nat) (E : CycleEnv) (s : Cycle)
    (a : Act ArkId Cell) : Option Cycle :=
  (ThreadPool.step (rules catalogue cfg effective E) s.pool a).map fun pool =>
    match a with
    | .finish k => { s with pool, stats := noted s.stats (persistArk catalogue E k (s.pool.entries k)) }
    | .collect k => match s.pool.finished.find? fun e => e.1 = k with
      | some e => { collected catalogue E s e with pool }
      | none => { s with pool }
    | .start | .touch _ _ => { s with pool }

def lastRun (before after : Stats) : Stats where
  processed := after.processed - before.processed
  succeeded := after.succeeded - before.succeeded
  failed := after.failed - before.failed
  deferred := after.deferred - before.deferred

/-- The cycle without its pool: one attempt after the other. -/
def persistAll (catalogue : ErrorCatalogue) (E : CycleEnv) :
    List ArkId → (ArkId → Cell) → Stats → Except Exc ((ArkId → Cell) × Stats)
  | [], cells, stats => .ok (cells, stats)
  | k :: page, cells, stats => do
      let a := persistArk catalogue E k (cells k)
      let _ ← a.result
      persistAll catalogue E page (Function.update cells k a.cell) (counted (noted stats a) a.result)

variable {catalogue : ErrorCatalogue} {cfg : Settings} {effective : Option Nat} {E : CycleEnv} {s t : Cycle}
  {a : Act ArkId Cell} {page : List ArkId} {cells : ArkId → Cell} {stats : Stats} {k : ArkId} {c : Cell}

inductive CycleMoves (catalogue : ErrorCatalogue) (cfg : Settings) (effective : Option Nat) (E : CycleEnv) (s : Cycle) :
    Act ArkId Cell → Cycle → Prop
  | other {a : Act ArkId Cell} {pool : Pool ArkId Cell} (hpool : Moves (rules catalogue cfg effective E) s.pool a pool)
      (hfinished : pool.finished = s.pool.finished) (hcollected : pool.collected = s.pool.collected)
      (hstopped : pool.stopped = s.pool.stopped) : CycleMoves catalogue cfg effective E s a { s with pool }
  | finish {k : ArkId} {pool : Pool ArkId Cell}
      (hpool : Moves (rules catalogue cfg effective E) s.pool (.finish k) pool)
      (hfinished : pool.finished = s.pool.finished ++ [(k, s.pool.entries k)])
      (hcollected : pool.collected = s.pool.collected) (hstopped : pool.stopped = s.pool.stopped) :
      CycleMoves catalogue cfg effective E s (.finish k)
        { s with pool, stats := noted s.stats (persistArk catalogue E k (s.pool.entries k)) }
  | collect {k : ArkId} {e : ArkId × Cell} {pool : Pool ArkId Cell}
      (hpool : Moves (rules catalogue cfg effective E) s.pool (.collect k) pool) (hgoes : s.pool.stopped = false)
      (hmem : s.pool.finished.Perm (e :: pool.finished)) (hcollected : pool.collected = s.pool.collected ++ [e])
      (hstopped : pool.stopped = raises (persistArk catalogue E e.1 e.2)) :
      CycleMoves catalogue cfg effective E s (.collect k) { collected catalogue E s e with pool }

theorem cycle_moves (h : step catalogue cfg effective E s a = some t) : CycleMoves catalogue cfg effective E s a t := by
  obtain ⟨pool, hpool, rfl⟩ := Option.map_eq_some_iff.mp h
  have hmoves := step_moves hpool
  cases a with
  | start =>
      have hsame := hmoves
      cases hsame with
      | start => exact .other hmoves rfl rfl rfl
  | touch k x =>
      have hsame := hmoves
      cases hsame with
      | touch => exact .other hmoves rfl rfl rfl
  | finish k =>
      have hsame := hmoves
      cases hsame with
      | finish => exact .finish hmoves rfl rfl rfl
  | collect k =>
      obtain ⟨hgoes, hpool⟩ := Option.ite_none_left_eq_some.mp hpool
      obtain ⟨e, hfind, hpool⟩ := Option.map_eq_some_iff.mp hpool
      obtain ⟨-, hperm⟩ := find_perm hfind
      simp only [hfind]
      subst hpool
      exact .collect hmoves (by simpa using hgoes) hperm rfl rfl

def succeeds (a : Attempt) : Bool :=
  match a.result with
  | .ok succeeded => succeeded
  | .error _ => false

def declines (a : Attempt) : Bool :=
  match a.result with
  | .ok succeeded => !succeeded
  | .error _ => false

/-- What an attempt can come to: nothing to do, or not now; the payload is stored; a failure is noted for
another try, or as one of the payload; and the row of a failure does not take the note. -/
inductive Came (catalogue : ErrorCatalogue) (E : PersistEnv) (c : Cell) : Attempt → Prop
  | untouched : Came catalogue E c { cell := c, result := .ok false }
  | persisted {r : ARKRecord} {c' : Cell} (hr : c.record = some r) (hacc : persistAccepts E.readyAt r = true)
      (h : Persisted E r c c') : Came catalogue E c { cell := c', result := .ok true }
  | deferred {r : ARKRecord} {message : String} (hr : c.record = some r) (hacc : persistAccepts E.readyAt r = true) :
      Came catalogue E c {
        cell := { c with record := some (deferredRecord message .storageUnavailable 60 E.failedAt r) }
        stats := { deferred := 1 }
        result := .ok false }
  | marked {r : ARKRecord} {message : String} {permanent : Bool} (hr : c.record = some r)
      (hacc : persistAccepts E.readyAt r = true) :
      Came catalogue E c {
        cell := { c with record := some (failedRecord permanent message .storageInvalidResponse E.failedAt r) }
        stats := { permanentFailures := 1 }
        result := .ok false }
  | raised {x : Exc} : Came catalogue E c { cell := c, result := .error x }

theorem persist_came (catalogue : ErrorCatalogue) (E : PersistEnv) (k : ArkId) (c : Cell) :
    Came catalogue E c (persist catalogue k E c) := by
  unfold persist
  cases hr : c.record with
  | none => exact .untouched
  | some r =>
      by_cases hacc : persistAccepts E.readyAt r = true
      · simp only [hacc, if_true]
        cases hbody : persistBody E r c with
        | ok c' => exact .persisted hr hacc (persistBody_ok hbody)
        | error e =>
            simp only [persistFailure, deferProcessingRetry_some hr]
            split
            · exact .deferred hr hacc
            · split
              · obtain ⟨r', hr', -, hc⟩ := markProcessingFailed_ok ‹_›
                obtain rfl := Option.some.inj (hr.symm.trans hr')
                subst hc
                exact .marked hr hacc
              · exact .raised
      · simp only [hacc]
        exact .untouched

theorem persistArk_came (catalogue : ErrorCatalogue) (E : CycleEnv) (k : ArkId) (c : Cell) :
    Came catalogue (E.attempt k) c (persistArk catalogue E k c) := by
  unfold persistArk
  split
  · exact persist_came ..
  · exact .untouched

theorem persistArk_stats (catalogue : ErrorCatalogue) (E : CycleEnv) (k : ArkId) (c : Cell) :
    (if 0 < (persistArk catalogue E k c).stats.deferred then 1 else 0) = (persistArk catalogue E k c).stats.deferred ∧
      (if 0 < (persistArk catalogue E k c).stats.permanentFailures then 1 else 0) =
        (persistArk catalogue E k c).stats.permanentFailures := by
  have h := persistArk_came catalogue E k c
  generalize persistArk catalogue E k c = a at h ⊢
  cases h <;> exact ⟨rfl, rfl⟩

structure Counted (catalogue : ErrorCatalogue) (E : CycleEnv) (stats : Stats) (s : Cycle) : Prop where
  processed : s.stats.processed = stats.processed + s.pool.collected.length
  succeeded : s.stats.succeeded =
    stats.succeeded + s.pool.collected.countP fun e => succeeds (persistArk catalogue E e.1 e.2)
  failed : s.stats.failed = stats.failed + s.pool.collected.countP fun e => declines (persistArk catalogue E e.1 e.2)
  deferred : s.stats.deferred =
    stats.deferred + s.pool.done.countP fun e => 0 < (persistArk catalogue E e.1 e.2).stats.deferred
  permanentFailures : s.stats.permanentFailures = stats.permanentFailures +
    s.pool.done.countP fun e => 0 < (persistArk catalogue E e.1 e.2).stats.permanentFailures
  stopped : s.raised = none ↔ s.pool.stopped = false
  raised : ∀ x, s.raised = some x → ∃ e ∈ s.pool.collected, (persistArk catalogue E e.1 e.2).result = .error x

theorem counted_begin : Counted catalogue E stats (begin page cells stats) := by
  constructor <;> simp [begin, ThreadPool.begin, Pool.done]

theorem moves_counted (hc : Counted catalogue E stats s) (h : CycleMoves catalogue cfg effective E s a t) :
    Counted catalogue E stats t := by
  cases h with
  | @other _ pool _ hfinished hcollected hstopped =>
      have hdone : pool.done = s.pool.done := by rw [Pool.done, Pool.done, hfinished, hcollected]
      refine ⟨?_, ?_, ?_, ?_, ?_, ?_, ?_⟩
      all_goals simp only [hdone, hcollected, hstopped]
      · exact hc.processed
      · exact hc.succeeded
      · exact hc.failed
      · exact hc.deferred
      · exact hc.permanentFailures
      · exact hc.stopped
      · exact hc.raised
  | @finish k pool _ hfinished hcollected hstopped =>
      have hdone : pool.done.Perm ((k, s.pool.entries k) :: s.pool.done) := by
        rw [Pool.done, hfinished, hcollected, List.append_assoc]
        exact List.perm_middle
      obtain ⟨hdeferred, hpermanent⟩ := persistArk_stats catalogue E k (s.pool.entries k)
      refine ⟨?_, ?_, ?_, ?_, ?_, ?_, ?_⟩
      all_goals simp only [hcollected, hstopped, noted]
      · exact hc.processed
      · exact hc.succeeded
      · exact hc.failed
      · simp only [hdone.countP_eq, List.countP_cons, decide_eq_true_eq, hdeferred, hc.deferred, Nat.add_assoc]
      · simp only [hdone.countP_eq, List.countP_cons, decide_eq_true_eq, hpermanent, hc.permanentFailures,
          Nat.add_assoc]
      · exact hc.stopped
      · exact hc.raised
  | @collect k e pool _ hgoes hmem hcollected hstopped =>
      have hdone : pool.done.Perm s.pool.done := by
        rw [Pool.done, hcollected]
        exact collected_perm hmem
      have hcount : ∀ q : ArkId × Cell → Bool, pool.collected.countP q = s.pool.collected.countP q + (q e).toNat := by
        intro q
        rw [hcollected, List.countP_append, List.countP_singleton]
        cases q e <;> rfl
      have hlength : pool.collected.length = s.pool.collected.length + 1 := by rw [hcollected]; exact List.length_append
      refine ⟨?_, ?_, ?_, ?_, ?_, ?_, ?_⟩
      all_goals simp only [collected, hlength, hcount, hdone.countP_eq, hstopped]
      all_goals cases hresult : (persistArk catalogue E e.1 e.2).result with
        | ok succeeded => cases succeeded <;> simp [counted, succeeds, declines, raises, hresult, hc.processed,
            hc.succeeded, hc.failed, hc.deferred, hc.permanentFailures, hc.stopped.mpr hgoes, Nat.add_assoc]
        | error x => simp [counted, succeeds, declines, raises, hresult, hc.processed, hc.succeeded, hc.failed,
            hc.deferred, hc.permanentFailures, Nat.add_assoc, hcollected]

theorem step_pool (h : step catalogue cfg effective E s a = some t) :
    ThreadPool.step (rules catalogue cfg effective E) s.pool a = some t.pool := by
  obtain ⟨pool, hpool, hmap⟩ := Option.map_eq_some_iff.mp h
  rw [hpool]
  subst hmap
  cases a with
  | start | finish | touch => rfl
  | collect k => simp only; split <;> rfl

theorem reach_pool {G : Pool ArkId Cell → Act ArkId Cell → Prop}
    (h : Reach (step catalogue cfg effective E) (fun s => G s.pool) (begin page cells stats) t) :
    Reach (ThreadPool.step (rules catalogue cfg effective E)) G (ThreadPool.begin page cells) t.pool ∧
      Counted catalogue E stats t := by
  induction h with
  | init => exact ⟨.init, counted_begin⟩
  | @next s t a _ hg hstep ih =>
      exact ⟨ih.1.next hg (step_pool hstep), moves_counted ih.2 (cycle_moves hstep)⟩

def tally (stats : Stats) (attempts : List Attempt) : Stats where
  processed := stats.processed + attempts.length
  succeeded := stats.succeeded + attempts.countP succeeds
  failed := stats.failed + attempts.countP declines
  deferred := stats.deferred + attempts.countP fun a => 0 < a.stats.deferred
  permanentFailures := stats.permanentFailures + attempts.countP fun a => 0 < a.stats.permanentFailures

omit [PyLower] in
theorem tally_perm {l m : List Attempt} (h : l.Perm m) : tally stats l = tally stats m := by
  simp only [tally, h.length_eq, h.countP_eq]

omit [PyLower] in
theorem stats_ext {x y : Stats} (processed : x.processed = y.processed) (succeeded : x.succeeded = y.succeeded)
    (failed : x.failed = y.failed) (deferred : x.deferred = y.deferred)
    (permanentFailures : x.permanentFailures = y.permanentFailures) : x = y := by
  cases x
  cases y
  simp_all

theorem Counted.tally (h : Counted catalogue E stats s) (hdone : s.pool.done = s.pool.collected) :
    s.stats = tally stats (s.pool.collected.map fun e => persistArk catalogue E e.1 e.2) := by
  have hdeferred := h.deferred
  have hpermanent := h.permanentFailures
  rw [hdone] at hdeferred hpermanent
  apply stats_ext
  · simp only [h.processed, MetadataCycle.tally, List.length_map]
  · simp only [h.succeeded, MetadataCycle.tally, List.countP_map, Function.comp_def]
  · simp only [h.failed, MetadataCycle.tally, List.countP_map, Function.comp_def]
  · simp only [hdeferred, MetadataCycle.tally, List.countP_map, Function.comp_def]
  · simp only [hpermanent, MetadataCycle.tally, List.countP_map, Function.comp_def]

theorem counted_tally {succeeded : Bool} (h : (persistArk catalogue E k c).result = .ok succeeded)
    (rest : List Attempt) :
    tally (counted (noted stats (persistArk catalogue E k c)) (persistArk catalogue E k c).result) rest =
      tally stats (persistArk catalogue E k c :: rest) := by
  obtain ⟨hdeferred, hpermanent⟩ := persistArk_stats catalogue E k c
  generalize persistArk catalogue E k c = a at h hdeferred hpermanent ⊢
  apply stats_ext
  all_goals cases succeeded
  all_goals simp [tally, counted, noted, h, List.countP_cons, succeeds, declines, hdeferred, hpermanent]
  all_goals omega

theorem persistAll_ok {plain : (ArkId → Cell) × Stats} (hpage : page.Nodup)
    (h : persistAll catalogue E page cells stats = .ok plain) :
    (∀ k ∈ page, plain.1 k = (persistArk catalogue E k (cells k)).cell) ∧
      (∀ k, k ∉ page → plain.1 k = cells k) ∧
      (∀ k ∈ page, raises (persistArk catalogue E k (cells k)) = false) ∧
      plain.2 = tally stats (page.map fun k => persistArk catalogue E k (cells k)) := by
  induction page generalizing cells stats with
  | nil =>
      obtain rfl := Except.ok.inj h
      exact ⟨by simp, fun _ _ => rfl, by simp, stats_ext rfl rfl rfl rfl rfl⟩
  | cons k page ih =>
      obtain ⟨hk, hpage⟩ := List.nodup_cons.mp hpage
      cases hresult : (persistArk catalogue E k (cells k)).result with
      | error x =>
          simp only [persistAll, hresult, bind, Except.bind] at h
          cases h
      | ok succeeded =>
          simp only [persistAll, hresult, bind, Except.bind] at h
          rw [← hresult] at h
          have hother : ∀ j ∈ page, Function.update cells k (persistArk catalogue E k (cells k)).cell j = cells j :=
            fun j hj => Function.update_of_ne (show j ≠ k from fun hjk => hk (hjk ▸ hj)) ..
          obtain ⟨hworked, hkept, hgood, hstats⟩ := ih hpage h
          refine ⟨?_, ?_, ?_, ?_⟩
          · intro j hj
            rcases List.mem_cons.mp hj with rfl | hj
            · rw [hkept j hk, Function.update_self]
            · rw [hworked j hj, hother j hj]
          · intro j hj
            obtain ⟨hjk, hj⟩ := not_or.mp (mt List.mem_cons.mpr hj)
            rw [hkept j hj, Function.update_of_ne hjk]
          · intro j hj
            rcases List.mem_cons.mp hj with rfl | hj
            · rw [raises, hresult]
            · rw [← hother j hj]
              exact hgood j hj
          · rw [hstats, counted_tally hresult, List.map_cons]
            congr 2
            exact List.map_congr_left fun j hj => by rw [hother j hj]

theorem persistAll_error {x : Exc} (hpage : page.Nodup) (h : persistAll catalogue E page cells stats = .error x) :
    ∃ k ∈ page, (persistArk catalogue E k (cells k)).result = .error x := by
  induction page generalizing cells stats with
  | nil => cases h
  | cons k page ih =>
      obtain ⟨hk, hpage⟩ := List.nodup_cons.mp hpage
      cases hresult : (persistArk catalogue E k (cells k)).result with
      | error y =>
          simp only [persistAll, hresult, bind, Except.bind] at h
          exact ⟨k, List.mem_cons_self .., by rw [hresult, Except.error.inj h]⟩
      | ok succeeded =>
          simp only [persistAll, hresult, bind, Except.bind] at h
          obtain ⟨j, hj, herror⟩ := ih hpage h
          rw [Function.update_of_ne (show j ≠ k from fun hjk => hk (hjk ▸ hj))] at herror
          exact ⟨j, List.mem_cons_of_mem _ hj, herror⟩

/-- However its attempts are scheduled in the pool, the cycle makes one on every ARK of its page, and
leaves rows and counters as if it made them one after the other. Where an attempt raises, the loop
would stop at it, whereas the pool makes all the others before an exception leaves the cycle. -/
theorem pool_matches_loop (hpage : page.Nodup)
    (h : Reach (step catalogue cfg effective E) (fun s => Quiet page s.pool) (begin page cells stats) t)
    (hend : t.pool.Ended) :
    (∀ k ∈ page, t.pool.entries k = (persistArk catalogue E k (cells k)).cell) ∧
      (∀ plain, persistAll catalogue E page cells stats = .ok plain →
        t.raised = none ∧ t.stats = plain.2 ∧ ∀ k ∈ page, t.pool.entries k = plain.1 k) ∧
      ∀ x, persistAll catalogue E page cells stats = .error x →
        ∃ k ∈ page, ∃ y, (persistArk catalogue E k (cells k)).result = .error y ∧ t.raised = some y := by
  obtain ⟨hreach, hcounted⟩ := reach_pool h
  have hsound := ThreadPool.reach_sound hreach
  have hundisturbed := reach_undisturbed hpage hreach
  have hdone := ended_done hsound hend
  have hworked : ∀ k ∈ page, t.pool.entries k = (persistArk catalogue E k (cells k)).cell :=
    fun k hk => hundisturbed.worked k hk (hdone.mem_iff.mpr hk)
  have hmade : ∀ e ∈ t.pool.collected, e.1 ∈ page ∧ e.2 = cells e.1 := fun e he =>
    ⟨hdone.subset (List.mem_map_of_mem (List.mem_append_right _ he)), hundisturbed.found e (List.mem_append_right _ he)⟩
  refine ⟨hworked, fun plain hplain => ?_, fun x hx => ?_⟩
  · obtain ⟨hcells, -, hgood, hstats⟩ := persistAll_ok hpage hplain
    have hgoes : t.pool.stopped = false := by
      by_contra hstopped
      obtain ⟨e, he, hfails⟩ := hsound.stopped.mp (by simpa using hstopped)
      obtain ⟨hk, hfound⟩ := hmade e he
      have hgood := hgood e.1 hk
      rw [← hfound] at hgood
      exact Bool.false_ne_true (hgood.symm.trans hfails)
    refine ⟨hcounted.stopped.mpr hgoes, ?_, fun k hk => by rw [hworked k hk, hcells k hk]⟩
    have hall : t.pool.done = t.pool.collected := by
      rw [Pool.done, hend.2.2.resolve_right (by simp [hgoes]), List.nil_append]
    rw [hcounted.tally hall, hstats]
    apply tally_perm
    have hmap : t.pool.collected.map (fun e => persistArk catalogue E e.1 e.2) =
        (t.pool.collected.map Prod.fst).map fun k => persistArk catalogue E k (cells k) := by
      rw [List.map_map]
      exact List.map_congr_left fun e he => by simp only [Function.comp_apply, (hmade e he).2]
    rw [hmap]
    exact (ended_collected hsound hend hgoes).map _
  · obtain ⟨k, hk, herror⟩ := persistAll_error hpage hx
    cases hraised : t.raised with
    | some y =>
        obtain ⟨e, he, hy⟩ := hcounted.raised y hraised
        obtain ⟨hk, hfound⟩ := hmade e he
        exact ⟨e.1, hk, y, by rw [← hfound]; exact hy, rfl⟩
    | none =>
        have hgoes := hcounted.stopped.mp hraised
        obtain ⟨e, he, rfl⟩ := List.mem_map.mp ((ended_collected hsound hend hgoes).mem_iff.mpr hk)
        have hfails : (rules catalogue cfg effective E).fails e = true := by
          change raises (persistArk catalogue E e.1 e.2) = true
          rw [(hmade e he).2, raises, herror]
        rw [hsound.stopped.mpr ⟨e, he, hfails⟩] at hgoes
        cases hgoes

def advanced (c c' : Cell) : Bool :=
  (c.record.any fun r => r.processingStage = .metadata) && c'.record.any fun r => r.processingStage = .availability

def noteOf (c c' : Cell) : Bool := !advanced c c' && c'.record ≠ c.record

omit [PyLower] in
theorem countP_add {α : Type} {l : List α} {p q r : α → Bool} (h : ∀ x ∈ l, (p x).toNat + (q x).toNat = (r x).toNat) :
    l.countP p + l.countP q = l.countP r := by
  induction l with
  | nil => rfl
  | cons x l ih =>
      have hx := h x (List.mem_cons_self ..)
      have hl := ih fun y hy => h y (List.mem_cons_of_mem _ hy)
      simp only [List.countP_cons]
      cases hp : p x <;> cases hq : q x <;> cases hr : r x <;> simp_all <;> omega

omit [PyLower] in
theorem advanced_kept {c' : Cell} {r r' : ARKRecord} (hr : c.record = some r) (hr' : c'.record = some r')
    (hstage : r'.processingStage = r.processingStage) : advanced c c' = false := by
  rw [advanced, hr, hr', Option.any_some, Option.any_some, hstage]
  cases r.processingStage <;> rfl

omit [PyLower] in
theorem noteOf_changed {c' : Cell} {r r' : ARKRecord} (hr : c.record = some r) (hr' : c'.record = some r')
    (hstage : r'.processingStage = r.processingStage) (hne : r' ≠ r) : noteOf c c' = true := by
  simp [noteOf, advanced_kept hr hr' hstage, hr, hr', hne]

omit [PyLower] in
theorem advanced_self (c : Cell) : advanced c c = false := by
  unfold advanced
  cases hr : c.record with
  | none => rfl
  | some r => cases hstage : r.processingStage <;> simp [hstage]

omit [PyLower] in
theorem rescheduled {E : PersistEnv} {r : ARKRecord} (hacc : persistAccepts E.readyAt r = true)
    (hclock : E.readyAt ≤ E.failedAt) (message : String) :
    deferredRecord message .storageUnavailable 60 E.failedAt r ≠ r := by
  intro hsame
  have hready : readyForProcessing r E.readyAt = true := by
    simp only [persistAccepts, Bool.and_eq_true] at hacc
    exact hacc.2
  have hstatus : r.processingStatus = .waiting := by rw [← hsame]; rfl
  have hnext : r.nextActionAt = some (E.failedAt + seconds 60) := by
    rw [← hsame]
    rfl
  simp only [readyForProcessing, hstatus, hnext, Option.any_some, decide_eq_true_eq] at hready
  have hlate : E.failedAt < E.failedAt + seconds 60 := Int.lt_add_of_pos_right _ (by decide)
  exact absurd (Int.le_trans hready hclock) (Int.not_le.mpr hlate)

omit [PyLower] in
theorem came_tells {E : PersistEnv} {attempt : Attempt} (h : Came catalogue E c attempt)
    (hclock : E.readyAt ≤ E.failedAt) :
    succeeds attempt = advanced c attempt.cell ∧
      (decide (0 < attempt.stats.deferred)).toNat + (decide (0 < attempt.stats.permanentFailures)).toNat =
        (noteOf c attempt.cell).toNat := by
  cases h with
  | untouched => simp [succeeds, advanced_self, noteOf]
  | raised => simp [succeeds, advanced_self, noteOf]
  | @persisted r c' hr hacc h =>
      obtain ⟨m, level1Cid, level2Cid, -, -, -, rfl⟩ := h
      simp [succeeds, advanced, noteOf, hr, (persistAccepts_live hacc).2, persistedRecord]
  | @deferred r message hr hacc =>
      let r' := deferredRecord message .storageUnavailable 60 E.failedAt r
      let c' : Cell := { c with record := some r' }
      have hadvanced : advanced c c' = false := @advanced_kept c c' r r' hr rfl rfl
      have hnote : noteOf c c' = true := @noteOf_changed c c' r r' hr rfl rfl (rescheduled hacc hclock message)
      exact ⟨hadvanced.symm, congrArg Bool.toNat hnote.symm⟩
  | @marked r message permanent hr hacc =>
      let r' := failedRecord permanent message .storageInvalidResponse E.failedAt r
      let c' : Cell := { c with record := some r' }
      have hne : r' ≠ r := by
        intro hsame
        have hcount : r.processingAttemptCount + 1 = r.processingAttemptCount :=
          congrArg ARKRecord.processingAttemptCount hsame
        omega
      have hadvanced : advanced c c' = false := @advanced_kept c c' r r' hr rfl rfl
      have hnote : noteOf c c' = true := @noteOf_changed c c' r r' hr rfl rfl hne
      exact ⟨hadvanced.symm, congrArg Bool.toNat hnote.symm⟩

/-- Whatever goes on meanwhile on the ARKs of its page, a cycle that is not cut short has processed
each of them once. It succeeded with those that it moved on to the next stage, noted a failure for
those that it counts as deferred or as permanent failures, and left the rows of the others alone. -/
theorem page_accounted (hclock : ∀ k, (E.attempt k).readyAt ≤ (E.attempt k).failedAt)
    (h : Reach (step catalogue cfg effective E) Free (begin page cells stats) t) (hend : t.pool.Ended)
    (hraised : t.raised = none) :
    (t.pool.collected.map Prod.fst).Perm page ∧
      t.stats.processed = stats.processed + page.length ∧
      t.stats.succeeded = stats.succeeded +
        t.pool.collected.countP (fun e => advanced e.2 (persistArk catalogue E e.1 e.2).cell) ∧
      t.stats.deferred + t.stats.permanentFailures = stats.deferred + stats.permanentFailures +
        t.pool.collected.countP (fun e => noteOf e.2 (persistArk catalogue E e.1 e.2).cell) ∧
      (lastRun stats t.stats).processed = page.length ∧
      (lastRun stats t.stats).succeeded + (lastRun stats t.stats).failed = page.length := by
  obtain ⟨hreach, hcounted⟩ := reach_pool (G := Free) h
  have hsound := ThreadPool.reach_sound hreach
  have hgoes := hcounted.stopped.mp hraised
  have hperm := ended_collected hsound hend hgoes
  have hlength : t.pool.collected.length = page.length := by rw [← hperm.length_eq, List.length_map]
  have hall : t.pool.done = t.pool.collected := by
    rw [Pool.done, hend.2.2.resolve_right (by simp [hgoes]), List.nil_append]
  have htells := fun e : ArkId × Cell => came_tells (persistArk_came catalogue E e.1 e.2) (hclock e.1)
  have hnotes := countP_add fun e (_ : e ∈ t.pool.collected) => (htells e).2
  have hresults : (t.pool.collected.countP fun e => succeeds (persistArk catalogue E e.1 e.2)) +
      (t.pool.collected.countP fun e => declines (persistArk catalogue E e.1 e.2)) = t.pool.collected.length := by
    rw [← List.countP_true]
    apply countP_add
    intro e he
    have hgood : ¬raises (persistArk catalogue E e.1 e.2) = true := fun hfails => by
      rw [hsound.stopped.mpr ⟨e, he, hfails⟩] at hgoes
      cases hgoes
    cases hresult : (persistArk catalogue E e.1 e.2).result with
    | ok succeeded => cases succeeded <;> simp [succeeds, declines, hresult]
    | error x => simp [raises, hresult] at hgood
  have hdeferred := hcounted.deferred
  have hpermanent := hcounted.permanentFailures
  rw [hall] at hdeferred hpermanent
  have hprocessed := hcounted.processed
  have hsucceeded := hcounted.succeeded
  have hfailed := hcounted.failed
  refine ⟨hperm, ?_, ?_, ?_, ?_, ?_⟩
  · rw [hprocessed, hlength]
  · simp only [hsucceeded, (htells _).1]
  · omega
  · simp only [lastRun]
    omega
  · simp only [lastRun]
    omega

theorem run_pool {acts : List (Act ArkId Cell)} (h : run (step catalogue cfg effective E) acts s = some t) :
    run (ThreadPool.step (rules catalogue cfg effective E)) acts s.pool = some t.pool := by
  induction acts generalizing s with
  | nil =>
      obtain rfl := Option.some.inj h
      rfl
  | cons a acts ih =>
      obtain ⟨u, hu, hrest⟩ := Option.bind_eq_some_iff.mp h
      exact Option.bind_eq_some_iff.mpr ⟨u.pool, step_pool hu, ih hrest⟩

/-- At any time no more ARKs are locked than the loop chose to allow, at saturation the fewest, and nothing
keeps the cycle from going on to its end, which is no more than three steps an ARK away. -/
theorem cycle_ends {table : List Cell} {acts : List (Act ArkId Cell)}
    (h : run (step catalogue cfg (some (effectiveConcurrency cfg table)) E) acts (begin page cells stats) = some t) :
    t.pool.running.length ≤ cfg.concurrency ∧
      (2000 < availabilityBacklogSize table → t.pool.running.length ≤ cfg.minConcurrency) ∧
      acts.countP own ≤ 3 * page.length ∧
      (¬t.pool.Ended →
        ∃ a, own a = true ∧ (step catalogue cfg (some (effectiveConcurrency cfg table)) E t a).isSome) := by
  have hpool : run (ThreadPool.step (rules catalogue cfg (some (effectiveConcurrency cfg table)) E)) acts
      (ThreadPool.begin page cells) = some t.pool := run_pool h
  have hrunning := (ThreadPool.reach_sound (run_reach hpool)).bounded
  have hbounds := effectiveConcurrency_bounds cfg table
  rw [show (rules catalogue cfg (some (effectiveConcurrency cfg table)) E).threads = effectiveConcurrency cfg table from
    threads_effective cfg table] at hrunning
  refine ⟨Nat.le_trans hrunning hbounds.2, fun hbacklog => ?_, ?_, fun hend => ?_⟩
  · rw [effectiveConcurrency, if_pos hbacklog] at hrunning
    exact hrunning
  · have hleft := run_left hpool
    have hstart : (ThreadPool.begin page cells).left = 3 * page.length := by simp [ThreadPool.begin, Pool.left]
    omega
  · have hthreads : 0 < (rules catalogue cfg (some (effectiveConcurrency cfg table)) E).threads :=
      Nat.lt_of_lt_of_le Nat.zero_lt_one (Nat.le_max_left ..)
    obtain ⟨a, hown, hstep⟩ := own_step hthreads hend
    exact ⟨a, hown, by rw [step, Option.isSome_map]; exact hstep⟩

/-- A page of `get_metadata_pending_persist`, whose query has no order. -/
structure Selected (limit : Nat) (arks : List ArkId) (now : Time) (cells : ArkId → Cell) (page : List ArkId) :
    Prop where
  nodup : page.Nodup
  pending : ∀ k ∈ page, k ∈ arks ∧ metadataPendingPersist now (cells k) = true
  bounded : page.length ≤ limit
  full : page.length = limit ∨ ∀ k ∈ arks, metadataPendingPersist now (cells k) = true → k ∈ page

/-- Cycles one after the other, in which storage answers and nobody else is at the rows. -/
inductive Cycles (catalogue : ErrorCatalogue) (cfg : Settings) (arks : List ArkId) (since : Time)
    (cells : ArkId → Cell) :
    Nat → (ArkId → Cell) → Prop
  | none : Cycles catalogue cfg arks since cells 0 cells
  | next {n : Nat} {mid : ArkId → Cell} {now : Time} {page : List ArkId} {effective : Option Nat} {E : CycleEnv}
      {stats : Stats} {t : Cycle} (h : Cycles catalogue cfg arks since cells n mid)
      (hselected : Selected (max cfg.pageSize 1) arks now mid page) (hnow : since ≤ now)
      (hhealthy : ∀ k ∈ page, E.free k = true ∧ Healthy (E.attempt k) ∧ now ≤ (E.attempt k).readyAt)
      (hcycle : Reach (step catalogue cfg effective E) (fun _ a => own a = true) (begin page mid stats) t)
      (hend : t.pool.Ended) : Cycles catalogue cfg arks since cells (n + 1) t.pool.entries

omit [PyLower] in
theorem pending_mono {now later : Time} (h : metadataPendingPersist now c = true) (hle : now ≤ later) :
    metadataPendingPersist later c = true := by
  unfold metadataPendingPersist at h ⊢
  split at h
  · simp only [Bool.and_eq_true] at h ⊢
    exact ⟨h.1, Selection.readyForProcessing_mono h.2 hle⟩
  · cases h

def Stored (c : Cell) : Prop :=
  ∃ r m, c.record = some r ∧ r.processingStage = .availability ∧ r.processingStatus = .ready ∧
    c.metadata = some m ∧ m.level1Cid.isSome ∧ m.originalCid.isSome

theorem persistArk_stored {now : Time} (hpending : metadataPendingPersist now c = true)
    (hpayload : ∀ m, c.metadata = some m → Persistable m) (hfree : E.free k = true) (hhealthy : Healthy (E.attempt k))
    (hle : now ≤ (E.attempt k).readyAt) : Stored (persistArk catalogue E k c).cell := by
  have hready := pending_mono hpending hle
  unfold metadataPendingPersist at hready
  split at hready
  · rename_i r m hr hm
    simp only [Bool.and_eq_true] at hready
    have hacc : persistAccepts (E.attempt k).readyAt r = true := by
      rw [persistAccepts, hready.1.1.1, hready.1.1.2, hready.2]
      rfl
    obtain ⟨c', hbody, -⟩ := persistBody_healthy (r := r) hhealthy hm (hpayload m hm)
    have hcell : (persistArk catalogue E k c).cell = c' := by simp [persistArk, hfree, persist, hr, hacc, hbody]
    obtain ⟨m, level1Cid, level2Cid, -, -, -, hc'⟩ := persistBody_ok hbody
    rw [hcell, hc']
    exact ⟨_, _, rfl, rfl, rfl, rfl, rfl, rfl⟩
  · cases hready

omit [PyLower] in
theorem stored_not_pending {now : Time} (h : Stored c) : metadataPendingPersist now c = false := by
  obtain ⟨r, m, hr, hstage, -, hm, -⟩ := h
  simp [metadataPendingPersist, hr, hm, hstage]

omit [PyLower] in
theorem countP_page {arks page : List ArkId} {p : ArkId → Bool} (harks : arks.Nodup) (hpage : page.Nodup)
    (hsub : ∀ k ∈ page, k ∈ arks ∧ p k = true) :
    (arks.countP fun k => p k && decide (k ∉ page)) + page.length = arks.countP p := by
  have hperm : (arks.filter fun k => decide (k ∈ page)).Perm page := by
    refine (List.perm_ext_iff_of_nodup (harks.filter _) hpage).mpr fun k => ?_
    rw [List.mem_filter, decide_eq_true_eq]
    exact ⟨fun h => h.2, fun h => ⟨(hsub k h).1, h⟩⟩
  rw [← hperm.length_eq, ← List.countP_eq_length_filter, Nat.add_comm]
  apply countP_add
  intro k _
  by_cases hk : k ∈ page
  · simp [hk, (hsub k hk).2]
  · simp [hk]

theorem cycle_drains {arks : List ArkId} {since now : Time} (harks : arks.Nodup)
    (hpayload : ∀ k ∈ arks, metadataPendingPersist since (cells k) = true →
      ∀ m, (cells k).metadata = some m → Persistable m)
    (hdue : ∀ k ∈ arks, ∀ now, metadataPendingPersist now (cells k) = true →
      metadataPendingPersist since (cells k) = true)
    (hselected : Selected (max cfg.pageSize 1) arks now cells page) (hnow : since ≤ now)
    (hhealthy : ∀ k ∈ page, E.free k = true ∧ Healthy (E.attempt k) ∧ now ≤ (E.attempt k).readyAt)
    (h : Reach (step catalogue cfg effective E) (fun _ a => own a = true) (begin page cells stats) t)
    (hend : t.pool.Ended) :
    (arks.countP fun k => metadataPendingPersist since (t.pool.entries k)) =
        (arks.countP fun k => metadataPendingPersist since (cells k)) - max cfg.pageSize 1 ∧
      ∀ k, t.pool.entries k = cells k ∨
        (k ∈ arks ∧ metadataPendingPersist since (cells k) = true) ∧ Stored (t.pool.entries k) := by
  have hreach := (reach_pool (G := fun _ a => own a = true) h).1
  have hquiet : Reach (ThreadPool.step (rules catalogue cfg effective E)) (Quiet page) (ThreadPool.begin page cells)
      t.pool := by
    refine hreach.mono fun s a hown => ?_
    cases a with
    | start | finish | collect => trivial
    | touch => cases hown
  have hdone := ended_done (ThreadPool.reach_sound hreach) hend
  have hsince : ∀ k ∈ page, k ∈ arks ∧ metadataPendingPersist since (cells k) = true := fun k hk =>
    ⟨(hselected.pending k hk).1, hdue k (hselected.pending k hk).1 now (hselected.pending k hk).2⟩
  have hstored : ∀ k ∈ page, Stored (t.pool.entries k) := by
    intro k hk
    obtain ⟨harks, hpending⟩ := hsince k hk
    obtain ⟨hfree, hgood, hle⟩ := hhealthy k hk
    rw [(reach_undisturbed hselected.nodup hquiet).worked k hk (hdone.mem_iff.mpr hk)]
    exact persistArk_stored hpending (hpayload k harks hpending) hfree hgood (Int.le_trans hnow hle)
  have houtside : ∀ k, k ∉ page → t.pool.entries k = cells k := fun k hk => reach_outside hreach hk
  constructor
  · have hafter : (arks.countP fun k => metadataPendingPersist since (t.pool.entries k)) =
        arks.countP fun k => metadataPendingPersist since (cells k) && decide (k ∉ page) := by
      apply List.countP_congr
      intro k _
      by_cases hk : k ∈ page
      · simp [hk, stored_not_pending (hstored k hk)]
      · simp [hk, houtside k hk]
    have hpage := countP_page harks hselected.nodup hsince
    rcases hselected.full with hfull | hfull
    · omega
    · have hnone : (arks.countP fun k => metadataPendingPersist since (cells k) && decide (k ∉ page)) = 0 := by
        rw [List.countP_eq_zero]
        intro k hk hleft
        obtain ⟨hpending, hout⟩ := Bool.and_eq_true_iff.mp hleft
        exact of_decide_eq_true hout (hfull k hk (pending_mono hpending hnow))
      have hbounded := hselected.bounded
      omega
  · intro k
    by_cases hk : k ∈ page
    · exact .inr ⟨hsince k hk, hstored k hk⟩
    · exact .inl (houtside k hk)

/-- While storage answers, the backlog goes down by a page with every cycle, whichever ARKs the query
returns and however their attempts are scheduled, and what is gone from it is stored; as long as
no payload is without a media type and none comes due meanwhile. -/
theorem backlog_drains {deployment : Deployment.Config} {s : Deployment.Sys} {arks : List ArkId} {since : Time}
    {n : Nat}
    {cells' : ArkId → Cell} (hs : Reach (Deployment.step deployment) Free {} s) (harks : arks.Nodup)
    (hmedia : ∀ k ∈ arks, ∀ m, (s.cells k).metadata = some m → m.originalMediaType ≠ some "")
    (hdue : ∀ k ∈ arks, ∀ now, metadataPendingPersist now (s.cells k) = true →
      metadataPendingPersist since (s.cells k) = true)
    (h : Cycles catalogue cfg arks since s.cells n cells') :
    (arks.countP fun k => metadataPendingPersist since (cells' k)) =
        (arks.countP fun k => metadataPendingPersist since (s.cells k)) - n * max cfg.pageSize 1 ∧
      ∀ k, cells' k = s.cells k ∨ metadataPendingPersist since (s.cells k) = true ∧ Stored (cells' k) := by
  have hpayload : ∀ k ∈ arks, metadataPendingPersist since (s.cells k) = true →
      ∀ m, (s.cells k).metadata = some m → Persistable m := by
    intro k hk hpending m hm
    unfold metadataPendingPersist at hpending
    split at hpending
    · rename_i r _ hr _
      simp only [Bool.and_eq_true, decide_eq_true_eq] at hpending
      obtain ⟨⟨⟨hstate, hstage⟩, -⟩, -⟩ := hpending
      have hlive : r.state ≠ .tombstone := fun htomb => by simp [htomb] at hstate
      obtain ⟨-, m', hm', hpayloads, htyped, -⟩ := ((reach_consistent hs k).live r hr hlive).at_metadata hstage
      obtain rfl := Option.some.inj (hm.symm.trans hm')
      obtain ⟨mediaType, htyped⟩ := Option.isSome_iff_exists.mp htyped
      refine ⟨hpayloads.2, ⟨mediaType, htyped, ?_⟩, hpayloads.1⟩
      rintro rfl
      exact hmedia k hk m hm htyped
    · cases hpending
  induction h with
  | none => exact ⟨by rw [Nat.zero_mul, Nat.sub_zero], fun _ => .inl rfl⟩
  | @next n mid now page effective E stats t _ hselected hnow hhealthy hcycle hend ih =>
      obtain ⟨hcount, hrows⟩ := ih
      have hsame : ∀ k now, metadataPendingPersist now (mid k) = true → mid k = s.cells k := by
        intro k now hpending
        refine (hrows k).resolve_right fun hstored => ?_
        rw [stored_not_pending hstored.2] at hpending
        cases hpending
      obtain ⟨hcycled, hmoved⟩ := cycle_drains harks
        (fun k hk hpending => by
          have hk' := hsame k since hpending
          rw [hk'] at hpending ⊢
          exact hpayload k hk hpending)
        (fun k hk now hpending => by
          have hk' := hsame k now hpending
          rw [hk'] at hpending ⊢
          exact hdue k hk now hpending)
        hselected hnow hhealthy hcycle hend
      refine ⟨by rw [hcycled, hcount, Nat.sub_sub, Nat.succ_mul], fun k => ?_⟩
      rcases hmoved k with hkept | ⟨⟨-, hpending⟩, hstored⟩
      · rw [hkept]
        exact hrows k
      · rw [hsame k since hpending] at hpending
        exact .inr ⟨hpending, hstored⟩

end

section Sample

attribute [local instance] asciiText

open Deployment.Sample

theorem settings_pos : 1 ≤ 1 := Nat.le_refl 1

theorem settings_le : 1 ≤ 2 := Nat.le_succ 1

def settings : Settings := ⟨10, 2, 1, settings_pos, settings_le⟩

def otherArk : ArkId := ⟨"1", "b"⟩

def staged : Cell where
  record := some
    { state := .draft, authorityId := "A", createdAt := 0, updatedAt := 0, processingStage := .metadata
      processingStatus := .ready }
  metadata := some
    { level1Json := some (.obj []), originalContent := some "m", originalSchema := "s",
      originalMediaType := some "text/xml", createdAt := 0, updatedAt := 0 }

def unavailable : Storage where
  storeLevel2 _ _ _ := .error unread
  storeLevel1WithLevel2Reference _ _ := .error unread

def halfway : CycleEnv where
  free _ := true
  attempt k := { persistEnv with storage := if k = ark then storage else unavailable }

def overtaking : List (Act ArkId Cell) :=
  [.start, .start, .finish otherArk, .collect otherArk, .finish ark, .collect ark]

def look (t : Cycle) : (Bool × Bool × Bool) × Bool × Stats :=
  ((t.pool.waiting.isEmpty, t.pool.running.isEmpty, t.pool.finished.isEmpty), t.raised.isNone, t.stats)

theorem look_ended {t : Cycle} {raised : Bool} {stats : Stats} (h : look t = ((true, true, true), raised, stats)) :
    t.pool.Ended ∧ t.raised.isNone = raised ∧ t.stats = stats := by
  simp only [look, Prod.mk.injEq, List.isEmpty_iff] at h
  exact ⟨⟨h.1.1, h.1.2.1, .inl h.1.2.2⟩, h.2.1, h.2.2⟩

theorem pool_matches_loop_sample : ∃ t, Reach (step seededCatalogue settings none halfway)
      (fun s => Quiet [ark, otherArk] s.pool) (begin [ark, otherArk] (fun _ => staged) {}) t ∧
    t.stats = { processed := 2, succeeded := 1, failed := 1, deferred := 1 } ∧
    ∀ plain, persistAll seededCatalogue halfway [ark, otherArk] (fun _ => staged) {} = .ok plain →
      t.raised = none ∧ t.stats = plain.2 ∧ ∀ k ∈ [ark, otherArk], t.pool.entries k = plain.1 k := by
  have hrun : (run (step seededCatalogue settings none halfway) overtaking
      (begin [ark, otherArk] (fun _ => staged) {})).map look =
        some ((true, true, true), true, { processed := 2, succeeded := 1, failed := 1, deferred := 1 }) := by decide
  obtain ⟨t, ht, hlook⟩ := Option.map_eq_some_iff.mp hrun
  obtain ⟨hend, -, hstats⟩ := look_ended hlook
  have hreach : Reach (step seededCatalogue settings none halfway) (fun s => Quiet [ark, otherArk] s.pool)
      (begin [ark, otherArk] (fun _ => staged) {}) t := by
    refine (run_guarded (fun _ => True) ht trivial (fun s a ha _ => ?_) fun _ _ _ _ _ _ => trivial).1
    simp only [overtaking, List.mem_cons, List.not_mem_nil, or_false] at ha
    rcases ha with rfl | rfl | rfl | rfl | rfl | rfl <;> trivial
  exact ⟨t, hreach, hstats, (pool_matches_loop (by decide) hreach hend).2.1⟩

theorem page_accounted_sample : ∃ t, Reach (step seededCatalogue settings (some 1) halfway) Free
      (begin [ark, otherArk] (fun _ => staged) {}) t ∧
    t.stats = { processed := 2, succeeded := 1, failed := 1 } ∧
    (t.pool.collected.map Prod.fst).Perm [ark, otherArk] ∧
    t.pool.collected.countP (fun e => advanced e.2 (persistArk seededCatalogue halfway e.1 e.2).cell) = 1 := by
  have hrun : (run (step seededCatalogue settings (some 1) halfway)
      [.start, .touch otherArk {}, .finish ark, .start, .finish otherArk, .collect otherArk, .collect ark]
      (begin [ark, otherArk] (fun _ => staged) {})).map look =
        some ((true, true, true), true, { processed := 2, succeeded := 1, failed := 1 }) := by decide
  obtain ⟨t, ht, hlook⟩ := Option.map_eq_some_iff.mp hrun
  obtain ⟨hend, hraised, hstats⟩ := look_ended hlook
  have hclock : ∀ k, (halfway.attempt k).readyAt ≤ (halfway.attempt k).failedAt := fun _ => Int.le_refl 2
  obtain ⟨hperm, -, hsucceeded, -⟩ :=
    page_accounted hclock (run_reach ht) hend (Option.isNone_iff_eq_none.mp hraised)
  rw [hstats] at hsucceeded
  refine ⟨t, run_reach ht, hstats, hperm, ?_⟩
  rw [← Nat.zero_add (List.countP _ _)]
  exact hsucceeded.symm

theorem cycle_ends_sample : ∃ t,
    run (step seededCatalogue settings (some (effectiveConcurrency settings [staged])) halfway)
      [.start, .start] (begin [ark, otherArk] (fun _ => staged) {}) = some t ∧ t.pool.running.length = 2 ∧
    ∃ a, own a = true ∧
      (step seededCatalogue settings (some (effectiveConcurrency settings [staged])) halfway t a).isSome := by
  have hrun : ((run (step seededCatalogue settings (some (effectiveConcurrency settings [staged])) halfway)
      [.start, .start] (begin [ark, otherArk] (fun _ => staged) {})).map fun t => t.pool.running.length) = some 2 := by
    decide
  obtain ⟨t, ht, hrunning⟩ := Option.map_eq_some_iff.mp hrun
  obtain ⟨-, -, -, hgoes⟩ := cycle_ends ht
  refine ⟨t, ht, hrunning, hgoes fun hend => ?_⟩
  rw [hend.2.1] at hrunning
  cases hrunning

def answering : CycleEnv where
  free _ := true
  attempt _ := persistEnv

theorem backlog_drains_sample : ∃ (s : Deployment.Sys) (cells' : ArkId → Cell),
    Reach (Deployment.step config) Free {} s ∧ metadataPendingPersist 2 (s.cells ark) = true ∧
      Cycles seededCatalogue settings [ark] 2 s.cells 1 cells' ∧
      ([ark].countP fun k => metadataPendingPersist 2 (cells' k)) = 0 := by
  have hrow : ((run (Deployment.step config) (toChain.take 2) {}).map fun s =>
      (metadataPendingPersist 2 (s.cells ark), (s.cells ark).metadata.map (·.originalMediaType),
        (s.cells ark).record.map fun r => (r.processingStatus, r.nextActionAt))) =
      some (true, some (some "text/xml"), some (.ready, none)) := by decide
  obtain ⟨s, hs, hrow⟩ := Option.map_eq_some_iff.mp hrow
  simp only [Prod.mk.injEq] at hrow
  obtain ⟨hpending, hmedia, hready⟩ := hrow
  have hcycle : ((run (Deployment.step config) (toChain.take 2) {}).bind fun s =>
      (run (step seededCatalogue settings none answering) [.start, .finish ark, .collect ark]
        (begin [ark] s.cells {})).map look) =
      some ((true, true, true), true, { processed := 1, succeeded := 1 }) := by decide
  rw [hs, Option.bind_some] at hcycle
  obtain ⟨t, ht, hlook⟩ := Option.map_eq_some_iff.mp hcycle
  obtain ⟨hend, -⟩ := look_ended hlook
  have hown : Reach (step seededCatalogue settings none answering) (fun _ a => own a = true)
      (begin [ark] s.cells {}) t := by
    refine (run_guarded (fun _ => True) ht trivial (fun s a ha _ => ?_) fun _ _ _ _ _ _ => trivial).1
    simp only [List.mem_cons, List.not_mem_nil, or_false] at ha
    rcases ha with rfl | rfl | rfl <;> rfl
  have hhealthy : Healthy persistEnv := ⟨fun _ _ _ => ⟨cid2, rfl⟩, fun _ _ => ⟨cid1, rfl⟩, rfl⟩
  have hselected : Selected (max settings.pageSize 1) [ark] 2 s.cells [ark] :=
    ⟨by decide, by simpa using hpending, by decide, .inr fun k hk _ => hk⟩
  have hcycles : Cycles seededCatalogue settings [ark] 2 s.cells 1 t.pool.entries :=
    .next .none hselected (Int.le_refl 2) (fun _ _ => ⟨rfl, hhealthy, Int.le_refl 2⟩) hown hend
  refine ⟨s, t.pool.entries, run_reach hs, hpending, hcycles, ?_⟩
  have hdrained := backlog_drains (run_reach hs) (List.nodup_singleton ark) ?_ ?_ hcycles
  · rw [hdrained.1, List.countP_singleton, hpending]
    rfl
  · intro k hk m hm
    obtain rfl := List.mem_singleton.mp hk
    rw [hm, Option.map_some, Option.some.injEq] at hmedia
    simp [hmedia]
  · intro k hk _ _
    obtain rfl := List.mem_singleton.mp hk
    exact hpending

end Sample

end DarkMinter.MetadataCycle
