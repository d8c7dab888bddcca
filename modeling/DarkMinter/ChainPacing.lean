import DarkMinter.Lib.Runs
import Mathlib.Data.List.Dedup
import Mathlib.Data.List.Sort

namespace DarkMinter.ChainPacing

open Lib.Runs

/-- The settings of the chain worker that its page size depends on, as `Settings` accepts them. -/
structure Settings where
  chainWorkerPageSize : Int := 100
  chainWorkerRpcBatchSize : Int := 50
  chainWorkerAdaptivePageEnabled : Bool := true
  chainWorkerMinPageSize : Int := 1
  chainWorkerHealthyCyclesBeforeGrowing : Int := 3
  pageSize_pos : 1 ≤ chainWorkerPageSize
  rpcBatchSize_pos : 1 ≤ chainWorkerRpcBatchSize
  rpcBatchSize_le : chainWorkerRpcBatchSize ≤ chainWorkerPageSize

structure Capacity where
  available : Bool
  state : String
  recommendedPageSize : Int

structure Outcome where
  processed : Nat
  failed : Nat
  deferred : Nat

/-- One round of the loop of `run_worker`: the RPC is not there yet, or the capacity is read, and
a cycle that runs ends with an outcome or with an exception. -/
inductive Round
  | unconnected
  | read (capacity : Capacity) (outcome : Option Outcome)

structure Pacing where
  effectiveChainPageSize : Int
  healthyCapacityCycles : Int

def orOne (value : Int) : Int := if value = 0 then 1 else value

def pageSizeLevels (minPageSize maxPageSize : Int) : List Int :=
  let safeMin := max (orOne minPageSize) 1
  let safeMax := max (if maxPageSize = 0 then safeMin else maxPageSize) safeMin
  let levels := [safeMin, safeMax] ++ [5, 10].filter fun level => safeMin ≤ level ∧ level ≤ safeMax
  levels.dedup.insertionSort (· ≤ ·)

def clampPageSize (value minPageSize maxPageSize : Int) : Int := max (min value maxPageSize) minPageSize

def nextHigherPageSize (current minPageSize maxPageSize : Int) : Int :=
  let levels := pageSizeLevels minPageSize maxPageSize
  (levels.find? (current < ·)).getD (levels.getLast?.getD 0)

def minPageSize (cfg : Settings) : Int := max (orOne cfg.chainWorkerMinPageSize) 1

def maxPageSize (cfg : Settings) : Int := max (orOne cfg.chainWorkerPageSize) (minPageSize cfg)

def targetPageSize (cfg : Settings) (capacity : Capacity) : Int :=
  clampPageSize capacity.recommendedPageSize (minPageSize cfg) (maxPageSize cfg)

def pauses (capacity : Capacity) : Bool :=
  !capacity.available || capacity.state ∈ ["unavailable", "stalled"] || capacity.recommendedPageSize ≤ 0

def adapt (cfg : Settings) (capacity : Capacity) (s : Pacing) : Pacing :=
  let target := targetPageSize cfg capacity
  if capacity.state = "healthy" then
    if s.effectiveChainPageSize < target ∧
      max (orOne cfg.chainWorkerHealthyCyclesBeforeGrowing) 1 ≤ s.healthyCapacityCycles + 1 then
      { effectiveChainPageSize := min target
          (nextHigherPageSize s.effectiveChainPageSize (minPageSize cfg) (maxPageSize cfg))
        healthyCapacityCycles := 0 }
    else { s with healthyCapacityCycles := s.healthyCapacityCycles + 1 }
  else { effectiveChainPageSize := min s.effectiveChainPageSize target, healthyCapacityCycles := 0 }

def paced (cfg : Settings) (capacity : Capacity) (s : Pacing) : Pacing :=
  if cfg.chainWorkerAdaptivePageEnabled then adapt cfg capacity s else s

def cyclePageSize (cfg : Settings) (effectivePageSize : Int) : Int :=
  max (if effectivePageSize = 0 then cfg.chainWorkerPageSize else effectivePageSize) 1

def cycle (cfg : Settings) (s : Pacing) : Round → Option Int
  | .unconnected => none
  | .read capacity _ =>
      if pauses capacity then none
      else some (cyclePageSize cfg (if cfg.chainWorkerAdaptivePageEnabled then
        (paced cfg capacity s).effectiveChainPageSize else max cfg.chainWorkerPageSize 1))

def saturated (page : Int) (outcome : Outcome) : Bool :=
  page ≤ outcome.processed && page ≤ outcome.failed && page ≤ outcome.deferred

def start (cfg : Settings) : Pacing := ⟨max cfg.chainWorkerPageSize 1, 0⟩

def step (cfg : Settings) (s : Pacing) (round : Round) : Option Pacing :=
  match round with
  | .unconnected => some s
  | .read capacity outcome => match cycle cfg s round with
    | none => some s
    | some page => outcome.map fun outcome =>
        if saturated page outcome then ⟨minPageSize cfg, 0⟩ else paced cfg capacity s

def Within (cfg : Settings) (capacity : Capacity) (page : Int) : Prop :=
  1 ≤ page ∧ page ≤ cfg.chainWorkerPageSize ∧
    page ≤ max cfg.chainWorkerMinPageSize capacity.recommendedPageSize

/-- A report that let a cycle run, and whether that cycle ended in a saturation pause. -/
structure Report where
  capacity : Capacity
  saturated : Bool

def streak : List Report → Int
  | [] => 0
  | r :: reports => if r.saturated ∨ r.capacity.state ≠ "healthy" then 0 else streak reports + 1

/-- The largest page size that the settings and the reports leave to the next cycle: the nominal one
at first, the minimum after a saturation pause, no more than recommended after a report that is not
healthy, and after enough healthy ones again what the last of them recommends. -/
def ceiling (cfg : Settings) : List Report → Int
  | [] => cfg.chainWorkerPageSize
  | r :: reports =>
      if r.saturated then minPageSize cfg
      else if r.capacity.state = "healthy" then
        if max (orOne cfg.chainWorkerHealthyCyclesBeforeGrowing) 1 ≤ streak (r :: reports) then
          max (ceiling cfg reports) (targetPageSize cfg r.capacity)
        else ceiling cfg reports
      else min (ceiling cfg reports) (targetPageSize cfg r.capacity)

structure Told where
  pacing : Pacing
  reports : List Report := []

def reportOf (cfg : Settings) (s : Pacing) (round : Round) : Option Report :=
  match round with
  | .unconnected => none
  | .read capacity outcome =>
      (cycle cfg s round).bind fun page => outcome.map fun outcome => ⟨capacity, saturated page outcome⟩

def told (cfg : Settings) (w : Told) (round : Round) : Option Told :=
  (step cfg w.pacing round).map fun t => ⟨t, (reportOf cfg w.pacing round).toList ++ w.reports⟩

/-- A healthy report does not recommend less than the reports before it leave. -/
def Modest (cfg : Settings) (w : Told) : Round → Prop
  | .unconnected => True
  | .read capacity _ => pauses capacity = false → capacity.state = "healthy" →
      ceiling cfg w.reports ≤ max cfg.chainWorkerMinPageSize capacity.recommendedPageSize

variable {cfg : Settings} {s t : Pacing} {capacity : Capacity} {round : Round}

theorem mem_pageSizeLevels {low high level : Int} (hlow : 1 ≤ low) (hle : low ≤ high)
    (h : level ∈ pageSizeLevels low high) : low ≤ level ∧ level ≤ high := by
  have hmin : max (orOne low) 1 = low := by
    unfold orOne
    rw [if_neg (by omega)]
    omega
  have hmax : max (if high = 0 then low else high) low = high := by
    rw [if_neg (by omega)]
    omega
  unfold pageSizeLevels at h
  simp only [hmin, hmax] at h
  rw [List.mem_insertionSort, List.mem_dedup] at h
  simp only [List.mem_append, List.mem_cons, List.not_mem_nil, or_false, List.mem_filter, decide_eq_true_eq] at h
  omega

theorem nextHigherPageSize_level (current low high : Int) :
    nextHigherPageSize current low high ∈ pageSizeLevels low high := by
  unfold nextHigherPageSize
  simp only
  cases hfind : (pageSizeLevels low high).find? (current < ·) with
  | some level => exact List.mem_of_find?_eq_some hfind
  | none =>
      have hne : pageSizeLevels low high ≠ [] := by
        intro hnil
        have hself : max (orOne low) 1 ∈ pageSizeLevels low high := by
          simp [pageSizeLevels]
        rw [hnil] at hself
        cases hself
      rw [List.getLast?_eq_some_getLast hne]
      exact List.getLast_mem hne

theorem nextHigherPageSize_mem {low high : Int} (current : Int) (hlow : 1 ≤ low) (hle : low ≤ high) :
    low ≤ nextHigherPageSize current low high ∧ nextHigherPageSize current low high ≤ high :=
  mem_pageSizeLevels hlow hle (nextHigherPageSize_level current low high)

theorem minPageSize_pos (cfg : Settings) : 1 ≤ minPageSize cfg := le_max_right ..

theorem minPageSize_le (hmin : cfg.chainWorkerMinPageSize ≤ cfg.chainWorkerPageSize) :
    minPageSize cfg ≤ cfg.chainWorkerPageSize := by
  have hpage := cfg.pageSize_pos
  unfold minPageSize orOne
  split <;> omega

theorem maxPageSize_eq (hmin : cfg.chainWorkerMinPageSize ≤ cfg.chainWorkerPageSize) :
    maxPageSize cfg = cfg.chainWorkerPageSize := by
  have hpage := cfg.pageSize_pos
  have hle := minPageSize_le hmin
  unfold maxPageSize orOne
  rw [if_neg (by omega)]
  omega

theorem max_minPageSize (hpauses : pauses capacity = false) :
    max (minPageSize cfg) capacity.recommendedPageSize =
      max cfg.chainWorkerMinPageSize capacity.recommendedPageSize := by
  have hrecommended : 1 ≤ capacity.recommendedPageSize := by
    simp only [pauses, Bool.or_eq_false_iff, decide_eq_false_iff_not] at hpauses
    omega
  unfold minPageSize orOne
  split <;> omega

theorem targetPageSize_bounds (hmin : cfg.chainWorkerMinPageSize ≤ cfg.chainWorkerPageSize) (capacity : Capacity) :
    1 ≤ targetPageSize cfg capacity ∧ targetPageSize cfg capacity ≤ cfg.chainWorkerPageSize ∧
      targetPageSize cfg capacity ≤ max (minPageSize cfg) capacity.recommendedPageSize := by
  have hpos := minPageSize_pos cfg
  have hle := minPageSize_le hmin
  unfold targetPageSize clampPageSize
  rw [maxPageSize_eq hmin]
  omega

def Nominal (cfg : Settings) (s : Pacing) : Prop :=
  1 ≤ s.effectiveChainPageSize ∧ s.effectiveChainPageSize ≤ cfg.chainWorkerPageSize

theorem adapt_cases (cfg : Settings) (capacity : Capacity) (s : Pacing) :
    (capacity.state = "healthy" ∧ s.effectiveChainPageSize < targetPageSize cfg capacity ∧
        (adapt cfg capacity s).effectiveChainPageSize = min (targetPageSize cfg capacity)
          (nextHigherPageSize s.effectiveChainPageSize (minPageSize cfg) (maxPageSize cfg))) ∨
      (capacity.state = "healthy" ∧ (adapt cfg capacity s).effectiveChainPageSize = s.effectiveChainPageSize) ∨
      capacity.state ≠ "healthy" ∧ (adapt cfg capacity s).effectiveChainPageSize =
        min s.effectiveChainPageSize (targetPageSize cfg capacity) := by
  unfold adapt
  simp only
  split
  · split
    · exact .inl ⟨‹_›, ‹_ ∧ _›.1, rfl⟩
    · exact .inr (.inl ⟨‹_›, rfl⟩)
  · exact .inr (.inr ⟨‹_›, rfl⟩)

theorem adapt_nominal (capacity : Capacity) (hmin : cfg.chainWorkerMinPageSize ≤ cfg.chainWorkerPageSize)
    (h : Nominal cfg s) :
    Nominal cfg (adapt cfg capacity s) := by
  obtain ⟨hlow, hhigh⟩ := h
  obtain ⟨htarget1, htarget2, -⟩ := targetPageSize_bounds hmin capacity
  have hpos := minPageSize_pos cfg
  have hle : minPageSize cfg ≤ maxPageSize cfg := le_max_right ..
  have hnext := nextHigherPageSize_mem s.effectiveChainPageSize hpos hle
  unfold Nominal
  rcases adapt_cases cfg capacity s with ⟨-, -, h⟩ | ⟨-, h⟩ | ⟨-, h⟩
  · omega
  · omega
  · omega

theorem paced_nominal (hmin : cfg.chainWorkerMinPageSize ≤ cfg.chainWorkerPageSize) (h : Nominal cfg s) :
    Nominal cfg (paced cfg capacity s) := by
  unfold paced
  split
  · exact adapt_nominal capacity hmin h
  · exact h

theorem step_nominal (hmin : cfg.chainWorkerMinPageSize ≤ cfg.chainWorkerPageSize) (h : Nominal cfg s)
    (hs : step cfg s round = some t) : Nominal cfg t := by
  cases round with
  | unconnected => exact Option.some.inj hs ▸ h
  | read capacity outcome =>
      simp only [step] at hs
      split at hs
      · exact Option.some.inj hs ▸ h
      · obtain ⟨outcome, -, rfl⟩ := Option.map_eq_some_iff.mp hs
        split
        · exact ⟨minPageSize_pos cfg, minPageSize_le hmin⟩
        · exact paced_nominal hmin h

theorem reach_nominal {G : Pacing → Round → Prop} (hmin : cfg.chainWorkerMinPageSize ≤ cfg.chainWorkerPageSize)
    (h : Reach (step cfg) G (start cfg) s) : Nominal cfg s := by
  refine h.invariant ?_ fun s round t hi _ hs => step_nominal hmin hi hs
  have hpage := cfg.pageSize_pos
  unfold Nominal start
  simp only
  omega

theorem adapt_within_iff (hmin : cfg.chainWorkerMinPageSize ≤ cfg.chainWorkerPageSize) (h : Nominal cfg s)
    (hpauses : pauses capacity = false) :
    Within cfg capacity (adapt cfg capacity s).effectiveChainPageSize ↔
      (capacity.state = "healthy" →
        s.effectiveChainPageSize ≤ max cfg.chainWorkerMinPageSize capacity.recommendedPageSize) := by
  have hadapted : Nominal cfg (adapt cfg capacity s) := adapt_nominal capacity hmin h
  obtain ⟨-, -, htarget⟩ := targetPageSize_bounds hmin capacity
  rw [max_minPageSize hpauses] at htarget
  have hwithin : Within cfg capacity (adapt cfg capacity s).effectiveChainPageSize ↔
      (adapt cfg capacity s).effectiveChainPageSize ≤ max cfg.chainWorkerMinPageSize capacity.recommendedPageSize :=
    ⟨fun h => h.2.2, fun h => ⟨hadapted.1, hadapted.2, h⟩⟩
  rw [hwithin]
  rcases adapt_cases cfg capacity s with ⟨hstate, hlt, h⟩ | ⟨hstate, h⟩ | ⟨hstate, h⟩
  · constructor
    · intro _ _
      omega
    · intro _
      omega
  · rw [h]
    exact ⟨fun hle _ => hle, fun hle => hle hstate⟩
  · constructor
    · exact fun _ hhealthy => absurd hhealthy hstate
    · intro _
      omega

theorem cycle_some {page : Int} {outcome : Option Outcome} (hadaptive : cfg.chainWorkerAdaptivePageEnabled = true)
    (h : cycle cfg s (.read capacity outcome) = some page) :
    pauses capacity = false ∧ page = cyclePageSize cfg (adapt cfg capacity s).effectiveChainPageSize := by
  simp only [cycle, hadaptive, if_true, paced] at h
  split at h
  · cases h
  · exact ⟨Bool.eq_false_iff.mpr ‹_›, (Option.some.inj h).symm⟩

def Bounded (cfg : Settings) (s : Pacing) (reports : List Report) : Prop :=
  s.effectiveChainPageSize ≤ ceiling cfg reports ∧ s.healthyCapacityCycles ≤ streak reports

theorem streak_nonneg (reports : List Report) : 0 ≤ streak reports := by
  induction reports with
  | nil => exact le_rfl
  | cons r reports ih =>
      unfold streak
      split <;> omega

theorem adapt_bounded {reports : List Report} (h : Bounded cfg s reports) :
    Bounded cfg (adapt cfg capacity s) (⟨capacity, false⟩ :: reports) := by
  obtain ⟨hpage, hcycles⟩ := h
  unfold Bounded adapt ceiling streak
  by_cases hstate : capacity.state = "healthy"
  · simp only [hstate, if_true, ne_eq, not_true_eq_false, or_false, Bool.false_eq_true, if_false]
    have hstreak := streak_nonneg reports
    split
    · rename_i hgrows
      rw [if_pos (by omega)]
      exact ⟨(min_le_left ..).trans (le_max_right ..), by simp only; omega⟩
    · refine ⟨?_, by simp only; omega⟩
      split
      · exact hpage.trans (le_max_left ..)
      · exact hpage
  · simp only [hstate, if_false, ne_eq, not_false_eq_true, or_true, if_true, Bool.false_eq_true]
    exact ⟨by omega, le_rfl⟩

theorem told_bounded {w w' : Told} (hadaptive : cfg.chainWorkerAdaptivePageEnabled = true)
    (h : Bounded cfg w.pacing w.reports) (hs : told cfg w round = some w') : Bounded cfg w'.pacing w'.reports := by
  obtain ⟨t, ht, rfl⟩ := Option.map_eq_some_iff.mp hs
  cases round with
  | unconnected => exact Option.some.inj ht ▸ h
  | read capacity outcome =>
      simp only [step] at ht
      simp only [reportOf]
      split at ht
      · rename_i hnone
        rw [hnone]
        exact Option.some.inj ht ▸ h
      · rename_i page hpage
        obtain ⟨outcome, rfl, rfl⟩ := Option.map_eq_some_iff.mp ht
        simp only [hpage, Option.bind_some, Option.map_some, Option.toList_some, List.singleton_append]
        split
        · rename_i hsaturated
          simp [Bounded, ceiling, streak, hsaturated]
        · rename_i hpaced
          rw [Bool.eq_false_iff.mpr hpaced, paced, if_pos hadaptive]
          exact adapt_bounded h

theorem reach_bounded {G : Told → Round → Prop} {w : Told} (hadaptive : cfg.chainWorkerAdaptivePageEnabled = true)
    (h : Reach (told cfg) G ⟨start cfg, []⟩ w) : Bounded cfg w.pacing w.reports := by
  refine h.invariant ⟨?_, le_rfl⟩ fun w round w' hi _ hs => told_bounded hadaptive hi hs
  have hpage := cfg.pageSize_pos
  simp only [start, ceiling]
  omega

theorem told_reach {G : Told → Round → Prop} {w : Told} (h : Reach (told cfg) G ⟨start cfg, []⟩ w) :
    Reach (step cfg) Free (start cfg) w.pacing := by
  induction h with
  | init => exact .init
  | next _ _ hs ih =>
      obtain ⟨t, ht, rfl⟩ := Option.map_eq_some_iff.mp hs
      exact .next ih trivial ht

/-- The pacing respects the capacity: where the minimum is not above the nominal page size, each
cycle of each run stays within its bounds whose report, if it is healthy, does not recommend less
than the reports before it leave. -/
theorem pacing_respects_capacity (hadaptive : cfg.chainWorkerAdaptivePageEnabled = true)
    (hmin : cfg.chainWorkerMinPageSize ≤ cfg.chainWorkerPageSize) {w : Told}
    (h : Reach (told cfg) Free ⟨start cfg, []⟩ w) {outcome : Option Outcome} {page : Int}
    (hpage : cycle cfg w.pacing (.read capacity outcome) = some page)
    (hmodest : Modest cfg w (.read capacity outcome)) :
    Within cfg capacity page := by
  have hnominal := reach_nominal hmin (told_reach h)
  obtain ⟨hpauses, rfl⟩ := cycle_some hadaptive hpage
  have hadapted := adapt_nominal capacity hmin hnominal
  have hcycle : cyclePageSize cfg (adapt cfg capacity w.pacing).effectiveChainPageSize =
      (adapt cfg capacity w.pacing).effectiveChainPageSize := by
    have hpos := hadapted.1
    unfold cyclePageSize
    rw [if_neg (by omega)]
    omega
  rw [hcycle, adapt_within_iff hmin hnominal hpauses]
  exact fun hstate => (reach_bounded hadaptive h).1.trans (hmodest hpauses hstate)

def defaults : Settings where
  pageSize_pos := by decide
  rpcBatchSize_pos := by decide
  rpcBatchSize_le := by decide

def steady : Capacity := ⟨true, "healthy", 100⟩

def healthy (recommended : Int) : Round := .read ⟨true, "healthy", recommended⟩ (some ⟨0, 0, 0⟩)

def recovery : List Round :=
  [.unconnected, .read steady (some ⟨100, 100, 100⟩), .read ⟨true, "stalled", 5⟩ none,
    .read ⟨true, "degraded", 50⟩ (some ⟨1, 0, 0⟩), healthy 5, healthy 5, healthy 5]

theorem pacing_respects_capacity_recovery : ∃ w, run (told defaults) recovery ⟨start defaults, []⟩ = some w ∧
    ceiling defaults w.reports = 5 ∧ cycle defaults w.pacing (healthy 10) = some 5 ∧
    Within defaults ⟨true, "healthy", 10⟩ 5 := by
  obtain ⟨w, hw, hceiling, hpage⟩ : ∃ w, run (told defaults) recovery ⟨start defaults, []⟩ = some w ∧
      ceiling defaults w.reports = 5 ∧ cycle defaults w.pacing (healthy 10) = some 5 := ⟨_, rfl, by decide, by decide⟩
  refine ⟨w, hw, hceiling, hpage, pacing_respects_capacity rfl (by decide) (run_reach hw) hpage fun _ _ => ?_⟩
  rw [hceiling]
  decide

/-- A first healthy report of less than the nominal page size is ignored. And a minimum above the
nominal page size is reached after three healthy rounds. -/
theorem pacing_exceeds_capacity :
    (∃ page, cycle defaults (start defaults) (.read ⟨true, "healthy", 10⟩ none) = some page ∧
        ¬Within defaults ⟨true, "healthy", 10⟩ page) ∧
      ∃ cfg s page, Reach (step cfg) Free (start cfg) s ∧ cycle cfg s (.read steady none) = some page ∧
        cfg.chainWorkerPageSize < page := by
  constructor
  · exact ⟨100, by decide, fun h => absurd h.2.2 (by decide)⟩
  · let cfg : Settings :=
      { chainWorkerPageSize := 2, chainWorkerRpcBatchSize := 1, chainWorkerMinPageSize := 7, pageSize_pos := by decide,
        rpcBatchSize_pos := by decide, rpcBatchSize_le := by decide }
    have hrun : run (step cfg) [.read steady (some ⟨0, 0, 0⟩), .read steady (some ⟨0, 0, 0⟩)] (start cfg) =
        some ⟨2, 2⟩ := by rfl
    exact ⟨cfg, _, 7, run_reach hrun, by decide, by decide⟩

end DarkMinter.ChainPacing
