import DarkMinter.ChainPacing

namespace DarkMinter.PageGrowth

open ChainPacing Lib.Runs

/-- The pacing with the number of healthy reports in a row since the last other report, pause or
increase. -/
structure Loop where
  pacing : Pacing
  healthyReports : Nat := 0

def isHealthyReport (capacity : Capacity) : Bool := !pauses capacity && capacity.state = "healthy"

def reported (cfg : Settings) (s : Pacing) (capacity : Capacity) : Pacing :=
  if pauses capacity then s else paced cfg capacity s

def grows (cfg : Settings) (s : Pacing) (capacity : Capacity) : Prop :=
  s.effectiveChainPageSize < (reported cfg s capacity).effectiveChainPageSize

instance (cfg : Settings) (s : Pacing) (capacity : Capacity) : Decidable (grows cfg s capacity) :=
  inferInstanceAs (Decidable (_ < _))

def isSaturated (cfg : Settings) (s : Pacing) (round : Round) : Bool :=
  match round with
  | .unconnected => false
  | .read _ outcome => (cycle cfg s round).any fun page => outcome.any fun outcome => saturated page outcome

def countHealthy (cfg : Settings) (s : Loop) : Round → Nat
  | .unconnected => s.healthyReports
  | .read capacity outcome =>
      if isHealthyReport capacity = true ∧ ¬grows cfg s.pacing capacity ∧
        isSaturated cfg s.pacing (.read capacity outcome) = false then s.healthyReports + 1 else 0

def step (cfg : Settings) (s : Loop) (round : Round) : Option Loop :=
  (ChainPacing.step cfg s.pacing round).map fun pacing => ⟨pacing, countHealthy cfg s round⟩

def start (cfg : Settings) : Loop := { pacing := ChainPacing.start cfg }

def levels (cfg : Settings) : List Int := pageSizeLevels (minPageSize cfg) (maxPageSize cfg)

def NextLevel (cfg : Settings) (current level : Int) : Prop :=
  level ∈ levels cfg ∧ current < level ∧ ∀ other ∈ levels cfg, current < other → level ≤ other

/-- The page size of a report grows after enough healthy reports, this one included, and to the
next level at most. -/
def GrowsSlowly (cfg : Settings) (s : Loop) : Prop :=
  ∀ capacity, grows cfg s.pacing capacity →
    isHealthyReport capacity = true ∧ cfg.chainWorkerHealthyCyclesBeforeGrowing ≤ s.healthyReports + 1 ∧
      ∃ level, NextLevel cfg s.pacing.effectiveChainPageSize level ∧
        (reported cfg s.pacing capacity).effectiveChainPageSize ≤ level

def GrowsByReport (cfg : Settings) (s : Loop) (round : Round) (t : Loop) : Prop :=
  s.pacing.effectiveChainPageSize < t.pacing.effectiveChainPageSize →
    ∃ capacity outcome, round = .read capacity outcome ∧ grows cfg s.pacing capacity ∧
      t.pacing.effectiveChainPageSize ≤ (reported cfg s.pacing capacity).effectiveChainPageSize

/-- A report that pauses the loop finds no healthy report counted, and a round whose full page
congestion defers finds a page size of at least the minimum. -/
def Reset (cfg : Settings) (s : Loop) (round : Round) : Prop :=
  ∀ capacity outcome, round = .read capacity outcome →
    (pauses capacity = true → s.pacing.healthyCapacityCycles = 0) ∧
      (isSaturated cfg s.pacing round = true → minPageSize cfg ≤ s.pacing.effectiveChainPageSize)

variable {cfg : Settings} {s t : Loop} {capacity : Capacity} {outcome : Option Outcome} {round : Round}

theorem pageSizeLevels_sorted (low high : Int) : (pageSizeLevels low high).Pairwise (· ≤ ·) :=
  List.pairwise_insertionSort _ _

theorem find_least {p : Int → Bool} {sizes : List Int} {level other : Int} (hsorted : sizes.Pairwise (· ≤ ·))
    (hfind : sizes.find? p = some level) (hmem : other ∈ sizes) (hother : p other = true) : level ≤ other := by
  induction sizes with
  | nil => cases hmem
  | cons size sizes ih =>
      obtain ⟨hsize, hsorted⟩ := List.pairwise_cons.mp hsorted
      rw [List.find?_cons] at hfind
      split at hfind
      · obtain rfl := Option.some.inj hfind
        rcases List.mem_cons.mp hmem with rfl | hmem
        · exact Int.le_refl _
        · exact hsize other hmem
      · rename_i hskipped
        rcases List.mem_cons.mp hmem with rfl | hmem
        · rw [hother] at hskipped
          cases hskipped
        · exact ih hsorted hfind hmem

theorem nextHigherPageSize_least {low high current level : Int} (hmem : level ∈ pageSizeLevels low high)
    (hlevel : current < level) : nextHigherPageSize current low high ≤ level := by
  have hsorted := pageSizeLevels_sorted low high
  unfold nextHigherPageSize
  simp only
  cases hfind : (pageSizeLevels low high).find? (current < ·) with
  | some next => exact find_least hsorted hfind hmem (decide_eq_true hlevel)
  | none => exact absurd hlevel (by simpa using List.find?_eq_none.mp hfind level hmem)

inductive Reported (cfg : Settings) (s : Pacing) (capacity : Capacity) : Pacing → Prop
  | ignored (h : pauses capacity = true ∨ cfg.chainWorkerAdaptivePageEnabled = false) : Reported cfg s capacity s
  | grown (hhealthy : isHealthyReport capacity = true)
      (hcycles : max (orOne cfg.chainWorkerHealthyCyclesBeforeGrowing) 1 ≤ s.healthyCapacityCycles + 1)
      (htarget : s.effectiveChainPageSize < targetPageSize cfg capacity) :
      Reported cfg s capacity ⟨min (targetPageSize cfg capacity)
        (nextHigherPageSize s.effectiveChainPageSize (minPageSize cfg) (maxPageSize cfg)), 0⟩
  | counted (hhealthy : isHealthyReport capacity = true) (hadaptive : cfg.chainWorkerAdaptivePageEnabled = true) :
      Reported cfg s capacity { s with healthyCapacityCycles := s.healthyCapacityCycles + 1 }
  | shrunk (hhealthy : isHealthyReport capacity = false) :
      Reported cfg s capacity ⟨min s.effectiveChainPageSize (targetPageSize cfg capacity), 0⟩

theorem reported_cases (cfg : Settings) (s : Pacing) (capacity : Capacity) :
    Reported cfg s capacity (reported cfg s capacity) := by
  unfold reported paced
  split
  · exact .ignored (.inl ‹_›)
  · rename_i hpauses
    have hreads : isHealthyReport capacity = decide (capacity.state = "healthy") := by
      rw [isHealthyReport, Bool.eq_false_iff.mpr hpauses, Bool.not_false, Bool.true_and]
    split
    · rename_i hadaptive
      unfold adapt
      simp only
      split
      · rename_i hstate
        have hhealthy : isHealthyReport capacity = true := hreads.trans (decide_eq_true hstate)
        split
        · rename_i hgrow
          exact .grown hhealthy hgrow.2 hgrow.1
        · exact .counted hhealthy hadaptive
      · rename_i hstate
        exact .shrunk (hreads.trans (decide_eq_false hstate))
    · rename_i hadaptive
      exact .ignored (.inr (Bool.eq_false_iff.mpr hadaptive))

/-- The counter of the loop is behind the reports that it is to count. -/
structure Behind (cfg : Settings) (s : Loop) : Prop where
  counter : s.pacing.healthyCapacityCycles ≤ s.healthyReports
  fixed : cfg.chainWorkerAdaptivePageEnabled = false → s.pacing.healthyCapacityCycles = 0

theorem growsSlowly (hi : Behind cfg s) : GrowsSlowly cfg s := by
  intro capacity hgrows
  have hcounter := hi.counter
  unfold grows at hgrows
  generalize hr : reported cfg s.pacing capacity = r at hgrows ⊢
  have hcases := reported_cases cfg s.pacing capacity
  rw [hr] at hcases
  cases hcases with
  | ignored => exact absurd hgrows (Int.lt_irrefl _)
  | counted => exact absurd hgrows (Int.lt_irrefl _)
  | shrunk =>
      simp only at hgrows
      omega
  | grown hhealthy hcycles htarget =>
      simp only at hgrows
      have hlevel : NextLevel cfg s.pacing.effectiveChainPageSize
          (nextHigherPageSize s.pacing.effectiveChainPageSize (minPageSize cfg) (maxPageSize cfg)) :=
        ⟨nextHigherPageSize_level .., by omega, fun other hmem hother => nextHigherPageSize_least hmem hother⟩
      refine ⟨hhealthy, ?_, _, hlevel, Int.min_le_right ..⟩
      unfold orOne at hcycles
      split at hcycles <;> omega

theorem step_read (hs : step cfg s (.read capacity outcome) = some t) :
    t.healthyReports = countHealthy cfg s (.read capacity outcome) ∧
      t.pacing = if isSaturated cfg s.pacing (.read capacity outcome) then ⟨minPageSize cfg, 0⟩
        else reported cfg s.pacing capacity := by
  obtain ⟨pacing, hpacing, rfl⟩ := Option.map_eq_some_iff.mp hs
  refine ⟨rfl, ?_⟩
  simp only [ChainPacing.step] at hpacing
  by_cases hpauses : pauses capacity = true
  · have hcycle : cycle cfg s.pacing (.read capacity outcome) = none := if_pos hpauses
    simp only [hcycle, Option.some.injEq] at hpacing
    rw [isSaturated, hcycle, reported, if_pos hpauses]
    exact hpacing.symm
  · obtain ⟨page, hcycle⟩ : ∃ page, cycle cfg s.pacing (.read capacity outcome) = some page := ⟨_, if_neg hpauses⟩
    simp only [hcycle] at hpacing
    obtain ⟨outcome, rfl, rfl⟩ := Option.map_eq_some_iff.mp hpacing
    rw [isSaturated, hcycle, reported, if_neg hpauses]
    rfl

theorem counter_le {pacing : Pacing} (hi : Behind cfg s) (hcases : Reported cfg s.pacing capacity pacing)
    (hg : pauses capacity = true → s.pacing.healthyCapacityCycles = 0) :
    pacing.healthyCapacityCycles ≤ if isHealthyReport capacity = true ∧
      ¬s.pacing.effectiveChainPageSize < pacing.effectiveChainPageSize then ((s.healthyReports + 1 : Nat) : Int)
      else 0 := by
  have hcounter := hi.counter
  cases hcases with
  | ignored h =>
      have hzero : s.pacing.healthyCapacityCycles = 0 := h.elim hg hi.fixed
      split <;> omega
  | grown | shrunk =>
      simp only
      split <;> omega
  | counted hhealthy _ =>
      rw [if_pos ⟨hhealthy, Int.lt_irrefl _⟩]
      simp only
      omega

theorem fixed_reported {pacing : Pacing} (hi : Behind cfg s) (hcases : Reported cfg s.pacing capacity pacing)
    (hfixed : cfg.chainWorkerAdaptivePageEnabled = false) : pacing.healthyCapacityCycles = 0 := by
  cases hcases with
  | ignored => exact hi.fixed hfixed
  | grown | shrunk => rfl
  | counted _ hadaptive =>
      rw [hfixed] at hadaptive
      cases hadaptive

theorem step_behind (hi : Behind cfg s) (hg : Reset cfg s round) (hs : step cfg s round = some t) :
    Behind cfg t := by
  cases round with
  | unconnected =>
      obtain ⟨pacing, hpacing, rfl⟩ := Option.map_eq_some_iff.mp hs
      obtain rfl := Option.some.inj hpacing
      exact ⟨hi.counter, hi.fixed⟩
  | read capacity outcome =>
      obtain ⟨hhealthy, hpacing⟩ := step_read hs
      have hcases := reported_cases cfg s.pacing capacity
      have hcounter := counter_le hi hcases (hg capacity outcome rfl).1
      by_cases hsaturated : isSaturated cfg s.pacing (.read capacity outcome) = true
      · rw [if_pos hsaturated] at hpacing
        constructor
        · rw [hpacing]
          exact Int.natCast_nonneg _
        · intro _
          rw [hpacing]
      · rw [if_neg hsaturated] at hpacing
        constructor
        · rw [hpacing, hhealthy]
          refine Int.le_trans hcounter ?_
          simp only [countHealthy, Bool.eq_false_iff.mpr hsaturated, and_true, grows]
          split <;> simp
        · rw [hpacing]
          exact fixed_reported hi hcases

theorem reach_behind (h : Reach (step cfg) (Reset cfg) (start cfg) s) : Behind cfg s := by
  apply h.invariant
  · exact ⟨Int.le_refl 0, fun _ => rfl⟩
  · exact fun _ _ _ hi hg hs => step_behind hi hg hs

theorem reported_ge_min {s pacing : Pacing} (hcases : Reported cfg s capacity pacing)
    (hmin : minPageSize cfg ≤ s.effectiveChainPageSize) : minPageSize cfg ≤ pacing.effectiveChainPageSize := by
  have htarget : minPageSize cfg ≤ targetPageSize cfg capacity := Int.le_max_right ..
  have hle : minPageSize cfg ≤ maxPageSize cfg := Int.le_max_right ..
  have hlevel := nextHigherPageSize_mem s.effectiveChainPageSize (minPageSize_pos cfg) hle
  cases hcases with
  | ignored | counted => exact hmin
  | grown => exact Int.le_min.mpr ⟨htarget, hlevel.1⟩
  | shrunk => exact Int.le_min.mpr ⟨hmin, htarget⟩

theorem growsByReport (hg : Reset cfg s round) (hs : step cfg s round = some t) : GrowsByReport cfg s round t := by
  intro hlarger
  cases round with
  | unconnected =>
      obtain ⟨pacing, hpacing, rfl⟩ := Option.map_eq_some_iff.mp hs
      obtain rfl := Option.some.inj hpacing
      exact absurd hlarger (Int.lt_irrefl _)
  | read capacity outcome =>
      obtain ⟨-, hpacing⟩ := step_read hs
      have hle : t.pacing.effectiveChainPageSize ≤ (reported cfg s.pacing capacity).effectiveChainPageSize := by
        rw [hpacing]
        split
        · exact reported_ge_min (reported_cases cfg s.pacing capacity) ((hg capacity outcome rfl).2 ‹_›)
        · exact Int.le_refl _
      exact ⟨capacity, outcome, rfl, Int.lt_of_lt_of_le hlarger hle, hle⟩

/-- The page grows conservatively in every run in which each pause finds no healthy report counted
and no round that congestion defers finds a page below the minimum. -/
theorem page_grows_conservatively (h : Reach (step cfg) (Reset cfg) (start cfg) s) :
    GrowsSlowly cfg s ∧ ∀ round t, Reset cfg s round → step cfg s round = some t → GrowsByReport cfg s round t :=
  ⟨growsSlowly (reach_behind h), fun _ _ hg hs => growsByReport hg hs⟩

section Sample

def congested : Capacity := ⟨true, "congested", 10⟩

def unavailable : Capacity := ⟨false, "unavailable", 0⟩

def fine : Option Outcome := some ⟨0, 0, 0⟩

theorem page_grows_conservatively_congested :
    ∃ s, Reach (step defaults) (Reset defaults) (start defaults) s ∧ s.pacing.effectiveChainPageSize = 10 ∧
      GrowsSlowly defaults s := by
  have hreach : Reach (step defaults) (Reset defaults) (start defaults) ⟨⟨10, 0⟩, 0⟩ := by
    refine .next .init (a := .read congested fine) ?_ (by rfl)
    rintro _ _ ⟨⟩
    exact ⟨by decide, by decide⟩
  exact ⟨_, hreach, rfl, (page_grows_conservatively hreach).1⟩

/-- The two healthy reports before an outage still count after it. -/
theorem page_grows_after_pause :
    ∃ s, Reach (step defaults) Free (start defaults) s ∧ s.healthyReports = 0 ∧
      grows defaults s.pacing steady ∧ (reported defaults s.pacing steady).effectiveChainPageSize = 100 ∧
        ¬GrowsSlowly defaults s := by
  have hrun : run (step defaults) [.read congested fine, .read steady fine, .read steady fine, .read unavailable fine]
      (start defaults) = some ⟨⟨10, 2⟩, 0⟩ := by rfl
  refine ⟨_, run_reach hrun, rfl, by decide, by decide, fun h => ?_⟩
  exact absurd (h steady (by decide)).2.1 (by decide)

end Sample

end DarkMinter.PageGrowth
