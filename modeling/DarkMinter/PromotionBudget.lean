import DarkMinter.Lib.Runs
import Mathlib.Algebra.Order.Field.Rat
import Mathlib.Order.Monotone.Basic
import Mathlib.Tactic.Linarith
import Mathlib.Tactic.NormNum

namespace DarkMinter.PromotionBudget

open Lib.Runs

structure Promotion where
  batchSize : Int
  minBatchSize : Int
  pressureHighPercent : Int
  pressureMediumPercent : Int
  minBatchSize_pos : 1 ≤ minBatchSize
  minBatchSize_le : minBatchSize ≤ batchSize
  medium_pos : 0 < pressureMediumPercent
  medium_lt : pressureMediumPercent < pressureHighPercent
  high_le : pressureHighPercent ≤ 100

/-- The clamping of the constructor. It leaves no medium band below a high threshold of 1, which
`validate_replication_thresholds` refuses. -/
def Promotion.init (batch minBatch high medium : Int) (hhigh : 2 ≤ high) : Promotion where
  batchSize := min (max batch 1) 200
  minBatchSize := min (max minBatch 1) (min (max batch 1) 200)
  pressureHighPercent := min (max high 1) 100
  pressureMediumPercent := min (max medium 1) (min (max high 1) 100 - 1)
  minBatchSize_pos := by omega
  minBatchSize_le := by omega
  medium_pos := by omega
  medium_lt := by omega
  high_le := by omega

/-- The replicas of one observed CID that Cluster has still to pin. -/
structure PinQueue where
  queuedReplicas : Int := 0
  pinningReplicas : Int := 0

structure Budget where
  effectivePromotionBatchSize : Int
  lowPressureCycles : Nat

def pressured (status : PinQueue) : Bool := 0 < status.queuedReplicas || 0 < status.pinningReplicas

def pressurePercent (observed : List PinQueue) : ℚ :=
  if observed = [] then 0 else 100 * observed.countP pressured / observed.length

def halfBatch (cfg : Promotion) : Int := max cfg.minBatchSize (cfg.batchSize / 2)

def updatePromotionBudget (cfg : Promotion) (pressure : ℚ) (s : Budget) : Budget :=
  if (cfg.pressureHighPercent : ℚ) ≤ pressure then ⟨cfg.minBatchSize, 0⟩
  else if (cfg.pressureMediumPercent : ℚ) ≤ pressure then ⟨halfBatch cfg, 0⟩
  else if pressure < 25 then
    if 3 ≤ s.lowPressureCycles + 1 then ⟨cfg.batchSize, s.lowPressureCycles + 1⟩
    else { s with lowPressureCycles := s.lowPressureCycles + 1 }
  else ⟨cfg.batchSize, 0⟩

def start (cfg : Promotion) : Budget := ⟨cfg.batchSize, 0⟩

def step (cfg : Promotion) (s : Budget) (observed : List PinQueue) : Option Budget :=
  some (updatePromotionBudget cfg (pressurePercent observed) s)

def budget (cfg : Promotion) (s : Budget) (pressure : ℚ) : Int :=
  (updatePromotionBudget cfg pressure s).effectivePromotionBatchSize

def Bounded (cfg : Promotion) (s : Budget) : Prop :=
  cfg.minBatchSize ≤ s.effectivePromotionBatchSize ∧ s.effectivePromotionBatchSize ≤ cfg.batchSize

/-- What the first band above low pressure gives at once. -/
def nextBand (cfg : Promotion) : Int := if 25 < cfg.pressureMediumPercent then cfg.batchSize else halfBatch cfg

/-- No lower pressure gets a smaller budget than a higher one. -/
def Monotone (cfg : Promotion) (s : Budget) : Prop :=
  ∀ low high : List PinQueue, pressurePercent low ≤ pressurePercent high →
    budget cfg s (pressurePercent high) ≤ budget cfg s (pressurePercent low)

variable {cfg : Promotion} {s t : Budget} {p q : ℚ}

theorem halfBatch_bounds (cfg : Promotion) : cfg.minBatchSize ≤ halfBatch cfg ∧ halfBatch cfg ≤ cfg.batchSize := by
  have hmin := cfg.minBatchSize_pos
  have hle := cfg.minBatchSize_le
  unfold halfBatch
  omega

theorem update_bounded (h : Bounded cfg s) : Bounded cfg (updatePromotionBudget cfg p s) := by
  have hle := cfg.minBatchSize_le
  unfold updatePromotionBudget
  split
  · exact ⟨le_rfl, hle⟩
  · split
    · exact halfBatch_bounds cfg
    · split
      · split
        · exact ⟨hle, le_rfl⟩
        · exact h
      · exact ⟨hle, le_rfl⟩

theorem reach_bounded {G : Budget → List PinQueue → Prop} (h : Reach (step cfg) G (start cfg) s) :
    Bounded cfg s := by
  apply h.invariant
  · exact ⟨cfg.minBatchSize_le, le_rfl⟩
  · intro s observed t hs _ hstep
    exact Option.some.inj hstep ▸ update_bounded hs

theorem budget_high (h : (cfg.pressureHighPercent : ℚ) ≤ p) : budget cfg s p = cfg.minBatchSize := by
  simp only [budget, updatePromotionBudget, if_pos h]

theorem budget_medium (hhigh : p < cfg.pressureHighPercent) (hmedium : (cfg.pressureMediumPercent : ℚ) ≤ p) :
    budget cfg s p = halfBatch cfg := by
  simp only [budget, updatePromotionBudget, if_neg (not_le.mpr hhigh), if_pos hmedium]

theorem medium_lt_high (cfg : Promotion) : (cfg.pressureMediumPercent : ℚ) < cfg.pressureHighPercent :=
  Int.cast_lt.mpr cfg.medium_lt

theorem budget_between (hmedium : p < cfg.pressureMediumPercent) (hlow : 25 ≤ p) :
    budget cfg s p = cfg.batchSize := by
  have hhigh : p < cfg.pressureHighPercent := hmedium.trans (medium_lt_high cfg)
  simp only [budget, updatePromotionBudget, if_neg (not_le.mpr hhigh), if_neg (not_le.mpr hmedium),
    if_neg (not_lt.mpr hlow)]

theorem budget_low (hmedium : p < cfg.pressureMediumPercent) (hlow : p < 25) :
    budget cfg s p = if 2 ≤ s.lowPressureCycles then cfg.batchSize else s.effectivePromotionBatchSize := by
  have hhigh : p < cfg.pressureHighPercent := hmedium.trans (medium_lt_high cfg)
  simp only [budget, updatePromotionBudget, if_neg (not_le.mpr hhigh), if_neg (not_le.mpr hmedium), if_pos hlow]
  by_cases hcycles : 2 ≤ s.lowPressureCycles
  · rw [if_pos hcycles, if_pos (by omega)]
  · rw [if_neg hcycles, if_neg (by omega)]

theorem budget_bounds (h : Bounded cfg s) : cfg.minBatchSize ≤ budget cfg s p ∧ budget cfg s p ≤ cfg.batchSize :=
  update_bounded h

theorem budget_anti_of_medium (h : Bounded cfg s) (hp : (cfg.pressureMediumPercent : ℚ) ≤ p) (hpq : p ≤ q) :
    budget cfg s q ≤ budget cfg s p := by
  rcases lt_or_ge q (cfg.pressureHighPercent : ℚ) with hq | hq
  · rw [budget_medium hq (hp.trans hpq), budget_medium (hpq.trans_lt hq) hp]
  · rw [budget_high hq]
    exact (budget_bounds h).1

theorem budget_le_half (hmedium : (cfg.pressureMediumPercent : ℚ) ≤ p) : budget cfg s p ≤ halfBatch cfg := by
  rcases lt_or_ge p (cfg.pressureHighPercent : ℚ) with hhigh | hhigh
  · rw [budget_medium hhigh hmedium]
  · rw [budget_high hhigh]
    exact (halfBatch_bounds cfg).1

theorem halfBatch_le_nextBand (cfg : Promotion) : halfBatch cfg ≤ nextBand cfg := by
  unfold nextBand
  split
  · exact (halfBatch_bounds cfg).2
  · exact le_rfl

theorem budget_le_nextBand (h : Bounded cfg s) (hp : (cfg.pressureMediumPercent : ℚ) ≤ p ∨ 25 ≤ p) :
    budget cfg s p ≤ nextBand cfg := by
  rcases le_or_gt (cfg.pressureMediumPercent : ℚ) p with hmedium | hmedium
  · exact (budget_le_half hmedium).trans (halfBatch_le_nextBand cfg)
  · have hlow : 25 ≤ p := hp.resolve_left (not_le.mpr hmedium)
    have hlt : (25 : ℚ) < cfg.pressureMediumPercent := hlow.trans_lt hmedium
    rw [nextBand, if_pos (by exact_mod_cast hlt)]
    exact (budget_bounds h).2

def sample (n : Nat) : List PinQueue := List.replicate n ⟨1, 0⟩ ++ List.replicate (100 - n) ⟨0, 0⟩

theorem pressurePercent_sample {n : Nat} (h : n ≤ 100) : pressurePercent (sample n) = n := by
  have hlength : (sample n).length = 100 := by
    simp only [sample, List.length_append, List.length_replicate]
    omega
  have hcount : (sample n).countP pressured = n := by
    simp [sample, List.countP_append, List.countP_replicate, pressured]
  have hne : sample n ≠ [] := by
    intro hnil
    rw [hnil] at hlength
    cases hlength
  rw [pressurePercent, if_neg hne, hcount, hlength]
  norm_num

theorem monotone_of_nextBand (h : Bounded cfg s)
    (hnext : 2 ≤ s.lowPressureCycles ∨ nextBand cfg ≤ s.effectivePromotionBatchSize) : Monotone cfg s := by
  intro low high hle
  generalize pressurePercent low = p at hle ⊢
  generalize pressurePercent high = q at hle ⊢
  rcases le_or_gt (cfg.pressureMediumPercent : ℚ) p with hmedium | hmedium
  · exact budget_anti_of_medium h hmedium hle
  · rcases lt_or_ge p 25 with hlow | hlow
    · rw [budget_low hmedium hlow]
      rcases lt_or_ge q 25 with hqlow | hqlow
      · rcases le_or_gt (cfg.pressureMediumPercent : ℚ) q with hqmedium | hqmedium
        · split
          · exact (budget_bounds h).2
          · exact (budget_le_nextBand h (.inl hqmedium)).trans (hnext.resolve_left ‹_›)
        · rw [budget_low hqmedium hqlow]
      · split
        · exact (budget_bounds h).2
        · exact (budget_le_nextBand h (.inr hqlow)).trans (hnext.resolve_left ‹_›)
    · rw [budget_between hmedium hlow]
      exact (budget_bounds h).2

theorem nextBand_of_monotone (h : Monotone cfg s) :
    2 ≤ s.lowPressureCycles ∨ nextBand cfg ≤ s.effectivePromotionBatchSize := by
  by_contra hnot
  obtain ⟨hcycles, hnext⟩ := not_or.mp hnot
  have hpos : (0 : ℚ) < cfg.pressureMediumPercent := by exact_mod_cast cfg.medium_pos
  have hlow : budget cfg s 0 = s.effectivePromotionBatchSize := by
    rw [budget_low hpos (by norm_num), if_neg hcycles]
  obtain ⟨n, hn, hband⟩ : ∃ n ≤ 100, budget cfg s (n : Nat) = nextBand cfg := by
    unfold nextBand
    split
    · refine ⟨25, by omega, budget_between ?_ (by norm_num)⟩
      exact_mod_cast ‹25 < cfg.pressureMediumPercent›
    · have hmedium := cfg.medium_pos
      have hlt := cfg.medium_lt
      have hhigh := cfg.high_le
      obtain ⟨n, hn⟩ := Int.eq_ofNat_of_zero_le hmedium.le
      refine ⟨n, by omega, budget_medium ?_ ?_⟩
      · exact_mod_cast hn ▸ hlt
      · rw [hn]
        exact le_rfl
  have hmono := h (sample 0) (sample n)
  rw [pressurePercent_sample (Nat.zero_le _), pressurePercent_sample hn, hband, Nat.cast_zero, hlow] at hmono
  exact hnext (hmono (Nat.cast_nonneg n))

/-- The budget stays within its bounds, and it is monotone from exactly the states with a budget of
at least the next band, or two low cycles. -/
theorem promotion_budget_monotone (h : Reach (step cfg) Free (start cfg) s) :
    (∀ observed, cfg.minBatchSize ≤ budget cfg s (pressurePercent observed) ∧
        budget cfg s (pressurePercent observed) ≤ cfg.batchSize) ∧
      (Monotone cfg s ↔ 2 ≤ s.lowPressureCycles ∨ nextBand cfg ≤ s.effectivePromotionBatchSize) := by
  have hbounded := reach_bounded h
  exact ⟨fun observed => budget_bounds hbounded, nextBand_of_monotone, monotone_of_nextBand hbounded⟩

def defaults : Promotion := .init 100 20 80 50 (by decide)

theorem high_sample : updatePromotionBudget defaults (pressurePercent (sample 80)) (start defaults) = ⟨20, 0⟩ := by
  rw [pressurePercent_sample (by decide), updatePromotionBudget, if_pos]
  · rfl
  · norm_num [defaults, Promotion.init]

theorem promotion_budget_monotone_recovery : ∃ s, Reach (step defaults) Free (start defaults) s ∧
    s = ⟨20, 2⟩ ∧ Monotone defaults s := by
  have hlow : ∀ n, n ≤ 1 → updatePromotionBudget defaults (pressurePercent (sample 20)) ⟨20, n⟩ = ⟨20, n + 1⟩ := by
    intro n hn
    rw [pressurePercent_sample (by decide), updatePromotionBudget, if_neg, if_neg, if_pos, if_neg]
    · exact Nat.not_le_of_lt (Nat.add_lt_add_right (Nat.lt_succ_of_le hn) 1)
    · norm_num
    · norm_num [defaults, Promotion.init]
    · norm_num [defaults, Promotion.init]
  have hhigh : Reach (step defaults) Free (start defaults) ⟨20, 0⟩ :=
    .next .init trivial (a := sample 80) (by rw [step, high_sample])
  have hreach : Reach (step defaults) Free (start defaults) ⟨20, 2⟩ :=
    (hhigh.next trivial (a := sample 20) (by rw [step, hlow 0 (by decide)])).next trivial (a := sample 20)
      (by rw [step, hlow 1 (by decide)])
  exact ⟨_, hreach, rfl, (promotion_budget_monotone hreach).2.mpr (.inl (by decide))⟩

/-- After a cycle at high pressure, no pressure at all leaves the least budget and a quarter under
pressure restores the whole one. -/
theorem promotion_budget_inverted : ∃ s, Reach (step defaults) Free (start defaults) s ∧
    budget defaults s (pressurePercent (sample 0)) = 20 ∧ budget defaults s (pressurePercent (sample 25)) = 100 ∧
      ¬Monotone defaults s := by
  have hnone : budget defaults ⟨20, 0⟩ (pressurePercent (sample 0)) = 20 := by
    rw [pressurePercent_sample (by decide), budget_low]
    · rfl
    · norm_num [defaults, Promotion.init]
    · norm_num
  have hquarter : budget defaults ⟨20, 0⟩ (pressurePercent (sample 25)) = 100 := by
    rw [pressurePercent_sample (by decide), budget_between]
    · rfl
    · norm_num [defaults, Promotion.init]
    · norm_num
  refine ⟨⟨20, 0⟩, .next .init trivial (a := sample 80) (by rw [step, high_sample]), hnone, hquarter, fun h => ?_⟩
  have hle := h (sample 0) (sample 25) (by
    rw [pressurePercent_sample (by decide), pressurePercent_sample (by decide)]
    norm_num)
  rw [hnone, hquarter] at hle
  omega

end DarkMinter.PromotionBudget
