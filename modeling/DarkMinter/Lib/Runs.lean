import Mathlib.Order.Basic

namespace DarkMinter.Lib.Runs

variable {S A : Type*}

/-- States reached by runs of a partial step function, every step of which
meets a guard on the state before it and on its action. -/
inductive Reach (step : S → A → Option S) (G : S → A → Prop) (s₀ : S) : S → Prop
  | init : Reach step G s₀ s₀
  | next {s t : S} {a : A} (h : Reach step G s₀ s) (hg : G s a) (hs : step s a = some t) :
      Reach step G s₀ t

def Free (_ : S) (_ : A) : Prop := True

variable {step : S → A → Option S} {G H : S → A → Prop} {s₀ s t : S}

theorem Reach.invariant {I : S → Prop} (h : Reach step G s₀ s) (h0 : I s₀)
    (hstep : ∀ s a t, I s → G s a → step s a = some t → I t) : I s := by
  induction h with
  | init => exact h0
  | next _ hg hs ih => exact hstep _ _ _ ih hg hs

theorem Reach.mono (h : Reach step G s₀ s) (hGH : ∀ s a, G s a → H s a) : Reach step H s₀ s := by
  induction h with
  | init => exact .init
  | next _ hg hs ih => exact .next ih (hGH _ _ hg) hs

theorem Reach.free (h : Reach step G s₀ s) : Reach step Free s₀ s := h.mono fun _ _ _ => trivial

theorem Reach.trans (h : Reach step G s₀ s) (h' : Reach step G s t) : Reach step G s₀ t := by
  induction h' with
  | init => exact h
  | next _ hg hs ih => exact .next ih hg hs

def run (step : S → A → Option S) : List A → S → Option S
  | [], s => some s
  | a :: as, s => (step s a).bind (run step as)

theorem run_reach {as : List A} (h : run step as s = some t) : Reach step Free s t := by
  induction as generalizing s with
  | nil =>
      obtain rfl : s = t := by simpa [run] using h
      exact .init
  | cons a as ih =>
      obtain ⟨u, hu, hrest⟩ := Option.bind_eq_some_iff.mp h
      exact (Reach.next .init trivial hu).trans (ih hrest)

theorem run_guarded (I : S → Prop) {as : List A} (h : run step as s = some t) (h0 : I s)
    (hguard : ∀ s, ∀ a ∈ as, I s → G s a)
    (hstep : ∀ s, ∀ a ∈ as, ∀ t, I s → step s a = some t → I t) : Reach step G s t ∧ I t := by
  induction as generalizing s with
  | nil =>
      obtain rfl : s = t := by simpa [run] using h
      exact ⟨.init, h0⟩
  | cons a as ih =>
      obtain ⟨u, hu, hrest⟩ := Option.bind_eq_some_iff.mp h
      have hg := hguard s a (List.mem_cons_self ..) h0
      have hI := hstep s a (List.mem_cons_self ..) u h0 hu
      obtain ⟨hreach, ht⟩ := ih hrest hI (fun v b hb => hguard v b (List.mem_cons_of_mem _ hb))
        fun v b hb => hstep v b (List.mem_cons_of_mem _ hb)
      exact ⟨(Reach.next .init hg hu).trans hreach, ht⟩

theorem run_append {as bs : List A} (h : run step (as ++ bs) s = some t) :
    ∃ u, run step as s = some u ∧ run step bs u = some t := by
  induction as generalizing s with
  | nil => exact ⟨s, rfl, h⟩
  | cons a as ih =>
      obtain ⟨u, hu, h⟩ := Option.bind_eq_some_iff.mp h
      obtain ⟨v, hv, hrest⟩ := ih h
      exact ⟨v, Option.bind_eq_some_iff.mpr ⟨u, hu, hv⟩, hrest⟩

theorem run_concat {as : List A} {a : A} (h : run step (as ++ [a]) s = some t) :
    ∃ u, run step as s = some u ∧ step u a = some t := by
  obtain ⟨u, hu, h⟩ := run_append h
  obtain ⟨v, hv, h⟩ := Option.bind_eq_some_iff.mp h
  obtain rfl := Option.some.inj h
  exact ⟨u, hu, hv⟩

def guardedRun (step : S → A → Option S) (G : S → A → Prop) [∀ s a, Decidable (G s a)] : List A → S → Option S
  | [], s => some s
  | a :: as, s => if G s a then (step s a).bind (guardedRun step G as) else none

theorem guardedRun_reach [∀ s a, Decidable (G s a)] {as : List A} (h : guardedRun step G as s = some t) :
    Reach step G s t := by
  induction as generalizing s with
  | nil =>
      obtain rfl : s = t := by simpa [guardedRun] using h
      exact .init
  | cons a as ih =>
      simp only [guardedRun, Option.ite_none_right_eq_some] at h
      obtain ⟨u, hu, hrest⟩ := Option.bind_eq_some_iff.mp h.2
      exact (Reach.next .init h.1 hu).trans (ih hrest)

/-- The guard holds at every step of a run. -/
def Along (step : S → A → Option S) (G : S → A → Prop) : List A → S → Prop
  | [], _ => True
  | a :: as, s => G s a ∧ ∀ t, step s a = some t → Along step G as t

theorem Along.append {as bs : List A} (h : Along step G (as ++ bs) s) (hrun : run step as s = some t) :
    Along step G bs t := by
  induction as generalizing s with
  | nil =>
      obtain rfl : s = t := by simpa [run] using hrun
      exact h
  | cons a as ih =>
      obtain ⟨u, hu, hrest⟩ := Option.bind_eq_some_iff.mp hrun
      exact ih (h.2 u hu) hrest

end DarkMinter.Lib.Runs
