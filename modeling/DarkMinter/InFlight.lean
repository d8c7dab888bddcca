import DarkMinter.ResultApplication

namespace DarkMinter.InFlight

open Text Processing Records Repository ArkApi Requests Persistence Replication Publication ChainCycle
open Deployment Attempts Effects ResultApplication Lib.Runs

section

def Started (c : Cell) : Prop :=
  ∃ r, c.record = some r ∧ (r.state = .tombstone ∨ r.processingStage ≠ .none)

def Task.flight : Task → List (ArkId × ARKState)
  | .fail item => [(item.ark, item.state)]
  | .submit _ items => items.map fun item => (item.ark, item.state)
  | .apply item _ => [(item.ark, item.state)]

/-- The ARKs that the rest of a cycle is about, with the states they were selected in. -/
def flight : Phase → List (ArkId × ARKState)
  | .reading rows items =>
      rows.map (fun row => (row.1, row.2.state)) ++ items.map fun item => (item.ark, item.state)
  | phase => phase.tasks.flatMap Task.flight

/-- What the state of the cycles ensures of a step on the rows of an ARK. -/
def Admissible (c : Cell) : Op → Prop
  | .reserve _ => c.record = none
  | .mutation _ => True
  | .unassigned _ _ => Started c
  | .result item result _ =>
      (item.state = .draft ∨ item.state = .update) ∧
        (result.status = "confirmed" ∨ isCurrent item c = true)

theorem mem_flight_plan {assigned : String → Bool} {rpcBatchSize : Nat} (hsize : 0 < rpcBatchSize)
    {items : List PipelineItem} {e : ArkId × ARKState}
    (h : e ∈ (plan assigned rpcBatchSize items).flatMap Task.flight) :
    ∃ item ∈ items, e = (item.ark, item.state) := by
  obtain ⟨task, htask, he⟩ := List.mem_flatMap.mp h
  cases task with
  | fail item => exact ⟨item, mem_plan_fail htask, List.mem_singleton.mp he⟩
  | submit authorityId group =>
      obtain ⟨item, hitem, rfl⟩ := List.mem_map.mp he
      exact ⟨item, (mem_plan_submit hsize htask item hitem).1, rfl⟩
  | apply item result => exact absurd htask apply_notMem_plan

theorem mem_flight_selected {cells : ArkId → Cell} {now : Time} {page : List ArkId}
    (hpage : isPage now cells page = true) {e : ArkId × ARKState}
    (h : e ∈ flight (.reading (selectedRows cells page) [])) :
    (e.2 = .draft ∨ e.2 = .update) ∧ Started (cells e.1) := by
  simp only [flight, List.map_nil, List.append_nil, List.mem_map] at h
  obtain ⟨row, hrow, rfl⟩ := h
  obtain ⟨hr, hstate, hstage, -⟩ := mem_selectedRows hpage hrow
  exact ⟨hstate, row.2, hr, .inr (by simp [hstage])⟩

variable [PyLower] {cfg : Config} {s t : Sys} {a : Act} {ctl : Control} {k : ArkId} {c c' : Cell} {op : Op}

omit [PyLower] in
theorem flight_step (h : Moves cfg s a ctl) {q : Nat} {e : ArkId × ARKState}
    (he : e ∈ flight (ctl.phase q)) :
    e ∈ flight (s.control.phase q) ∨
      (e.2 = .draft ∨ e.2 = .update) ∧ Started (s.cells e.1) := by
  by_cases hq : a.proc = some q
  · cases h with
    | reserve | mutate => cases hq
    | select _ hpage =>
        obtain rfl := Option.some.inj hq
        simp only [Control.set_phase, if_true] at he
        exact .inr (mem_flight_selected hpage he)
    | @readMetadata _ j r rows items hp =>
        obtain rfl := Option.some.inj hq
        simp only [Control.set_phase, if_true, flight, List.mem_append, List.mem_map] at he
        simp only [hp, flight, List.map_cons, List.mem_append, List.mem_cons, List.mem_map]
        rcases he with he | ⟨item, hitem | hitem, rfl⟩
        · exact .inl (.inl (.inr he))
        · exact .inl (.inr ⟨item, hitem, rfl⟩)
        · rw [Option.mem_toList] at hitem
          obtain ⟨-, -, -, hkeeps⟩ := itemOf_spec hitem
          exact .inl (.inl (.inl (by rw [hkeeps])))
    | @plan _ items hp =>
        obtain rfl := Option.some.inj hq
        simp only [Control.set_phase, if_true] at he
        obtain ⟨item, hitem, rfl⟩ := mem_flight_plan cfg.rpcBatchSize_pos he
        rw [hp]
        exact .inl (List.mem_append_right _ (List.mem_map_of_mem hitem))
    | submit hp =>
        obtain rfl := Option.some.inj hq
        simp only [Control.set_phase, if_true, flight, Phase.tasks, List.flatMap_append,
          List.flatMap_map, Task.flight, ← List.map_eq_flatMap] at he
        rw [hp]
        exact .inl he
    | markFailed | stop =>
        obtain rfl := Option.some.inj hq
        simp [flight, Phase.tasks] at he
    | finish hp _ hnext =>
        obtain rfl := Option.some.inj hq
        rw [hp]
        rcases hnext with rfl | rfl
        · simp [flight, Phase.tasks] at he
        · simp only [Control.set_phase, if_true] at he
          exact .inl (List.mem_cons_of_mem _ he)
    | marked hp | busy hp | stale hp =>
        obtain rfl := Option.some.inj hq
        simp only [Control.set_phase, if_true] at he
        rw [hp]
        exact .inl (List.mem_cons_of_mem _ he)
    | acquire hp | checked hp =>
        obtain rfl := Option.some.inj hq
        simp only [Control.set_phase, if_true] at he
        rw [hp]
        exact .inl he
  · rw [h.phase_of_ne hq] at he
    exact .inl he

omit [PyLower] in
theorem Noted.started (h : Noted c c') (hc : Started c) : Started c' := by
  obtain ⟨r, r', hr, hr', hstate, -, -, hstage, -⟩ := h.keeps
  obtain ⟨r₀, h₀, hstarted⟩ := hc
  obtain rfl := Option.some.inj (hr.symm.trans h₀)
  exact ⟨r', hr', by rwa [hstate, hstage]⟩

theorem reconciledRows_stage (cfg : ReplicationConfig) (E : ReconcileEnv)
    (level1 level2 : ReplicationStatus) (r : ARKRecord) (m : ARKMetadata) (repaired : Nat)
    (h : r.processingStage ≠ .none) :
    (reconciledRows cfg E level1 level2 r m repaired).1.processingStage ≠ .none := by
  have hrecord := (reconciledRows_rows cfg E level1 level2 r m repaired).1
  generalize (reconciledRows cfg E level1 level2 r m repaired).1 = r' at hrecord ⊢
  cases hrecord with
  | chain | complete => nofun
  | again | waiting => exact h

theorem Started.effect (hc : Started c) (h : Effect cfg k c op c') (ha : Admissible c op) :
    Started c' := by
  obtain ⟨r₀, h₀, hstarted⟩ := hc
  cases h with
  | none => exact ⟨r₀, h₀, hstarted⟩
  | reserved =>
      rw [show c.record = .none from ha] at h₀
      cases h₀
  | raced h =>
      rw [h] at h₀
      cases h₀
  | staged h =>
      obtain ⟨b, r, json, -, -, -, -, -, -, rfl⟩ := h.ex
      exact ⟨_, rfl, .inr (by simp [stagedRecord])⟩
  | tombstoned h =>
      obtain ⟨r', hr', hstate⟩ := h.record
      exact ⟨r', hr', .inl hstate⟩
  | retried hr =>
      obtain rfl := Option.some.inj (hr.symm.trans h₀)
      exact ⟨_, rfl, hstarted⟩
  | persisted => exact ⟨_, rfl, .inr (by simp [persistedRecord])⟩
  | observed hr =>
      obtain rfl := Option.some.inj (hr.symm.trans h₀)
      rcases hstarted with hstate | hstage
      · exact ⟨_, rfl, .inl ((reconciledRows_keeps ..).1.trans hstate)⟩
      · exact ⟨_, rfl, .inr (reconciledRows_stage _ _ _ _ _ _ _ hstage)⟩
  | published _ _ h =>
      obtain ⟨m, cid, -, -, -, -, rfl⟩ := h
      exact ⟨_, rfl, .inr (by simp [publishedRecord])⟩
  | publishedItem h =>
      obtain ⟨-, -, r, -, rfl⟩ := h
      exact ⟨_, rfl, .inr (by simp [publishedRecord])⟩
  | persistNoted _ _ h | reconcileNoted _ _ h | publishNoted _ _ h | unassigned _ _ h | resultNoted _ h =>
      exact Noted.started h ⟨r₀, h₀, hstarted⟩

def Flying (s : Sys) : Prop :=
  ∀ p, ∀ e ∈ flight (s.control.phase p), (e.2 = .draft ∨ e.2 = .update) ∧ Started (s.cells e.1)

theorem admissible (happly : Applying s) (hf : Flying s) (hs : step cfg s a = some t)
    (hop : opOf s a k = some op) : Admissible (s.cells k) op := by
  cases opOf_performs hop with
  | reserve hrow hk =>
      have hm := control_moves (step_eq hs).1
      generalize t.control = ctl at hm
      cases hm with
      | reserve _ hfresh => exact hk ▸ hfresh _ hrow
  | mutate => trivial
  | markUnassigned hp hk =>
      subst hk
      exact (hf _ (_, _) (by rw [hp]; exact List.mem_cons_self ..)).2
  | @finish p E item result checked tasks hp hk =>
      subst hk
      exact ⟨(hf p (item.ark, item.state) (by rw [hp]; exact List.mem_cons_self ..)).1, happly.rechecked hs hop⟩

theorem flying_step (happly : Applying s) (hf : Flying s) (hs : step cfg s a = some t) :
    Flying t := by
  intro p e he
  obtain ⟨hstate, hstarted⟩ : (e.2 = .draft ∨ e.2 = .update) ∧ Started (s.cells e.1) := by
    rcases flight_step (control_moves (step_eq hs).1) he with h | h
    · exact hf p e h
    · exact h
  refine ⟨hstate, ?_⟩
  rcases step_effect hs e.1 with ⟨-, h⟩ | ⟨op, hop, heffect⟩
  · rwa [h]
  · exact hstarted.effect heffect (admissible happly hf hs hop)

theorem reach_flying {G : Sys → Act → Prop} (h : Reach (step cfg) G {} s) : Flying s := by
  induction h with
  | init =>
      intro p e he
      simp [flight, Phase.tasks] at he
  | next h _ hs ih => exact flying_step (reach_applying h) ih hs

/-- In every run, a step does one of the admissible operations to the rows of an ARK. -/
theorem reach_effect {G : Sys → Act → Prop} (h : Reach (step cfg) G {} s)
    (hs : step cfg s a = some t) (k : ArkId) :
    opOf s a k = none ∧ t.cells k = s.cells k ∨
      ∃ op, opOf s a k = some op ∧ Admissible (s.cells k) op ∧
        Effect cfg k (s.cells k) op (t.cells k) := by
  rcases step_effect hs k with h' | ⟨op, hop, heffect⟩
  · exact .inl h'
  · exact .inr ⟨op, hop, admissible (reach_applying h) (reach_flying h) hs hop, heffect⟩

theorem reach_cells {G : Sys → Act → Prop} {I : Cell → Prop} (h : Reach (step cfg) G {} s) (h0 : I {})
    (hstep : ∀ s a k op, G s a → opOf s a k = some op → Admissible (s.cells k) op →
      Effect cfg k (s.cells k) op (cellsAfter cfg s a k) → I (s.cells k) → I (cellsAfter cfg s a k)) :
    ∀ k, I (s.cells k) := by
  induction h with
  | init => exact fun _ => h0
  | next h hg hs ih =>
      intro k
      rcases reach_effect h hs k with ⟨-, hk⟩ | ⟨op, hop, ha, heffect⟩
      · rw [hk]
        exact ih k
      · rw [(step_eq hs).2.1] at heffect ⊢
        exact hstep _ _ k op hg hop ha heffect (ih k)

end

end DarkMinter.InFlight
