import DarkMinter.Effects

namespace DarkMinter.Submission

open Text Processing Records Repository Publication ChainCycle Deployment Attempts Effects Lib.Runs

section

def viewOf (c : Cell) :
    Option (String × ARKState × Option String × ProcessingStage) × Option (Option Cid) :=
  (c.record.map fun r => (r.authorityId, r.state, r.target, r.processingStage),
    c.metadata.map (·.level1Cid))

def Task.unsubmitted : Task → List ArkId
  | .submit _ items => items.map (·.ark)
  | _ => []

/-- The ARKs of a cycle between their selection and their submission. -/
def unsubmitted : Phase → List ArkId
  | .reading rows items => rows.map (·.1) ++ items.map (·.ark)
  | phase => phase.tasks.flatMap Task.unsubmitted

def RowFresh (c : Cell) (r : ARKRecord) : Prop :=
  (viewOf c).1 = some (r.authorityId, r.state, r.target, .chain) ∧
    (r.state = .draft ∨ r.state = .update)

/-- The rows of the item are what it carries, and pending at the chain stage. -/
def Faithful (c : Cell) (item : PipelineItem) : Prop :=
  viewOf c = (some (item.authorityId, item.state, item.target, .chain), some (some item.cid)) ∧
    (item.state = .draft ∨ item.state = .update)

theorem selectedRows_fresh {cells : ArkId → Cell} {now : Time} {page : List ArkId}
    (hpage : isPage now cells page = true) :
    ∀ row ∈ selectedRows cells page, RowFresh (cells row.1) row.2 := by
  intro row hrow
  obtain ⟨hr, hstate, hstage, -⟩ := mem_selectedRows hpage hrow
  exact ⟨by simp [viewOf, hr, hstage], hstate⟩

theorem itemOf_faithful {k : ArkId} {r : ARKRecord} {c : Cell} {item : PipelineItem}
    (hrow : RowFresh c r) (h : itemOf k r c = some item) : Faithful c item := by
  obtain ⟨m, hm, hcid, hitem⟩ := itemOf_spec h
  rw [hitem]
  exact ⟨Prod.ext hrow.1 (by simp [viewOf, hm, hcid]), hrow.2⟩

variable [PyLower] {cfg : Config} {s t : Sys} {a : Act} {ctl : Control}

omit [PyLower] in
theorem arks_nodup_step (h : Moves cfg s a ctl) (hnodup : ∀ p, (s.control.phase p).arks.Nodup) :
    ∀ p, (ctl.phase p).arks.Nodup := by
  intro q
  have hold := hnodup q
  by_cases hq : a.proc = some q
  · cases h with
    | reserve | mutate => cases hq
    | @select _ _ page _ hpage =>
        obtain rfl := Option.some.inj hq
        simp only [isPage, Bool.and_eq_true, decide_eq_true_eq] at hpage
        simpa [Phase.arks] using (selectedRows_sublist s.cells page).nodup hpage.1
    | @readMetadata _ k r rows items hp =>
        obtain rfl := Option.some.inj hq
        simp only [hp, Phase.arks, List.map_cons, List.cons_append] at hold
        simp only [Control.set_phase, if_true, Phase.arks, List.map_append, ← List.append_assoc]
        cases hi : itemOf k r (s.cells k) with
        | none => simpa using (List.nodup_cons.mp hold).2
        | some item =>
            have hperm : ((rows.map (·.1) ++ items.map (·.ark)) ++ [item.ark]).Perm
                (k :: (rows.map (·.1) ++ items.map (·.ark))) := by
              rw [itemOf_ark hi]
              exact List.perm_append_singleton ..
            exact hperm.nodup_iff.mpr hold
    | @plan _ items hp =>
        obtain rfl := Option.some.inj hq
        simp only [hp, Phase.arks, List.map_nil, List.nil_append] at hold
        simp only [Control.set_phase, if_true, Phase.arks, Phase.tasks]
        exact (plan_arks cfg.rpcBatchSize_pos items).nodup_iff.mpr hold
    | submit hp =>
        obtain rfl := Option.some.inj hq
        simp only [hp, Phase.arks, Phase.tasks, List.flatMap_cons, Task.arks] at hold
        simp only [Control.set_phase, if_true, Phase.arks, Phase.tasks, List.flatMap_append,
          List.flatMap_map, Task.arks]
        rwa [← List.map_eq_flatMap]
    | markFailed | stop =>
        obtain rfl := Option.some.inj hq
        simp [Phase.arks, Phase.tasks]
    | finish hp _ hnext =>
        obtain rfl := Option.some.inj hq
        simp only [hp, Phase.arks, Phase.tasks, List.flatMap_cons] at hold
        rcases hnext with rfl | rfl
        · simp [Phase.arks, Phase.tasks]
        · simpa [Phase.arks, Phase.tasks] using (List.nodup_append.mp hold).2.1
    | marked hp | busy hp | stale hp =>
        obtain rfl := Option.some.inj hq
        simp only [hp, Phase.arks, Phase.tasks, List.flatMap_cons] at hold
        simpa [Phase.arks, Phase.tasks] using (List.nodup_append.mp hold).2.1
    | acquire hp | checked hp =>
        obtain rfl := Option.some.inj hq
        simpa [hp, Phase.arks, Phase.tasks] using hold
  · rw [h.phase_of_ne hq]
    exact hold

omit [PyLower] in
theorem unsubmitted_subset (phase : Phase) : unsubmitted phase ⊆ phase.arks := by
  have htask : ∀ tasks : List Task, tasks.flatMap Task.unsubmitted ⊆ tasks.flatMap Task.arks := by
    intro tasks k hk
    obtain ⟨task, htask, hk⟩ := List.mem_flatMap.mp hk
    refine List.mem_flatMap.mpr ⟨task, htask, ?_⟩
    cases task with
    | submit => exact hk
    | fail | apply => cases hk
  cases phase with
  | reading => exact fun _ h => h
  | idle | working | holding => exact htask _

/-- No step changes what a submission carries of an ARK that a chain cycle of
another process has selected and not yet submitted. -/
def Undisturbed (cfg : Config) (s : Sys) (a : Act) : Prop :=
  ∀ p, a.proc ≠ some p → ∀ k ∈ unsubmitted (s.control.phase p),
    viewOf (cellsAfter cfg s a k) = viewOf (s.cells k)

omit [PyLower] in
theorem viewOf_noted {c c' : Cell} (h : Noted c c') : viewOf c' = viewOf c := by
  obtain ⟨r, r', hr, hr', hstate, hA, htarget, hstage, hm, -⟩ := h.keeps
  simp [viewOf, hr, hr', hstate, hA, htarget, hstage, hm]

theorem view_of_own (hs : step cfg s a = some t) {p : Nat} (ha : a.proc = some p)
    (hnodup : (s.control.phase p).arks.Nodup) {k : ArkId}
    (hk : k ∈ unsubmitted (s.control.phase p)) : viewOf (t.cells k) = viewOf (s.cells k) := by
  rcases step_effect hs k with ⟨-, h⟩ | ⟨op, hop, heffect⟩
  · rw [h]
  cases opOf_performs hop with
  | reserve | mutate => cases ha
  | markUnassigned =>
      generalize t.cells k = c' at heffect
      cases heffect with
      | none => rfl
      | unassigned _ _ h => exact viewOf_noted h
  | @finish p' E item result checked tasks hphase hark =>
      obtain rfl : p' = p := Option.some.inj ha
      subst hark
      simp only [hphase, Phase.arks, Phase.tasks, List.flatMap_cons, Task.arks,
        List.singleton_append, List.nodup_cons] at hnodup
      simp only [hphase, unsubmitted, Phase.tasks, List.flatMap_cons, Task.unsubmitted,
        List.nil_append] at hk
      exact absurd (unsubmitted_subset (.working tasks) hk) hnodup.1

structure Fresh (s : Sys) : Prop where
  nodup : ∀ p, (s.control.phase p).arks.Nodup
  rows : ∀ p rows items, s.control.phase p = .reading rows items →
    ∀ row ∈ rows, RowFresh (s.cells row.1) row.2
  items : ∀ p rows items, s.control.phase p = .reading rows items →
    ∀ item ∈ items, Faithful (s.cells item.ark) item
  tasks : ∀ p authorityId items, .submit authorityId items ∈ (s.control.phase p).tasks →
    ∀ item ∈ items, item.authorityId = authorityId ∧ Faithful (s.cells item.ark) item

omit [PyLower] in
theorem mem_unsubmitted {phase : Phase} {authorityId : String} {items : List PipelineItem}
    (h : .submit authorityId items ∈ phase.tasks) {item : PipelineItem} (hitem : item ∈ items) :
    item.ark ∈ unsubmitted phase := by
  have hmem : item.ark ∈ phase.tasks.flatMap Task.unsubmitted :=
    List.mem_flatMap.mpr ⟨_, h, List.mem_map_of_mem hitem⟩
  cases phase with
  | reading => cases h
  | idle | working | holding => exact hmem

theorem fresh_step (hs : step cfg s a = some t) (hg : Undisturbed cfg s a) (h : Fresh s) :
    Fresh t := by
  have hm := control_moves (step_eq hs).1
  have hview : ∀ p, ∀ k ∈ unsubmitted (s.control.phase p), viewOf (t.cells k) = viewOf (s.cells k) := by
    intro p k hk
    by_cases ha : a.proc = some p
    · exact view_of_own hs ha (h.nodup p) hk
    · rw [(step_eq hs).2.1]
      exact hg p ha k hk
  have hrow : ∀ {p rows items}, s.control.phase p = .reading rows items →
      ∀ row ∈ rows, RowFresh (t.cells row.1) row.2 := by
    intro p rows items hp row hmem
    have hk : row.1 ∈ unsubmitted (s.control.phase p) := by
      rw [hp]
      exact List.mem_append_left _ (List.mem_map_of_mem hmem)
    unfold RowFresh
    rw [hview p _ hk]
    exact h.rows p rows items hp row hmem
  have hitem : ∀ {p rows items}, s.control.phase p = .reading rows items →
      ∀ item ∈ items, Faithful (t.cells item.ark) item := by
    intro p rows items hp item hmem
    have hk : item.ark ∈ unsubmitted (s.control.phase p) := by
      rw [hp]
      exact List.mem_append_right _ (List.mem_map_of_mem hmem)
    unfold Faithful
    rw [hview p _ hk]
    exact h.items p rows items hp item hmem
  refine ⟨arks_nodup_step hm h.nodup, ?_, ?_, ?_⟩
  · intro q rows items hphase row hmem
    rcases hm.reading hphase with hold | ⟨now, page, rfl, hpage, rfl, -⟩ | ⟨k, r, read, -, hold, -⟩
    · exact hrow hold row hmem
    · rw [show t.cells = s.cells from (step_eq hs).2.1]
      exact selectedRows_fresh hpage row hmem
    · exact hrow hold row (List.mem_cons_of_mem _ hmem)
  · intro q rows items hphase item hmem
    rcases hm.reading hphase with hold | ⟨now, page, -, -, -, rfl⟩ | ⟨k, r, read, rfl, hold, rfl⟩
    · exact hitem hold item hmem
    · cases hmem
    · rcases List.mem_append.mp hmem with hmem | hmem
      · exact hitem hold item hmem
      · rw [Option.mem_toList] at hmem
        obtain rfl := itemOf_ark hmem
        rw [show t.cells = s.cells from (step_eq hs).2.1]
        exact itemOf_faithful (h.rows _ _ _ hold _ (List.mem_cons_self ..)) hmem
  · intro q authorityId items htask item hmem
    rcases hm.tasks htask with htask | ⟨_, hp, htask⟩ | ⟨_, _, _, _, _, _, _, _, htask⟩
    · have hold := h.tasks q authorityId items htask item hmem
      refine ⟨hold.1, ?_⟩
      unfold Faithful
      rw [hview q _ (mem_unsubmitted htask hmem)]
      exact hold.2
    · obtain ⟨hin, hA⟩ := mem_plan_submit cfg.rpcBatchSize_pos htask item hmem
      exact ⟨hA, hitem hp item hin⟩
    · cases htask

theorem reach_fresh (h : Reach (step cfg) (Undisturbed cfg) {} s) : Fresh s := by
  refine h.invariant ⟨?_, ?_, ?_, ?_⟩ fun _ _ _ hi hg hs => fresh_step hs hg hi
  · intro p
    exact List.nodup_nil
  · rintro _ _ _ ⟨⟩
  · rintro _ _ _ ⟨⟩
  · rintro _ _ _ ⟨⟩

/-- The operation of a call carries what the rows of its ARK hold, and they
are pending at the chain stage. -/
def AsStored (s : Sys) (call : Call) (operation : ARKPublishOperation) : Prop :=
  ∃ r m, (s.cells operation.ref).record = some r ∧ (s.cells operation.ref).metadata = some m ∧
    r.authorityId = call.authorityId ∧ r.target = operation.url ∧
    m.level1Cid = some operation.cid ∧ r.processingStage = .chain ∧
    (r.state = .draft ∧ operation.action = "create" ∨
      r.state = .update ∧ operation.action = "update")

/-- Where no other party disturbs an ARK between its selection and its
submission, every operation is submitted as the database has it. -/
theorem submitted_as_stored (hr : Reach (step cfg) (Undisturbed cfg) {} s) {p : Nat} {answer : Answer}
    (hs : step cfg s (.submit p answer) = some t) :
    ∃ call, t.control.calls = call :: s.control.calls ∧
      ∀ operation ∈ call.operations, AsStored s call operation := by
  have hm := control_moves (step_eq hs).1
  have hfresh := reach_fresh hr
  generalize t.control = ctl at hm
  cases hm with
  | @submit _ _ authorityId items tasks hp =>
      refine ⟨_, rfl, ?_⟩
      simp only [List.mem_map, forall_exists_index, and_imp, forall_apply_eq_imp_iff₂]
      intro item hitem
      obtain ⟨rfl, hview, hstate⟩ :=
        hfresh.tasks p authorityId items (by simp [hp, Phase.tasks]) item hitem
      unfold viewOf at hview
      cases hrec : (s.cells item.ark).record with
      | none => simp [hrec] at hview
      | some r =>
          cases hmeta : (s.cells item.ark).metadata with
          | none => simp [hmeta] at hview
          | some m =>
              simp only [hrec, hmeta, Option.map_some, Prod.mk.injEq, Option.some.injEq] at hview
              obtain ⟨⟨hA, hst, htarget, hstage⟩, hcid⟩ := hview
              refine ⟨r, m, hrec, hmeta, hA, htarget, hcid, hstage, ?_⟩
              rw [hst]
              rcases hstate with h | h <;> simp [PipelineItem.operation, PipelineItem.action, h]

theorem alone_reach {as : List Act} (party : Option Nat) (h : run (step cfg) as s = some t)
    (has : ∀ a ∈ as, a.proc = party) (hidle : ∀ q, some q ≠ party → s.control.phase q = .idle) :
    Reach (step cfg) (Undisturbed cfg) s t ∧ ∀ q, some q ≠ party → t.control.phase q = .idle := by
  refine run_guarded (fun u => ∀ q, some q ≠ party → u.control.phase q = .idle) h hidle ?_ ?_
  · intro u a ha hidle q hq k hk
    rw [hidle q fun hparty => hq ((has a ha).trans hparty.symm)] at hk
    cases hk
  · intro u a ha v hidle hv q hq
    rw [(control_moves (step_eq hv).1).phase_of_ne]
    · exact hidle q hq
    · exact fun hproc => hq (hproc.symm.trans (has a ha))

end

section Sample

attribute [local instance] asciiText

open Sample

theorem submitted_as_stored_sample :
    ∃ s t call, Reach (step config) (Undisturbed config) {} s ∧
      step config s (.submit 0 confirmed) = some t ∧ t.control.calls = call :: s.control.calls ∧
      ∀ operation ∈ call.operations, AsStored s call operation := by
  obtain ⟨s₁, h₁⟩ := Option.isSome_iff_exists.mp
    (show (run (step config) toChain {}).isSome from by decide)
  obtain ⟨t, ht⟩ := Option.isSome_iff_exists.mp
    (show ((run (step config) toChain {}).bind (run (step config)
      ([.select 0 4 [ark], .readMetadata 0, .plan 0] ++ [.submit 0 confirmed]))).isSome from by decide)
  rw [h₁] at ht
  obtain ⟨s, hs, hstep⟩ := run_concat ht
  obtain ⟨hquiet, hidle⟩ := alone_reach none h₁ (by decide) fun _ _ => rfl
  have hreach := hquiet.trans (alone_reach (some 0) hs (by decide) fun q _ => hidle q nofun).1
  obtain ⟨call, hcalls, hstored⟩ := submitted_as_stored hreach hstep
  exact ⟨s, t, call, hreach, hstep, hcalls, hstored⟩

/-- A DELETE between the selection and the submission: a create is submitted
for a tombstone. -/
theorem submitted_tombstone :
    ∃ s t, Reach (step config) Free {} s ∧ step config s (.submit 0 confirmed) = some t ∧
      (s.cells ark).record.map (·.state) = some .tombstone ∧
      ¬∃ call, t.control.calls = call :: s.control.calls ∧
        ∀ operation ∈ call.operations, AsStored s call operation := by
  have hstate : ((run (step config) (upToSubmit ++ [.mutate ark (.delete owner deleteEnv)]) {}).map
      fun s => (s.cells ark).record.map (·.state)) = some (some .tombstone) := by decide
  have hcalls : ((run (step config) (upToSubmit ++ [.mutate ark (.delete owner deleteEnv)] ++
      [.submit 0 confirmed]) {}).map fun t => t.control.calls.map (·.operations)) =
      some [[⟨ark, "create", some "t", cid1⟩]] := by decide
  obtain ⟨t, ht, hcalls⟩ := Option.map_eq_some_iff.mp hcalls
  obtain ⟨s, hs, hstep⟩ := run_concat ht
  rw [hs] at hstate
  have htomb : (s.cells ark).record.map (·.state) = some .tombstone := Option.some.inj hstate
  refine ⟨s, t, run_reach hs, hstep, htomb, ?_⟩
  rintro ⟨call, hcall, hstored⟩
  simp only [hcall, List.map_cons, List.cons.injEq] at hcalls
  obtain ⟨r, _, hr, -, -, -, -, -, hpending⟩ := hstored ⟨ark, "create", some "t", cid1⟩ (by simp [hcalls.1])
  rw [show (s.cells ark).record = some r from hr] at htomb
  have hr' : r.state = .tombstone := Option.some.inj htomb
  rcases hpending with ⟨h, -⟩ | ⟨h, -⟩ <;> simp [hr'] at h

end Sample

end DarkMinter.Submission
