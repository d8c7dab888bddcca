import DarkMinter.Effects

namespace DarkMinter.ResultApplication

open Text Processing Records Repository Publication ChainCycle Deployment Attempts Effects Lib.Runs

/-- The result of an item is what the answer to some call made for it says. -/
def Answered (calls : List Call) (item : PipelineItem) (result : ARKPublishResult) : Prop :=
  ∃ call ∈ calls, call.authorityId = item.authorityId ∧ item.operation ∈ call.operations ∧
    result = resultFor call.answer item

/-- What holds of the cycles between the answer of a call and the last write for it. -/
structure Applying (s : Sys) : Prop where
  held : ∀ p item result checked tasks,
    s.control.phase p = .holding item result checked tasks → s.control.locks item.ark = some p
  current : ∀ p item result tasks,
    s.control.phase p = .holding item result true tasks → isCurrent item (s.cells item.ark) = true
  uniform : ∀ p authorityId items, .submit authorityId items ∈ (s.control.phase p).tasks →
    ∀ item ∈ items, item.authorityId = authorityId
  answered : ∀ p item result, .apply item result ∈ (s.control.phase p).tasks →
    Answered s.control.calls item result

theorem Answered.mono {calls : List Call} {call : Call} {item : PipelineItem}
    {result : ARKPublishResult} (h : Answered calls item result) :
    Answered (call :: calls) item result := by
  obtain ⟨c, hc, h⟩ := h
  exact ⟨c, List.mem_cons_of_mem _ hc, h⟩

section

variable [PyLower] {cfg : Config} {s t : Sys} {a : Act} {ctl : Control}

omit [PyLower] in
theorem held_step (hm : Moves cfg s a ctl)
    (held : ∀ p item result checked tasks,
      s.control.phase p = .holding item result checked tasks → s.control.locks item.ark = some p) :
    ∀ p item result checked tasks,
      ctl.phase p = .holding item result checked tasks → ctl.locks item.ark = some p := by
  have hother : ∀ {p item result checked tasks}, s.control.phase p = .holding item result checked tasks →
      ∀ q item' result' checked' tasks', q ≠ p →
        s.control.phase q = .holding item' result' checked' tasks' →
          (s.control.unlock item.ark).locks item'.ark = some q := by
    intro p item result checked tasks hp q item' result' checked' tasks' hq hphase
    have h1 := held p item result checked tasks hp
    have h2 := held q item' result' checked' tasks' hphase
    rw [Control.unlock_locks]
    split
    · simp_all
    · exact h2
  intro q item result checked tasks hphase
  cases hm with
  | reserve | mutate => exact held q item result checked tasks hphase
  | select | readMetadata | plan | markFailed | marked | submit | busy =>
      simp only [Control.set_phase, Control.set_locks] at hphase ⊢
      split at hphase
      · cases hphase
      · exact held q item result checked tasks hphase
  | @acquire p item' _ _ h hlock =>
      simp only [Control.set_phase, Control.set_locks, Control.lock_phase, Control.lock_locks]
        at hphase ⊢
      split at hphase
      · cases hphase
        simp [*]
      · have hq := held q item result checked tasks hphase
        split
        · simp_all
        · exact hq
  | @checked p item' _ _ h hcurrent =>
      simp only [Control.set_phase, Control.set_locks] at hphase ⊢
      split at hphase
      · cases hphase
        subst q
        exact held p _ _ _ _ h
      · exact held q item result checked tasks hphase
  | stale h =>
      simp only [Control.set_phase, Control.set_locks, Control.unlock_phase] at hphase ⊢
      split at hphase
      · cases hphase
      · exact hother h q _ _ _ _ ‹_› hphase
  | finish h _ hnext =>
      simp only [Control.set_phase, Control.set_locks, Control.unlock_phase] at hphase ⊢
      split at hphase
      · rcases hnext with rfl | rfl <;> cases hphase
      · exact hother h q _ _ _ _ ‹_› hphase
  | @stop p =>
      simp only [Control.set_phase, Control.set_locks, Control.release_phase] at hphase ⊢
      split at hphase
      · cases hphase
      · unfold Control.release
        split
        · exact hother ‹_› q _ _ _ _ ‹_› hphase
        · exact held q item result checked tasks hphase

theorem cells_of_held (hs : step cfg s a = some t) {p : Nat} {item : PipelineItem}
    {result : ARKPublishResult} {checked : Bool} {tasks : List Task}
    (held : ∀ p item result checked tasks,
      s.control.phase p = .holding item result checked tasks → s.control.locks item.ark = some p)
    (hp : s.control.phase p = .holding item result checked tasks)
    (hrecord : (s.cells item.ark).record ≠ none) (ha : ∀ E, a ≠ .finish p E) :
    t.cells item.ark = s.cells item.ark := by
  have hlock := held p item result checked tasks hp
  rcases step_cells hs item.ark with ⟨-, h⟩ | ⟨op, hop, -⟩
  · exact h
  · exfalso
    cases opOf_performs hop with
    | reserve hrow hk =>
        have hm := control_moves (step_eq hs).1
        generalize t.control = ctl at hm
        cases hm with
        | reserve _ hfresh => exact hrecord (hk ▸ hfresh _ hrow)
    | mutate hfree | markUnassigned _ _ hfree => simp [hlock] at hfree
    | @finish q E _ _ _ _ hq hk =>
        have hlock' := held q _ _ _ _ hq
        rw [hk, hlock] at hlock'
        obtain rfl := Option.some.inj hlock'
        exact ha E rfl

theorem current_step (hs : step cfg s a = some t) (h : Applying s) :
    ∀ p item result tasks, t.control.phase p = .holding item result true tasks →
      isCurrent item (t.cells item.ark) = true := by
  intro q item result tasks hphase
  have hm := control_moves (step_eq hs).1
  by_cases hq : a.proc = some q
  · have hcells := step_cells hs item.ark
    generalize t.control = ctl at hm hphase
    cases hm with
    | reserve | mutate => cases hq
    | @checked p item' result' tasks' hp hcurrent =>
        obtain rfl : p = q := Option.some.inj hq
        simp only [Control.set_phase, if_true, Phase.holding.injEq] at hphase
        obtain ⟨rfl, rfl, -, rfl⟩ := hphase
        rcases hcells with ⟨-, hc⟩ | ⟨op, hop, -⟩
        · rw [hc]
          exact hcurrent
        · cases hop
    | finish _ _ hnext =>
        obtain rfl := Option.some.inj hq
        rcases hnext with rfl | rfl <;> simp at hphase
    | _ =>
        obtain rfl := Option.some.inj hq
        simp at hphase
  · rw [hm.phase_of_ne hq] at hphase
    have hcurrent := h.current q item result tasks hphase
    have hrecord : (s.cells item.ark).record ≠ none := by
      obtain ⟨r, _, hr, -⟩ := isCurrent_iff.mp hcurrent
      simp [hr]
    rw [cells_of_held hs h.held hphase hrecord ?_]
    · exact hcurrent
    · rintro E rfl
      exact hq rfl

omit [PyLower] in
theorem calls_mono (hm : Moves cfg s a ctl) {item : PipelineItem} {result : ARKPublishResult}
    (h : Answered s.control.calls item result) : Answered ctl.calls item result := by
  cases hm with
  | submit => exact h.mono
  | _ => simpa using h

omit [PyLower] in
theorem uniform_step (hm : Moves cfg s a ctl)
    (uniform : ∀ p authorityId items, .submit authorityId items ∈ (s.control.phase p).tasks →
      ∀ item ∈ items, item.authorityId = authorityId) :
    ∀ p authorityId items, .submit authorityId items ∈ (ctl.phase p).tasks →
      ∀ item ∈ items, item.authorityId = authorityId := by
  intro q authorityId items hmem
  rcases hm.tasks hmem with h | ⟨_, _, h⟩ | ⟨_, _, _, _, _, _, _, _, h⟩
  · exact uniform q authorityId items h
  · exact fun item hitem => (mem_plan_submit cfg.rpcBatchSize_pos h item hitem).2
  · cases h

omit [PyLower] in
theorem answered_step (hm : Moves cfg s a ctl) (h : Applying s) :
    ∀ p item result, .apply item result ∈ (ctl.phase p).tasks →
      Answered ctl.calls item result := by
  intro q item result hmem
  rcases hm.tasks hmem with hmem | ⟨_, _, hmem⟩ | ⟨answer, authorityId, items, tasks, rfl, hp, item', hitem, htask⟩
  · exact calls_mono hm (h.answered q item result hmem)
  · exact absurd hmem apply_notMem_plan
  · obtain ⟨rfl, rfl⟩ := Task.apply.inj htask
    have hauth := h.uniform q authorityId items (by simp [hp, Phase.tasks]) item hitem
    cases hm with
    | submit hp' =>
        obtain ⟨⟨rfl, rfl⟩, rfl⟩ : (authorityId = _ ∧ items = _) ∧ tasks = _ := by
          simpa [hp] using hp'
        exact ⟨_, List.mem_cons_self .., hauth.symm, List.mem_map_of_mem hitem, rfl⟩

theorem applying_step (hs : step cfg s a = some t) (h : Applying s) : Applying t := by
  have hm := control_moves (step_eq hs).1
  exact ⟨held_step hm h.held, current_step hs h, uniform_step hm h.uniform, answered_step hm h⟩

theorem reach_applying {G : Sys → Act → Prop} (h : Reach (step cfg) G {} s) : Applying s := by
  refine h.invariant ⟨?_, ?_, ?_, ?_⟩ fun _ _ _ hi _ hs => applying_step hs hi
  · rintro _ _ _ _ _ ⟨⟩
  · rintro _ _ _ _ ⟨⟩
  · rintro _ _ _ ⟨⟩
  · rintro _ _ _ ⟨⟩

omit [PyLower] in
theorem resultFor_confirmed {answer : Answer} {item : PipelineItem}
    (h : (resultFor answer item).status = "confirmed") :
    ∃ results result, answer = .ok results ∧ result ∈ results ∧ result.ref = item.ark ∧
      result.status = "confirmed" := by
  cases answer with
  | error e => simp [resultFor] at h
  | ok results =>
      cases hf : results.reverse.find? (·.ref = item.ark) with
      | none => simp [resultFor, hf] at h
      | some result =>
          have hmem := List.mem_of_find?_eq_some hf
          have href := List.find?_some hf
          simp only [List.mem_reverse, decide_eq_true_eq] at hmem href
          simp only [resultFor, hf, Option.getD_some] at h
          exact ⟨results, result, rfl, hmem, href, h⟩

theorem published_of_pending {k : ArkId} {op : Op} {c c' : Cell} {r r' : ARKRecord}
    (heffect : Effect cfg k c op c') (hr : c.record = some r)
    (hpending : r.state = .draft ∨ r.state = .update) (hr' : c'.record = some r')
    (hpublished : r'.state = .published) :
    (∃ E, op = .mutation (.publish E) ∧ PublishedBy E r c c') ∨
      ∃ item result E, op = .result item result E ∧ PublishedItem item result E c c' := by
  have hne : r'.state ≠ r.state := by
    rcases hpending with h | h <;> simp [h, hpublished]
  have hnoted : ¬Noted c c' := by
    intro hn
    obtain ⟨r₁, r₁', h₁, h₁', hstate, -⟩ := hn.keeps
    obtain rfl := Option.some.inj (hr.symm.trans h₁)
    obtain rfl := Option.some.inj (hr'.symm.trans h₁')
    exact hne hstate
  cases heffect with
  | none => exact absurd (by rw [Option.some.inj (hr.symm.trans hr')]) hne
  | reserved =>
      obtain rfl := Option.some.inj hr'
      cases hpublished
  | raced h => simp [h] at hr
  | staged h =>
      obtain ⟨r₁, h₁, -, h₂⟩ := h.record
      obtain rfl := Option.some.inj (hr'.symm.trans h₁)
      simp_all
  | tombstoned h =>
      obtain ⟨r₁, h₁, h₂⟩ := h.record
      obtain rfl := Option.some.inj (hr'.symm.trans h₁)
      simp_all
  | retried h₁ | persisted h₁ =>
      obtain rfl := Option.some.inj (hr.symm.trans h₁)
      exact absurd (by rw [← Option.some.inj hr']; rfl) hne
  | observed h₁ =>
      obtain rfl := Option.some.inj (hr.symm.trans h₁)
      exact absurd (by rw [← Option.some.inj hr']; exact (reconciledRows_keeps ..).1) hne
  | persistNoted _ _ h | reconcileNoted _ _ h | publishNoted _ _ h | unassigned _ _ h | resultNoted _ h =>
      exact absurd h hnoted
  | published h₁ _ h =>
      obtain rfl := Option.some.inj (hr.symm.trans h₁)
      exact .inl ⟨_, rfl, h⟩
  | publishedItem h => exact .inr ⟨_, _, _, rfl, h⟩

inductive Confirmed (s : Sys) (k : ArkId) (target : Option String) (cid : Cid) : Act → Prop
  | result {p : Nat} {E : ResultEnv} {call : Call} {operation : ARKPublishOperation}
      {results : List ARKPublishResult} {result : ARKPublishResult} (hcall : call ∈ s.control.calls)
      (hoperation : operation ∈ call.operations) (href : operation.ref = k)
      (hurl : operation.url = target) (hcid : operation.cid = cid) (hanswer : call.answer = .ok results)
      (hresult : result ∈ results) (hresultRef : result.ref = k) (hstatus : result.status = "confirmed") :
      Confirmed s k target cid (.finish p E)
  | read {p : Nat} {E : ResultEnv} {info : ARKInfo} (hread : E.chain = .ok info)
      (hurl : some info.url = target) (hcid : info.cid = cid.val) :
      Confirmed s k target cid (.finish p E)
  | write {E : PublishEnv} (hwrite : E.write = .ok ()) :
      Confirmed s k target cid (.mutate k (.publish E))
  | writeRead {E : PublishEnv} {info : ARKInfo} (hread : E.chain = .ok info)
      (hurl : some info.url = target) (hcid : info.cid = cid.val) :
      Confirmed s k target cid (.mutate k (.publish E))

omit [PyLower] in
theorem opOf_result {k : ArkId} {item : PipelineItem} {result : ARKPublishResult} {E : ResultEnv}
    (h : opOf s a k = some (.result item result E)) :
    ∃ p checked tasks, a = .finish p E ∧
      s.control.phase p = .holding item result checked tasks ∧ item.ark = k := by
  cases opOf_performs h with
  | finish hphase hk => exact ⟨_, _, _, rfl, hphase, hk⟩

omit [PyLower] in
theorem opOf_mutation {k : ArkId} {m : Mutation} (h : opOf s a k = some (.mutation m)) :
    a = .mutate k m ∧ s.control.locks k = none := by
  cases opOf_performs h with
  | mutate hlock => exact ⟨rfl, hlock⟩

omit [PyLower] in
theorem opOf_unassigned {k : ArkId} {authorityId : String} {now : Time}
    (h : opOf s a k = some (.unassigned authorityId now)) : ∃ p, a = .markUnassigned p now := by
  cases opOf_performs h with
  | markUnassigned => exact ⟨_, rfl⟩

theorem Applying.rechecked (h : Applying s) (hs : step cfg s a = some t) {k : ArkId} {item : PipelineItem}
    {result : ARKPublishResult} {E : ResultEnv} (hop : opOf s a k = some (.result item result E)) :
    result.status = "confirmed" ∨ isCurrent item (s.cells k) = true := by
  obtain ⟨p, checked, tasks, rfl, hphase, rfl⟩ := opOf_result hop
  have hm := control_moves (step_eq hs).1
  generalize t.control = ctl at hm
  cases hm with
  | finish hphase' hchecked _ =>
      obtain ⟨rfl, rfl, rfl, rfl⟩ := Phase.holding.inj (hphase.symm.trans hphase')
      refine hchecked.imp_right ?_
      rintro rfl
      exact h.current _ _ _ _ hphase

theorem result_handled (hr : Reach (step cfg) Free {} s) (hs : step cfg s a = some t) {k : ArkId}
    {item : PipelineItem} {result : ARKPublishResult} {E : ResultEnv}
    (hop : opOf s a k = some (.result item result E)) :
    t.cells k =
      settle ((handlePipelineResult cfg.catalogue item result E (s.cells k)).map (·.cell)) (s.cells k) := by
  have hchecked := (reach_applying hr).rechecked hs hop
  rcases step_cells hs k with ⟨hnone, -⟩ | ⟨op, hop', hcells⟩
  · cases hop.symm.trans hnone
  · obtain rfl := Option.some.inj (hop.symm.trans hop')
    rw [hcells, ← settleResult_handled hchecked]
    rfl

theorem settled_current (hr : Reach (step cfg) Free {} s) (hs : step cfg s a = some t) {k : ArkId}
    {p : Nat} {E : ResultEnv} (ha : a = .finish p E) (hne : t.cells k ≠ s.cells k) :
    ∃ item result checked tasks, s.control.phase p = .holding item result checked tasks ∧
      item.ark = k ∧ s.control.locks k = some p ∧ isCurrent item (s.cells k) = true := by
  have happly := reach_applying hr
  rcases step_effect hs k with ⟨-, h⟩ | ⟨op, hop, heffect⟩
  · exact absurd h hne
  subst ha
  obtain ⟨item, result, checked, tasks, hphase, rfl, rfl⟩ : ∃ item result checked tasks,
      s.control.phase p = .holding item result checked tasks ∧ item.ark = k ∧
        op = .result item result E := by
    cases opOf_performs hop with
    | finish hphase hk => exact ⟨_, _, _, _, hphase, hk, rfl⟩
  refine ⟨item, result, checked, tasks, hphase, rfl, happly.held _ _ _ _ _ hphase, ?_⟩
  have hchecked := happly.rechecked hs hop
  generalize t.cells item.ark = c' at heffect hne
  cases heffect with
  | none => exact absurd rfl hne
  | resultNoted hstatus _ => exact hchecked.resolve_left hstatus
  | publishedItem h => exact h.1

theorem published_confirmed (hr : Reach (step cfg) Free {} s) (hs : step cfg s a = some t)
    {k : ArkId} {r r' : ARKRecord} (hrec : (s.cells k).record = some r)
    (hpending : r.state = .draft ∨ r.state = .update) (hrec' : (t.cells k).record = some r')
    (hpublished : r'.state = .published) :
    ∃ m cid, (s.cells k).metadata = some m ∧ m.level1Cid = some cid ∧
      Confirmed s k r.target cid a := by
  rcases step_effect hs k with ⟨-, h⟩ | ⟨op, hop, heffect⟩
  · rw [h] at hrec'
    obtain rfl := Option.some.inj (hrec.symm.trans hrec')
    rcases hpending with h | h <;> simp [h] at hpublished
  rcases published_of_pending heffect hrec hpending hrec' hpublished with
    ⟨E, rfl, m, cid, hm, hcid, -, hw, -⟩ | ⟨item, result, E, rfl, hcurrent, hw, -⟩
  · obtain ⟨rfl, -⟩ := opOf_mutation hop
    rcases hw with hw | ⟨info, hread, hurl, hinfo⟩
    · exact ⟨m, cid, hm, hcid, .write hw⟩
    · exact ⟨m, cid, hm, hcid, .writeRead hread hurl hinfo⟩
  · obtain ⟨p, checked, tasks, rfl, hphase, rfl⟩ := opOf_result hop
    obtain ⟨r₁, m, h₁, hm, -, -, htarget, -, hcid⟩ := isCurrent_iff.mp hcurrent
    obtain rfl := Option.some.inj (hrec.symm.trans h₁)
    refine ⟨m, item.cid, hm, hcid, ?_⟩
    rcases hw with hstatus | ⟨info, hread, hurl, hinfo⟩
    · obtain ⟨call, hcall, -, hoperation, rfl⟩ :=
        (reach_applying hr).answered p item result (by simp [hphase, Phase.tasks])
      obtain ⟨results, result, hanswer, hmem, href, hstatus⟩ := resultFor_confirmed hstatus
      have hurl : item.operation.url = r.target := htarget.symm
      have hcid : item.operation.cid = item.cid := rfl
      exact .result hcall hoperation rfl hurl hcid hanswer hmem href hstatus
    · exact .read hread (htarget ▸ hurl) hinfo

/-- Result application is exact. A result changes the rows of its own ARK
only, under its lock, while they are what was submitted. And a pending ARK
becomes published only where core-lib confirmed, or a chain read returned, its
own target and Level 1 CID. -/
theorem results_apply_exactly (hr : Reach (step cfg) Free {} s) (hs : step cfg s a = some t)
    (k : ArkId) :
    (∀ p E, a = .finish p E → t.cells k ≠ s.cells k →
      ∃ item result checked tasks, s.control.phase p = .holding item result checked tasks ∧
        item.ark = k ∧ s.control.locks k = some p ∧ isCurrent item (s.cells k) = true) ∧
    ∀ r r', (s.cells k).record = some r → (r.state = .draft ∨ r.state = .update) →
      (t.cells k).record = some r' → r'.state = .published →
      ∃ m cid, (s.cells k).metadata = some m ∧ m.level1Cid = some cid ∧
        Confirmed s k r.target cid a :=
  ⟨fun _ _ ha hne => settled_current hr hs ha hne,
    fun _ _ hrec hpending hrec' hpublished => published_confirmed hr hs hrec hpending hrec' hpublished⟩

end

section Sample

attribute [local instance] asciiText

open Sample in
theorem results_apply_exactly_confirmed :
    ∃ s t r r', Reach (step config) Free {} s ∧ step config s (.finish 0 resultEnv) = some t ∧
      (s.cells ark).record = some r ∧ r.state = .draft ∧
      (t.cells ark).record = some r' ∧ r'.state = .published ∧
      ∃ m cid, (s.cells ark).metadata = some m ∧ m.level1Cid = some cid ∧
        Confirmed s ark r.target cid (.finish 0 resultEnv) := by
  obtain ⟨t, ht⟩ := Option.isSome_iff_exists.mp
    (show (run (step config) (upToSubmit ++ [.submit 0 confirmed, .acquire 0] ++
      [.finish 0 resultEnv]) {}).isSome from by decide)
  obtain ⟨s, hrun, hs⟩ := run_concat ht
  have h : ((run (step config) (upToSubmit ++ [.submit 0 confirmed, .acquire 0]) {}).bind
      fun s => (s.cells ark).record.map (·.state)) = some .draft := by decide
  have h' : ((run (step config) (upToSubmit ++ [.submit 0 confirmed, .acquire 0] ++
      [.finish 0 resultEnv]) {}).bind fun t => (t.cells ark).record.map (·.state)) =
      some .published := by decide
  rw [hrun] at h
  rw [ht] at h'
  obtain ⟨r, hr, hstate⟩ := Option.map_eq_some_iff.mp h
  obtain ⟨r', hr', hstate'⟩ := Option.map_eq_some_iff.mp h'
  have hreach : Reach (step config) Free {} s := run_reach hrun
  exact ⟨s, t, r, r', hreach, hs, hr, hstate, hr', hstate',
    (results_apply_exactly hreach hs ark).2 r r' hr (.inl hstate) hr' hstate'⟩

end Sample

end DarkMinter.ResultApplication
