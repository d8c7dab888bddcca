import DarkMinter.InFlight
import DarkMinter.Lib.Succession
import DarkMinter.Ownership
import DarkMinter.Repairs
import Mathlib.Logic.Relation

namespace DarkMinter.Custody

open Text Processing Records Repository ArkApi Requests Publication ChainCycle Deployment Attempts Effects InFlight
open Lib.Runs Lib.Succession

section Life

/-- An ARK as its authorities see it, with the jobs that its handovers left behind. -/
inductive Life
  | absent
  | held (state : ARKState) (owner : String) (past : List SupersededJob)

def ends (job : SupersededJob) : String × String := (job.originalAuthorityId, job.replacementAuthorityId)

inductive Next : Life → Life → Prop
  | reserve {A : String} : Next .absent (.held .reserved A [])
  | adopt {A : String} : Next .absent (.held .published A [])
  | draft {A : String} {past : List SupersededJob} : Next (.held .reserved A past) (.held .draft A past)
  | update {A : String} {past : List SupersededJob} : Next (.held .published A past) (.held .update A past)
  | publish {state : ARKState} {A : String} {past : List SupersededJob} (h : state = .draft ∨ state = .update) :
      Next (.held state A past) (.held .published A past)
  | bury {state : ARKState} {A : String} {past : List SupersededJob} (h : state ≠ .tombstone) :
      Next (.held state A past) (.held .tombstone A past)
  | handOver {state : ARKState} {A B : String} {past : List SupersededJob} {job : SupersededJob} (hAB : A ≠ B)
      (hends : ends job = (A, B)) (hrecord : job.record.authorityId = A ∧ job.record.state = state) :
      Next (.held state A past) (.held .published B (past ++ [job]))

def Steps : Life → Life → Prop := Relation.ReflTransGen Next

def Life.past : Life → List SupersededJob
  | .absent => []
  | .held _ _ past => past

def Life.OwnedBy (A : String) : Life → Prop
  | .absent => False
  | .held _ owner _ => owner = A

/-- The ARK is past its first publication, or never had one to wait for. -/
def Life.Created : Life → Prop
  | .absent => False
  | .held state _ _ => state ≠ .reserved ∧ state ≠ .draft

/-- From one state to the other, the owner changed only by the handovers that the jobs record. -/
def PassedOn (x y : Life) : Prop :=
  ∃ jobs, y.past = x.past ++ jobs ∧ (∀ job ∈ jobs, job.record.authorityId = job.originalAuthorityId) ∧
    ∀ A, x.OwnedBy A → ∃ B, y.OwnedBy B ∧ Linked A (jobs.map ends) B

variable {x y z : Life}

theorem passedOn_refl : PassedOn x x :=
  ⟨[], (List.append_nil _).symm, by simp, fun A hA => ⟨A, hA, linked_nil⟩⟩

theorem PassedOn.trans (h : PassedOn x y) (h' : PassedOn y z) : PassedOn x z := by
  obtain ⟨jobs, hpast, hrecord, howner⟩ := h
  obtain ⟨jobs', hpast', hrecord', howner'⟩ := h'
  refine ⟨jobs ++ jobs', by rw [hpast', hpast, List.append_assoc], ?_, ?_⟩
  · intro job hjob
    exact (List.mem_append.mp hjob).elim (hrecord job) (hrecord' job)
  · intro A hA
    obtain ⟨B, hB, hAB⟩ := howner A hA
    obtain ⟨C, hC, hBC⟩ := howner' B hB
    exact ⟨C, hC, by simpa using hAB.append hBC⟩

theorem Next.passedOn (h : Next x y) : PassedOn x y := by
  cases h with
  | reserve | adopt => exact ⟨[], rfl, by simp, fun A hA => hA.elim⟩
  | draft | update | publish | bury =>
      exact ⟨[], (List.append_nil _).symm, by simp, fun A hA => ⟨A, hA, linked_nil⟩⟩
  | @handOver state A B past job hAB hends hrecord =>
      refine ⟨[job], rfl, ?_, ?_⟩
      · intro j hj
        obtain rfl := List.mem_singleton.mp hj
        rw [hrecord.1]
        exact (congrArg Prod.fst hends).symm
      · rintro _ rfl
        refine ⟨B, rfl, ?_⟩
        rw [List.map_singleton, hends]
        exact linked_single hAB

theorem Next.created (h : Next x y) (hx : x.Created) : y.Created := by
  cases h with
  | reserve | adopt => exact hx.elim
  | draft => exact absurd rfl hx.1
  | update | publish | bury | handOver => exact ⟨by simp, by simp⟩

theorem Steps.passedOn (h : Steps x y) : PassedOn x y := by
  induction h with
  | refl => exact passedOn_refl
  | tail _ hnext ih => exact ih.trans hnext.passedOn

theorem Steps.created (h : Steps x y) (hx : x.Created) : y.Created := by
  induction h with
  | refl => exact hx
  | tail _ hnext ih => exact hnext.created ih

theorem Steps.buried {A : String} {past : List SupersededJob} (h : Steps (.held .tombstone A past) x)
    (hpast : x.past = past) : x = .held .tombstone A past := by
  induction h with
  | refl => rfl
  | @tail y z hsteps hnext ih =>
      obtain ⟨jobs, hy, -⟩ := Steps.passedOn hsteps
      obtain ⟨jobs', hz, -⟩ := hnext.passedOn
      have hnone : jobs = [] ∧ jobs' = [] := by
        rw [hz, hy, List.append_assoc] at hpast
        exact List.append_eq_nil_iff.mp (List.self_eq_append_right.mp hpast.symm)
      obtain rfl := ih (by rw [hy, hnone.1]; exact List.append_nil _)
      cases hnext with
      | publish hpending => rcases hpending with h | h <;> cases h
      | bury hlive => exact absurd rfl hlive
      | handOver => exact absurd (List.append_cancel_left hz) (by simp [hnone.2])

def Rooted (x : Life) : Prop := ∀ B, x.OwnedBy B → ∃ A, Linked A (x.past.map ends) B

theorem Next.rooted (h : Next x y) (hx : Rooted x) : Rooted y := by
  obtain ⟨jobs, hpast, -, howner⟩ := h.passedOn
  intro B hB
  cases x with
  | absent =>
      cases h with
      | reserve | adopt => exact ⟨B, linked_nil⟩
  | held state A past =>
      obtain ⟨first, hfirst⟩ := hx A rfl
      obtain ⟨B', hB', hlinked⟩ := howner A rfl
      obtain rfl : B' = B := by
        cases y with
        | absent => exact hB.elim
        | held => exact hB'.symm.trans hB
      rw [hpast, List.map_append]
      exact ⟨first, hfirst.append hlinked⟩

theorem Steps.rooted (h : Steps x y) (hx : Rooted x) : Rooted y := by
  induction h with
  | refl => exact hx
  | tail _ hnext ih => exact hnext.rooted ih

end Life

def lifeOf (c : Cell) : Life :=
  match c.record with
  | none => .absent
  | some r => .held r.state r.authorityId c.superseded

def Vacant (c : Cell) : Prop := c.record = none → c.superseded = []

section Cells

variable {c c' : Cell} {k : ArkId} {A : String} {r : ARKRecord}

theorem lifeOf_none (h : c.record = none) : lifeOf c = .absent := by simp [lifeOf, h]

theorem lifeOf_some (h : c.record = some r) : lifeOf c = .held r.state r.authorityId c.superseded := by
  simp [lifeOf, h]

theorem lifeOf_same {r' : ARKRecord} (hr : c.record = some r) (hr' : c'.record = some r') (hstate : r'.state = r.state)
    (hA : r'.authorityId = r.authorityId) (hjobs : c'.superseded = c.superseded) : lifeOf c' = lifeOf c := by
  rw [lifeOf_some hr, lifeOf_some hr', hstate, hA, hjobs]

theorem ownedBy_iff :
    (lifeOf c).OwnedBy A ↔ ∃ r, c.record = some r ∧ r.authorityId = A := by
  cases hr : c.record <;> simp [lifeOf, hr, Life.OwnedBy]

theorem past_of (h : Vacant c) : (lifeOf c).past = c.superseded := by
  cases hr : c.record with
  | none => rw [lifeOf_none hr, h hr]; rfl
  | some r => rw [lifeOf_some hr]; rfl

theorem created_iff :
    (lifeOf c).Created ↔ ∃ r, c.record = some r ∧ r.state ≠ .reserved ∧ r.state ≠ .draft := by
  cases hr : c.record <;> simp [lifeOf, hr, Life.Created]

theorem noted_same (h : Noted c c') : lifeOf c' = lifeOf c := by
  obtain ⟨r, r', hr, hr', hstate, hA, -, -, -, hjobs⟩ := h.keeps
  exact lifeOf_same hr hr' hstate hA hjobs

theorem reserved_steps (row : Reservation) (h : c.record = none) (h0 : Vacant c) :
    Steps (lifeOf c) (lifeOf { c with record := some row.record }) := by
  apply Relation.ReflTransGen.single
  rw [lifeOf_none h, lifeOf_some rfl]
  change Next .absent (.held .reserved row.authorityId c.superseded)
  rw [h0 h]
  exact .reserve

theorem seen_steps {E : PutEnv} (h : Seen E c c') (h0 : Vacant c) : Steps (lifeOf c) (lifeOf c') := by
  cases h with
  | same => exact .refl
  | raced hnone => exact reserved_steps _ hnone h0

theorem handedOver (info : ARKInfo) (now : Time) (hr : c.record = some r) (hA : r.authorityId ≠ A) :
    Next (lifeOf c) (lifeOf (superseded A info now r c)) := by
  rw [lifeOf_some hr]
  exact .handOver hA rfl ⟨rfl, rfl⟩

theorem published_next (now : Time) (hr : c.record = some r) (hstate : r.state = .draft ∨ r.state = .update) :
    Next (lifeOf c) (lifeOf { c with record := some (publishedRecord now r) }) := by
  rw [lifeOf_some hr]
  exact .publish hstate

theorem tombstoned_next (now : Time) (hr : c.record = some r) (hlive : r.state ≠ .tombstone) :
    Next (lifeOf c) (lifeOf { c with record := some (tombstonedRecord now r) }) := by
  rw [lifeOf_some hr]
  exact .bury hlive

theorem publishAccepts_pending {now : Time} (h : publishAccepts now r = true) :
    r.state = .draft ∨ r.state = .update := by
  simp only [publishAccepts, Bool.and_eq_true, decide_eq_true_eq] at h
  simpa using h.1.1

variable [PyLower]

theorem base_steps {E : PutEnv} (h : PutBase k A E c c') (h0 : Vacant c) : Steps (lifeOf c) (lifeOf c') := by
  cases h with
  | own hseen => exact seen_steps hseen h0
  | imported hnone =>
      apply Relation.ReflTransGen.single
      rw [lifeOf_none hnone]
      change Next .absent (.held .published A c.superseded)
      rw [h0 hnone]
      exact .adopt
  | reclaimed hseen hr hA => exact (seen_steps hseen h0).tail (handedOver _ _ hr hA)

theorem staged_next {request : UpdateARKMetadataRequest} {now : Time} {json : Json} (hr : c.record = some r)
    (hstate : r.state = .reserved ∨ r.state = .published) :
    Next (lifeOf c) (lifeOf (staged request now json r c)) := by
  have hafter : lifeOf (staged request now json r c) =
      .held (if r.state = .reserved then .draft else .update) r.authorityId c.superseded := by
    rw [lifeOf_some rfl]
    simp [staged, withPayload, createOrUpdateMetadata, stagedRecord]
  rw [hafter, lifeOf_some hr]
  rcases hstate with h | h <;> rw [h]
  · exact .draft
  · exact .update

theorem tombstoned_steps {E : DeleteEnv} (h : Tombstoned k A E c c') : Steps (lifeOf c) (lifeOf c') := by
  rcases h.cases with ⟨r, hr, -, ⟨-, rfl⟩ | ⟨hlive, rfl⟩⟩ | ⟨r, info, r', hr, hA, -, hr', rfl⟩
  · exact .refl
  · exact .single (tombstoned_next _ hr hlive)
  · have hlive : r'.state ≠ .tombstone := by
      obtain rfl := Option.some.inj hr'
      simp
    exact (Relation.ReflTransGen.single (handedOver info E.now hr hA)).tail (tombstoned_next _ hr' hlive)

theorem effect_steps {cfg : Config} {op : Op} (h0 : Vacant c) (h : Effect cfg k c op c') (ha : Admissible c op) :
    Steps (lifeOf c) (lifeOf c') := by
  have hsame : ∀ {c₁ : Cell}, lifeOf c₁ = lifeOf c → Steps (lifeOf c) (lifeOf c₁) := by
    intro c₁ heq
    rw [heq]
    exact .refl
  cases h with
  | none => exact .refl
  | reserved => exact reserved_steps _ ha h0
  | raced hnone => exact reserved_steps _ hnone h0
  | staged h =>
      obtain ⟨b, r, json, hb, hr, -, hstate, -, -, rfl⟩ := h.ex
      exact (base_steps hb h0).tail (staged_next hr hstate)
  | tombstoned h => exact tombstoned_steps h
  | retried hr | persisted hr => exact hsame (lifeOf_same hr rfl rfl rfl rfl)
  | observed hr => exact hsame (lifeOf_same hr rfl (reconciledRows_keeps ..).1 (reconciledRows_keeps ..).2.1 rfl)
  | published hr haccepts h =>
      obtain ⟨_, _, -, -, -, -, rfl⟩ := h
      exact .single (published_next _ hr (publishAccepts_pending haccepts))
  | publishedItem h =>
      obtain ⟨hcurrent, -, r, hr, rfl⟩ := h
      obtain ⟨r', _, hr', -, -, hstate, -⟩ := isCurrent_iff.mp hcurrent
      obtain rfl := Option.some.inj (hr.symm.trans hr')
      exact .single (published_next _ hr (hstate ▸ ha.1))
  | persistNoted _ _ h | reconcileNoted _ _ h | publishNoted _ _ h | unassigned _ _ h | resultNoted _ h =>
      exact hsame (noted_same h)

end Cells

section Runs

variable [PyLower] {cfg : Config} {s t u v : Sys} {a : Act} {k : ArkId} {r : ARKRecord} {G : Sys → Act → Prop}

theorem reach_vacant (h : Reach (step cfg) G {} s) (k : ArkId) : Vacant (s.cells k) := by
  refine reach_cells h (fun _ => rfl) ?_ k
  intro s a k op _ _ _ heffect h0 hnone
  have hsame := Repairs.effect_absent heffect hnone
  rw [hsame] at hnone ⊢
  exact h0 hnone

theorem reach_steps (hr : Reach (step cfg) Free {} s) (hu : Reach (step cfg) Free s u) (k : ArkId) :
    Steps (lifeOf (s.cells k)) (lifeOf (u.cells k)) := by
  induction hu with
  | init => exact .refl
  | next hu _ hs ih =>
      rcases reach_effect (hr.trans hu) hs k with ⟨-, hsame⟩ | ⟨op, -, hadm, heffect⟩
      · rw [hsame]
        exact ih
      · exact ih.trans (effect_steps (reach_vacant (hr.trans hu) k) heffect hadm)

/-- Every run of requests and workers takes an ARK through steps of its life, and a tombstone is left by
a recorded handover only. -/
theorem lifecycle_refined (hr : Reach (step cfg) Free {} s) (hu : Reach (step cfg) Free s u) (k : ArkId) :
    Steps (lifeOf (s.cells k)) (lifeOf (u.cells k)) ∧
      ∀ r, (s.cells k).record = some r → r.state = .tombstone →
        (u.cells k).superseded = (s.cells k).superseded →
          ∃ r', (u.cells k).record = some r' ∧ r'.state = .tombstone ∧ r'.authorityId = r.authorityId := by
  have hsteps := reach_steps hr hu k
  refine ⟨hsteps, fun r hrec hstate hjobs => ?_⟩
  rw [lifeOf_some hrec, hstate] at hsteps
  have hburied := hsteps.buried (by rw [past_of (reach_vacant (hr.trans hu) k), hjobs])
  cases hrec' : (u.cells k).record with
  | none =>
      rw [lifeOf_none hrec'] at hburied
      cases hburied
  | some r' =>
      rw [lifeOf_some hrec'] at hburied
      injection hburied with hstate' hA
      exact ⟨r', rfl, hstate', hA⟩

/-- What is kept of an ARK's former authorities is only added to, and leads without a gap from the
authority that first held it to the present one; so between any two states of a run the authority
changed by the handovers recorded between them, and by nothing else. -/
theorem custody_unbroken (hr : Reach (step cfg) Free {} s) (hu : Reach (step cfg) Free s u) (k : ArkId) :
    (∃ jobs, (u.cells k).superseded = (s.cells k).superseded ++ jobs ∧
      (∀ job ∈ jobs, job.record.authorityId = job.originalAuthorityId) ∧
      ∀ r, (s.cells k).record = some r →
        ∃ r', (u.cells k).record = some r' ∧ Linked r.authorityId (jobs.map ends) r'.authorityId) ∧
    ∀ r', (u.cells k).record = some r' →
      ∃ first, Linked first ((u.cells k).superseded.map ends) r'.authorityId := by
  have hbefore := past_of (reach_vacant hr k)
  have hafter := past_of (reach_vacant (hr.trans hu) k)
  refine ⟨?_, ?_⟩
  · obtain ⟨jobs, hpast, hrecord, howner⟩ := (reach_steps hr hu k).passedOn
    rw [hbefore, hafter] at hpast
    refine ⟨jobs, hpast, hrecord, fun r hrec => ?_⟩
    obtain ⟨B, hB, hlinked⟩ := howner r.authorityId (ownedBy_iff.mpr ⟨r, hrec, rfl⟩)
    obtain ⟨r', hr', rfl⟩ := ownedBy_iff.mp hB
    exact ⟨r', hr', hlinked⟩
  · intro r' hr'
    have hrooted : Rooted (lifeOf (u.cells k)) :=
      (reach_steps .init (hr.trans hu) k).rooted fun B hB => hB.elim
    rw [← hafter]
    exact hrooted _ (ownedBy_iff.mpr ⟨r', hr', rfl⟩)

/-- No operation on the ARK that the rest of a cycle is about is a create. -/
structure Updates (k : ArkId) (phase : Phase) : Prop where
  rows : ∀ rows items, phase = .reading rows items → ∀ row ∈ rows, row.1 = k → row.2.state ≠ .draft
  items : ∀ rows items, phase = .reading rows items → ∀ item ∈ items, item.ark = k → item.state ≠ .draft
  tasks : ∀ authorityId items, .submit authorityId items ∈ phase.tasks → ∀ item ∈ items, item.ark = k →
    item.state ≠ .draft

omit [PyLower] in
theorem updates_idle {phase : Phase} (h : k ∉ phase.arks) : Updates k phase := by
  refine ⟨?_, ?_, ?_⟩
  · rintro rows items rfl row hrow rfl
    exact absurd (List.mem_append_left _ (List.mem_map_of_mem hrow)) h
  · rintro rows items rfl item hitem rfl
    exact absurd (List.mem_append_right _ (List.mem_map_of_mem hitem)) h
  · rintro authorityId items htask item hitem rfl
    have hmem : item.ark ∈ phase.tasks.flatMap Task.arks :=
      List.mem_flatMap.mpr ⟨_, htask, List.mem_map_of_mem hitem⟩
    cases phase with
    | reading => cases htask
    | idle | working | holding => exact absurd hmem h

omit [PyLower] in
theorem updates_step {ctl : Control} (hm : Moves cfg s a ctl) (hcreated : (lifeOf (s.cells k)).Created) {p : Nat}
    (h : Updates k (s.control.phase p)) : Updates k (ctl.phase p) := by
  refine ⟨?_, ?_, ?_⟩
  · intro rows items hphase row hrow hk
    rcases hm.reading hphase with hold | ⟨now, page, -, hpage, rfl, -⟩ | ⟨j, r, read, -, hold, -⟩
    · exact h.rows rows items hold row hrow hk
    · obtain ⟨hr, -⟩ := mem_selectedRows hpage hrow
      obtain ⟨r, hr', -, hdraft⟩ := created_iff.mp hcreated
      rw [hk, hr', Option.some.injEq] at hr
      exact hr ▸ hdraft
    · exact h.rows _ _ hold row (List.mem_cons_of_mem _ hrow) hk
  · intro rows items hphase item hitem hk
    rcases hm.reading hphase with hold | ⟨now, page, -, -, -, rfl⟩ | ⟨j, r, read, -, hold, rfl⟩
    · exact h.items rows items hold item hitem hk
    · cases hitem
    · rcases List.mem_append.mp hitem with hitem | hitem
      · exact h.items _ _ hold item hitem hk
      · obtain ⟨_, -, -, hread⟩ := itemOf_spec (Option.mem_toList.mp hitem)
        have hstate := congrArg PipelineItem.state hread
        rw [itemOf_ark (Option.mem_toList.mp hitem)] at hk
        rw [hstate]
        exact h.rows _ _ hold _ (List.mem_cons_self ..) hk
  · intro authorityId items htask item hitem hk
    rcases hm.tasks htask with htask | ⟨_, hold, htask⟩ | ⟨_, _, _, _, _, _, _, _, htask⟩
    · exact h.tasks authorityId items htask item hitem hk
    · exact h.items _ _ hold item (mem_plan_submit cfg.rpcBatchSize_pos htask item hitem).1 hk
    · cases htask

theorem reach_updates (hr : Reach (step cfg) Free {} s) (hcreated : (lifeOf (s.cells k)).Created)
    (hu : Reach (step cfg) Free s u) {p : Nat} (hp : k ∉ (s.control.phase p).arks) :
    Updates k (u.control.phase p) := by
  induction hu with
  | init => exact updates_idle hp
  | next hw _ hs ih =>
      exact updates_step (control_moves (step_eq hs).1) ((reach_steps hr hw k).created hcreated) ih

/-- An ARK is created on the chain once: a record that has left RESERVED and DRAFT is in neither
again, and a cycle that selects it from then on submits it as an update, never as a create. -/
theorem created_once (hr : Reach (step cfg) Free {} s) (hrec : (s.cells k).record = some r)
    (hstate : r.state ≠ .reserved ∧ r.state ≠ .draft) (hu : Reach (step cfg) Free s u) :
    (∃ r', (u.cells k).record = some r' ∧ r'.state ≠ .reserved ∧ r'.state ≠ .draft) ∧
    ∀ v p answer, k ∉ (s.control.phase p).arks → step cfg u (.submit p answer) = some v →
      ∃ call, v.control.calls = call :: u.control.calls ∧
        ∀ operation ∈ call.operations, operation.ref = k → operation.action = "update" := by
  have hcreated : (lifeOf (s.cells k)).Created := created_iff.mpr ⟨r, hrec, hstate⟩
  refine ⟨created_iff.mp ((reach_steps hr hu k).created hcreated), ?_⟩
  intro v p answer hp hv
  have hupdates := reach_updates hr hcreated hu hp
  have hm := control_moves (step_eq hv).1
  generalize v.control = ctl at hm
  cases hm with
  | @submit _ _ authorityId items tasks hphase =>
      refine ⟨_, rfl, ?_⟩
      intro operation hoperation hk
      obtain ⟨item, hitem, rfl⟩ := List.mem_map.mp hoperation
      have hdraft := hupdates.tasks authorityId items (by simp [hphase, Phase.tasks]) item hitem hk
      exact if_neg hdraft

end Runs

section Sample

attribute [local instance] asciiText

open Deployment.Sample

def handedOn : List Act := toChain ++ [Ownership.takeover]

def onceMore : List Act :=
  [.mutate ark (.persist persistEnv), .mutate ark (.reconcile reconcileEnv), .select 0 4 [ark], .readMetadata 0,
    .plan 0]

theorem sample_handover : ∃ s u, Reach (step config) Free {} s ∧ Reach (step config) Free s u ∧
    (s.cells ark).record.map (·.authorityId) = some "A" ∧
    (u.cells ark).record.map (fun r => (r.authorityId, r.state)) = some ("B", .update) := by
  have hbefore : ((run (step config) toChain {}).bind
      fun s => (s.cells ark).record.map (·.authorityId)) = some "A" := by decide
  have hafter : ((run (step config) handedOn {}).bind
      fun s => (s.cells ark).record.map fun r => (r.authorityId, r.state)) = some ("B", .update) := by decide
  obtain ⟨u, hu, hafter⟩ := Option.bind_eq_some_iff.mp hafter
  obtain ⟨s, hs, hstep⟩ := run_concat hu
  rw [hs, Option.bind_some] at hbefore
  exact ⟨s, u, run_reach hs, .next .init trivial hstep, hbefore, hafter⟩

def buried : List Act := toChain ++ [.mutate ark (.delete owner deleteEnv)]

theorem lifecycle_refined_sample : ∃ s t u, Reach (step config) Free {} s ∧
    step config s (.mutate ark (.delete owner deleteEnv)) = some t ∧ step config t Ownership.takeover = some u ∧
      (t.cells ark).record.map (fun r => (r.authorityId, r.state)) = some ("A", .tombstone) ∧
        (u.cells ark).record.map (fun r => (r.authorityId, r.state)) = some ("B", .update) ∧
          Steps (lifeOf (s.cells ark)) (lifeOf (u.cells ark)) := by
  have hdeleted : ((run (step config) buried {}).map fun s => ((s.cells ark).superseded.length,
      (s.cells ark).record.map fun r => (r.authorityId, r.state))) = some (0, some ("A", .tombstone)) := by decide
  have hagain : ((run (step config) (buried ++ [.mutate ark (.delete owner deleteEnv)]) {}).map
      fun s => (s.cells ark).superseded.length) = some 0 := by decide
  have htaken : ((run (step config) (buried ++ [.mutate ark (.delete owner deleteEnv)] ++ [Ownership.takeover])
      {}).map fun s => (s.cells ark).record.map fun r => (r.authorityId, r.state)) = some (some ("B", .update)) := by
    decide
  obtain ⟨u, hu, htaken⟩ := Option.map_eq_some_iff.mp htaken
  obtain ⟨t, ht, htake⟩ := run_concat hu
  obtain ⟨s, hs, hdelete⟩ := run_concat ht
  rw [ht] at hagain
  rw [hs] at hdeleted
  obtain ⟨hbefore, hrecord⟩ := Prod.mk.inj (Option.some.inj hdeleted)
  obtain ⟨r, hr, hA⟩ := Option.map_eq_some_iff.mp hrecord
  have hstep : Reach (step config) Free s t := .next .init trivial hdelete
  have hjobs : (t.cells ark).superseded = (s.cells ark).superseded := by
    rw [List.length_eq_zero_iff.mp hbefore, List.length_eq_zero_iff.mp (Option.some.inj hagain)]
  obtain ⟨r', hr', hstate, howner⟩ :=
    (lifecycle_refined (run_reach hs) hstep ark).2 r hr (Prod.mk.inj hA).2 hjobs
  refine ⟨s, t, u, run_reach hs, hdelete, htake, ?_, htaken, ?_⟩
  · rw [hr', Option.map_some, hstate, howner, (Prod.mk.inj hA).1]
  · exact (lifecycle_refined (run_reach hs) (hstep.next trivial htake) ark).1

theorem custody_unbroken_sample : ∃ s u jobs, Reach (step config) Free {} s ∧ Reach (step config) Free s u ∧
    (u.cells ark).superseded = (s.cells ark).superseded ++ jobs ∧ Linked "A" (jobs.map ends) "B" := by
  obtain ⟨s, u, hs, hu, hbefore, hafter⟩ := sample_handover
  obtain ⟨r, hr, hA⟩ := Option.map_eq_some_iff.mp hbefore
  obtain ⟨r₁, hr₁, hB⟩ := Option.map_eq_some_iff.mp hafter
  obtain ⟨⟨jobs, hjobs, -, howner⟩, -⟩ := custody_unbroken hs hu ark
  obtain ⟨r', hr', hlinked⟩ := howner r hr
  obtain rfl := Option.some.inj (hr₁.symm.trans hr')
  rw [hA, (Prod.mk.inj hB).1] at hlinked
  exact ⟨s, u, jobs, hs, hu, hjobs, hlinked⟩

theorem created_once_sample : ∃ u v call, Reach (step config) Free {} u ∧
    step config u (.submit 0 confirmed) = some v ∧ v.control.calls = call :: u.control.calls ∧
    call.operations.length = 1 ∧ ∀ operation ∈ call.operations, operation.ref = ark → operation.action = "update" := by
  have hbefore : ((run (step config) handedOn {}).bind fun s => (s.cells ark).record.map fun r =>
      (decide (r.state ≠ .reserved ∧ r.state ≠ .draft), (s.control.phase 0).arks)) = some (true, []) := by decide
  have hafter : ((run (step config) (handedOn ++ onceMore ++ [.submit 0 confirmed]) {}).map
      fun v => v.control.calls.map fun call => call.operations.length) = some [1] := by decide
  obtain ⟨v, hv, hcalls⟩ := Option.map_eq_some_iff.mp hafter
  obtain ⟨u, hu, hsubmit⟩ := run_concat hv
  obtain ⟨s, hs, hrest⟩ := run_append hu
  rw [hs, Option.bind_some] at hbefore
  obtain ⟨r, hr, hr'⟩ := Option.map_eq_some_iff.mp hbefore
  obtain ⟨hstate, hidle⟩ := Prod.mk.inj hr'
  obtain ⟨-, honce⟩ := created_once (run_reach hs) hr (of_decide_eq_true hstate) (run_reach hrest)
  obtain ⟨call, hcall, hupdate⟩ := honce v 0 confirmed (by simp [hidle]) hsubmit
  refine ⟨u, v, call, run_reach hu, hsubmit, hcall, ?_, hupdate⟩
  rw [hcall] at hcalls
  exact (List.cons.inj hcalls).1

end Sample

end DarkMinter.Custody
