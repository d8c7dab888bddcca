import DarkMinter.PipelineInvariant

namespace DarkMinter.Retention

open Text Processing Records Repository Authority ArkApi Requests Retry Persistence Replication Publication
open ChainCycle Deployment Attempts Effects ResultApplication InFlight PipelineInvariant Lib.Runs

section

/-- Two payloads, and the CIDs under which a metadata attempt stored them. -/
structure Upload where
  level1Cid : Cid
  level2Cid : Cid
  level1Json : Json
  originalContent : String

def Upload.heldBy (p : Upload) (m : ARKMetadata) : Prop :=
  m.level1Json = some p.level1Json ∧ m.originalContent = some p.originalContent

/-- A local copy is left, or both CIDs were observed with their replicas. -/
def Protected (p : Upload) (c : Cell) (replicated : List (Cid × Cid)) : Prop :=
  (∃ m, c.metadata = some m ∧ p.heldBy m) ∨ (p.level1Cid, p.level2Cid) ∈ replicated ∨
    ∃ job ∈ c.superseded, ∃ m, job.metadata = some m ∧ p.heldBy m

/-- What happened to each ARK: the payloads that were stored, the CIDs that were observed with the
target number of replicas, and the Level 1 CID of the latest confirmed chain write. -/
structure History where
  uploads : ArkId → List Upload := fun _ => []
  replicated : ArkId → List (Cid × Cid) := fun _ => []
  live : ArkId → Option Cid := fun _ => none

def uploadedBy (c c' : Cell) : Option Upload := do
  let m ← c.metadata
  let m' ← c'.metadata
  let level1Cid ← m'.level1Cid
  let level2Cid ← m'.originalCid
  let level1Json ← m.level1Json
  let originalContent ← m.originalContent
  if c.record.map (·.processingStage) = c'.record.map (·.processingStage) then none
  else some { level1Cid, level2Cid, level1Json, originalContent }

def published (c : Cell) : Bool := c.record.any (·.state = .published)

/-- The Level 1 CID that an attempt on the rows `c` handed to the chain, where the chain took it. -/
def writtenBy (E : PublishEnv) (c c' : Cell) : Option Cid := do
  let r ← c.record
  let m ← c.metadata
  let _ ← m.originalCid
  if publishAccepts E.readyAt r && E.assigned r.authorityId && (E.write.isOk || published c') then m.level1Cid
  else none

variable [PyLower]

/-- The CIDs of `c` that an attempt observed with the target number of replicas. -/
def replicatedBy (cfg : ReplicationConfig) (E : ReconcileEnv) (c : Cell) : Option (Cid × Cid) := do
  let r ← c.record
  let m ← c.metadata
  let level1Cid ← m.level1Cid
  let level2Cid ← m.originalCid
  let (level1, level2) ← (observe E level1Cid level2Cid).toOption
  if reconcileAccepts E.readyAt r && E.assigned r.authorityId &&
      cfg.targetReplicas ≤ min level1.totalReplicas.toNat level2.totalReplicas.toNat then
    some (level1Cid, level2Cid)
  else none

def newlyUploaded (s : Sys) (a : Act) (k : ArkId) (c' : Cell) : Option Upload :=
  match opOf s a k with
  | some (.mutation (.persist _)) => uploadedBy (s.cells k) c'
  | _ => none

def newlyReplicated (cfg : Config) (s : Sys) (a : Act) (k : ArkId) : Option (Cid × Cid) :=
  match opOf s a k with
  | some (.mutation (.reconcile E)) => replicatedBy cfg.replication E (s.cells k)
  | _ => none

/-- The chain write of `k` that the step confirms: in the answer to a submission, in a single
attempt, or in a read that shows it. -/
def newlyLive (s : Sys) (a : Act) (k : ArkId) (c' : Cell) : Option Cid :=
  match a with
  | .submit p answer => match s.control.phase p with
    | .working (.submit _ items :: _) =>
        (items.find? fun item => item.ark = k && (resultFor answer item).status = "confirmed").map (·.cid)
    | _ => none
  | _ => match opOf s a k with
    | some (.mutation (.publish E)) => writtenBy E (s.cells k) c'
    | some (.result item result _) =>
        if result.status ≠ "confirmed" && !published (s.cells k) && published c' then some item.cid else none
    | _ => none

def History.after (cfg : Config) (s : Sys) (a : Act) (h : History) : History where
  uploads k := (newlyUploaded s a k (cellsAfter cfg s a k)).toList ++ h.uploads k
  replicated k := (newlyReplicated cfg s a k).toList ++ h.replicated k
  live k := (newlyLive s a k (cellsAfter cfg s a k)).or (h.live k)

/-- A step together with what it adds to the history. -/
def recordedStep (cfg : Config) (u : Sys × History) (a : Act) : Option (Sys × History) :=
  (step cfg u.1 a).map fun t => (t, u.2.after cfg u.1 a)

/-- No payload is staged for a published ARK that still waits for its replicas. -/
def Preserving (cfg : Config) (s : Sys) (a : Act) : Prop :=
  ∀ k put r, stagedBy s a k (cellsAfter cfg s a k) = some put → (s.cells k).record = some r →
    r.authorityId = put.authorityId → r.processingStage ≠ .replication

def Upload.copiedIn (p : Upload) (m : ARKMetadata) : Prop :=
  m.level1Cid = some p.level1Cid ∧ m.originalCid = some p.level2Cid ∧ p.heldBy m

def Safe (p : Upload) (c : Cell) (replicated : List (Cid × Cid)) : Prop :=
  (∃ m, c.metadata = some m ∧ p.copiedIn m) ∨ (p.level1Cid, p.level2Cid) ∈ replicated ∨
    ∃ job ∈ c.superseded, ∃ m, job.metadata = some m ∧ p.heldBy m

variable {p : Upload} {c c' : Cell} {R R' : List (Cid × Cid)}

omit [PyLower] in
theorem Safe.protected (h : Safe p c R) : Protected p c R :=
  h.imp_left fun ⟨m, hm, hcopied⟩ => ⟨m, hm, hcopied.2.2⟩

omit [PyLower] in
theorem Safe.mono (h : Safe p c R) (hR : R ⊆ R') : Safe p c R' :=
  h.imp_right fun h => h.imp_left fun hmem => hR hmem

omit [PyLower] in
theorem Safe.same (h : Safe p c R) (hm : c'.metadata = c.metadata) (hs : c'.superseded = c.superseded) :
    Safe p c' R := by
  unfold Safe
  rw [hm, hs]
  exact h

omit [PyLower] in
theorem Safe.overwritten (h : Safe p c R) (hno : ∀ m, c.metadata = some m → ¬p.copiedIn m)
    (hs : c'.superseded = c.superseded) : Safe p c' R := by
  rcases h with ⟨m, hm, hcopied⟩ | h | h
  · exact absurd hcopied (hno m hm)
  · exact .inr (.inl h)
  · exact .inr (.inr (hs ▸ h))

omit [PyLower] in
theorem Safe.superseded (h : Safe p c R) (A : String) (info : ARKInfo) (now : Time) (r : ARKRecord) :
    Safe p (ArkApi.superseded A info now r c) R := by
  rcases h with ⟨m, hm, hcopied⟩ | h | ⟨job, hjob, hheld⟩
  · exact .inr (.inr ⟨_, List.mem_append_right _ (List.mem_singleton_self _), m, hm, hcopied.2.2⟩)
  · exact .inr (.inl h)
  · exact .inr (.inr ⟨job, List.mem_append_left _ hjob, hheld⟩)

omit [PyLower] in
theorem Safe.seen {E : PutEnv} (h : Safe p c R) (hseen : Seen E c c') : Safe p c' R := by
  cases hseen with
  | same => exact h
  | raced => exact h.same rfl rfl

omit [PyLower] in
theorem not_copied_of_purged {m : ARKMetadata} (hpurged : m.level1Json = none) : ¬p.copiedIn m := by
  rintro ⟨-, -, hjson, -⟩
  rw [hpurged] at hjson
  cases hjson

variable {cfg : Config} {s t : Sys} {a : Act} {k : ArkId} {op : Op}

theorem safe_staged {A : String} {request : UpdateARKMetadataRequest} {E : PutEnv} (h : Safe p c R)
    (hcons : Consistent cfg.replication c) (hstaged : Staged k A request E c c')
    (hstage : ∀ r, c.record = some r → r.authorityId = A → r.processingStage ≠ .replication) : Safe p c' R := by
  obtain ⟨b, r, json, hbase, hr, -, hstate, -, -, rfl⟩ := hstaged.ex
  have hnone : c.record = none → ∀ m, c.metadata = some m → ¬p.copiedIn m := by
    intro hrecord m hm
    rw [hcons.absent hrecord] at hm
    cases hm
  cases hbase with
  | own hseen hr' hA =>
      obtain rfl := Option.some.inj (hr.symm.trans hr')
      refine (h.seen hseen).overwritten ?_ rfl
      cases hseen with
      | raced hrecord => exact hnone hrecord
      | same =>
          intro m hm
          have hlive : r.state ≠ .tombstone := by
            rcases hstate with h | h <;> simp [h]
          have hat := hcons.live r hr hlive
          rw [hm] at hat
          cases hat with
          | metadata _ hpending | availability _ hpending | chain _ hpending =>
              rcases hpending with h | h <;> rcases hstate with h' | h' <;> rw [h] at h' <;> cases h'
          | replication hrepl => exact absurd hrepl (hstage r hr hA)
          | complete _ _ hpurged => exact not_copied_of_purged hpurged.1
  | imported hrecord =>
      refine h.overwritten (hnone hrecord) rfl
  | @reclaimed c₀ r' info hseen hr' hne ho =>
      refine ((h.seen hseen).superseded A info E.now r').overwritten ?_ rfl
      rintro m ⟨⟩

theorem safe_tombstoned {A : String} {E : DeleteEnv} (h : Safe p c R) (htomb : Tombstoned k A E c c') :
    Safe p c' R := by
  exact htomb.keeps (I := fun b => Safe p b R) h (fun _ _ _ => h.superseded _ _ _ _) fun _ _ _ hb => hb.same rfl rfl

omit [PyLower] in
theorem Safe.noted (h : Safe p c R) (hn : Noted c c') : Safe p c' R := by
  exact h.same hn.metadata hn.superseded

omit [PyLower] in
theorem at_persist {replication : ReplicationConfig} {now : Time} {r : ARKRecord} (hcons : Consistent replication c)
    (hr : c.record = some r) (hacc : persistAccepts now r = true) :
    Pending r ∧ ∃ m, c.metadata = some m ∧ Faults.Payloads m ∧ m.originalMediaType.isSome ∧
      m.level1Cid = none ∧ m.originalCid = none := by
  obtain ⟨hlive, hstage⟩ := persistAccepts_live hacc
  exact (hcons.live r hr hlive).at_metadata hstage

theorem safe_effect (h : Safe p c R) (hcons : Consistent cfg.replication c) (heffect : Effect cfg k c op c')
    (hput : ∀ identity request E, op = .mutation (.put identity request E) →
      Staged k identity.authorityId request E c c' →
      ∀ r, c.record = some r → r.authorityId = identity.authorityId → r.processingStage ≠ .replication)
    (hne : ∀ E, op ≠ .mutation (.reconcile E)) : Safe p c' R := by
  cases heffect with
  | none => exact h
  | reserved | raced | retried => exact h.same rfl rfl
  | staged hstaged => exact safe_staged h hcons hstaged (hput _ _ _ rfl hstaged)
  | tombstoned htomb => exact safe_tombstoned h htomb
  | @persisted E r m _ _ hr hacc hm =>
      obtain ⟨-, m', hm', -, -, hcid, -⟩ := at_persist hcons hr hacc
      refine h.overwritten ?_ rfl
      rintro m₁ h₁ ⟨hcopied, -⟩
      obtain rfl := Option.some.inj (hm'.symm.trans h₁)
      rw [hcid] at hcopied
      cases hcopied
  | observed | reconcileNoted => exact absurd rfl (hne _)
  | published _ _ hpub =>
      obtain ⟨m, cid, -, -, -, -, rfl⟩ := hpub
      exact h.same rfl rfl
  | publishedItem hpub =>
      obtain ⟨-, -, r, -, rfl⟩ := hpub
      exact h.same rfl rfl
  | persistNoted _ _ hn | publishNoted _ _ hn | unassigned _ _ hn | resultNoted _ hn => exact h.noted hn

theorem replicatedBy_of_observed {E : ReconcileEnv} {r : ARKRecord} {m : ARKMetadata} {level1Cid level2Cid : Cid}
    {level1 level2 : ReplicationStatus} (hr : c.record = some r) (hacc : reconcileAccepts E.readyAt r = true)
    (hassigned : E.assigned r.authorityId = true) (hm : c.metadata = some m) (h1 : m.level1Cid = some level1Cid)
    (h2 : m.originalCid = some level2Cid) (hobserve : observe E level1Cid level2Cid = .ok (level1, level2))
    (htarget : cfg.replication.targetReplicas ≤ min level1.totalReplicas.toNat level2.totalReplicas.toNat) :
    replicatedBy cfg.replication E c = some (level1Cid, level2Cid) := by
  have hcond : (reconcileAccepts E.readyAt r && E.assigned r.authorityId &&
      decide (cfg.replication.targetReplicas ≤ min level1.totalReplicas.toNat level2.totalReplicas.toNat)) = true := by
    rw [hacc, hassigned, decide_eq_true htarget]
    rfl
  simp only [replicatedBy, hr, hm, h1, h2, hobserve, Except.toOption, Option.bind_eq_bind, Option.bind_some, hcond,
    if_true]

/-- The payloads are purged only once their CIDs were observed with all replicas. -/
theorem safe_reconcile {E : ReconcileEnv} (h : Safe p c R) :
    Safe p (Replication.reconcile cfg.catalogue cfg.replication k E c).cell
      ((replicatedBy cfg.replication E c).toList ++ R) := by
  have hmono := h.mono (List.subset_append_right (replicatedBy cfg.replication E c).toList R)
  rcases reconcile_notedAs cfg.catalogue cfg.replication k E c with hc | ⟨r, hr, hacc, hn | ⟨hobserves, hobserved⟩⟩
  · rw [hc]
    exact hmono
  · exact hmono.noted hn.noted
  · obtain ⟨m, level1Cid, level2Cid, level1, level2, repaired, hm, h1, h2, hobserve, -, -, -, hc⟩ := hobserved
    obtain ⟨hcid1, hcid2, hkept⟩ := reconciledRows_copies cfg.replication E level1 level2 r m repaired
    rcases h with ⟨m', hm', hcopied⟩ | h | h
    · obtain rfl := Option.some.inj (hm.symm.trans hm')
      rcases hkept with ⟨hjson, hcontent⟩ | htarget
      · refine .inl ⟨_, by rw [hc], hcid1.trans hcopied.1, hcid2.trans hcopied.2.1, ?_⟩
        exact ⟨hjson.trans hcopied.2.2.1, hcontent.trans hcopied.2.2.2⟩
      · right; left
        rw [replicatedBy_of_observed hr hacc hobserves.1 hm h1 h2 hobserve htarget]
        obtain rfl := Option.some.inj (h1.symm.trans hcopied.1)
        obtain rfl := Option.some.inj (h2.symm.trans hcopied.2.1)
        exact List.mem_cons_self ..
    · exact .inr (.inl (List.mem_append_right _ h))
    · right; right
      rw [hc]
      exact h

omit [PyLower] in
theorem uploadedBy_persisted {E : PersistEnv} {r : ARKRecord} {m : ARKMetadata} (level1Cid level2Cid : Cid)
    (now : Time) (hr : c.record = some r) (hacc : persistAccepts E.readyAt r = true) (hm : c.metadata = some m)
    (hpayloads : Faults.Payloads m) :
    ∃ p, uploadedBy c { c with record := some (persistedRecord now r)
                               metadata := some (persistedMetadata (some level1Cid) (some level2Cid) now m) } = some p ∧
      p.level1Cid = level1Cid ∧ p.copiedIn (persistedMetadata (some level1Cid) (some level2Cid) now m) := by
  obtain ⟨json, hjson⟩ := Option.isSome_iff_exists.mp hpayloads.1
  obtain ⟨content, hcontent⟩ := Option.isSome_iff_exists.mp hpayloads.2
  have hstage := (persistAccepts_live hacc).2
  refine ⟨⟨level1Cid, level2Cid, json, content⟩, ?_, rfl, rfl, rfl, hjson, hcontent⟩
  simp [uploadedBy, hr, hm, hjson, hcontent, hstage, persistedRecord, persistedMetadata]

omit [PyLower] in
theorem uploadedBy_stage {q : Upload} (h : uploadedBy c c' = some q) :
    c.record.map (·.processingStage) ≠ c'.record.map (·.processingStage) := by
  simp only [uploadedBy, Option.bind_eq_bind, Option.bind_eq_some_iff] at h
  obtain ⟨_, _, _, _, _, _, _, _, _, _, _, _, h⟩ := h
  split at h
  · cases h
  · assumption

theorem safe_uploaded {E : PersistEnv} (hcons : Consistent cfg.replication c)
    (h : uploadedBy c (Persistence.persist cfg.catalogue k E c).cell = some p) :
    Safe p (Persistence.persist cfg.catalogue k E c).cell R := by
  have hstage := uploadedBy_stage h
  rcases persist_cases cfg.catalogue k E c with hc | ⟨r, hr, hacc, hn | ⟨m, level1Cid, level2Cid, hm, -, -, hc⟩⟩
  · rw [hc] at hstage
    exact absurd rfl hstage
  · obtain ⟨r, r', hr, hr', -, -, -, hkept, -⟩ := hn.keeps
    exact absurd (by simp [hr, hr', hkept]) hstage
  · obtain ⟨-, m', hm', hpayloads, -⟩ := at_persist hcons hr hacc
    obtain rfl := Option.some.inj (hm.symm.trans hm')
    obtain ⟨q, hq, -, hcopied⟩ := uploadedBy_persisted level1Cid level2Cid E.storedAt hr hacc hm hpayloads
    rw [hc] at h ⊢
    obtain rfl := Option.some.inj (h.symm.trans hq)
    exact .inl ⟨_, rfl, hcopied⟩

def Known (uploads : List Upload) (cid : Cid) : Prop := ∃ p ∈ uploads, p.level1Cid = cid

omit [PyLower] in
theorem Known.append {uploads : List Upload} {cid : Cid} (h : Known uploads cid) (new : List Upload) :
    Known (new ++ uploads) cid := by
  obtain ⟨p, hp, hcid⟩ := h
  exact ⟨p, List.mem_append_right _ hp, hcid⟩

theorem cid_effect {cid : Cid} {m' : ARKMetadata} (hcons : Consistent cfg.replication c)
    (heffect : Effect cfg k c op c') (hm' : c'.metadata = some m') (hcid : m'.level1Cid = some cid) :
    (∃ m, c.metadata = some m ∧ m.level1Cid = some cid) ∨
      (∃ E, op = .mutation (.persist E)) ∧ ∃ p, uploadedBy c c' = some p ∧ p.level1Cid = cid := by
  by_cases hpersist : ∃ E, op = .mutation (.persist E)
  · obtain ⟨E, rfl⟩ := hpersist
    cases heffect with
    | none => exact .inl ⟨m', hm', hcid⟩
    | persistNoted _ _ hn => exact .inl ⟨m', hn.metadata ▸ hm', hcid⟩
    | @persisted _ r m level1Cid level2Cid hr hacc hm =>
        obtain ⟨-, m₁, h₁, hpayloads, -⟩ := at_persist hcons hr hacc
        obtain rfl := Option.some.inj (hm.symm.trans h₁)
        obtain ⟨p, hp, hpcid, -⟩ := uploadedBy_persisted level1Cid level2Cid E.storedAt hr hacc hm hpayloads
        obtain rfl := Option.some.inj hm'
        obtain rfl := Option.some.inj hcid
        exact .inr ⟨⟨E, rfl⟩, p, hp, hpcid⟩
  · exact .inl (effect_cid heffect (fun E hE => hpersist ⟨E, hE⟩) hm' hcid)

def Task.items : Task → List PipelineItem
  | .fail item => [item]
  | .submit _ items => items
  | .apply item _ => [item]

def itemsOf : Phase → List PipelineItem
  | .reading _ items => items
  | phase => phase.tasks.flatMap Task.items

omit [PyLower] in
theorem mem_items_plan {assigned : String → Bool} {rpcBatchSize : Nat} (hsize : 0 < rpcBatchSize)
    {items : List PipelineItem} {item : PipelineItem}
    (h : item ∈ (ChainCycle.plan assigned rpcBatchSize items).flatMap Task.items) : item ∈ items := by
  obtain ⟨task, htask, hitem⟩ := List.mem_flatMap.mp h
  cases task with
  | fail item' =>
      obtain rfl := List.mem_singleton.mp hitem
      exact mem_plan_fail htask
  | submit authorityId group => exact (mem_plan_submit hsize htask item hitem).1
  | apply item' result => exact absurd htask apply_notMem_plan

omit [PyLower] in
theorem items_step {ctl : Control} (h : Moves cfg s a ctl) {q : Nat} {item : PipelineItem}
    (hitem : item ∈ itemsOf (ctl.phase q)) :
    item ∈ itemsOf (s.control.phase q) ∨
      ∃ m, (s.cells item.ark).metadata = some m ∧ m.level1Cid = some item.cid := by
  by_cases hq : a.proc = some q
  · cases h with
    | reserve | mutate => cases hq
    | readMetadata hp =>
        obtain rfl := Option.some.inj hq
        simp only [Control.set_phase, if_true, itemsOf, List.mem_append, Option.mem_toList] at hitem
        rw [hp]
        rcases hitem with hitem | hitem
        · exact .inl hitem
        · obtain ⟨m, hm, hcid, -⟩ := itemOf_spec hitem
          exact .inr ⟨m, itemOf_ark hitem ▸ hm, hcid⟩
    | plan hp =>
        obtain rfl := Option.some.inj hq
        simp only [Control.set_phase, if_true] at hitem
        rw [hp]
        exact .inl (mem_items_plan cfg.rpcBatchSize_pos hitem)
    | submit hp =>
        obtain rfl := Option.some.inj hq
        simp only [Control.set_phase, if_true, itemsOf, Phase.tasks, List.flatMap_append,
          List.flatMap_map, Task.items, List.flatMap_singleton', List.mem_append] at hitem
        rw [hp]
        exact .inl (List.mem_append.mpr hitem)
    | select | markFailed | stop =>
        obtain rfl := Option.some.inj hq
        simp [itemsOf, Phase.tasks] at hitem
    | finish hp _ hnext =>
        obtain rfl := Option.some.inj hq
        rw [hp]
        rcases hnext with rfl | rfl
        · simp [itemsOf, Phase.tasks] at hitem
        · simp only [Control.set_phase, if_true] at hitem
          exact .inl (List.mem_cons_of_mem _ hitem)
    | marked hp | busy hp | stale hp =>
        obtain rfl := Option.some.inj hq
        simp only [Control.set_phase, if_true] at hitem
        rw [hp]
        exact .inl (List.mem_cons_of_mem _ hitem)
    | acquire hp | checked hp =>
        obtain rfl := Option.some.inj hq
        simp only [Control.set_phase, if_true] at hitem
        rw [hp]
        exact .inl hitem
  · rw [h.phase_of_ne hq] at hitem
    exact .inl hitem

structure Kept (s : Sys) (h : History) : Prop where
  safe : ∀ k, ∀ p ∈ h.uploads k, Safe p (s.cells k) (h.replicated k)
  cids : ∀ k m cid, (s.cells k).metadata = some m → m.level1Cid = some cid → Known (h.uploads k) cid
  items : ∀ q, ∀ item ∈ itemsOf (s.control.phase q), Known (h.uploads item.ark) item.cid
  live : ∀ k cid, h.live k = some cid → Known (h.uploads k) cid

variable {h : History}

theorem uploads_safe (hcons : Consistent cfg.replication (s.cells k)) (hg : Preserving cfg s a)
    (hs : step cfg s a = some t) (hsafe : ∀ p ∈ h.uploads k, Safe p (s.cells k) (h.replicated k)) :
    ∀ p ∈ (h.after cfg s a).uploads k, Safe p (t.cells k) ((h.after cfg s a).replicated k) := by
  intro p hp
  have hcells : cellsAfter cfg s a k = t.cells k := by rw [(step_eq hs).2.1]
  simp only [History.after, hcells, List.mem_append, Option.mem_toList] at hp ⊢
  rcases hp with hp | hp
  · simp only [newlyUploaded] at hp
    split at hp
    · rename_i E hop
      rw [← hcells, cellsAfter, hop] at hp ⊢
      exact safe_uploaded hcons hp
    · cases hp
  · have hold := hsafe p hp
    have hmono := hold.mono (List.subset_append_right (newlyReplicated cfg s a k).toList (h.replicated k))
    rcases step_cells hs k with ⟨-, hc⟩ | ⟨op, hop, hc⟩
    · rw [hc]
      exact hmono
    · by_cases hrec : ∃ E, op = .mutation (.reconcile E)
      · obtain ⟨E, rfl⟩ := hrec
        rw [hc]
        simp only [newlyReplicated, hop]
        exact safe_reconcile hold
      · refine safe_effect hmono hcons (hc ▸ op_effect op) ?_ fun E h => hrec ⟨E, h⟩
        rintro identity request E rfl hstaged r hr hA
        obtain ⟨rfl, -⟩ := opOf_mutation hop
        refine hg k ⟨identity.authorityId, request, level1Json k request E⟩ r ?_ hr hA
        rw [hcells]
        exact stagedBy_put hstaged

theorem cids_known (hcons : Consistent cfg.replication (s.cells k)) (hs : step cfg s a = some t)
    (hcids : ∀ m cid, (s.cells k).metadata = some m → m.level1Cid = some cid → Known (h.uploads k) cid) :
    ∀ m cid, (t.cells k).metadata = some m → m.level1Cid = some cid → Known ((h.after cfg s a).uploads k) cid := by
  intro m' cid hm' hcid
  have hcells : cellsAfter cfg s a k = t.cells k := by rw [(step_eq hs).2.1]
  simp only [History.after, hcells]
  rcases step_effect hs k with ⟨-, hc⟩ | ⟨op, hop, heffect⟩
  · rw [hc] at hm'
    exact (hcids m' cid hm' hcid).append _
  · rcases cid_effect hcons heffect hm' hcid with ⟨m, hm, hcid'⟩ | ⟨⟨E, rfl⟩, p, hp, hpcid⟩
    · exact (hcids m cid hm hcid').append _
    · refine ⟨p, List.mem_append_left _ ?_, hpcid⟩
      rw [Option.mem_toList]
      simp only [newlyUploaded, hop]
      exact hp

omit [PyLower] in
theorem writtenBy_cid {E : PublishEnv} {cid : Cid} (h : writtenBy E c c' = some cid) :
    ∃ m, c.metadata = some m ∧ m.level1Cid = some cid := by
  simp only [writtenBy, Option.bind_eq_bind, Option.bind_eq_some_iff] at h
  obtain ⟨_, -, m, hm, _, -, h⟩ := h
  split at h
  · exact ⟨m, hm, h⟩
  · cases h

omit [PyLower] in
theorem newlyLive_cid {cid : Cid} (h : newlyLive s a k c' = some cid) :
    (∃ q, ∃ item ∈ itemsOf (s.control.phase q), item.ark = k ∧ item.cid = cid) ∨
      ∃ m, (s.cells k).metadata = some m ∧ m.level1Cid = some cid := by
  unfold newlyLive at h
  split at h
  · rename_i q answer
    split at h
    · rename_i authorityId items tasks hp
      obtain ⟨item, hfind, rfl⟩ := Option.map_eq_some_iff.mp h
      have hark := List.find?_some hfind
      simp only [Bool.and_eq_true, decide_eq_true_eq] at hark
      refine .inl ⟨q, item, ?_, hark.1, rfl⟩
      simp [hp, itemsOf, Phase.tasks, Task.items, List.mem_of_find?_eq_some hfind]
    · cases h
  · split at h
    · exact .inr (writtenBy_cid h)
    · rename_i item result E hop
      obtain ⟨q, checked, tasks, -, hp, hark⟩ := opOf_result hop
      split at h
      · refine .inl ⟨q, item, ?_, hark, Option.some.inj h⟩
        simp [hp, itemsOf, Phase.tasks, Task.items]
      · cases h
    · cases h

theorem kept_step (hcons : ∀ k, Consistent cfg.replication (s.cells k)) (hg : Preserving cfg s a)
    (hs : step cfg s a = some t) (hk : Kept s h) : Kept t (h.after cfg s a) := by
  refine ⟨fun k => uploads_safe (hcons k) hg hs (hk.safe k), fun k => cids_known (hcons k) hs (hk.cids k), ?_, ?_⟩
  · intro q item hitem
    rcases items_step (control_moves (step_eq hs).1) hitem with hitem | ⟨m, hm, hcid⟩
    · exact (hk.items q item hitem).append _
    · exact (hk.cids item.ark m item.cid hm hcid).append _
  · intro k cid hlive
    simp only [History.after, Option.or_eq_some_iff] at hlive
    rcases hlive with hlive | ⟨-, hlive⟩
    · rcases newlyLive_cid hlive with ⟨q, item, hitem, rfl, rfl⟩ | ⟨m, hm, hcid⟩
      · exact (hk.items q item hitem).append _
      · exact (hk.cids k m cid hm hcid).append _
    · exact (hk.live k cid hlive).append _

theorem recorded_reach {G : Sys → Act → Prop} {u : Sys × History}
    (hr : Reach (recordedStep cfg) (fun u a => G u.1 a) ({}, {}) u) : Reach (step cfg) G {} u.1 := by
  induction hr with
  | init => exact .init
  | next _ hg hs ih =>
      obtain ⟨t, ht, rfl⟩ := Option.map_eq_some_iff.mp hs
      exact ih.next hg ht

theorem reach_kept {u : Sys × History}
    (hr : Reach (recordedStep cfg) (fun u a => Preserving cfg u.1 a) ({}, {}) u) : Kept u.1 u.2 := by
  induction hr with
  | init =>
      refine ⟨?_, ?_, ?_, ?_⟩
      · rintro k p ⟨⟩
      · rintro k m cid ⟨⟩
      · rintro q item ⟨⟩
      · rintro k cid ⟨⟩
  | next hr hg hs ih =>
      obtain ⟨t, ht, rfl⟩ := Option.map_eq_some_iff.mp hs
      exact kept_step (fun k => reach_consistent (recorded_reach hr) k) hg ht ih

/-- In every run that stages no payload for a published ARK that waits for its replicas, whatever the
latest confirmed chain write of an ARK recorded was uploaded, and all its uploads are protected. -/
theorem live_protected {u : Sys × History}
    (hr : Reach (recordedStep cfg) (fun u a => Preserving cfg u.1 a) ({}, {}) u) {cid : Cid}
    (hlive : u.2.live k = some cid) :
    (∃ p ∈ u.2.uploads k, p.level1Cid = cid) ∧
      ∀ p ∈ u.2.uploads k, p.level1Cid = cid → Protected p (u.1.cells k) (u.2.replicated k) := by
  have hk := reach_kept hr
  exact ⟨hk.live k cid hlive, fun p hp _ => (hk.safe k p hp).protected⟩

theorem preserving_of_ne (h : ∀ k identity request E, a ≠ .mutate k (.put identity request E)) :
    Preserving cfg s a := by
  intro k put r hput
  unfold stagedBy at hput
  split at hput
  · exact absurd rfl (h _ _ _ _)
  · cases hput

end

section Sample

attribute [local instance] asciiText

open Sample

def oneReplica : ReconcileEnv :=
  { reconcileEnv with statuses := .ok fun _ => some ⟨"pinned", 1, none⟩ }

def toReplication : List Act :=
  [.reserve [(ark, ⟨"A", none, 0⟩)], .mutate ark (.put owner request putEnv), .mutate ark (.persist persistEnv),
    .mutate ark (.reconcile oneReplica), .select 0 4 [ark], .readMetadata 0, .plan 0, .submit 0 confirmed,
    .acquire 0, .finish 0 resultEnv]

def nextVersion : UpdateARKMetadataRequest := { request with originalMetadata := "m'" }

theorem live_protected_sample :
    ∃ u, Reach (recordedStep config) (fun u a => Preserving config u.1 a) ({}, {}) u ∧ u.2.live ark = some cid1 ∧
      ∀ p ∈ u.2.uploads ark, p.level1Cid = cid1 → Protected p (u.1.cells ark) (u.2.replicated ark) := by
  have hlive : ((run (recordedStep config) toReplication ({}, {})).map fun u => u.2.live ark) =
      some (some cid1) := by decide
  obtain ⟨u, hu, hcid⟩ := Option.map_eq_some_iff.mp hlive
  obtain ⟨v, hv, hrest⟩ := Option.bind_eq_some_iff.mp hu
  obtain ⟨w, hw, hrest⟩ := Option.bind_eq_some_iff.mp hrest
  have hstage : ∀ r, (v.1.cells ark).record = some r → r.processingStage = .none := by
    have hrow : ((recordedStep config ({}, {}) (.reserve [(ark, ⟨"A", none, 0⟩)])).map fun v =>
        (v.1.cells ark).record.all (·.processingStage = .none)) = some true := by decide
    rw [hv] at hrow
    intro r hr
    simpa [hr] using hrow
  have hput : Preserving config v.1 (.mutate ark (.put owner request putEnv)) := by
    intro k put r hput hr _
    unfold stagedBy at hput
    simp only [Option.ite_none_right_eq_some] at hput
    obtain ⟨⟨rfl, -⟩, -⟩ := hput
    simp [hstage r hr]
  have hreserve : Preserving config {} (.reserve [(ark, ⟨"A", none, 0⟩)]) :=
    preserving_of_ne fun _ _ _ _ h => by cases h
  have hreach : Reach (recordedStep config) (fun u a => Preserving config u.1 a) ({}, {}) w := by
    have hreach : Reach (recordedStep config) (fun u a => Preserving config u.1 a) ({}, {}) v :=
      .next .init hreserve hv
    exact hreach.next hput hw
  have hothers : ∀ a ∈ toReplication.drop 2, ∀ k identity request E, a ≠ .mutate k (.put identity request E) := by
    simp [toReplication]
  have hreach' := hreach.trans (run_guarded (fun _ => True) hrest trivial
    (fun _ a ha _ => preserving_of_ne (hothers a ha)) fun _ _ _ _ _ _ => trivial).1
  exact ⟨u, hreach', hcid, (live_protected hreach' hcid).2⟩

/-- The owner stages the next version before the live one has its replicas: nothing of its payloads
is left. -/
theorem live_unprotected :
    ∃ u, Reach (recordedStep config) Free ({}, {}) u ∧ u.2.live ark = some cid1 ∧
      ∃ p ∈ u.2.uploads ark, p.level1Cid = cid1 ∧ ¬Protected p (u.1.cells ark) (u.2.replicated ark) := by
  have hrun : ((run (recordedStep config) (toReplication ++ [.mutate ark (.put owner nextVersion putEnv)])
      ({}, {})).map fun u => (u.2.live ark, (u.2.uploads ark).map fun p => (p.level1Cid, p.originalContent))) =
        some (some cid1, [(cid1, "m")]) := by decide
  have hleft : ((run (recordedStep config) (toReplication ++ [.mutate ark (.put owner nextVersion putEnv)])
      ({}, {})).map fun u => ((u.1.cells ark).metadata.bind (·.originalContent), u.2.replicated ark,
        (u.1.cells ark).superseded.length)) = some (some "m'", [], 0) := by decide
  obtain ⟨u, hu, hrow⟩ := Option.map_eq_some_iff.mp hrun
  rw [hu] at hleft
  simp only [Option.map_some, Option.some.injEq, Prod.mk.injEq, List.length_eq_zero_iff] at hleft
  simp only [Prod.mk.injEq, List.map_eq_cons_iff, List.map_eq_nil_iff] at hrow
  obtain ⟨hlive, p, _, huploads, ⟨hcid, hcontent⟩, -⟩ := hrow
  obtain ⟨hmetadata, hreplicated, hsuperseded⟩ := hleft
  refine ⟨u, run_reach hu, hlive, p, by simp [huploads], hcid, ?_⟩
  rintro (⟨m, hm, -, hheld⟩ | h | ⟨job, hjob, -⟩)
  · rw [hm, Option.bind_some, hheld, hcontent] at hmetadata
    simp at hmetadata
  · simp [hreplicated] at h
  · simp [hsuperseded] at hjob

end Sample

end DarkMinter.Retention
