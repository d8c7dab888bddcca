import DarkMinter.Counters
import DarkMinter.Repairs
import DarkMinter.Selection
import DarkMinter.StagedPayload

namespace DarkMinter.Completion

open Text Processing Records Repository Authority ArkApi Requests Retry Persistence Replication Publication
open ChainCycle Deployment Attempts Effects ResultApplication InFlight Faults PipelineInvariant Selection Counters
open StagedPayload Lib.Runs

section

def Awake (c : Cell) : Prop :=
  ∀ r, c.record = some r → r.state ≠ .tombstone → r.processingStage ≠ .none → r.processingStage ≠ .complete →
    Active r ∨ r.processingStatus = .failed

variable {c c' : Cell} {r r' r'' : ARKRecord} {now : Time}

theorem awake_noted (h : Noted c c') : Awake c' := by
  cases h with
  | @failed r permanent =>
      rintro _ ⟨⟩ - - -
      cases permanent
      · exact .inl (.inr rfl)
      · exact .inr rfl
  | deferred =>
      rintro _ ⟨⟩ - - -
      exact .inl (.inr rfl)

variable [PyLower] {cfg : Config} {k : ArkId} {op : Op}

theorem awake_effect (h : Awake c) (heffect : Effect cfg k c op c') : Awake c' := by
  have hactive : ∀ {c₁ : Cell} {r₁ : ARKRecord}, c₁.record = some r₁ → r₁.processingStatus = .ready → Awake c₁ := by
    intro c₁ r₁ hr₁ hready r hr _ _ _
    obtain rfl := Option.some.inj (hr₁.symm.trans hr)
    exact .inl (.inl hready)
  cases heffect with
  | none => exact h
  | reserved | raced =>
      rintro _ ⟨⟩ - hstage
      exact absurd rfl hstage
  | staged h =>
      obtain ⟨_, _, _, -, -, -, -, -, -, rfl⟩ := h.ex
      exact hactive rfl rfl
  | tombstoned h =>
      obtain ⟨r', hr', hstate⟩ := h.record
      intro r hr hlive
      obtain rfl := Option.some.inj (hr'.symm.trans hr)
      exact absurd hstate hlive
  | retried | persisted => exact hactive rfl rfl
  | published _ _ h =>
      obtain ⟨_, _, -, -, -, -, rfl⟩ := h
      exact hactive rfl rfl
  | publishedItem h =>
      obtain ⟨-, -, _, -, rfl⟩ := h
      exact hactive rfl rfl
  | @observed E r m _ _ level1 level2 repaired =>
      rintro _ ⟨⟩ - - hcomplete
      have hrecord := (reconciledRows_rows cfg.replication E level1 level2 r m repaired).1
      generalize (reconciledRows cfg.replication E level1 level2 r m repaired).1 = r₁ at hrecord hcomplete
      cases hrecord with
      | chain | again => exact .inl (.inl rfl)
      | complete => exact absurd rfl hcomplete
      | waiting => exact .inl (.inr rfl)
  | persistNoted _ _ h | reconcileNoted _ _ h | publishNoted _ _ h | unassigned _ _ h | resultNoted _ h =>
      exact awake_noted h

theorem reach_awake {s : Sys} {G : Sys → Act → Prop} (h : Reach (step cfg) G {} s) (k : ArkId) :
    Awake (s.cells k) := by
  refine reach_cells (I := Awake) h ?_ ?_ k
  · rintro _ ⟨⟩
  · intro s a k op _ _ _ heffect hc
    exact awake_effect hc heffect

/-- The attempts by which an ARK gets to its end. -/
inductive Need
  | retry
  | persist
  | reconcile
  | publish

def needs : List Need := [.retry, .persist, .reconcile, .publish, .reconcile]

def kindOf : Op → Option Need
  | .mutation (.retry _ _) => some .retry
  | .mutation (.persist _) => some .persist
  | .mutation (.reconcile _) => some .reconcile
  | .mutation (.publish _) => some .publish
  | _ => none

def stageRank : ProcessingStage → Nat
  | .none => 0
  | .metadata => 1
  | .availability => 2
  | .chain => 3
  | .replication => 4
  | .complete => 5

/-- How many of its attempts a record has behind it. -/
def rank (r : ARKRecord) : Nat :=
  if r.processingStatus = .failed ∧ r.processingStage ≠ .complete then 0 else stageRank r.processingStage

structure Replicating (cfg : ReplicationConfig) (E : ReconcileEnv) : Prop where
  statuses : ∃ lookup, E.statuses = .ok lookup ∧ ∀ cid, ∃ status, lookup cid = some status ∧
    lower status.status ≠ "unknown" ∧ cfg.targetReplicas ≤ status.totalReplicas.toNat ∧
    status.totalReplicas.toNat ≤ smallintMax
  commit : E.commit = .ok ()

/-- An attempt on the record that meets no trouble. -/
def HealthyFor (cfg : Config) (r : ARKRecord) : Op → Prop
  | .mutation (.retry identity E) => identity.authorityId = r.authorityId ∧
      (∃ current, requireCurrentOwner E.owner (r.state = .draft) = .ok current) ∧ E.commit = .ok ()
  | .mutation (.persist E) => Healthy E ∧ Due E.readyAt r
  | .mutation (.reconcile E) =>
      Replicating cfg.replication E ∧ E.assigned r.authorityId = true ∧ Due E.readyAt r
  | .mutation (.publish E) =>
      E.assigned r.authorityId = true ∧ E.write = .ok () ∧ E.commit = .ok () ∧ Due E.readyAt r
  | .result _ result _ => result.status = "confirmed"
  | _ => False

structure Onward (r' r'' : ARKRecord) (kind : Option Need) : Prop where
  authority : r''.authorityId = r'.authorityId
  live : r''.state ≠ .tombstone
  stage : r''.processingStage ≠ .none
  fresh : r'' = r' ∨ r''.processingStatus ≠ .failed ∧ r''.nextActionAt = none
  rank_le : rank r' ≤ rank r''
  rank_lt : ∀ need, kind = some need → needs[rank r']? = some need → rank r' < rank r''

omit [PyLower] in
theorem rank_active (hstatus : r.processingStatus ≠ .failed) : rank r = stageRank r.processingStage :=
  if_neg fun h => hstatus h.1

omit [PyLower] in
theorem rank_of_ready {stage : ProcessingStage} (hstage : r.processingStage = stage)
    (hready : readyForProcessing r now = true) : rank r = stageRank stage := by
  rw [← hstage]
  refine rank_active fun hfailed => ?_
  simp [readyForProcessing, hfailed] at hready

omit [PyLower] in
theorem needed_cases {need : Need} (h : needs[rank r]? = some need) (hstage : r.processingStage ≠ .none) :
    need = .retry ∧ r.processingStatus = .failed ∧ r.processingStage ≠ .complete ∨
      r.processingStatus ≠ .failed ∧ (need = .persist ∧ r.processingStage = .metadata ∨
        need = .reconcile ∧ (r.processingStage = .availability ∨ r.processingStage = .replication) ∨
        need = .publish ∧ r.processingStage = .chain) := by
  unfold rank at h
  split at h
  · rename_i hfailed
    exact .inl ⟨(Option.some.inj h).symm, hfailed⟩
  · rename_i hactive
    cases hs : r.processingStage <;> rw [hs] at h hactive hstage <;>
      simp_all [stageRank, needs]

omit [PyLower] in
theorem Onward.same {kind : Option Need} (hlive : r.state ≠ .tombstone) (hstage : r.processingStage ≠ .none)
    (hnot : ∀ need, kind = some need → needs[rank r]? ≠ some need) : Onward r r kind where
  authority := rfl
  live := hlive
  stage := hstage
  fresh := .inl rfl
  rank_le := le_rfl
  rank_lt need hkind hneed := absurd hneed (hnot need hkind)

omit [PyLower] in
theorem Onward.moved {kind : Option Need} (hA : r'.authorityId = r.authorityId) (hlive : r'.state ≠ .tombstone)
    (hstage : r'.processingStage ≠ .none) (hstatus : r'.processingStatus ≠ .failed) (hnext : r'.nextActionAt = none)
    (hrank : rank r < stageRank r'.processingStage) : Onward r r' kind where
  authority := hA
  live := hlive
  stage := hstage
  fresh := .inr ⟨hstatus, hnext⟩
  rank_le := by rw [rank_active hstatus]; exact hrank.le
  rank_lt _ _ _ := by rwa [rank_active hstatus]

/-- The rows of an ARK with a payload that can be stored. -/
structure Underway (cfg : ReplicationConfig) (c : Cell) (r : ARKRecord) : Prop where
  record : c.record = some r
  live : r.state ≠ .tombstone
  stage : r.processingStage ≠ .none
  consistent : Consistent cfg c
  bounded : Bounded c
  timed : WellTimed c
  awake : Awake c
  media : r.processingStage = .metadata → ∀ m, c.metadata = some m → m.originalMediaType ≠ some ""

variable {replication : ReplicationConfig}

omit [PyLower] in
theorem Underway.ready (h : Underway replication c r) (hstatus : r.processingStatus ≠ .failed)
    (hcomplete : r.processingStage ≠ .complete) (hdue : Due now r) : readyForProcessing r now = true :=
  ready_of_due (h.timed r h.record) ((h.awake r h.record h.live h.stage hcomplete).resolve_right hstatus) hdue

def Advanced (c : Cell) (r : ARKRecord) (kind : Option Need) (c' : Cell) : Prop :=
  ∃ r', c'.record = some r' ∧ Onward r r' kind ∧
    (r'.processingStage = .metadata → r.processingStage = .metadata ∧ c'.metadata = c.metadata)

omit [PyLower] in
theorem Underway.same {kind : Option Need} (h : Underway replication c r)
    (hnot : ∀ need, kind = some need → needs[rank r]? ≠ some need) : Advanced c r kind c :=
  ⟨r, h.record, .same h.live h.stage hnot, fun hstage => ⟨hstage, rfl⟩⟩

theorem persist_advanced {E : PersistEnv} (h : Underway replication c r) (hE : Healthy E) (hdue : Due E.readyAt r) :
    Advanced c r (some .persist) (persist cfg.catalogue k E c).cell := by
  by_cases hacc : persistAccepts E.readyAt r = true
  · have hstage := (persistAccepts_live hacc).2
    have hready : readyForProcessing r E.readyAt = true := by
      simp only [persistAccepts, Bool.and_eq_true] at hacc
      exact hacc.2
    obtain ⟨-, m, hm, hpayloads, hmedia, -⟩ := (h.consistent.live r h.record h.live).at_metadata hstage
    obtain ⟨mediaType, hmedia⟩ := Option.isSome_iff_exists.mp hmedia
    have hne : mediaType ≠ "" := by
      rintro rfl
      exact h.media hstage m hm hmedia
    obtain ⟨c', hbody, hr'⟩ :=
      persistBody_healthy (r := r) hE hm ⟨hpayloads.2, ⟨mediaType, hmedia, hne⟩, hpayloads.1⟩
    have hcell : (persist cfg.catalogue k E c).cell = c' := by simp [persist, h.record, hacc, hbody]
    rw [hcell]
    refine ⟨_, hr', .moved rfl h.live (by simp [persistedRecord]) (by simp [persistedRecord]) rfl ?_, ?_⟩
    · rw [rank_of_ready hstage hready]
      exact Nat.one_lt_two
    · rintro ⟨⟩
  · have hcell : (persist cfg.catalogue k E c).cell = c := by simp [persist, h.record, hacc]
    rw [hcell]
    refine h.same ?_
    rintro _ ⟨⟩ hneed
    obtain ⟨⟨⟩, -⟩ | ⟨hstatus, ⟨-, hstage⟩ | ⟨⟨⟩, -⟩ | ⟨⟨⟩, -⟩⟩ := needed_cases hneed h.stage
    obtain ⟨hpending, -⟩ := (h.consistent.live r h.record h.live).at_metadata hstage
    have hready := h.ready hstatus (by simp [hstage]) hdue
    refine hacc ?_
    rw [persistAccepts, hready, hstage]
    simpa [Pending] using hpending

theorem reconciledRows_enough {E : ReconcileEnv} {level1 level2 : ReplicationStatus} {m : ARKMetadata}
    (h : replication.targetReplicas ≤ min level1.totalReplicas.toNat level2.totalReplicas.toNat) :
    (reconciledRows replication E level1 level2 r m 0).1 = (if r.processingStage = .availability then
        { r with processingStage := .chain, processingStatus := .ready, nextActionAt := none
                 processingWaitReason := .none, updatedAt := E.scheduledAt }
      else { r with processingStage := .complete, processingStatus := .done, nextActionAt := none
                    processingWaitReason := .none, updatedAt := E.scheduledAt }) ∧
      (reconciledRows replication E level1 level2 r m 0).2.1.replicationObservationCount ≤
        m.replicationObservationCount ∧
      (reconciledRows replication E level1 level2 r m 0).2.1.level1ReplicaCount = some level1.totalReplicas.toNat ∧
      (reconciledRows replication E level1 level2 r m 0).2.1.level2ReplicaCount = some level2.totalReplicas.toNat := by
  have hfirst := replication.publishAfter_le.trans h
  unfold reconciledRows
  by_cases hstage : r.processingStage = .availability
  · simp [hstage, reconcileAvailability, hfirst, observedMetadata]
  · simp [hstage, reconcileDurability, h, observedMetadata]

theorem reconcileBody_healthy {E : ReconcileEnv} {m : ARKMetadata} (hE : Replicating replication E)
    (hm : c.metadata = some m) (hcids : m.level1Cid.isSome ∧ m.originalCid.isSome)
    (hbounded : m.replicationObservationCount ≤ smallintMax) :
    ∃ level1 level2 repair counts,
      replication.targetReplicas ≤ min level1.totalReplicas.toNat level2.totalReplicas.toNat ∧
      reconcileBody replication E r c = (repair, .ok ({ c with
        record := some (reconciledRows replication E level1 level2 r m 0).1
        metadata := some (reconciledRows replication E level1 level2 r m 0).2.1 }, counts)) := by
  obtain ⟨lookup, hstatuses, hlookup⟩ := hE.statuses
  obtain ⟨cid1, h1⟩ := Option.isSome_iff_exists.mp hcids.1
  obtain ⟨cid2, h2⟩ := Option.isSome_iff_exists.mp hcids.2
  obtain ⟨level1, hl1, hknown1, hmany1, hfit1⟩ := hlookup cid1
  obtain ⟨level2, hl2, hknown2, hmany2, hfit2⟩ := hlookup cid2
  have hpos := replication.publishAfter_pos
  have hle := replication.publishAfter_le
  have hobserve : observe E cid1 cid2 = .ok (level1, level2) := by
    simp [observe, hstatuses, hl1, hl2, hknown1, hknown2, bind, Except.bind]
  have hunneeded : ∀ {status : ReplicationStatus} {allowed : Bool},
      replication.targetReplicas ≤ status.totalReplicas.toNat → needsRepair status allowed = false := by
    intro status allowed hmany
    by_contra hneeded
    have := Repairs.lost_no_replicas (Bool.eq_true_of_not_eq_false hneeded)
    omega
  have hrepair : repairs replication E level1 level2 m cid1 cid2 = {} := by
    simp [repairs, repairLevel1, repairLevel2, hunneeded hmany1, hunneeded hmany2, Repair.andThen]
  have hmany := le_min hmany1 hmany2
  obtain ⟨-, hobservations, hcount1, hcount2⟩ := reconciledRows_enough (r := r) (E := E) (m := m) hmany
  have hfit : smallintsFit (reconciledRows replication E level1 level2 r m 0).2.1 = true := by
    have hroom := hobservations.trans hbounded
    simp [smallintsFit, hcount1, hcount2, hfit1, hfit2, hroom]
  refine ⟨level1, level2, {}, (reconciledRows replication E level1 level2 r m 0).2.2, hmany, ?_⟩
  simp [reconcileBody, reconcileRows, hm, h1, h2, hobserve, hrepair, commitRows, hfit, hE.commit, Except.map,
    Except.bind]

theorem reconcile_advanced {E : ReconcileEnv} (h : Underway replication c r) (hE : Replicating replication E)
    (hassigned : E.assigned r.authorityId = true) (hdue : Due E.readyAt r) :
    Advanced c r (some .reconcile) (reconcile cfg.catalogue replication k E c).cell := by
  have hat := h.consistent.live r h.record h.live
  by_cases hacc : reconcileAccepts E.readyAt r = true
  · obtain ⟨-, hstage⟩ := reconcileAccepts_live hacc
    have hready : readyForProcessing r E.readyAt = true := by
      simp only [reconcileAccepts, Bool.and_eq_true] at hacc
      exact hacc.2
    obtain ⟨m, hm, hstored⟩ : ∃ m, c.metadata = some m ∧ Stored m := by
      rcases hstage with hstage | hstage
      · exact (hat.at_availability hstage).2
      · exact (hat.at_replication hstage).2
    obtain ⟨level1, level2, repair, counts, hmany, hbody⟩ :=
      reconcileBody_healthy (r := r) hE hm hstored.2.2 (h.bounded.2 m hm)
    have hcell : (reconcile cfg.catalogue replication k E c).cell = { c with
        record := some (reconciledRows replication E level1 level2 r m 0).1
        metadata := some (reconciledRows replication E level1 level2 r m 0).2.1 } := by
      simp [reconcile, h.record, hacc, hassigned, hbody]
    rw [hcell]
    refine ⟨_, rfl, ?_, ?_⟩ <;> rw [(reconciledRows_enough hmany).1] <;> rcases hstage with hstage | hstage
    · rw [if_pos hstage]
      refine .moved rfl h.live (by simp) (by simp) rfl ?_
      rw [rank_of_ready hstage hready]
      exact Nat.lt_succ_self 2
    · rw [if_neg (by simp [hstage])]
      refine .moved rfl h.live (by simp) (by simp) rfl ?_
      rw [rank_of_ready hstage hready]
      exact Nat.lt_succ_self 4
    · rw [if_pos hstage]
      rintro ⟨⟩
    · rw [if_neg (by simp [hstage])]
      rintro ⟨⟩
  · have hcell : (reconcile cfg.catalogue replication k E c).cell = c := by simp [reconcile, h.record, hacc]
    rw [hcell]
    refine h.same ?_
    rintro _ ⟨⟩ hneed
    obtain ⟨⟨⟩, -⟩ | ⟨hstatus, ⟨⟨⟩, -⟩ | ⟨-, hstage⟩ | ⟨⟨⟩, -⟩⟩ := needed_cases hneed h.stage
    have hready := h.ready hstatus (by rcases hstage with hstage | hstage <;> simp [hstage]) hdue
    refine hacc ?_
    rcases hstage with hstage | hstage
    · obtain ⟨hpending, -⟩ := hat.at_availability hstage
      rw [reconcileAccepts, hready, hstage]
      rcases hpending with hstate | hstate <;> simp [hstate]
    · obtain ⟨hstate, -⟩ := hat.at_replication hstage
      simp [reconcileAccepts, hready, hstage, hstate]

theorem publish_advanced {E : PublishEnv} (h : Underway replication c r) (hassigned : E.assigned r.authorityId = true)
    (hwrite : E.write = .ok ()) (hcommit : E.commit = .ok ()) (hdue : Due E.readyAt r) :
    Advanced c r (some .publish) (publishSingleArk cfg.catalogue k E c).cell := by
  have hat := h.consistent.live r h.record h.live
  by_cases hacc : publishAccepts E.readyAt r = true
  · obtain ⟨-, hstage⟩ := publishAccepts_live hacc
    have hready : readyForProcessing r E.readyAt = true := by
      simp only [publishAccepts, Bool.and_eq_true] at hacc
      exact hacc.2
    obtain ⟨-, m, hm, hstored, -⟩ := hat.at_chain hstage
    obtain ⟨cid1, h1⟩ := Option.isSome_iff_exists.mp hstored.2.2.1
    obtain ⟨cid2, h2⟩ := Option.isSome_iff_exists.mp hstored.2.2.2
    have hbody : publishBody cfg.catalogue k E r c =
        .ok { value := true, cell := { c with record := some (publishedRecord E.publishedAt r) } } := by
      simp [publishBody, hassigned, hm, h1, h2, settleWrite, hwrite, updateToPublished, h.record, hcommit, bind,
        Except.bind, pure, Except.pure]
    have hcell : (publishSingleArk cfg.catalogue k E c).cell =
        { c with record := some (publishedRecord E.publishedAt r) } := by
      simp [publishSingleArk, h.record, hacc, hbody]
    rw [hcell]
    refine ⟨_, rfl, .moved rfl (by simp [publishedRecord]) (by simp [publishedRecord]) (by simp [publishedRecord])
      rfl ?_, ?_⟩
    · rw [rank_of_ready hstage hready]
      exact Nat.lt_succ_self 3
    · rintro ⟨⟩
  · have hcell : (publishSingleArk cfg.catalogue k E c).cell = c := by simp [publishSingleArk, h.record, hacc]
    rw [hcell]
    refine h.same ?_
    rintro _ ⟨⟩ hneed
    obtain ⟨⟨⟩, -⟩ | ⟨hstatus, ⟨⟨⟩, -⟩ | ⟨⟨⟩, -⟩ | ⟨-, hstage⟩⟩ := needed_cases hneed h.stage
    obtain ⟨hpending, -⟩ := hat.at_chain hstage
    have hready := h.ready hstatus (by simp [hstage]) hdue
    refine hacc ?_
    rw [publishAccepts, hready, hstage]
    simpa [Pending] using hpending

omit [PyLower] in
theorem rank_le_stage : rank r ≤ stageRank r.processingStage := by
  unfold rank
  split
  · exact Nat.zero_le _
  · exact le_rfl

theorem retry_advanced {identity : Identity} {E : RetryEnv} (h : Underway replication c r)
    (hA : identity.authorityId = r.authorityId) (hcommit : E.commit = .ok ())
    (hcurrent : r.processingStatus = .failed →
      ∃ current, requireCurrentOwner E.owner (r.state = .draft) = .ok current) :
    Advanced c r (some .retry) (retryFailedArk identity E c).2 := by
  have hreserved : r.state ≠ .reserved := by
    intro hstate
    have hat := h.consistent.live r h.record h.live
    generalize c.metadata = o at hat
    cases hat with
    | none hstage => exact h.stage hstage
    | metadata _ hpending | availability _ hpending | chain _ hpending =>
        rcases hpending with hpending | hpending <;> simp [hpending] at hstate
    | replication _ hpublished | complete _ hpublished => simp [hpublished] at hstate
  by_cases hfailed : r.processingStatus = .failed
  · obtain ⟨current, hcurrent⟩ := hcurrent hfailed
    have hcell : (retryFailedArk identity E c).2 = { c with record := some (retriedRecord E.now r) } := by
      simp [retryFailedArk, h.record, hA, hreserved, h.live, hfailed, hcurrent, hcommit]
    rw [hcell]
    have hready : (retriedRecord E.now r).processingStatus ≠ .failed := by simp [retriedRecord]
    have hrank : rank (retriedRecord E.now r) = stageRank r.processingStage := rank_active hready
    refine ⟨_, rfl, ⟨rfl, h.live, h.stage, .inr ⟨hready, rfl⟩, ?_, ?_⟩, fun hstage => ⟨hstage, rfl⟩⟩
    · rw [hrank]
      exact rank_le_stage
    · rintro _ ⟨⟩ hneed
      obtain ⟨-, -, hcomplete⟩ | ⟨hstatus, -⟩ := needed_cases hneed h.stage
      · rw [hrank, rank, if_pos ⟨hfailed, hcomplete⟩]
        cases hstage : r.processingStage with
        | none => exact absurd hstage h.stage
        | metadata | availability | chain | replication | complete => exact Nat.succ_pos _
      · exact absurd hfailed hstatus
  · have hcell : (retryFailedArk identity E c).2 = c := by
      simp [retryFailedArk, h.record, hA, hreserved, h.live, hfailed]
    rw [hcell]
    refine h.same ?_
    rintro _ ⟨⟩ hneed
    obtain ⟨-, hfailed', -⟩ | ⟨-, ⟨⟨⟩, -⟩ | ⟨⟨⟩, -⟩ | ⟨⟨⟩, -⟩⟩ := needed_cases hneed h.stage
    exact hfailed hfailed'

theorem result_advanced {item : PipelineItem} {result : ARKPublishResult} {E : ResultEnv}
    (h : Underway cfg.replication c r) (hconfirmed : result.status = "confirmed") :
    Advanced c r none ((Op.result item result E).run cfg k c) := by
  have heffect : Effect cfg k c (.result item result E) ((Op.result item result E).run cfg k c) := op_effect _
  generalize (Op.result item result E).run cfg k c = c' at heffect
  cases heffect with
  | none => exact h.same (by simp)
  | resultNoted hstatus => exact absurd hconfirmed hstatus
  | publishedItem hpublished =>
      obtain ⟨hcurrent, -, r', hr', rfl⟩ := hpublished
      obtain rfl := Option.some.inj (hr'.symm.trans h.record)
      obtain ⟨r₁, _, hr₁, -, -, -, -, hstage, -⟩ := isCurrent_iff.mp hcurrent
      obtain rfl := Option.some.inj (hr₁.symm.trans hr')
      refine ⟨_, rfl, .moved rfl (by simp [publishedRecord]) (by simp [publishedRecord]) (by simp [publishedRecord])
        rfl ?_, ?_⟩
      · refine (rank_le_stage).trans_lt ?_
        rw [hstage]
        exact Nat.lt_succ_self 3
      · rintro ⟨⟩

def Follows (r₀ r : ARKRecord) : Prop :=
  r.authorityId = r₀.authorityId ∧ (r = r₀ ∨ r.processingStatus ≠ .failed ∧ r.nextActionAt = none)

variable {r₀ : ARKRecord}

omit [PyLower] in
theorem Follows.due (h : Follows r₀ r) (hdue : Due now r₀) : Due now r := by
  obtain ⟨-, rfl | ⟨-, hnext⟩⟩ := h
  · exact hdue
  · intro t ht
    rw [hnext] at ht
    cases ht

omit [PyLower] in
theorem Follows.onward {kind : Option Need} (h : Follows r₀ r) (ho : Onward r r' kind) : Follows r₀ r' := by
  refine ⟨ho.authority.trans h.1, ?_⟩
  rcases ho.fresh with rfl | hfresh
  · exact h.2
  · exact .inr hfresh

theorem healthy_advanced (h : Underway cfg.replication c r) (hf : Follows r₀ r) (hop : HealthyFor cfg r₀ op) :
    Advanced c r (kindOf op) (op.run cfg k c) := by
  cases op with
  | reserve row => exact hop.elim
  | unassigned authorityId now => exact hop.elim
  | result item result E => exact result_advanced h hop
  | mutation m =>
      cases m with
      | put identity request E => exact hop.elim
      | delete identity E => exact hop.elim
      | retry identity E =>
          obtain ⟨hA, hcurrent, hcommit⟩ := hop
          refine retry_advanced h (hA.trans hf.1.symm) hcommit fun hfailed => ?_
          obtain ⟨-, rfl | ⟨hstatus, -⟩⟩ := hf
          · exact hcurrent
          · exact absurd hfailed hstatus
      | persist E => exact persist_advanced h hop.1 (hf.due hop.2)
      | reconcile E =>
          obtain ⟨hE, hassigned, hdue⟩ := hop
          exact reconcile_advanced h hE (hf.1 ▸ hassigned) (hf.due hdue)
      | publish E =>
          obtain ⟨hassigned, hwrite, hcommit, hdue⟩ := hop
          exact publish_advanced h (hf.1 ▸ hassigned) hwrite hcommit (hf.due hdue)

variable {s t : Sys}

/-- What a run does to the rows of an ARK. -/
def opsOn (cfg : Config) (k : ArkId) : List Act → Sys → List Op
  | [], _ => []
  | a :: as, s => (opOf s a k).toList ++ ((step cfg s a).map (opsOn cfg k as)).getD []

/-- The ARK is at its end: published, seen with its replicas, its payload purged. -/
def Ended (cfg : ReplicationConfig) (authorityId : String) (c : Cell) : Prop :=
  ∃ r m, c.record = some r ∧ c.metadata = some m ∧ r.authorityId = authorityId ∧ r.state = .published ∧
    r.processingStage = .complete ∧ m.level1Json = none ∧ m.originalContent = none ∧ m.level1Cid.isSome ∧
    m.originalCid.isSome ∧ Replicated cfg.targetReplicas m

omit [PyLower] in
theorem ended_of_rank (h : Underway replication c r) (hrank : 5 ≤ rank r) : Ended replication r.authorityId c := by
  have hstage : r.processingStage = .complete := by
    have hle := hrank.trans rank_le_stage
    cases hs : r.processingStage <;> rw [hs] at hle <;> simp [stageRank] at hle
  have hat := h.consistent.live r h.record h.live
  generalize hm : c.metadata = o at hat
  cases hat with
  | complete _ hstate hpurged hcids hreplicas =>
      exact ⟨r, _, h.record, hm, rfl, hstate, hstage, hpurged.1, hpurged.2, hcids.1, hcids.2, hreplicas⟩
  | none hs | metadata hs | availability hs | chain hs | replication hs => simp [hs] at hstage

theorem underway_of_reach (hs : Reach (step cfg) Free {} s) (hr : (s.cells k).record = some r)
    (hlive : r.state ≠ .tombstone) (hstage : r.processingStage ≠ .none)
    (hmedia : r.processingStage = .metadata → ∀ m, (s.cells k).metadata = some m → m.originalMediaType ≠ some "") :
    Underway cfg.replication (s.cells k) r where
  record := hr
  live := hlive
  stage := hstage
  consistent := reach_consistent hs k
  bounded := reach_bounded hs k
  timed := reach_timed hs k
  awake := reach_awake hs k
  media := hmedia

omit [PyLower] in
theorem needs_after {kinds : List Need} {kind : Option Need} (ho : Onward r r' kind)
    (h : (needs.drop (rank r)).Sublist (kind.toList ++ kinds)) : (needs.drop (rank r')).Sublist kinds := by
  have hfewer := List.drop_sublist_drop_left needs ho.rank_le
  cases kind with
  | none => exact hfewer.trans h
  | some need =>
      rcases List.sublist_cons_iff.mp h with hrest | ⟨rest, hneed, hrest⟩
      · exact hfewer.trans hrest
      · have hnext : needs[rank r]? = some need := by rw [← List.head?_drop, hneed, List.head?_cons]
        have hdrop : needs.drop (rank r + 1) = rest := by rw [← List.tail_drop, hneed, List.tail_cons]
        rw [← hdrop] at hrest
        exact (List.drop_sublist_drop_left needs (ho.rank_lt need rfl hnext)).trans hrest

theorem run_ends {acts : List Act} (hs : Reach (step cfg) Free {} s)
    (hunderway : Underway cfg.replication (s.cells k) r) (hf : Follows r₀ r) (hrun : run (step cfg) acts s = some t)
    (hhealthy : ∀ op ∈ opsOn cfg k acts s, HealthyFor cfg r₀ op)
    (hneeds : (needs.drop (rank r)).Sublist ((opsOn cfg k acts s).filterMap kindOf)) :
    Ended cfg.replication r₀.authorityId (t.cells k) := by
  induction acts generalizing s r with
  | nil =>
      obtain rfl : s = t := by simpa [run] using hrun
      have hnone := List.drop_eq_nil_iff.mp (List.sublist_nil.mp hneeds)
      rw [← hf.1]
      exact ended_of_rank hunderway hnone
  | cons a acts ih =>
      obtain ⟨u, hu, hrest⟩ := Option.bind_eq_some_iff.mp hrun
      have hreach := hs.next trivial hu
      have hops : opsOn cfg k (a :: acts) s = (opOf s a k).toList ++ opsOn cfg k acts u := by simp [opsOn, hu]
      rw [hops] at hhealthy hneeds
      rcases step_cells hu k with ⟨hnone, hcell⟩ | ⟨op, hop, hcell⟩
      · rw [hnone] at hhealthy hneeds
        exact ih hreach (by rwa [hcell]) hf hrest hhealthy hneeds
      · rw [hop] at hhealthy hneeds
        obtain ⟨r', hr', honward, hmeta⟩ := healthy_advanced (k := k) hunderway hf (hhealthy op (by simp))
        rw [← hcell] at hr' hmeta
        have hafter : Underway cfg.replication (u.cells k) r' := by
          refine underway_of_reach hreach hr' honward.live honward.stage fun hstage m hm => ?_
          obtain ⟨hbefore, hsame⟩ := hmeta hstage
          rw [hsame] at hm
          exact hunderway.media hbefore m hm
        have hkinds : ((some op).toList ++ opsOn cfg k acts u).filterMap kindOf =
            (kindOf op).toList ++ (opsOn cfg k acts u).filterMap kindOf := by
          cases hkind : kindOf op <;> simp [hkind]
        rw [hkinds] at hneeds
        refine ih hreach hafter (hf.onward honward) hrest (fun o ho => hhealthy o (by simp [ho])) ?_
        exact needs_after honward hneeds

/-- No state of a run is a dead end for a payload that can be stored: from any of them, healthy
attempts bring the ARK to its end if those that it still needs are among them in their order (its
retry, where it has FAILED), whatever goes on in between on other ARKs, and nothing else on this one
but confirmed results. -/
theorem healthy_run_completes {acts : List Act} (hs : Reach (step cfg) Free {} s)
    (hr : (s.cells k).record = some r) (hlive : r.state ≠ .tombstone) (hstage : r.processingStage ≠ .none)
    (hmedia : r.processingStage = .metadata → ∀ m, (s.cells k).metadata = some m → m.originalMediaType ≠ some "")
    (hrun : run (step cfg) acts s = some t) (hhealthy : ∀ op ∈ opsOn cfg k acts s, HealthyFor cfg r op)
    (hneeds : (needs.drop (rank r)).Sublist ((opsOn cfg k acts s).filterMap kindOf)) :
    Ended cfg.replication r.authorityId (t.cells k) :=
  run_ends hs (underway_of_reach hs hr hlive hstage hmedia) ⟨rfl, .inl rfl⟩ hrun hhealthy hneeds

theorem opsOn_attempts (ms : List Mutation) (hlock : s.control.locks k = none) :
    ∃ t, run (step cfg) (ms.map (.mutate k)) s = some t ∧ opsOn cfg k (ms.map (.mutate k)) s = ms.map .mutation := by
  induction ms generalizing s with
  | nil => exact ⟨s, rfl, rfl⟩
  | cons m ms ih =>
      cases hu : step cfg s (.mutate k m) with
      | none => cases hu
      | some u =>
          have hcontrol : s.control = u.control := Option.some.inj (step_eq hu).1
          obtain ⟨t, ht, hops⟩ := ih (hcontrol ▸ hlock)
          have hop : opOf s (.mutate k m) k = some (.mutation m) := if_pos ⟨rfl, hlock⟩
          refine ⟨t, Option.bind_eq_some_iff.mpr ⟨u, hu, ht⟩, ?_⟩
          simp only [List.map_cons, opsOn, hop, hu, Option.map_some, Option.getD_some, hops]
          rfl

end

section Sample

attribute [local instance] asciiText

open Deployment.Sample

def publishEnv : PublishEnv where
  readyAt := 4
  assigned _ := true
  write := .ok ()
  identity := noReads
  chain := .error unread
  publishedAt := 4
  failureIdentity := noReads
  failedAt := 4

def attempts : List Mutation :=
  [.persist persistEnv, .reconcile reconcileEnv, .publish publishEnv, .reconcile reconcileEnv]

theorem replicating_sample : Replicating config.replication reconcileEnv :=
  ⟨⟨_, rfl, fun _ => ⟨_, rfl, by decide, by decide, by decide⟩⟩, rfl⟩

theorem healthy_run_completes_sample : ∃ s r t, Reach (step config) Free {} s ∧ (s.cells ark).record = some r ∧
    r.processingStage = .metadata ∧ run (step config) (attempts.map (.mutate ark)) s = some t ∧
    Ended config.replication r.authorityId (t.cells ark) := by
  have hrun : ((run (step config) (toChain.take 2) {}).bind fun s => (s.cells ark).record.map fun r =>
      (r.state, r.processingStage, r.processingStatus, r.nextActionAt)) = some (.draft, .metadata, .ready, none) := by
    decide
  have hrows : ((run (step config) (toChain.take 2) {}).map fun s =>
      ((s.cells ark).metadata.map (·.originalMediaType), s.control.locks ark)) =
        some (some (some "text/xml"), none) := by decide
  obtain ⟨s, hs, hrow⟩ := Option.bind_eq_some_iff.mp hrun
  obtain ⟨r, hr, hrow⟩ := Option.map_eq_some_iff.mp hrow
  simp only [Prod.mk.injEq] at hrow
  obtain ⟨hstate, hstage, hstatus, hnext⟩ := hrow
  rw [hs, Option.map_some, Option.some.injEq, Prod.mk.injEq] at hrows
  obtain ⟨hmedia, hlock⟩ := hrows
  obtain ⟨t, ht, hops⟩ : ∃ t, run (step config) (attempts.map (.mutate ark)) s = some t ∧
      opsOn config ark (attempts.map (.mutate ark)) s = attempts.map .mutation := opsOn_attempts attempts hlock
  have hdue : ∀ now, Due now r := fun now t ht => by rw [hnext] at ht; cases ht
  refine ⟨s, r, t, run_reach hs, hr, hstage, ht, ?_⟩
  refine healthy_run_completes (run_reach hs) hr (by simp [hstate]) (by simp [hstage]) ?_ ht ?_ ?_
  · intro _ m hm
    rw [hm] at hmedia
    simp [Option.some.inj hmedia]
  · have hpersist : Healthy persistEnv := ⟨fun _ _ _ => ⟨cid2, rfl⟩, fun _ _ => ⟨cid1, rfl⟩, rfl⟩
    have hreconcile : HealthyFor config r (.mutation (.reconcile reconcileEnv)) := ⟨replicating_sample, rfl, hdue _⟩
    rw [hops]
    intro op hop
    obtain ⟨m, hm, rfl⟩ := List.mem_map.mp hop
    simp only [attempts, List.mem_cons, List.not_mem_nil, or_false] at hm
    rcases hm with rfl | rfl | rfl | rfl
    · exact ⟨hpersist, hdue _⟩
    · exact hreconcile
    · exact ⟨rfl, rfl, rfl, hdue _⟩
    · exact hreconcile
  · rw [hops, rank_active (by simp [hstatus]), hstage]
    exact List.Sublist.refl _

end Sample

end DarkMinter.Completion
