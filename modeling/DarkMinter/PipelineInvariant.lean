import DarkMinter.Faults
import DarkMinter.InFlight

namespace DarkMinter.PipelineInvariant

open Text Processing Records Repository ArkApi Requests Retry Persistence Replication Publication
open ChainCycle Deployment Attempts Effects ResultApplication InFlight Faults Lib.Runs

section

def Pending (r : ARKRecord) : Prop := r.state = .draft ∨ r.state = .update

def Replicated (n : Nat) (m : ARKMetadata) : Prop :=
  n ≤ m.level1ReplicaCount.getD 0 ∧ n ≤ m.level2ReplicaCount.getD 0

/-- What the stage of a record says of its state and of its metadata row. -/
inductive AtStage (cfg : ReplicationConfig) (r : ARKRecord) : Option ARKMetadata → Prop
  | none (hstage : r.processingStage = .none) (hstate : r.state = .reserved ∨ r.state = .published)
      (hstatus : r.processingStatus = .done) : AtStage cfg r .none
  | metadata {m : ARKMetadata} (hstage : r.processingStage = .metadata) (hpending : Pending r)
      (hpayloads : Payloads m) (hmedia : m.originalMediaType.isSome) (h1 : m.level1Cid = .none)
      (h2 : m.originalCid = .none) : AtStage cfg r (some m)
  | availability {m : ARKMetadata} (hstage : r.processingStage = .availability)
      (hpending : Pending r) (hstored : Stored m) : AtStage cfg r (some m)
  | chain {m : ARKMetadata} (hstage : r.processingStage = .chain) (hpending : Pending r)
      (hstored : Stored m) (hreplicas : Replicated cfg.publishAfter m) : AtStage cfg r (some m)
  | replication {m : ARKMetadata} (hstage : r.processingStage = .replication)
      (hstate : r.state = .published) (hstored : Stored m) : AtStage cfg r (some m)
  | complete {m : ARKMetadata} (hstage : r.processingStage = .complete)
      (hstate : r.state = .published) (hpurged : m.level1Json = .none ∧ m.originalContent = .none)
      (hcids : m.level1Cid.isSome ∧ m.originalCid.isSome)
      (hreplicas : Replicated cfg.targetReplicas m) : AtStage cfg r (some m)

/-- The rows of one ARK fit together. -/
structure Consistent (cfg : ReplicationConfig) (c : Cell) : Prop where
  absent : c.record = none → c.metadata = none
  live : ∀ r, c.record = some r → r.state ≠ .tombstone → AtStage cfg r c.metadata

variable {cfg : ReplicationConfig} {c c' : Cell} {r : ARKRecord} {m : ARKMetadata}

theorem AtStage.stage_none {o : Option ARKMetadata} (h : AtStage cfg r o)
    (hs : r.processingStage = .none) : r.processingStatus = .done := by
  cases h <;> simp_all

theorem AtStage.at_metadata {o : Option ARKMetadata} (h : AtStage cfg r o)
    (hs : r.processingStage = .metadata) : Pending r ∧ ∃ m, o = some m ∧ Payloads m ∧
      m.originalMediaType.isSome ∧ m.level1Cid = Option.none ∧ m.originalCid = Option.none := by
  cases h with
  | metadata _ hpending hpayloads hmedia h1 h2 => exact ⟨hpending, _, rfl, hpayloads, hmedia, h1, h2⟩
  | none hstage | availability hstage | chain hstage | replication hstage | complete hstage =>
      simp [hs] at hstage

theorem AtStage.at_availability {o : Option ARKMetadata} (h : AtStage cfg r o)
    (hs : r.processingStage = .availability) : Pending r ∧ ∃ m, o = some m ∧ Stored m := by
  cases h with
  | availability _ hpending hstored => exact ⟨hpending, _, rfl, hstored⟩
  | none hstage | metadata hstage | chain hstage | replication hstage | complete hstage =>
      simp [hs] at hstage

theorem AtStage.at_chain {o : Option ARKMetadata} (h : AtStage cfg r o)
    (hs : r.processingStage = .chain) :
    Pending r ∧ ∃ m, o = some m ∧ Stored m ∧ Replicated cfg.publishAfter m := by
  cases h with
  | chain _ hpending hstored hreplicas => exact ⟨hpending, _, rfl, hstored, hreplicas⟩
  | none hstage | metadata hstage | availability hstage | replication hstage | complete hstage =>
      simp [hs] at hstage

theorem AtStage.at_replication {o : Option ARKMetadata} (h : AtStage cfg r o)
    (hs : r.processingStage = .replication) :
    r.state = .published ∧ ∃ m, o = some m ∧ Stored m := by
  cases h with
  | replication _ hstate hstored => exact ⟨hstate, _, rfl, hstored⟩
  | none hstage | metadata hstage | availability hstage | chain hstage | complete hstage =>
      simp [hs] at hstage

theorem AtStage.congr {r' : ARKRecord} {o : Option ARKMetadata} (h : AtStage cfg r o)
    (hstage : r'.processingStage = r.processingStage) (hstate : r'.state = r.state)
    (hstatus : r.processingStage = .none → r'.processingStatus = r.processingStatus) :
    AtStage cfg r' o := by
  cases h with
  | none hs ht hd => exact .none (hstage.trans hs) (hstate ▸ ht) ((hstatus hs).trans hd)
  | metadata hs hp h1 h2 h3 h4 =>
      exact .metadata (hstage.trans hs) (by simpa [Pending, hstate] using hp) h1 h2 h3 h4
  | availability hs hp h1 =>
      exact .availability (hstage.trans hs) (by simpa [Pending, hstate] using hp) h1
  | chain hs hp h1 h2 => exact .chain (hstage.trans hs) (by simpa [Pending, hstate] using hp) h1 h2
  | replication hs ht h1 => exact .replication (hstage.trans hs) (hstate.trans ht) h1
  | complete hs ht h1 h2 h3 => exact .complete (hstage.trans hs) (hstate.trans ht) h1 h2 h3

theorem Consistent.noted (h : Consistent cfg c) (hn : Noted c c') (hs : Started c) :
    Consistent cfg c' := by
  obtain ⟨r, r', hr, hr', hstate, -, -, hstage, hm, -⟩ := hn.keeps
  obtain ⟨r₀, h₀, hstarted⟩ := hs
  obtain rfl := Option.some.inj (hr.symm.trans h₀)
  refine ⟨by simp [hr'], ?_⟩
  intro r₁ h₁ hlive
  obtain rfl := Option.some.inj (hr'.symm.trans h₁)
  rw [hstate] at hlive
  rw [hm]
  exact (h.live r hr hlive).congr hstage hstate fun hnone => absurd hnone (hstarted.resolve_left hlive)

theorem Consistent.of_live {r : ARKRecord} {o : Option ARKMetadata} {jobs : List SupersededJob}
    (h : AtStage cfg r o) : Consistent cfg ⟨some r, o, jobs⟩ := by
  refine ⟨nofun, ?_⟩
  rintro _ ⟨⟩ -
  exact h

theorem stored_of_persist {S : Storage} {level1Cid level2Cid : Cid} {now : Time}
    (hpayloads : Payloads m) (hmedia : m.originalMediaType.isSome) (hcid : m.originalCid = none)
    (h2 : persistLevel2 S m = .ok level2Cid) : Stored (persistedMetadata (some level1Cid) (some level2Cid) now m) := by
  obtain ⟨mediaType, hmedia⟩ := Option.isSome_iff_exists.mp hmedia
  obtain ⟨content, hcontent⟩ := Option.isSome_iff_exists.mp hpayloads.2
  refine ⟨hpayloads, ⟨mediaType, hmedia, ?_⟩, rfl, rfl⟩
  rintro rfl
  simp [persistLevel2, hcid, hcontent, hmedia] at h2

variable [PyLower]

theorem atStage_observed {E : ReconcileEnv} {level1 level2 : ReplicationStatus} {repaired : Nat}
    (h : AtStage cfg r (some m))
    (hstage : r.processingStage = .availability ∨ r.processingStage = .replication) :
    AtStage cfg (reconciledRows cfg E level1 level2 r m repaired).1
      (some (reconciledRows cfg E level1 level2 r m repaired).2.1) := by
  rcases hstage with hstage | hstage
  · obtain ⟨hpending, m', hm, hstored⟩ := h.at_availability hstage
    obtain rfl := Option.some.inj hm
    simp only [reconciledRows, hstage, if_true, reconcileAvailability]
    split
    · refine .chain rfl hpending hstored ⟨?_, ?_⟩
      · exact le_trans ‹_› (min_le_left ..)
      · exact le_trans ‹_› (min_le_right ..)
    · exact .availability rfl hpending hstored
  · obtain ⟨hstate, m', hm, hstored⟩ := h.at_replication hstage
    obtain rfl := Option.some.inj hm
    simp only [reconciledRows, hstage, reduceCtorEq, if_false, reconcileDurability]
    split
    · refine .complete rfl hstate ⟨rfl, rfl⟩ hstored.2.2 ⟨?_, ?_⟩
      · exact le_trans ‹_› (min_le_left ..)
      · exact le_trans ‹_› (min_le_right ..)
    · split
      · exact .replication rfl hstate hstored
      · exact .replication rfl hstate hstored

end

section

variable [PyLower] {cfg : Config} {s t : Sys} {a : Act} {k : ArkId} {c c' : Cell} {op : Op}

theorem consistent_effect (h : Consistent cfg.replication c) (heffect : Effect cfg k c op c')
    (ha : Admissible c op) : Consistent cfg.replication c' := by
  cases heffect with
  | none => exact h
  | @reserved row =>
      rw [h.absent ha]
      exact .of_live (.none rfl (.inl rfl) rfl)
  | raced hnone =>
      rw [h.absent hnone]
      exact .of_live (.none rfl (.inl rfl) rfl)
  | staged hstaged =>
      obtain ⟨b, r, json, -, -, -, -, -, -, rfl⟩ := hstaged.ex
      unfold staged withPayload createOrUpdateMetadata
      refine .of_live (.metadata rfl stagedRecord_state ?_ ?_ ?_ ?_)
      all_goals cases b.metadata <;> simp [Payloads]
  | tombstoned htomb =>
      obtain ⟨r', hr', hstate⟩ := htomb.record
      refine ⟨by simp [hr'], ?_⟩
      intro r₁ h₁ hlive
      obtain rfl := Option.some.inj (hr'.symm.trans h₁)
      exact absurd hstate hlive
  | @retried identity E r hr _ hstate hfailed =>
      refine .of_live ((h.live r hr hstate.2).congr rfl rfl fun hnone => ?_)
      have hdone := (h.live r hr hstate.2).stage_none hnone
      simp [hfailed] at hdone
  | persistNoted hr hacc hn =>
      exact h.noted hn ⟨_, hr, .inr (by simp [(persistAccepts_live hacc).2])⟩
  | @persisted E r m level1Cid level2Cid hr hacc hm h2 h1 =>
      obtain ⟨hlive, hstage⟩ := persistAccepts_live hacc
      obtain ⟨hpending, m', hm', hpayloads, hmedia, -, hcid⟩ := (h.live r hr hlive).at_metadata hstage
      obtain rfl := Option.some.inj (hm.symm.trans hm')
      exact .of_live (.availability rfl hpending (stored_of_persist hpayloads hmedia hcid h2))
  | reconcileNoted hr hacc hn =>
      refine h.noted hn ⟨_, hr, .inr ?_⟩
      rcases (reconcileAccepts_live hacc).2 with hstage | hstage <;> simp [hstage]
  | @observed E r m _ _ level1 level2 repaired hr hacc hm _ _ _ =>
      obtain ⟨hlive, hstage⟩ := reconcileAccepts_live hacc
      have hrow := h.live r hr hlive
      rw [hm] at hrow
      exact .of_live (atStage_observed hrow hstage)
  | publishNoted hr hacc hn =>
      exact h.noted hn ⟨_, hr, .inr (by simp [(publishAccepts_live hacc).2])⟩
  | @published E r c' hr hacc hpub =>
      obtain ⟨m, cid, hm, -, -, -, rfl⟩ := hpub
      obtain ⟨hlive, hstage⟩ := publishAccepts_live hacc
      obtain ⟨-, m', hm', hstored, -⟩ := (h.live r hr hlive).at_chain hstage
      rw [hm']
      exact .of_live (.replication rfl rfl hstored)
  | unassigned _ _ hn => exact h.noted hn ha
  | resultNoted hstatus hn =>
      obtain ⟨r, _, hr, -, -, -, -, hstage, -⟩ := isCurrent_iff.mp (ha.2.resolve_left hstatus)
      exact h.noted hn ⟨r, hr, .inr (by simp [hstage])⟩
  | @publishedItem item _ _ _ hpub =>
      obtain ⟨hcurrent, -, r, hr, rfl⟩ := hpub
      obtain ⟨r', m, hr', -, -, hstate, -, hstage, -⟩ := isCurrent_iff.mp hcurrent
      obtain rfl := Option.some.inj (hr.symm.trans hr')
      have hlive : r.state ≠ .tombstone := by
        rcases ha.1 with h | h <;> simp [hstate, h]
      obtain ⟨-, m', hm', hstored, -⟩ := (h.live r hr hlive).at_chain hstage
      rw [hm']
      exact .of_live (.replication rfl rfl hstored)

theorem reach_consistent {G : Sys → Act → Prop} (h : Reach (step cfg) G {} s) (k : ArkId) :
    Consistent cfg.replication (s.cells k) := by
  refine reach_cells (I := Consistent cfg.replication) h ⟨fun _ => rfl, ?_⟩ ?_ k
  · rintro _ ⟨⟩
  · intro s a k op _ _ ha heffect hc
    exact consistent_effect hc heffect ha

def Done (c : Cell) : Prop :=
  ∀ r, c.record = some r → r.state ≠ .tombstone → r.processingStage = .complete → r.processingStatus = .done

def Typed (c : Cell) : Prop := ∀ m, c.metadata = some m → m.originalMediaType ≠ some ""

def Spared (cfg : Config) (s : Sys) (a : Act) : Prop :=
  (∀ k authorityId now r, opOf s a k = some (.unassigned authorityId now) →
    (s.cells k).record = some r → r.authorityId = authorityId →
      r.state = .tombstone ∨ r.processingStage ≠ .complete) ∧
  ∀ k put, stagedBy s a k (cellsAfter cfg s a k) = some put →
    normalizeMediaType put.request.metadataMediaType ≠ ""

omit [PyLower] in
theorem done_noted (hn : Noted c c') (hne : ∀ r, c.record = some r →
    r.state = .tombstone ∨ r.processingStage ≠ .complete) : Done c' := by
  obtain ⟨r, r', hr, hr', hstate, -, -, hstage, -⟩ := hn.keeps
  intro r₁ h₁ hlive hcomplete
  obtain rfl := Option.some.inj (hr'.symm.trans h₁)
  rw [hstate] at hlive
  rw [hstage] at hcomplete
  exact absurd hcomplete ((hne r hr).resolve_left hlive)

theorem reconciledRows_done (cfg : ReplicationConfig) (E : ReconcileEnv)
    (level1 level2 : ReplicationStatus) (r : ARKRecord) (m : ARKMetadata) (repaired : Nat)
    (hne : r.processingStage ≠ .complete)
    (h : (reconciledRows cfg E level1 level2 r m repaired).1.processingStage = .complete) :
    (reconciledRows cfg E level1 level2 r m repaired).1.processingStatus = .done := by
  have hrecord := (reconciledRows_rows cfg E level1 level2 r m repaired).1
  generalize (reconciledRows cfg E level1 level2 r m repaired).1 = r' at h hrecord ⊢
  cases hrecord with
  | chain => cases h
  | complete => rfl
  | again | waiting => exact absurd h hne

theorem done_effect {s : Sys} (h : Done (s.cells k)) (heffect : Effect cfg k (s.cells k) op c')
    (ha : Admissible (s.cells k) op) (hop : opOf s a k = some op) (hg : Spared cfg s a) : Done c' := by
  have hwork : InWork (s.cells k) → Noted (s.cells k) c' → Done c' :=
    fun hwork hn => done_noted hn fun r hr => .inr (hwork r hr).2
  cases heffect with
  | none => exact h
  | reserved | raced | persisted =>
      rintro _ ⟨⟩ - hcomplete
      cases hcomplete
  | staged hstaged =>
      obtain ⟨b, r, json, -, -, -, -, -, -, rfl⟩ := hstaged.ex
      rintro _ ⟨⟩ - hcomplete
      cases hcomplete
  | tombstoned htomb =>
      obtain ⟨r', hr', hstate⟩ := htomb.record
      intro r₁ h₁ hlive
      obtain rfl := Option.some.inj (hr'.symm.trans h₁)
      exact absurd hstate hlive
  | @retried identity E r hr _ _ hfailed =>
      rintro _ ⟨⟩ hlive hcomplete
      have hdone := h r hr hlive hcomplete
      simp [hfailed] at hdone
  | persistNoted hr hacc hn => exact hwork (inWork_persist hr hacc) hn
  | reconcileNoted hr hacc hn => exact hwork (inWork_reconcile hr hacc) hn
  | observed hr hacc =>
      rintro _ ⟨⟩ - hcomplete
      exact reconciledRows_done _ _ _ _ _ _ _ (inWork_reconcile hr hacc _ hr).2 hcomplete
  | publishNoted hr hacc hn => exact hwork (inWork_publish hr hacc) hn
  | published _ _ hpub =>
      obtain ⟨m, cid, -, -, -, -, rfl⟩ := hpub
      rintro _ ⟨⟩ - hcomplete
      cases hcomplete
  | unassigned hr hA hn =>
      refine done_noted hn fun r' hr' => ?_
      obtain rfl := Option.some.inj (hr.symm.trans hr')
      exact hg.1 k _ _ _ hop hr hA
  | resultNoted hstatus hn => exact hwork (inWork_current ha.1 (ha.2.resolve_left hstatus)) hn
  | publishedItem hpub =>
      obtain ⟨-, -, r, -, rfl⟩ := hpub
      rintro _ ⟨⟩ - hcomplete
      cases hcomplete

omit [PyLower] in
theorem typed_noted (hn : Noted c c') (h : Typed c) : Typed c' := by
  intro m hm
  exact h m (hn.metadata ▸ hm)

theorem reconciledRows_mediaType (cfg : ReplicationConfig) (E : ReconcileEnv)
    (level1 level2 : ReplicationStatus) (r : ARKRecord) (m : ARKMetadata) (repaired : Nat) :
    (reconciledRows cfg E level1 level2 r m repaired).2.1.originalMediaType = m.originalMediaType := by
  have hmetadata := (reconciledRows_rows cfg E level1 level2 r m repaired).2
  generalize (reconciledRows cfg E level1 level2 r m repaired).2.1 = m' at hmetadata ⊢
  cases hmetadata <;> rfl

theorem staged_mediaType {request : UpdateARKMetadataRequest} {now : Time} {json : Json} {r : ARKRecord}
    {b : Cell} {m : ARKMetadata} (hm : (staged request now json r b).metadata = some m) :
    m.originalMediaType = some (normalizeMediaType request.metadataMediaType) := by
  unfold staged withPayload createOrUpdateMetadata at hm
  cases hb : b.metadata <;> simp only [hb, Option.some.injEq] at hm <;> rw [← hm]

theorem typed_effect {s : Sys} (h : Typed (s.cells k))
    (heffect : Effect cfg k (s.cells k) op (cellsAfter cfg s a k)) (hop : opOf s a k = some op)
    (hg : Spared cfg s a) : Typed (cellsAfter cfg s a k) := by
  have hput := hg.2 k
  generalize cellsAfter cfg s a k = c' at heffect hput ⊢
  cases heffect with
  | none | reserved | raced | retried => exact h
  | staged hstaged =>
      obtain ⟨rfl, -⟩ := opOf_mutation hop
      have hmedia := hput _ (stagedBy_put hstaged)
      obtain ⟨b, r, json, -, -, -, -, -, -, rfl⟩ := hstaged.ex
      intro m hm
      rw [staged_mediaType hm]
      exact fun hempty => hmedia (Option.some.inj hempty)
  | tombstoned htomb =>
      exact htomb.keeps (I := Typed) h (fun _ _ _ _ hm => nomatch hm) fun _ _ _ hb => hb
  | persisted _ _ hm =>
      have hmedia := h _ hm
      rintro _ ⟨⟩
      exact hmedia
  | observed _ _ hm =>
      rintro _ ⟨⟩
      rw [reconciledRows_mediaType]
      exact h _ hm
  | published _ _ hpub =>
      obtain ⟨m, cid, -, -, -, -, rfl⟩ := hpub
      exact h
  | publishedItem hpub =>
      obtain ⟨-, -, r, -, rfl⟩ := hpub
      exact h
  | persistNoted _ _ hn | reconcileNoted _ _ hn | publishNoted _ _ hn | unassigned _ _ hn
  | resultNoted _ hn => exact typed_noted hn h

theorem reach_spared (h : Reach (step cfg) (Spared cfg) {} s) (k : ArkId) :
    Done (s.cells k) ∧ Typed (s.cells k) := by
  refine reach_cells (I := fun c => Done c ∧ Typed c) h ⟨?_, ?_⟩ ?_ k
  · rintro _ ⟨⟩
  · rintro _ ⟨⟩
  · intro s a k op hg hop ha heffect hc
    exact ⟨done_effect hc.1 heffect ha hop hg, typed_effect hc.2 heffect hop hg⟩

/-- What the stage of a live record says of its state, its status, its local
payloads, its CIDs and its stored replica counts. -/
def Clauses (cfg : ReplicationConfig) (r : ARKRecord) (o : Option ARKMetadata) : Prop :=
  match r.processingStage with
  | .none => (r.state = .reserved ∨ r.state = .published) ∧ r.processingStatus = .done
  | .metadata => Pending r ∧ ∃ m, o = some m ∧ Payloads m ∧ m.level1Cid = none ∧ m.originalCid = none
  | .availability => Pending r ∧ ∃ m, o = some m ∧ Payloads m ∧ m.level1Cid.isSome ∧ m.originalCid.isSome
  | .chain => Pending r ∧ ∃ m, o = some m ∧ Payloads m ∧ m.level1Cid.isSome ∧ m.originalCid.isSome ∧
      Replicated cfg.publishAfter m
  | .replication => r.state = .published ∧
      ∃ m, o = some m ∧ Payloads m ∧ m.level1Cid.isSome ∧ m.originalCid.isSome
  | .complete => r.state = .published ∧ r.processingStatus = .done ∧
      ∃ m, o = some m ∧ (m.level1Json = none ∧ m.originalContent = none) ∧ Replicated cfg.targetReplicas m

/-- The pipeline invariant of one ARK: the clauses of its stage, and none of
the attempts that accept it lacks a CID or a payload. -/
def Sound (cfg : Config) (k : ArkId) (c : Cell) : Prop :=
  ∀ r, c.record = some r → r.state ≠ .tombstone →
    Clauses cfg.replication r c.metadata ∧
    (∀ m, c.metadata = some m → ¬Payloads m →
      r.state = .published ∧ Replicated cfg.replication.targetReplicas m) ∧
    (∀ E e, persistAccepts E.readyAt r = true → persistBody E r c = .error e → PersistFault E e) ∧
    (∀ E repair e, reconcileAccepts E.readyAt r = true →
      reconcileBody cfg.replication E r c = (repair, .error e) → ReconcileFault E e) ∧
    ∀ E e, publishAccepts E.readyAt r = true → publishBody cfg.catalogue k E r c = .error e →
      PublishFault cfg.catalogue k E r c e

omit [PyLower] in
theorem clauses_of_atStage {cfg : ReplicationConfig} {r : ARKRecord} {o : Option ARKMetadata}
    (h : AtStage cfg r o) (hdone : r.processingStage = .complete → r.processingStatus = .done) :
    Clauses cfg r o := by
  cases h with
  | none hstage hstate hstatus =>
      simp only [Clauses, hstage]
      exact ⟨hstate, hstatus⟩
  | metadata hstage hpending hpayloads _ h1 h2 =>
      simp only [Clauses, hstage]
      exact ⟨hpending, _, rfl, hpayloads, h1, h2⟩
  | availability hstage hpending hstored =>
      simp only [Clauses, hstage]
      exact ⟨hpending, _, rfl, hstored.1, hstored.2.2⟩
  | chain hstage hpending hstored hreplicas =>
      simp only [Clauses, hstage]
      exact ⟨hpending, _, rfl, hstored.1, hstored.2.2.1, hstored.2.2.2, hreplicas⟩
  | replication hstage hstate hstored =>
      simp only [Clauses, hstage]
      exact ⟨hstate, _, rfl, hstored.1, hstored.2.2⟩
  | complete hstage hstate hpurged _ hreplicas =>
      simp only [Clauses, hstage]
      exact ⟨hstate, hdone hstage, _, rfl, hpurged, hreplicas⟩

omit [PyLower] in
theorem purged_of_atStage {cfg : ReplicationConfig} {r : ARKRecord} {m : ARKMetadata}
    (h : AtStage cfg r (some m)) (hpurged : ¬Payloads m) :
    r.state = .published ∧ Replicated cfg.targetReplicas m := by
  cases h with
  | metadata _ _ hpayloads => exact absurd hpayloads hpurged
  | availability _ _ hstored | chain _ _ hstored | replication _ _ hstored =>
      exact absurd hstored.1 hpurged
  | complete _ hstate _ _ hreplicas => exact ⟨hstate, hreplicas⟩

/-- The pipeline invariant holds in every run that never marks a complete ARK
as unassigned and never stages a payload without a media type. -/
theorem pipeline_invariant (h : Reach (step cfg) (Spared cfg) {} s) (k : ArkId) :
    Sound cfg k (s.cells k) := by
  intro r hr hlive
  have hat := (reach_consistent h k).live r hr hlive
  obtain ⟨hdone, htyped⟩ := reach_spared h k
  refine ⟨clauses_of_atStage hat (hdone r hr hlive), ?_, ?_, ?_, ?_⟩
  · intro m hm hpurged
    rw [hm] at hat
    exact purged_of_atStage hat hpurged
  · intro E e hacc herr
    obtain ⟨-, m, hm, hpayloads, hmedia, h1, h2⟩ := hat.at_metadata (persistAccepts_live hacc).2
    obtain ⟨mediaType, hmedia⟩ := Option.isSome_iff_exists.mp hmedia
    have hne : mediaType ≠ "" := by
      rintro rfl
      exact htyped m hm hmedia
    exact persistBody_error hm hpayloads ⟨mediaType, hmedia, hne⟩ h1 h2 herr
  · intro E repair e hacc herr
    rcases (reconcileAccepts_live hacc).2 with hstage | hstage
    · obtain ⟨-, m, hm, hstored⟩ := hat.at_availability hstage
      exact reconcileBody_error hm hstored herr
    · obtain ⟨-, m, hm, hstored⟩ := hat.at_replication hstage
      exact reconcileBody_error hm hstored herr
  · intro E e hacc herr
    obtain ⟨-, m, hm, hstored, -⟩ := hat.at_chain (publishAccepts_live hacc).2
    exact publishBody_error hr hm hstored herr

def harmless : Act → Bool
  | .markUnassigned _ _ => false
  | .mutate _ (.put _ request _) => normalizeMediaType request.metadataMediaType ≠ ""
  | _ => true

theorem spared_of_harmless (ha : harmless a = true) : Spared cfg s a := by
  refine ⟨?_, ?_⟩
  · intro k authorityId now r hop
    obtain ⟨p, rfl⟩ := opOf_unassigned hop
    cases ha
  · intro k put hput
    unfold stagedBy at hput
    split at hput
    · simp only [Option.ite_none_right_eq_some, Option.some.injEq] at hput
      obtain ⟨-, rfl⟩ := hput
      simpa [harmless] using ha
    · cases hput

theorem spared_reach {as : List Act} (h : run (step cfg) as s = some t)
    (has : ∀ a ∈ as, harmless a = true) : Reach (step cfg) (Spared cfg) s t :=
  (run_guarded (fun _ => True) h trivial (fun _ a ha _ => spared_of_harmless (has a ha))
    fun _ _ _ _ _ _ => trivial).1

end

section Sample

attribute [local instance] asciiText

open Sample

theorem pipeline_invariant_complete :
    ∃ s r, Reach (step config) (Spared config) {} s ∧ (s.cells ark).record = some r ∧
      r.processingStage = .complete ∧ Sound config ark (s.cells ark) := by
  have h : ((run (step config) (upToSubmit ++ [.submit 0 confirmed, .acquire 0, .finish 0 resultEnv,
      .mutate ark (.reconcile reconcileEnv)]) {}).bind
        fun s => (s.cells ark).record.map (·.processingStage)) = some .complete := by decide
  obtain ⟨s, hs, hr⟩ := Option.bind_eq_some_iff.mp h
  obtain ⟨r, hr, hstage⟩ := Option.map_eq_some_iff.mp hr
  have hreach : Reach (step config) (Spared config) {} s := spared_reach hs (by decide)
  exact ⟨s, r, hreach, hr, hstage, pipeline_invariant hreach ark⟩

/-- A process that does not serve the authority selects the ARK as well, and
marks it only after it is complete: COMPLETE without DONE. -/
theorem complete_marked_failed :
    ∃ s, Reach (step config) Free {} s ∧ ¬Sound config ark (s.cells ark) := by
  have h : ((run (step config) (toChain ++ [.select 1 4 [ark], .readMetadata 1, .plan 1,
      .select 0 4 [ark], .readMetadata 0, .plan 0, .submit 0 confirmed, .acquire 0,
      .finish 0 resultEnv, .mutate ark (.reconcile reconcileEnv), .markUnassigned 1 10]) {}).bind
        fun s => (s.cells ark).record.map fun r => (r.state, r.processingStage, r.processingStatus)) =
      some (.published, .complete, .failed) := by decide
  obtain ⟨s, hs, hr⟩ := Option.bind_eq_some_iff.mp h
  obtain ⟨r, hr, hrow⟩ := Option.map_eq_some_iff.mp hr
  obtain ⟨hstate, hstage, hstatus⟩ : r.state = .published ∧ r.processingStage = .complete ∧
      r.processingStatus = .failed := by simpa using hrow
  refine ⟨s, run_reach hs, fun hsound => ?_⟩
  have hclauses := (hsound r hr (by simp [hstate])).1
  simp [Clauses, hstage, hstatus] at hclauses

end Sample

end DarkMinter.PipelineInvariant
