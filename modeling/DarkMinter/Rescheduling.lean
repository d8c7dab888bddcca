import DarkMinter.Attempts
import DarkMinter.StorageAnswers

namespace DarkMinter.Rescheduling

open Text Processing Records Repository StorageAnswers
open Persistence hiding persistLevel2 persistLevel1 persistBody persist
open Replication hiding reconcileRows reconcileBody reconcile
open Attempts (deferProcessingRetry_some commitRows_ok)

def WaitsBeyond (now : Time) (r : ARKRecord) : Prop :=
  r.processingStatus = .waiting ∧ ∃ t, r.nextActionAt = some t ∧ now < t

/-- The exception that the body of an attempt ends with. -/
def raised {α : Type} : Except Exc α → Option Exc
  | .ok _ => none
  | .error e => some e

def IsCid (answer : Option String) : Prop := ∃ cid, answer = some cid ∧ cid ≠ ""

inductive PersistOutcome (failedAt : Time) (c : Cell String) : Option Exc → Cell String → Prop
  | stored {c' : Cell String} {r : ARKRecord} {m : ARKMetadata String} (hr : c'.record = some r)
      (hm : c'.metadata = some m) (hcids : IsCid m.level1Cid ∧ IsCid m.originalCid)
      (hnext : r.processingStage = .availability ∧ r.processingStatus = .ready) :
      PersistOutcome failedAt c none c'
  | retained {c' : Cell String} {r : ARKRecord} {e : Exc} (hr : c'.record = some r) (hkept : c'.metadata = c.metadata)
      (hstage : r.processingStage = .metadata) (hwaits : WaitsBeyond failedAt r) :
      PersistOutcome failedAt c (some e) c'

/-- What a metadata attempt that storage does not stop goes by for the CID of the original: the
row's own, or the answer of storage. -/
inductive Level2Given (S : AnyStorage) (m : ARKMetadata String) : Option String → Prop
  | kept {cid : String} (hcid : m.originalCid = some cid) : Level2Given S m (some cid)
  | answered {content mediaType : String} {answer : Option String} (hcid : m.originalCid = none)
      (hcontent : m.originalContent = some content) (hmedia : m.originalMediaType = some mediaType)
      (htyped : mediaType ≠ "") (hanswer : S.storeLevel2 content mediaType m.originalSchema = .ok answer) :
      Level2Given S m answer

inductive Level1Given (S : AnyStorage) (m : ARKMetadata String) (level2Cid : Option String) : Option String → Prop
  | kept {cid : String} (hcid : m.level1Cid = some cid) : Level1Given S m level2Cid (some cid)
  | answered {json : Json} {answer : Option String} (hcid : m.level1Cid = none) (hjson : m.level1Json = some json)
      (hanswer : S.storeLevel1WithLevel2Reference json level2Cid = .ok answer) : Level1Given S m level2Cid answer

/-- Where storage raises at no call of the attempt and the commit goes through, the CIDs of the row
and storage's answers are nonempty texts. -/
def CidsGiven (E : PersistEnv AnyStorage) (c : Cell String) : Prop :=
  ∀ m level2Cid level1Cid, c.metadata = some m → E.commit = .ok () → Level2Given E.storage m level2Cid →
    Level1Given E.storage m level2Cid level1Cid → IsCid level1Cid ∧ IsCid level2Cid

def Advances (before after : ARKRecord) : Prop :=
  before.processingStage = .availability ∧ after.processingStage = .chain ∧ after.processingStatus = .ready ∨
    before.processingStage = .replication ∧ after.processingStage = .complete ∧ after.processingStatus = .done

inductive ReconcileOutcome (E : AnyEnv) (before : ARKRecord) (c : Cell String) :
    Option Exc → Cell String → ReconcileCounts → Prop
  | advanced {c' : Cell String} {r : ARKRecord} {counts : ReconcileCounts} (hr : c'.record = some r)
      (hadvances : Advances before r) : ReconcileOutcome E before c none c' counts
  | observed {c' : Cell String} {r : ARKRecord} {counts : ReconcileCounts} (hr : c'.record = some r)
      (hstage : r.processingStage = before.processingStage) (hwaits : WaitsBeyond E.scheduledAt r) :
      ReconcileOutcome E before c none c' counts
  | repaired {c' : Cell String} {r : ARKRecord} {counts : ReconcileCounts} (hr : c'.record = some r)
      (hstage : before.processingStage = .replication ∧ r.processingStage = .replication)
      (hstatus : r.processingStatus = .ready) (hrepaired : 0 < counts.repaired) :
      ReconcileOutcome E before c none c' counts
  | retained {c' : Cell String} {r : ARKRecord} {counts : ReconcileCounts} {e : Exc} (hr : c'.record = some r)
      (hkept : c'.metadata = c.metadata) (hstage : r.processingStage = before.processingStage)
      (hwaits : WaitsBeyond E.failedAt r) : ReconcileOutcome E before c (some e) c' counts

variable {k : ArkId} {c c' : Cell String} {r : ARKRecord} {m : ARKMetadata String} {now : Time} {S : AnyStorage}
  {level1Cid level2Cid : Option String}

theorem lt_after {delay : Int} (h : 1 ≤ delay) : now < now + seconds delay := by
  have hpos : (0 : Int) < delay * 1000000 := by omega
  exact Int.lt_add_of_pos_right now hpos

theorem deferred_waits {message : String} {code : ProcessingErrorCode} {delay : Int} (h : 1 ≤ delay) :
    WaitsBeyond now (deferredRecord message code delay now r) :=
  ⟨rfl, _, rfl, lt_after (Int.le_trans h (Int.le_max_left ..))⟩

theorem failed_waits {message : String} {code : ProcessingErrorCode} :
    WaitsBeyond now (failedRecord false message code now r) :=
  ⟨rfl, _, rfl, lt_after (by decide)⟩

theorem scheduledDelay_pos {observations : Nat} {first second later : Int} (hfirst : 1 ≤ first)
    (hsecond : first ≤ second) (hlater : second ≤ later) : 1 ≤ scheduledDelay observations first second later := by
  unfold scheduledDelay
  split
  · exact hfirst
  · split <;> omega

theorem firstPin_waits (cfg : ReplicationConfig) (observations : Nat) :
    now < firstPinWaitAt cfg observations now :=
  lt_after (scheduledDelay_pos cfg.firstPin_pos cfg.firstPin_second cfg.firstPin_max)

theorem durability_waits (cfg : ReplicationConfig) (observations : Nat) :
    now < durabilityWaitAt cfg observations now :=
  lt_after (scheduledDelay_pos cfg.durability_pos cfg.durability_second cfg.durability_max)

section

variable [PyLower]

omit [PyLower] in
theorem level2Given_iff : Level2Given S m level2Cid ↔ persistLevel2 S m = .ok level2Cid := by
  unfold persistLevel2
  constructor
  · rintro (⟨hcid⟩ | ⟨hcid, hcontent, hmedia, htyped, hanswer⟩)
    · rw [hcid]
    · rw [hcid, hcontent, hmedia]
      exact (if_neg htyped).trans hanswer
  · intro h
    cases hcid : m.originalCid with
    | some cid =>
        rw [hcid] at h
        exact Except.ok.inj h ▸ .kept hcid
    | none =>
        rw [hcid] at h
        cases hcontent : m.originalContent with
        | none =>
            rw [hcontent] at h
            cases h
        | some content =>
            cases hmedia : m.originalMediaType with
            | none =>
                rw [hcontent, hmedia] at h
                cases h
            | some mediaType =>
                rw [hcontent, hmedia] at h
                simp only at h
                split at h
                · cases h
                · exact .answered hcid hcontent hmedia ‹_› h

omit [PyLower] in
theorem level1Given_iff : Level1Given S m level2Cid level1Cid ↔ persistLevel1 S m level2Cid = .ok level1Cid := by
  unfold persistLevel1
  constructor
  · rintro (⟨hcid⟩ | ⟨hcid, hjson, hanswer⟩)
    · rw [hcid]
    · rw [hcid, hjson]
      exact hanswer
  · intro h
    cases hcid : m.level1Cid with
    | some cid =>
        rw [hcid] at h
        exact Except.ok.inj h ▸ .kept hcid
    | none =>
        rw [hcid] at h
        cases hjson : m.level1Json with
        | none =>
            rw [hjson] at h
            cases h
        | some json =>
            rw [hjson] at h
            exact .answered hcid hjson h

omit [PyLower] in
theorem persistBody_ok_iff {E : PersistEnv AnyStorage} : persistBody E r c = .ok c' ↔
    ∃ m level2Cid level1Cid, c.metadata = some m ∧ E.commit = .ok () ∧ Level2Given E.storage m level2Cid ∧
      Level1Given E.storage m level2Cid level1Cid ∧
      c' = { c with
        record := some (persistedRecord E.storedAt r)
        metadata := some (persistedMetadata level1Cid level2Cid E.storedAt m) } := by
  simp only [level2Given_iff, level1Given_iff]
  unfold persistBody
  constructor
  · intro h
    split at h
    · cases h
    · simp only [bind, Except.bind, pure, Except.pure] at h
      split at h; · cases h
      split at h; · cases h
      split at h; · cases h
      exact ⟨_, _, _, ‹_›, ‹_›, ‹_›, ‹_›, (Except.ok.inj h).symm⟩
  · rintro ⟨m, level2Cid, level1Cid, hm, hcommit, h2, h1, rfl⟩
    simp only [hm, h2, h1, hcommit, bind, Except.bind, pure, Except.pure]

theorem persistFailure_outcome {E : PersistEnv AnyStorage} {e : Exc} (hr : c.record = some r)
    (hstage : r.processingStage = .metadata) (hcount : r.processingAttemptCount < smallintMax) :
    (persistFailure seededCatalogue k E e c).result = .ok false ∧
      PersistOutcome E.failedAt c (some e) (persistFailure seededCatalogue k E e c).cell := by
  unfold persistFailure
  simp only
  split
  · rw [deferProcessingRetry_some hr]
    exact ⟨rfl, .retained rfl rfl hstage (deferred_waits (by decide))⟩
  · have hmarked : markProcessingFailed seededCatalogue k.ark ("metadata persistence failed: " ++ e.text)
        .storageInvalidResponse true E.failedAt c = .ok { c with record := some (failedRecord false
          ("metadata persistence failed: " ++ e.text) .storageInvalidResponse E.failedAt r) } := by
      simp only [markProcessingFailed, hr]
      exact if_pos hcount
    rw [hmarked]
    exact ⟨rfl, .retained rfl rfl hstage failed_waits⟩

theorem persist_outcome_iff {E : PersistEnv AnyStorage} (hr : c.record = some r)
    (hacc : persistAccepts E.readyAt r = true) (hcount : r.processingAttemptCount < smallintMax) :
    (∃ b, (persist seededCatalogue k E c).result = .ok b) ∧
        PersistOutcome E.failedAt c (raised (persistBody E r c)) (persist seededCatalogue k E c).cell ↔
      CidsGiven E c := by
  simp only [persist, hr, hacc, if_true]
  cases hbody : persistBody E r c with
  | ok c' =>
      obtain ⟨m, level2Cid, level1Cid, hm, hcommit, h2, h1, rfl⟩ := persistBody_ok_iff.mp hbody
      constructor
      · rintro ⟨-, houtcome⟩ m' level2Cid' level1Cid' hm' - h2' h1'
        obtain rfl := Option.some.inj (hm.symm.trans hm')
        obtain rfl := Except.ok.inj ((level2Given_iff.mp h2).symm.trans (level2Given_iff.mp h2'))
        obtain rfl := Except.ok.inj ((level1Given_iff.mp h1).symm.trans (level1Given_iff.mp h1'))
        cases houtcome with
        | stored hr' hmetadata hcids hnext =>
            obtain rfl := Option.some.inj hmetadata
            exact hcids
      · intro hgiven
        exact ⟨⟨_, rfl⟩, .stored rfl rfl (hgiven m level2Cid level1Cid hm hcommit h2 h1) ⟨rfl, rfl⟩⟩
  | error e =>
      obtain ⟨hresult, houtcome⟩ := persistFailure_outcome (k := k) hr (persistAccepts_live hacc).2 hcount
      refine ⟨fun _ m level2Cid level1Cid hm hcommit h2 h1 => ?_, fun _ => ⟨⟨_, hresult⟩, houtcome⟩⟩
      rw [persistBody_ok_iff.mpr ⟨m, level2Cid, level1Cid, hm, hcommit, h2, h1, rfl⟩] at hbody
      cases hbody

theorem reconcileAvailability_outcome {cfg : ReplicationConfig} {E : AnyEnv} {level1 level2 : ReplicationStatus}
    {m m' : ARKMetadata String} {repaired : Nat} (hstage : r.processingStage = .availability) (before : Cell String)
    (hc : c'.record = some (reconcileAvailability cfg E level1 level2 r m m' repaired).1) :
    ReconcileOutcome E r before none c' (reconcileAvailability cfg E level1 level2 r m m' repaired).2.2 := by
  unfold reconcileAvailability at hc ⊢
  simp only at hc ⊢
  split at hc
  · exact .advanced hc (.inl ⟨hstage, rfl, rfl⟩)
  · exact .observed hc rfl ⟨rfl, _, rfl, firstPin_waits cfg _⟩

omit [PyLower] in
theorem reconcileDurability_outcome {cfg : ReplicationConfig} {E : AnyEnv} {level1 level2 : ReplicationStatus}
    {m m' : ARKMetadata String} {repaired : Nat} (hstage : r.processingStage = .replication) (before : Cell String)
    (hc : c'.record = some (reconcileDurability cfg E level1 level2 r m m' repaired).1) :
    ReconcileOutcome E r before none c' (reconcileDurability cfg E level1 level2 r m m' repaired).2.2 := by
  unfold reconcileDurability at hc ⊢
  split at hc
  · exact .advanced hc (.inr ⟨hstage, rfl, rfl⟩)
  · rename_i htarget
    rw [if_neg htarget]
    split at hc
    · rename_i hrepaired
      rw [if_pos hrepaired]
      exact .repaired hc ⟨hstage, hstage⟩ rfl hrepaired
    · exact .observed hc rfl ⟨rfl, _, rfl, durability_waits cfg _⟩

theorem reconciledRows_outcome {cfg : ReplicationConfig} {E : AnyEnv} {level1 level2 : ReplicationStatus}
    {repaired : Nat} (before : Cell String)
    (hstage : r.processingStage = .availability ∨ r.processingStage = .replication)
    (hc : c'.record = some (reconciledRows cfg E level1 level2 r m repaired).1) :
    ReconcileOutcome E r before none c' (reconciledRows cfg E level1 level2 r m repaired).2.2 := by
  unfold reconciledRows at hc ⊢
  simp only at hc ⊢
  rcases hstage with hstage | hstage
  · rw [if_pos hstage] at hc ⊢
    exact reconcileAvailability_outcome hstage before hc
  · rw [if_neg (by simp [hstage])] at hc ⊢
    exact reconcileDurability_outcome hstage before hc

theorem reconcileRows_ok {cfg : ReplicationConfig} {E : AnyEnv}
    {rows : ARKRecord × ARKMetadata String × ReconcileCounts}
    (h : (reconcileRows cfg E r c).2 = .ok rows) :
    ∃ m level1 level2 repaired, rows = reconciledRows cfg E level1 level2 r m repaired := by
  unfold reconcileRows at h
  split at h
  · cases h
  · rename_i m hm
    split at h
    · split at h
      · cases h
      · split at h
        · cases h
        · simp only at h
          split at h
          · cases h
          · unfold countedRows at h
            simp only [bind, Except.bind, pure, Except.pure] at h
            split at h; · cases h
            split at h; · cases h
            exact ⟨_, _, _, _, (Except.ok.inj h).symm⟩
    · cases h

theorem reconcileBody_ok {cfg : ReplicationConfig} {E : AnyEnv} {repair : Repair} {counts : ReconcileCounts}
    (h : reconcileBody cfg E r c = (repair, .ok (c', counts))) :
    ∃ rows, (reconcileRows cfg E r c).2 = .ok rows ∧ commitRows E rows c = .ok (c', counts) := by
  obtain ⟨-, hcommit⟩ := Prod.mk.inj h
  cases hrows : (reconcileRows cfg E r c).2 with
  | error e => simp [hrows, Except.bind] at hcommit
  | ok rows => exact ⟨rows, rfl, by simpa [hrows, Except.bind] using hcommit⟩

theorem reconcile_outcome (catalogue : ErrorCatalogue) (cfg : ReplicationConfig) (k : ArkId) {E : AnyEnv}
    (hr : c.record = some r) (hacc : reconcileAccepts E.readyAt r = true)
    (hassigned : E.assigned r.authorityId = true) :
    (reconcile catalogue cfg k E c).result = .ok () ∧
      ReconcileOutcome E r c (raised (reconcileBody cfg E r c).2) (reconcile catalogue cfg k E c).cell
        (reconcile catalogue cfg k E c).counts := by
  simp only [reconcile, hr, hacc, hassigned, if_true]
  rcases hbody : reconcileBody cfg E r c with ⟨repair, e | ⟨c', counts⟩⟩
  · simp only [reconcileFailure, deferProcessingRetry_some hr]
    exact ⟨trivial, .retained rfl rfl rfl (deferred_waits cfg.firstPin_pos)⟩
  · obtain ⟨rows, hrows, hcommit⟩ := reconcileBody_ok hbody
    obtain ⟨m, level1, level2, repaired, rfl⟩ := reconcileRows_ok hrows
    obtain ⟨-, rfl, rfl⟩ := commitRows_ok hcommit
    exact ⟨rfl, reconciledRows_outcome c (reconcileAccepts_live hacc).2 rfl⟩

omit [PyLower] in
theorem not_failed {E : AnyEnv} {raised : Option Exc} {counts : ReconcileCounts} {r' : ARKRecord}
    (h : ReconcileOutcome E r c raised c' counts) (hr' : c'.record = some r') : r'.processingStatus ≠ .failed := by
  cases h with
  | advanced hr hadvances =>
      obtain rfl := Option.some.inj (hr.symm.trans hr')
      rcases hadvances with ⟨-, -, h⟩ | ⟨-, -, h⟩ <;> simp [h]
  | observed hr _ hwaits | retained hr _ _ hwaits =>
      obtain rfl := Option.some.inj (hr.symm.trans hr')
      simp [hwaits.1]
  | repaired hr _ hstatus =>
      obtain rfl := Option.some.inj (hr.symm.trans hr')
      simp [hstatus]

omit [PyLower] in
theorem cidsGiven_plain (E : PersistEnv) (c : Cell) : CidsGiven (anyPersist E) (plain c) := by
  intro m level2Cid level1Cid hm _ h2 h1
  obtain ⟨m, -, rfl⟩ := Option.map_eq_some_iff.mp hm
  have hlevel2 := persistLevel2_plain.symm.trans (level2Given_iff.mp h2)
  cases hstored2 : Persistence.persistLevel2 E.storage m with
  | error e =>
      rw [hstored2] at hlevel2
      cases hlevel2
  | ok cid2 =>
      rw [hstored2] at hlevel2
      obtain rfl := Except.ok.inj hlevel2
      have hlevel1 := persistLevel1_plain.symm.trans (level1Given_iff.mp h1)
      cases hstored1 : Persistence.persistLevel1 E.storage m cid2 with
      | error e =>
          rw [hstored1] at hlevel1
          cases hlevel1
      | ok cid1 =>
          rw [hstored1] at hlevel1
          obtain rfl := Except.ok.inj hlevel1
          exact ⟨⟨_, rfl, cid1.nonempty⟩, ⟨_, rfl, cid2.nonempty⟩⟩

/-- Storage that answers CIDs leaves no attempt half done. -/
theorem persist_reschedules {E : PersistEnv} {c : Cell} (hr : c.record = some r)
    (hacc : persistAccepts E.readyAt r = true) (hcount : r.processingAttemptCount < smallintMax) :
    PersistOutcome E.failedAt (plain c) (raised (Persistence.persistBody E r c))
      (plain (Persistence.persist seededCatalogue k E c).cell) := by
  have houtcome := ((persist_outcome_iff (k := k) (E := anyPersist E) (c := plain c) hr hacc hcount).mpr
    (cidsGiven_plain E c)).2
  have hfailed : (anyPersist E).failedAt = E.failedAt := rfl
  rw [persist_plain, persistBody_plain, hfailed] at houtcome
  cases hbody : Persistence.persistBody E r c <;> simpa [hbody, raised, Except.map, plainAttempt] using houtcome

/-- A row that lacks a CID never goes on: each attempt on it defers it. -/
theorem missing_waits (cfg : ReplicationConfig) {E : AnyEnv} (hr : c.record = some r)
    (hm : c.metadata = some m) (hmissing : ¬(IsCid m.level1Cid ∧ IsCid m.originalCid))
    (hacc : reconcileAccepts E.readyAt r = true) (hassigned : E.assigned r.authorityId = true) :
    ∃ r', (reconcile seededCatalogue cfg k E c).cell.record = some r' ∧ r'.processingStage = r.processingStage ∧
      WaitsBeyond E.failedAt r' ∧ (reconcile seededCatalogue cfg k E c).cell.metadata = c.metadata := by
  have hbody : (reconcileBody cfg E r c).2 =
      .error (valueError "metadata CIDs are required for reconciliation") := by
    unfold reconcileBody reconcileRows
    simp only [hm]
    cases h1 : m.level1Cid with
    | none => rfl
    | some level1Cid =>
        cases h2 : m.originalCid with
        | none => rfl
        | some level2Cid =>
            have hempty : level1Cid = "" ∨ level2Cid = "" := by
              by_contra hnot
              obtain ⟨hlevel1, hlevel2⟩ := not_or.mp hnot
              exact hmissing ⟨⟨_, h1, hlevel1⟩, ⟨_, h2, hlevel2⟩⟩
            simp only [if_pos hempty]
            rfl
  have houtcome := (reconcile_outcome seededCatalogue cfg k hr hacc hassigned).2
  rw [hbody] at houtcome
  cases houtcome with
  | retained hr' hkept hstage hwaits => exact ⟨_, hr', hstage, hwaits, hkept⟩

/-- Over storage with any answers, a metadata attempt is all or nothing exactly where the CIDs that
it goes by are given. A reconcile attempt always is, and always leaves a time for the next one. -/
theorem attempts_reschedule (k : ArkId) (cfg : ReplicationConfig) (hr : c.record = some r) :
    (∀ E, persistAccepts E.readyAt r = true → r.processingAttemptCount < smallintMax →
      ((∃ b, (persist seededCatalogue k E c).result = .ok b) ∧
          PersistOutcome E.failedAt c (raised (persistBody E r c)) (persist seededCatalogue k E c).cell ↔
        CidsGiven E c)) ∧
    ∀ E, reconcileAccepts E.readyAt r = true → E.assigned r.authorityId = true →
      (reconcile seededCatalogue cfg k E c).result = .ok () ∧
        ReconcileOutcome E r c (raised (reconcileBody cfg E r c).2) (reconcile seededCatalogue cfg k E c).cell
          (reconcile seededCatalogue cfg k E c).counts ∧
        ∀ r', (reconcile seededCatalogue cfg k E c).cell.record = some r' → r'.processingStatus ≠ .failed := by
  refine ⟨fun E hacc hcount => persist_outcome_iff hr hacc hcount, fun E hacc hassigned => ?_⟩
  obtain ⟨hresult, houtcome⟩ := reconcile_outcome seededCatalogue cfg k hr hacc hassigned
  exact ⟨hresult, houtcome, fun r' hr' => not_failed houtcome hr'⟩

end

section Sample

attribute [local instance] asciiText

def record (stage : ProcessingStage) : ARKRecord :=
  { state := .draft, authorityId := "A", createdAt := 0, updatedAt := 0, processingStage := stage,
    processingStatus := .ready }

def cellAt (stage : ProcessingStage) : Cell String where
  record := some (record stage)
  metadata := some
    { level1Json := some .null, originalContent := some "m", originalSchema := "s",
      originalMediaType := some "text/xml", createdAt := 0, updatedAt := 0 }

def answering (answer : Option String) : AnyStorage where
  storeLevel2 _ _ _ := .ok answer
  storeLevel1WithLevel2Reference _ _ := .ok answer

def persistEnv (answer : Option String) : PersistEnv AnyStorage :=
  { readyAt := 1, storage := answering answer, storedAt := 2, failedAt := 3 }

def reconcileDown : AnyEnv :=
  { readyAt := 1, assigned := fun _ => true, now := 1, statuses := .error ⟨.timeout, "timed out"⟩,
    storage := answering none, scheduledAt := 2, failedAt := 3 }

theorem answering_given : CidsGiven (persistEnv (some "c")) (cellAt .metadata) := by
  intro m level2Cid level1Cid hm _ h2 h1
  obtain rfl := Option.some.inj hm
  obtain rfl := Except.ok.inj (level2Given_iff.mp h2)
  obtain rfl := Except.ok.inj (level1Given_iff.mp h1)
  exact ⟨⟨_, rfl, by decide⟩, ⟨_, rfl, by decide⟩⟩

theorem attempts_reschedule_answered :
    PersistOutcome 3 (cellAt .metadata) none
        (persist seededCatalogue ⟨"1", "a"⟩ (persistEnv (some "c")) (cellAt .metadata)).cell ∧
      (reconcile seededCatalogue (.init 15 60 300 300 900 3600 120 900 1 2) ⟨"1", "a"⟩ reconcileDown
        (cellAt .availability)).result = .ok () :=
  ⟨(((attempts_reschedule _ (.init 15 60 300 300 900 3600 120 900 1 2) rfl).1 (persistEnv (some "c")) (by decide)
      (by decide)).mpr answering_given).2,
    ((attempts_reschedule _ _ rfl).2 reconcileDown (by decide) rfl).1⟩

/-- Storage answers no CID, and the row goes on without one. -/
theorem cids_missing :
    persistAccepts 1 (record .metadata) = true ∧
      (persist seededCatalogue ⟨"1", "a"⟩ (persistEnv none) (cellAt .metadata)).cell.record.map
          (fun r => (r.processingStage, r.processingStatus)) = some (.availability, .ready) ∧
      (persist seededCatalogue ⟨"1", "a"⟩ (persistEnv none) (cellAt .metadata)).cell.metadata.map
          (fun m => (m.level1Cid, m.originalCid)) = some (none, none) ∧
      ¬PersistOutcome 3 (cellAt .metadata)
          (raised (persistBody (persistEnv none) (record .metadata) (cellAt .metadata)))
          (persist seededCatalogue ⟨"1", "a"⟩ (persistEnv none) (cellAt .metadata)).cell := by
  refine ⟨by decide, rfl, rfl, fun houtcome => ?_⟩
  have hbody : raised (persistBody (persistEnv none) (record .metadata) (cellAt .metadata)) = none := rfl
  rw [hbody] at houtcome
  cases houtcome with
  | stored _ hm hcids =>
      obtain rfl := Option.some.inj hm
      obtain ⟨cid, hcid, -⟩ := hcids.1
      cases hcid

end Sample

end DarkMinter.Rescheduling
