import DarkMinter.Publication
import DarkMinter.Replication

namespace DarkMinter.Attempts

open Text Processing Records Repository Persistence Replication Publication

inductive Noted (c : Cell) : Cell → Prop
  | failed {r : ARKRecord} {permanent : Bool} {message : String} {code : ProcessingErrorCode}
      {now : Time} (hr : c.record = some r) (hcount : r.processingAttemptCount + 1 ≤ smallintMax) :
      Noted c { c with record := some (failedRecord permanent message code now r) }
  | deferred {r : ARKRecord} {message : String} {code : ProcessingErrorCode} {delay : Int}
      {now : Time} (hr : c.record = some r) :
      Noted c { c with record := some (deferredRecord message code delay now r) }

theorem Noted.keeps {c c' : Cell} (h : Noted c c') :
    ∃ r r', c.record = some r ∧ c'.record = some r' ∧ r'.state = r.state ∧
      r'.authorityId = r.authorityId ∧ r'.target = r.target ∧
      r'.processingStage = r.processingStage ∧ c'.metadata = c.metadata ∧
      c'.superseded = c.superseded := by
  cases h with
  | failed hr _ => exact ⟨_, _, hr, rfl, rfl, rfl, rfl, rfl, rfl, rfl⟩
  | deferred hr => exact ⟨_, _, hr, rfl, rfl, rfl, rfl, rfl, rfl, rfl⟩

theorem Noted.metadata {c c' : Cell} (h : Noted c c') : c'.metadata = c.metadata := by
  cases h <;> rfl

theorem Noted.superseded {c c' : Cell} (h : Noted c c') : c'.superseded = c.superseded := by
  cases h <;> rfl

variable {catalogue : ErrorCatalogue} {k : ArkId} {c c' : Cell} {message : String}
  {code : ProcessingErrorCode} {permanent : Bool} {now : Time} {delay : Int}

theorem markProcessingFailed_ok {ark : String}
    (h : markProcessingFailed catalogue ark message code permanent now c = .ok c') :
    ∃ r, c.record = some r ∧ r.processingAttemptCount + 1 ≤ smallintMax ∧
      c' = { c with record := some (failedRecord (failsPermanently catalogue code permanent) message code now r) } := by
  unfold markProcessingFailed at h
  cases hr : c.record with
  | none => simp [hr] at h
  | some r =>
      simp only [hr] at h
      split at h
      · exact ⟨r, rfl, ‹_›, (Except.ok.inj h).symm⟩
      · cases h

theorem markProcessingFailed_noted {ark : String}
    (h : markProcessingFailed catalogue ark message code permanent now c = .ok c') : Noted c c' := by
  obtain ⟨r, hr, hcount, rfl⟩ := markProcessingFailed_ok h
  exact .failed hr hcount

theorem deferProcessingRetry_some {κ : Type} {c : Cell κ} {ark : String} {r : ARKRecord} (hr : c.record = some r) :
    deferProcessingRetry ark message code delay now c =
      .ok { c with record := some (deferredRecord message code delay now r) } := by
  simp [deferProcessingRetry, hr]

theorem deferProcessingRetry_ok {ark : String}
    (h : deferProcessingRetry ark message code delay now c = .ok c') :
    ∃ r, c.record = some r ∧ c' = { c with record := some (deferredRecord message code delay now r) } := by
  cases hr : c.record with
  | none => simp [deferProcessingRetry, hr] at h
  | some r =>
      rw [deferProcessingRetry_some hr] at h
      exact ⟨r, rfl, (Except.ok.inj h).symm⟩

theorem updateToPublished_ok {ark : String} {expected : List ARKState}
    (h : updateToPublished ark expected now c = .ok c') :
    ∃ r, c.record = some r ∧ r.state ∈ expected ∧
      c' = { c with record := some (publishedRecord now r) } := by
  unfold updateToPublished at h
  cases hr : c.record with
  | none => simp [hr] at h
  | some r =>
      simp only [hr] at h
      split at h
      · exact ⟨r, rfl, ‹_›, (Except.ok.inj h).symm⟩
      · cases h

theorem marked_ok {handled : Handled} (h : marked catalogue k message code now c = .ok handled) :
    handled.value = true ∧ ∃ r, c.record = some r ∧ r.processingAttemptCount + 1 ≤ smallintMax ∧
      handled.cell =
        { c with record := some (failedRecord (failsPermanently catalogue code true) message code now r) } := by
  unfold marked at h
  cases hm : markProcessingFailed catalogue k.ark message code true now c with
  | error e => simp [hm, Except.map] at h
  | ok c' =>
      simp only [hm, Except.map, Except.ok.injEq] at h
      subst h
      exact ⟨rfl, markProcessingFailed_ok hm⟩

theorem deferred_ok {handled : Handled} (h : deferred k message code now c = .ok handled) :
    handled.value = true ∧ ∃ r, c.record = some r ∧
      handled.cell = { c with record := some (deferredRecord message code 60 now r) } := by
  unfold deferred at h
  cases hr : c.record with
  | none => simp [deferProcessingRetry, hr, Except.map] at h
  | some r =>
      simp only [deferProcessingRetry_some hr, Except.map, Except.ok.injEq] at h
      subst h
      exact ⟨rfl, r, rfl, rfl⟩

/-- The codes that a chain attempt, or the check of the assignment, marks an ARK as failed with. -/
def chainErrors : List ProcessingErrorCode :=
  [.chainReverted, .authorityNotFound, .authorizationFailed, .chainStateConflict]

/-- The rows after a failure was recorded with one of the codes `marks`, for good unless the
catalogue has it tried again, or an attempt deferred with a code of `defers`. -/
inductive NotedAs (catalogue : ErrorCatalogue) (marks : List ProcessingErrorCode)
    (defers : ProcessingErrorCode → Prop) (c : Cell) : Cell → Prop
  | failed {r : ARKRecord} {message : String} {code : ProcessingErrorCode} {now : Time}
      (hr : c.record = some r) (hcount : r.processingAttemptCount + 1 ≤ smallintMax)
      (hcode : code ∈ marks) : NotedAs catalogue marks defers c
        { c with record := some (failedRecord (failsPermanently catalogue code true) message code now r) }
  | deferred {r : ARKRecord} {message : String} {code : ProcessingErrorCode} {delay : Int} {now : Time}
      (hr : c.record = some r) (hcode : defers code) : NotedAs catalogue marks defers c
        { c with record := some (deferredRecord message code delay now r) }

theorem NotedAs.noted {marks : List ProcessingErrorCode} {defers : ProcessingErrorCode → Prop}
    (h : NotedAs catalogue marks defers c c') : Noted c c' := by
  cases h with
  | failed hr hcount => exact .failed hr hcount
  | deferred hr => exact .deferred hr

/-- What a chain attempt that does not publish writes. It defers on the condition `defers` only. -/
def ChainNoted (catalogue : ErrorCatalogue) (defers : Prop) : Cell → Cell → Prop :=
  NotedAs catalogue chainErrors fun code => code = .chainRpcUnavailable ∧ defers

theorem ChainNoted.noted {defers : Prop} (h : ChainNoted catalogue defers c c') : Noted c c' :=
  NotedAs.noted h

theorem ChainNoted.mono {defers defers' : Prop} (h : ChainNoted catalogue defers c c')
    (himp : defers → defers') : ChainNoted catalogue defers' c c' := by
  cases h with
  | failed hr hcount hcode => exact .failed hr hcount hcode
  | deferred hr hdefers => exact .deferred hr ⟨hdefers.1, himp hdefers.2⟩

theorem marked_chain {defers : Prop} {handled : Handled}
    (h : marked catalogue k message code now c = .ok handled) (hcode : code ∈ chainErrors) :
    handled.value = true ∧ ChainNoted catalogue defers c handled.cell := by
  obtain ⟨hv, r, hr, hcount, hc⟩ := marked_ok h
  exact ⟨hv, hc ▸ NotedAs.failed hr hcount hcode⟩

theorem markedOrAborted_chain {defers : Prop} {handled : Handled}
    (h : markedOrAborted catalogue k message code now c = .ok handled) (hcode : code ∈ chainErrors) :
    handled.value = true ∧ ChainNoted catalogue defers c handled.cell := by
  unfold markedOrAborted at h
  split at h
  · obtain rfl := Except.ok.inj h
    exact marked_chain ‹_› hcode
  · cases h

theorem deferred_chain {defers : Prop} {handled : Handled}
    (h : deferred k message .chainRpcUnavailable now c = .ok handled) (hdefers : defers) :
    handled.value = true ∧ ChainNoted catalogue defers c handled.cell := by
  obtain ⟨hv, r, hr, hc⟩ := deferred_ok h
  exact ⟨hv, hc ▸ NotedAs.deferred hr ⟨rfl, hdefers⟩⟩

theorem declined_ok {x : Except Exc Handled} {handled : Handled}
    (h : x.map Handled.declined = .ok handled) : ∃ failed, x = .ok failed ∧ handled.cell = failed.cell := by
  cases x with
  | error e => simp [Except.map] at h
  | ok failed =>
      obtain rfl := Except.ok.inj h
      exact ⟨failed, rfl, rfl⟩

variable [PyLower]

def identityDefers (reads : OwnerReads) : Bool :=
  match identityVerdict reads with
  | .ok _ => false
  | .error e => e.cls ≠ .authorityNotFound

def failureDefers (reads : OwnerReads) (e : Exc) : Bool :=
  match identityVerdict reads with
  | .ok .unobjected => e.cls ≠ .authorityNotFound && e.cls ≠ .authorization && isInfrastructureError e
  | .ok _ => false
  | .error e' => e'.cls ≠ .authorityNotFound

theorem reconcileFailedIdentity_chain {reads : OwnerReads} {handled : Handled}
    (h : reconcileFailedIdentity catalogue k reads now c = .ok handled) :
    handled.value = false ∧ handled.cell = c ∧
        (c.record = none ∨ identityVerdict reads = .ok .unobjected) ∨
      handled.value = true ∧ ChainNoted catalogue (identityDefers reads = true) c handled.cell := by
  unfold reconcileFailedIdentity at h
  split at h
  · obtain rfl := Except.ok.inj h
    exact .inl ⟨rfl, rfl, .inl ‹_›⟩
  · split at h
    · exact .inr (markedOrAborted_chain h (by decide))
    · exact .inr (markedOrAborted_chain h (by decide))
    · exact .inr (markedOrAborted_chain h (by decide))
    · obtain rfl := Except.ok.inj h
      exact .inl ⟨rfl, rfl, .inr ‹_›⟩
    · split at h
      · exact .inr (marked_chain h (by decide))
      · exact .inr (deferred_chain h (by simp [identityDefers, *]))

theorem reconcileFailedIdentity_cases {reads : OwnerReads} {handled : Handled}
    (h : reconcileFailedIdentity catalogue k reads now c = .ok handled) :
    handled.value = false ∧ handled.cell = c ∨ handled.value = true ∧ Noted c handled.cell := by
  rcases reconcileFailedIdentity_chain h with ⟨hv, hc, -⟩ | ⟨hv, hn⟩
  · exact .inl ⟨hv, hc⟩
  · exact .inr ⟨hv, hn.noted⟩

theorem recordFailure_chain {reads : OwnerReads} {e : Exc} {handled : Handled}
    (h : recordFailure catalogue k reads e now c = .ok handled) :
    ChainNoted catalogue (failureDefers reads e = true) c handled.cell := by
  unfold recordFailure at h
  cases hi : reconcileFailedIdentity catalogue k reads now c with
  | error e' => simp [hi, bind, Except.bind] at h
  | ok identity =>
      simp only [hi, bind, Except.bind] at h
      rcases reconcileFailedIdentity_chain hi with ⟨hv, hc, hpass⟩ | ⟨hv, hn⟩
      · simp only [hv, hc, Bool.false_eq_true, if_false] at h
        split at h
        · exact (marked_chain h (by decide)).2
        · split at h
          · exact (marked_chain h (by decide)).2
          · split at h
            · obtain ⟨-, r, hr, -⟩ := deferred_ok h
              have hverdict := hpass.resolve_left (by simp [hr])
              exact (deferred_chain h (by simp [failureDefers, *])).2
            · exact (marked_chain h (by decide)).2
      · simp only [hv, if_true] at h
        obtain rfl := Except.ok.inj h
        refine hn.mono fun hdefers => ?_
        unfold identityDefers at hdefers
        unfold failureDefers
        cases hverdict : identityVerdict reads with
        | ok verdict => simp [hverdict] at hdefers
        | error e' => simpa [hverdict] using hdefers

def Persisted (E : PersistEnv) (r : ARKRecord) (c c' : Cell) : Prop :=
  ∃ m level1Cid level2Cid, c.metadata = some m ∧ persistLevel2 E.storage m = .ok level2Cid ∧
    persistLevel1 E.storage m level2Cid = .ok level1Cid ∧
    c' = { c with
      record := some (persistedRecord E.storedAt r)
      metadata := some (persistedMetadata (some level1Cid) (some level2Cid) E.storedAt m) }

omit [PyLower] in
theorem persistBody_ok {E : PersistEnv} {r : ARKRecord} (h : persistBody E r c = .ok c') :
    Persisted E r c c' := by
  unfold persistBody at h
  split at h
  · cases h
  · simp only [bind, Except.bind, pure, Except.pure] at h
    split at h; · cases h
    split at h; · cases h
    split at h; · cases h
    exact ⟨_, _, _, ‹_›, ‹_›, ‹_›, (Except.ok.inj h).symm⟩

theorem persistFailure_cell (catalogue : ErrorCatalogue) (k : ArkId) (E : PersistEnv) (e : Exc)
    (c : Cell) :
    (persistFailure catalogue k E e c).cell = c ∨
      NotedAs catalogue [.storageInvalidResponse] (· = .storageUnavailable) c
        (persistFailure catalogue k E e c).cell := by
  unfold persistFailure
  simp only
  split
  · split
    · obtain ⟨r, hr, hc⟩ := deferProcessingRetry_ok ‹_›
      exact .inr (hc ▸ .deferred hr rfl)
    · exact .inl rfl
  · split
    · obtain ⟨r, hr, hcount, hc⟩ := markProcessingFailed_ok ‹_›
      exact .inr (hc ▸ .failed hr hcount (by simp))
    · exact .inl rfl

theorem persist_notedAs (catalogue : ErrorCatalogue) (k : ArkId) (E : PersistEnv) (c : Cell) :
    (persist catalogue k E c).cell = c ∨
      ∃ r, c.record = some r ∧ persistAccepts E.readyAt r = true ∧
        (NotedAs catalogue [.storageInvalidResponse] (· = .storageUnavailable) c
            (persist catalogue k E c).cell ∨
          Persisted E r c (persist catalogue k E c).cell) := by
  unfold persist
  cases hr : c.record with
  | none => exact .inl rfl
  | some r =>
      by_cases ha : persistAccepts E.readyAt r = true
      · simp only [ha, if_true]
        cases hb : persistBody E r c with
        | ok c' => exact .inr ⟨r, rfl, ha, .inr (persistBody_ok hb)⟩
        | error e =>
            rcases persistFailure_cell catalogue k E e c with h | h
            · exact .inl h
            · exact .inr ⟨r, rfl, ha, .inl h⟩
      · simp only [ha]
        exact .inl rfl

theorem persist_cases (catalogue : ErrorCatalogue) (k : ArkId) (E : PersistEnv) (c : Cell) :
    (persist catalogue k E c).cell = c ∨
      ∃ r, c.record = some r ∧ persistAccepts E.readyAt r = true ∧
        (Noted c (persist catalogue k E c).cell ∨ Persisted E r c (persist catalogue k E c).cell) := by
  rcases persist_notedAs catalogue k E c with h | ⟨r, hr, ha, h | h⟩
  · exact .inl h
  · exact .inr ⟨r, hr, ha, .inl h.noted⟩
  · exact .inr ⟨r, hr, ha, .inr h⟩

def Observed (cfg : ReplicationConfig) (E : ReconcileEnv) (r : ARKRecord) (c c' : Cell) : Prop :=
  ∃ m level1Cid level2Cid level1 level2 repaired,
    c.metadata = some m ∧ m.level1Cid = some level1Cid ∧ m.originalCid = some level2Cid ∧
    observe E level1Cid level2Cid = .ok (level1, level2) ∧
    (repairs cfg E level1 level2 m level1Cid level2Cid).outcome = .ok () ∧
    (repairs cfg E level1 level2 m level1Cid level2Cid).repaired = repaired ∧
    smallintsFit (reconciledRows cfg E level1 level2 r m repaired).2.1 = true ∧
    c' = { c with
      record := some (reconciledRows cfg E level1 level2 r m repaired).1
      metadata := some (reconciledRows cfg E level1 level2 r m repaired).2.1 }

theorem reconcileRows_ok {cfg : ReplicationConfig} {E : ReconcileEnv} {r : ARKRecord} {c : Cell}
    {rows : ARKRecord × ARKMetadata × ReconcileCounts} (h : (reconcileRows cfg E r c).2 = .ok rows) :
    ∃ m level1Cid level2Cid level1 level2,
      c.metadata = some m ∧ m.level1Cid = some level1Cid ∧ m.originalCid = some level2Cid ∧
      observe E level1Cid level2Cid = .ok (level1, level2) ∧
      (reconcileRows cfg E r c).1 = repairs cfg E level1 level2 m level1Cid level2Cid ∧
      (repairs cfg E level1 level2 m level1Cid level2Cid).outcome = .ok () ∧
      rows = reconciledRows cfg E level1 level2 r m
        (repairs cfg E level1 level2 m level1Cid level2Cid).repaired := by
  unfold reconcileRows at h ⊢
  cases hm : c.metadata with
  | none => simp [hm] at h
  | some m =>
      cases h1 : m.level1Cid with
      | none => simp [hm, h1] at h
      | some level1Cid =>
      cases h2 : m.originalCid with
      | none => simp [hm, h1, h2] at h
      | some level2Cid =>
        simp only [hm, h1, h2] at h ⊢
        cases hobserved : observe E level1Cid level2Cid with
        | error e => simp [hobserved] at h
        | ok levels =>
            simp only [hobserved] at h ⊢
            cases houtcome : (repairs cfg E levels.1 levels.2 m level1Cid level2Cid).outcome with
            | error e => simp [houtcome] at h
            | ok u =>
                simp only [houtcome, Except.ok.injEq] at h
                exact ⟨m, level1Cid, level2Cid, levels.1, levels.2, rfl, h1, h2, hobserved, rfl, houtcome, h.symm⟩

omit [PyLower] in
theorem commitRows_ok {κ σ S : Type} {E : ReconcileEnv κ σ S} {rows : ARKRecord × ARKMetadata κ × ReconcileCounts}
    {c c' : Cell κ} {counts : ReconcileCounts} (h : commitRows E rows c = .ok (c', counts)) :
    smallintsFit rows.2.1 = true ∧ c' = { c with record := some rows.1, metadata := some rows.2.1 } ∧
      counts = rows.2.2 := by
  unfold commitRows at h
  split at h
  · cases hc : E.commit with
    | error e => simp [hc, Except.map] at h
    | ok u =>
        simp only [hc, Except.map, Except.ok.injEq, Prod.mk.injEq] at h
        exact ⟨‹_›, h.1.symm, h.2.symm⟩
  · cases h

theorem reconcileBody_rows {cfg : ReplicationConfig} {E : ReconcileEnv} {r : ARKRecord}
    {repair : Repair} {counts : ReconcileCounts}
    (h : reconcileBody cfg E r c = (repair, .ok (c', counts))) :
    ∃ m level1Cid level2Cid level1 level2,
      c.metadata = some m ∧ m.level1Cid = some level1Cid ∧ m.originalCid = some level2Cid ∧
      observe E level1Cid level2Cid = .ok (level1, level2) ∧
      repair = repairs cfg E level1 level2 m level1Cid level2Cid ∧ repair.outcome = .ok () ∧
      smallintsFit (reconciledRows cfg E level1 level2 r m repair.repaired).2.1 = true ∧
      c' = { c with
        record := some (reconciledRows cfg E level1 level2 r m repair.repaired).1
        metadata := some (reconciledRows cfg E level1 level2 r m repair.repaired).2.1 } ∧
      counts = (reconciledRows cfg E level1 level2 r m repair.repaired).2.2 := by
  obtain ⟨hrepair, hcommit⟩ := Prod.mk.inj h
  cases hrows : (reconcileRows cfg E r c).2 with
  | error e => simp [hrows, Except.bind] at hcommit
  | ok rows =>
      rw [hrows] at hcommit
      obtain ⟨m, level1Cid, level2Cid, level1, level2, hm, h1, h2, hobserve, hfirst, houtcome, rfl⟩ :=
        reconcileRows_ok hrows
      obtain ⟨hfit, hcell, hcounts⟩ := commitRows_ok hcommit
      obtain rfl := hfirst.symm.trans hrepair
      exact ⟨m, level1Cid, level2Cid, level1, level2, hm, h1, h2, hobserve, rfl, houtcome, hfit, hcell, hcounts⟩

theorem reconcileBody_ok {cfg : ReplicationConfig} {E : ReconcileEnv} {r : ARKRecord}
    {repair : Repair} {counts : ReconcileCounts}
    (h : reconcileBody cfg E r c = (repair, .ok (c', counts))) : Observed cfg E r c c' := by
  obtain ⟨m, _, _, _, _, hm, h1, h2, hobserve, rfl, houtcome, hfit, hc, -⟩ := reconcileBody_rows h
  exact ⟨m, _, _, _, _, _, hm, h1, h2, hobserve, houtcome, rfl, hfit, hc⟩

omit [PyLower] in
theorem reconcileFailure_cell (cfg : ReplicationConfig) (k : ArkId) (E : ReconcileEnv)
    (submitted : Nat) (counts : ReconcileCounts) (e : Exc) (c : Cell) :
    (reconcileFailure cfg k E submitted counts e c).cell = c ∨
      NotedAs catalogue [.authorityNotFound] (· = .replicationUnavailable) c
        (reconcileFailure cfg k E submitted counts e c).cell := by
  unfold reconcileFailure
  split
  · obtain ⟨r, hr, hc⟩ := deferProcessingRetry_ok ‹_›
    exact .inr (hc ▸ .deferred hr rfl)
  · exact .inl rfl

/-- The attempt gets as far as to record its observation. -/
def Observes (cfg : ReplicationConfig) (E : ReconcileEnv) (r : ARKRecord) (c : Cell) : Prop :=
  E.assigned r.authorityId = true ∧ (reconcileBody cfg E r c).2.isOk = true

theorem reconcile_notedAs (catalogue : ErrorCatalogue) (cfg : ReplicationConfig) (k : ArkId)
    (E : ReconcileEnv) (c : Cell) :
    (reconcile catalogue cfg k E c).cell = c ∨
      ∃ r, c.record = some r ∧ reconcileAccepts E.readyAt r = true ∧
        (NotedAs catalogue [.authorityNotFound] (· = .replicationUnavailable) c
            (reconcile catalogue cfg k E c).cell ∨
          Observes cfg E r c ∧ Observed cfg E r c (reconcile catalogue cfg k E c).cell) := by
  unfold reconcile
  cases hr : c.record with
  | none => exact .inl rfl
  | some r =>
      by_cases ha : reconcileAccepts E.readyAt r = true
      · have hfail : ∀ submitted counts e, (reconcileFailure cfg k E submitted counts e c).cell = c ∨
            ∃ r', some r = some r' ∧ reconcileAccepts E.readyAt r' = true ∧
              (NotedAs catalogue [.authorityNotFound] (· = .replicationUnavailable) c
                  (reconcileFailure cfg k E submitted counts e c).cell ∨
                Observes cfg E r' c ∧
                  Observed cfg E r' c (reconcileFailure cfg k E submitted counts e c).cell) := by
          intro submitted counts e
          rcases reconcileFailure_cell cfg k E submitted counts e c with h | h
          · exact .inl h
          · exact .inr ⟨r, rfl, ha, .inl h⟩
        simp only [ha, if_true]
        split
        · cases hb : reconcileBody cfg E r c with
          | mk repair res =>
              cases res with
              | ok rows =>
                  have hobserves : Observes cfg E r c := ⟨‹_›, by simp [hb, Except.isOk, Except.toBool]⟩
                  exact .inr ⟨r, rfl, ha, .inr ⟨hobserves, reconcileBody_ok hb⟩⟩
              | error e => exact hfail _ _ e
        · split
          · obtain ⟨r', hr', hcount, hc⟩ := markProcessingFailed_ok ‹_›
            exact .inr ⟨r, rfl, ha, .inl (hc ▸ .failed hr' hcount (by simp))⟩
          · exact hfail _ _ _
      · simp only [ha]
        exact .inl rfl

theorem reconcile_cases (catalogue : ErrorCatalogue) (cfg : ReplicationConfig) (k : ArkId)
    (E : ReconcileEnv) (c : Cell) :
    (reconcile catalogue cfg k E c).cell = c ∨
      ∃ r, c.record = some r ∧ reconcileAccepts E.readyAt r = true ∧
        (Noted c (reconcile catalogue cfg k E c).cell ∨
          Observed cfg E r c (reconcile catalogue cfg k E c).cell) := by
  rcases reconcile_notedAs catalogue cfg k E c with h | ⟨r, hr, ha, h | ⟨-, h⟩⟩
  · exact .inl h
  · exact .inr ⟨r, hr, ha, .inl h.noted⟩
  · exact .inr ⟨r, hr, ha, .inr h⟩

theorem waitReason_ne (level1 level2 : ReplicationStatus) :
    waitReason level1 level2 ≠ .none ∧ waitReason level1 level2 ≠ .storageBackoff := by
  unfold waitReason
  simp only
  split
  · exact ⟨nofun, nofun⟩
  · split <;> exact ⟨nofun, nofun⟩

/-- The record that an observation leaves: at its next stage, where it is, or waiting for replicas. -/
inductive ReconciledRecord (E : ReconcileEnv) (r : ARKRecord) : ARKRecord → Prop
  | chain (hstage : r.processingStage = .availability) : ReconciledRecord E r
      { r with
        processingStage := .chain
        processingStatus := .ready
        nextActionAt := none
        processingWaitReason := .none
        updatedAt := E.scheduledAt }
  | complete (hstage : r.processingStage ≠ .availability) : ReconciledRecord E r
      { r with
        processingStage := .complete
        processingStatus := .done
        nextActionAt := none
        processingWaitReason := .none
        updatedAt := E.scheduledAt }
  | again : ReconciledRecord E r
      { r with
        processingStatus := .ready
        nextActionAt := none
        processingWaitReason := .none
        updatedAt := E.scheduledAt }
  | waiting {t : Time} {reason : ProcessingWaitReason} (hreason : reason ≠ .none ∧ reason ≠ .storageBackoff) :
      ReconciledRecord E r
      { r with
        processingStatus := .waiting
        nextActionAt := some t
        processingWaitReason := reason
        updatedAt := E.scheduledAt }

/-- The metadata row that an observation leaves: with the observation, and purged where all replicas
are there. -/
inductive ReconciledMetadata (cfg : ReplicationConfig) (E : ReconcileEnv) (level1 level2 : ReplicationStatus)
    (repaired : Nat) (m : ARKMetadata) : ARKMetadata → Prop
  | counted {observations : Nat} : ReconciledMetadata cfg E level1 level2 repaired m
      { observedMetadata level1 level2 repaired E.now m with replicationObservationCount := observations }
  | purged (htarget : cfg.targetReplicas ≤ min level1.totalReplicas.toNat level2.totalReplicas.toNat) :
      ReconciledMetadata cfg E level1 level2 repaired m
      { observedMetadata level1 level2 repaired E.now m with
        level1Json := none
        originalContent := none
        payloadPurgedAt := some E.scheduledAt }

theorem reconciledRows_rows (cfg : ReplicationConfig) (E : ReconcileEnv) (level1 level2 : ReplicationStatus)
    (r : ARKRecord) (m : ARKMetadata) (repaired : Nat) :
    ReconciledRecord E r (reconciledRows cfg E level1 level2 r m repaired).1 ∧
      ReconciledMetadata cfg E level1 level2 repaired m (reconciledRows cfg E level1 level2 r m repaired).2.1 := by
  unfold reconciledRows
  simp only
  split
  · unfold reconcileAvailability
    simp only
    split
    · exact ⟨.chain ‹_›, .counted⟩
    · exact ⟨.waiting (waitReason_ne ..), .counted⟩
  · unfold reconcileDurability
    split
    · exact ⟨.complete ‹_›, .purged ‹_›⟩
    · split
      · exact ⟨.again, .counted⟩
      · exact ⟨.waiting ⟨nofun, nofun⟩, .counted⟩

theorem reconciledRows_keeps (cfg : ReplicationConfig) (E : ReconcileEnv)
    (level1 level2 : ReplicationStatus) (r : ARKRecord) (m : ARKMetadata) (repaired : Nat) :
    let r' := (reconciledRows cfg E level1 level2 r m repaired).1
    r'.state = r.state ∧ r'.authorityId = r.authorityId ∧ r'.target = r.target := by
  have hrecord := (reconciledRows_rows cfg E level1 level2 r m repaired).1
  generalize (reconciledRows cfg E level1 level2 r m repaired).1 = r' at hrecord ⊢
  cases hrecord <;> exact ⟨rfl, rfl, rfl⟩

theorem reconciledRows_copies (cfg : ReplicationConfig) (E : ReconcileEnv)
    (level1 level2 : ReplicationStatus) (r : ARKRecord) (m : ARKMetadata) (repaired : Nat) :
    let m' := (reconciledRows cfg E level1 level2 r m repaired).2.1
    m'.level1Cid = m.level1Cid ∧ m'.originalCid = m.originalCid ∧
      (m'.level1Json = m.level1Json ∧ m'.originalContent = m.originalContent ∨
        cfg.targetReplicas ≤ min level1.totalReplicas.toNat level2.totalReplicas.toNat) := by
  have hmetadata := (reconciledRows_rows cfg E level1 level2 r m repaired).2
  generalize (reconciledRows cfg E level1 level2 r m repaired).2.1 = m' at hmetadata ⊢
  cases hmetadata with
  | counted => exact ⟨rfl, rfl, .inl ⟨rfl, rfl⟩⟩
  | purged htarget => exact ⟨rfl, rfl, .inr htarget⟩

/-- A chain attempt found its write done: by the answer of the write, or by
what the chain shows. -/
def Written (write : Prop) (chain : Except Exc ARKInfo) (target : Option String) (cid : Cid) : Prop :=
  write ∨ ∃ info, chain = .ok info ∧ some info.url = target ∧ info.cid = cid.val

omit [PyLower] in
theorem chainMatches_true {read : Except Exc ARKInfo} {target : Option String} {cid : Cid}
    (h : chainMatches read target cid = .ok true) :
    ∃ info, read = .ok info ∧ some info.url = target ∧ info.cid = cid.val := by
  unfold chainMatches at h
  split at h
  · simp only [Except.ok.injEq, Bool.and_eq_true, decide_eq_true_eq] at h
    exact ⟨_, rfl, h⟩
  · split at h <;> cases h

def PublishedBy (E : PublishEnv) (r : ARKRecord) (c c' : Cell) : Prop :=
  ∃ m cid, c.metadata = some m ∧ m.level1Cid = some cid ∧ m.originalCid.isSome ∧
    Written (E.write = .ok ()) E.chain r.target cid ∧
    c' = { c with record := some (publishedRecord E.publishedAt r) }

theorem settleWrite_chain {E : PublishEnv} {target : Option String} {cid : Cid}
    {outcome : Option Handled} (h : settleWrite catalogue k E target cid c = .ok outcome) :
    outcome = none ∧ Written (E.write = .ok ()) E.chain target cid ∨
      ∃ handled, outcome = some handled ∧
        ChainNoted catalogue ((∃ e, E.write = .error e) ∧ identityDefers E.identity = true) c handled.cell := by
  unfold settleWrite at h
  cases hw : E.write with
  | ok u =>
      simp only [hw] at h
      exact .inl ⟨(Except.ok.inj h).symm, .inl rfl⟩
  | error e =>
      simp only [hw] at h
      cases hi : reconcileFailedIdentity catalogue k E.identity E.failedAt c with
      | error e' => simp [hi, bind, Except.bind] at h
      | ok identity =>
          simp only [hi, bind, Except.bind, pure, Except.pure] at h
          rcases reconcileFailedIdentity_chain hi with ⟨hv, -⟩ | ⟨hv, hn⟩
          · simp only [hv, Bool.false_eq_true, if_false] at h
            cases hm : chainMatches E.chain target cid with
            | error e' => simp [hm] at h
            | ok b =>
                cases b with
                | true =>
                    simp only [hm, if_true] at h
                    exact .inl ⟨(Except.ok.inj h).symm, .inr (chainMatches_true hm)⟩
                | false => simp [hm, throw, throwThe, MonadExceptOf.throw] at h
          · simp only [hv, if_true] at h
            exact .inr ⟨_, (Except.ok.inj h).symm, hn.mono fun hdefers => ⟨⟨e, rfl⟩, hdefers⟩⟩

/-- The single chain attempt defers: the check of the identity after a failed write does, or what
the attempt raises is deferred. -/
def publishDefers (catalogue : ErrorCatalogue) (k : ArkId) (E : PublishEnv) (r : ARKRecord) (c : Cell) : Bool :=
  match publishBody catalogue k E r c with
  | .ok _ => E.assigned r.authorityId && !E.write.isOk && identityDefers E.identity
  | .error e => failureDefers E.failureIdentity e

theorem publishBody_chain {E : PublishEnv} {r : ARKRecord} {handled : Handled} (hr : c.record = some r)
    (h : publishBody catalogue k E r c = .ok handled) :
    ChainNoted catalogue (publishDefers catalogue k E r c = true) c handled.cell ∨
      PublishedBy E r c handled.cell := by
  have hok := h
  unfold publishBody at h
  split at h
  · have hdefers : (∃ e, E.write = .error e) ∧ identityDefers E.identity = true →
        publishDefers catalogue k E r c = true := by
      rintro ⟨⟨e, hw⟩, hidentity⟩
      simp [publishDefers, Except.isOk, Except.toBool, *]
    split at h
    · cases h
    · split at h
      · simp only [bind, Except.bind, pure, Except.pure] at h
        split at h; · cases h
        split at h
        · obtain rfl := Except.ok.inj h
          rcases settleWrite_chain ‹_› with ⟨h', -⟩ | ⟨handled', h', hn⟩
          · cases h'
          · obtain rfl := Option.some.inj h'
            exact .inl (hn.mono hdefers)
        · split at h; · cases h
          split at h; · cases h
          obtain rfl := Except.ok.inj h
          obtain ⟨r', hr', -, rfl⟩ := updateToPublished_ok ‹_›
          obtain rfl := Option.some.inj (hr.symm.trans hr')
          rcases settleWrite_chain ‹_› with ⟨-, hw⟩ | ⟨_, h', -⟩
          · exact .inr ⟨_, _, ‹_›, ‹_›, by simp [*], hw, rfl⟩
          · cases h'
      · cases h
  · cases hm : markProcessingFailed catalogue k.ark "Authority not assigned to this Minter"
      .authorityNotFound true E.failedAt c with
    | error e => simp [hm, Except.map] at h
    | ok c' =>
        simp only [hm, Except.map, Except.ok.injEq] at h
        subst h
        obtain ⟨r', hr', hcount, rfl⟩ := markProcessingFailed_ok hm
        exact .inl (.failed hr' hcount (by decide))

theorem publishSingleArk_chain (catalogue : ErrorCatalogue) (k : ArkId) (E : PublishEnv) (c : Cell) :
    (publishSingleArk catalogue k E c).cell = c ∨
      ∃ r, c.record = some r ∧ publishAccepts E.readyAt r = true ∧
        (ChainNoted catalogue (publishDefers catalogue k E r c = true) c
            (publishSingleArk catalogue k E c).cell ∨
          PublishedBy E r c (publishSingleArk catalogue k E c).cell) := by
  unfold publishSingleArk
  cases hr : c.record with
  | none => exact .inl rfl
  | some r =>
      by_cases ha : publishAccepts E.readyAt r = true
      · simp only [ha, if_true]
        split
        · exact .inr ⟨r, rfl, ha, publishBody_chain hr ‹_›⟩
        · split
          · refine .inr ⟨r, rfl, ha, .inl ((recordFailure_chain ‹_›).mono fun hdefers => ?_)⟩
            simp [publishDefers, *]
          · exact .inl rfl
      · simp only [ha]
        exact .inl rfl

theorem publishSingleArk_cases (catalogue : ErrorCatalogue) (k : ArkId) (E : PublishEnv) (c : Cell) :
    (publishSingleArk catalogue k E c).cell = c ∨
      ∃ r, c.record = some r ∧ publishAccepts E.readyAt r = true ∧
        (Noted c (publishSingleArk catalogue k E c).cell ∨
          PublishedBy E r c (publishSingleArk catalogue k E c).cell) := by
  rcases publishSingleArk_chain catalogue k E c with h | ⟨r, hr, ha, h | h⟩
  · exact .inl h
  · exact .inr ⟨r, hr, ha, .inl h.noted⟩
  · exact .inr ⟨r, hr, ha, .inr h⟩

omit [PyLower] in
theorem isCurrent_iff {item : PipelineItem} :
    isCurrent item c = true ↔ ∃ r m, c.record = some r ∧ c.metadata = some m ∧
      r.authorityId = item.authorityId ∧ r.state = item.state ∧ r.target = item.target ∧
      r.processingStage = .chain ∧ m.level1Cid = some item.cid := by
  unfold isCurrent
  split <;> simp_all [and_assoc]

omit [PyLower] in
theorem isCurrent_live {item : PipelineItem} (hstate : item.state = .draft ∨ item.state = .update)
    (h : isCurrent item c = true) {r : ARKRecord} (hr : c.record = some r) :
    r.state ≠ .tombstone ∧ r.processingStage = .chain := by
  obtain ⟨r', m, hr', -, -, hsame, -, hstage, -⟩ := isCurrent_iff.mp h
  obtain rfl := Option.some.inj (hr'.symm.trans hr)
  refine ⟨?_, hstage⟩
  rcases hstate with h | h <;> simp [hsame, h]

/-- The row of the ARK waits for one of the workers. -/
def InWork (c : Cell) : Prop :=
  ∀ r, c.record = some r → r.state ≠ .tombstone ∧ r.processingStage ≠ .complete

omit [PyLower] in
theorem inWork_of_record {r : ARKRecord} (hr : c.record = some r) (hlive : r.state ≠ .tombstone)
    (hstage : r.processingStage ≠ .complete) : InWork c := by
  intro r' hr'
  obtain rfl := Option.some.inj (hr.symm.trans hr')
  exact ⟨hlive, hstage⟩

omit [PyLower] in
theorem inWork_persist {now : Time} {r : ARKRecord} (hr : c.record = some r) (h : persistAccepts now r = true) :
    InWork c := by
  obtain ⟨hlive, hstage⟩ := persistAccepts_live h
  exact inWork_of_record hr hlive (by simp [hstage])

omit [PyLower] in
theorem inWork_reconcile {now : Time} {r : ARKRecord} (hr : c.record = some r)
    (h : reconcileAccepts now r = true) : InWork c := by
  obtain ⟨hlive, hstage⟩ := reconcileAccepts_live h
  refine inWork_of_record hr hlive ?_
  rcases hstage with hstage | hstage <;> simp [hstage]

omit [PyLower] in
theorem inWork_publish {now : Time} {r : ARKRecord} (hr : c.record = some r) (h : publishAccepts now r = true) :
    InWork c := by
  obtain ⟨hlive, hstage⟩ := publishAccepts_live h
  exact inWork_of_record hr hlive (by simp [hstage])

omit [PyLower] in
theorem inWork_current {item : PipelineItem} (hstate : item.state = .draft ∨ item.state = .update)
    (h : isCurrent item c = true) : InWork c := by
  intro r hr
  obtain ⟨hlive, hstage⟩ := isCurrent_live hstate h hr
  exact ⟨hlive, by simp [hstage]⟩

def PublishedItem (item : PipelineItem) (result : ARKPublishResult) (E : ResultEnv) (c c' : Cell) :
    Prop :=
  isCurrent item c = true ∧ Written (result.status = "confirmed") E.chain item.target item.cid ∧
    ∃ r, c.record = some r ∧ c' = { c with record := some (publishedRecord E.now r) }

omit [PyLower] in
theorem finalizePipelineConfirmation_cases {item : PipelineItem} {handled : Handled}
    (h : finalizePipelineConfirmation item now c = .ok handled) :
    handled.cell = c ∨ isCurrent item c = true ∧
      ∃ r, c.record = some r ∧ handled.cell = { c with record := some (publishedRecord now r) } := by
  unfold finalizePipelineConfirmation at h
  split at h
  · cases hu : updateToPublished item.ark.ark [item.state] now c with
    | error e => simp [hu, Except.map] at h
    | ok c' =>
        simp only [hu, Except.map, Except.ok.injEq] at h
        subst h
        obtain ⟨r, hr, -, rfl⟩ := updateToPublished_ok hu
        exact .inr ⟨‹_›, r, hr, rfl⟩
  · obtain rfl := Except.ok.inj h
    exact .inl rfl

omit [PyLower] in
theorem reconcileOnChain_some {item : PipelineItem} {E : ResultEnv} {handled : Handled}
    (h : reconcileOnChain item E c = .ok (some handled)) :
    chainMatches E.chain item.target item.cid = .ok true ∧
      finalizePipelineConfirmation item E.now c = .ok handled := by
  unfold reconcileOnChain at h
  simp only [bind, Except.bind, pure, Except.pure] at h
  split at h; · cases h
  split at h
  · split at h; · cases h
    simp only [Except.ok.injEq, Option.some.injEq] at h
    subst h
    exact ⟨by simp_all, ‹_›⟩
  · simp at h

def resultDefers (item : PipelineItem) (result : ARKPublishResult) (E : ResultEnv) (c : Cell) : Bool :=
  match identityVerdict E.identity with
  | .ok .unobjected => match reconcileOnChain item E c with
    | .error _ => true
    | .ok (some _) => false
    | .ok none => result.status ≠ "reverted" || failureDefers E.failureIdentity ⟨.runtime, result.message⟩
  | .ok _ => false
  | .error e => e.cls ≠ .authorityNotFound

theorem settleResult_handled {item : PipelineItem} {result : ARKPublishResult} {E : ResultEnv}
    (h : result.status = "confirmed" ∨ isCurrent item c = true) :
    settleResult catalogue item result E c = handlePipelineResult catalogue item result E c := by
  by_cases hcurrent : isCurrent item c = true
  · rw [handlePipelineResult, if_pos hcurrent]
  · have hstatus := h.resolve_right hcurrent
    rw [handlePipelineResult, if_neg hcurrent, settleResult, if_pos hstatus]
    rw [finalizePipelineConfirmation, if_neg hcurrent]

theorem settleResult_chain {item : PipelineItem} {result : ARKPublishResult} {E : ResultEnv}
    {handled : Handled} (h : settleResult catalogue item result E c = .ok handled) :
    handled.cell = c ∨
      result.status ≠ "confirmed" ∧ ChainNoted catalogue (resultDefers item result E c = true) c handled.cell ∨
      PublishedItem item result E c handled.cell := by
  unfold settleResult at h
  split at h
  · rcases finalizePipelineConfirmation_cases h with h | ⟨hcurrent, r, hr, h⟩
    · exact .inl h
    · exact .inr (.inr ⟨hcurrent, .inl ‹_›, r, hr, h⟩)
  · unfold handleUnconfirmed at h
    cases hi : reconcileFailedIdentity catalogue item.ark E.identity E.now c with
    | error e' => simp [hi, bind, Except.bind] at h
    | ok identity =>
        simp only [hi, bind, Except.bind, pure, Except.pure] at h
        rcases reconcileFailedIdentity_chain hi with ⟨hv, hc, hpass⟩ | ⟨hv, hn⟩
        · simp only [hv, hc, Bool.false_eq_true, if_false] at h
          have hverdict : c.record ≠ none → identityVerdict E.identity = .ok .unobjected := hpass.resolve_left
          split at h
          · obtain rfl := Except.ok.inj h
            obtain ⟨hmatch, hfin⟩ := reconcileOnChain_some ‹_›
            rcases finalizePipelineConfirmation_cases hfin with h | ⟨hcurrent, r, hr, h⟩
            · exact .inl h
            · exact .inr (.inr ⟨hcurrent, .inr (chainMatches_true hmatch), r, hr, h⟩)
          · split at h
            · obtain ⟨failed, hf, hcell⟩ := declined_ok h
              rw [hcell]
              have hn := recordFailure_chain hf
              have hrecord : c.record ≠ none := by
                obtain ⟨r, -, hr, -⟩ := hn.noted.keeps
                simp [hr]
              refine .inr (.inl ⟨‹_›, hn.mono fun hdefers => ?_⟩)
              simp [resultDefers, hverdict hrecord, *]
            · obtain ⟨failed, hf, hcell⟩ := declined_ok h
              rw [hcell]
              obtain ⟨-, r, hr, -⟩ := deferred_ok hf
              refine .inr (.inl ⟨‹_›, (deferred_chain hf ?_).2⟩)
              simp [resultDefers, hverdict (by simp [hr]), *]
          · obtain ⟨failed, hf, hcell⟩ := declined_ok h
            rw [hcell]
            obtain ⟨-, r, hr, -⟩ := deferred_ok hf
            refine .inr (.inl ⟨‹_›, (deferred_chain hf ?_).2⟩)
            simp [resultDefers, hverdict (by simp [hr]), *]
        · simp only [hv, if_true] at h
          obtain rfl := Except.ok.inj h
          refine .inr (.inl ⟨‹_›, hn.mono fun hdefers => ?_⟩)
          unfold identityDefers at hdefers
          unfold resultDefers
          cases hverdict : identityVerdict E.identity with
          | ok verdict => simp [hverdict] at hdefers
          | error e' => simpa [hverdict] using hdefers

theorem settleResult_cases {item : PipelineItem} {result : ARKPublishResult} {E : ResultEnv}
    {handled : Handled} (h : settleResult catalogue item result E c = .ok handled) :
    handled.cell = c ∨ result.status ≠ "confirmed" ∧ Noted c handled.cell ∨
      PublishedItem item result E c handled.cell := by
  rcases settleResult_chain h with h | ⟨hstatus, h⟩ | h
  · exact .inl h
  · exact .inr (.inl ⟨hstatus, h.noted⟩)
  · exact .inr (.inr h)

end DarkMinter.Attempts
