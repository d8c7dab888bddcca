import DarkMinter.Attempts

namespace DarkMinter.Marks

open Text Processing Records Repository Persistence Replication Publication Attempts

variable [PyLower] {catalogue : ErrorCatalogue} {k : ArkId} {c : Cell} {r : ARKRecord} {now : Time}

/-- The check of the identity objects for good. -/
def identityMarks (reads : OwnerReads) : Bool :=
  match identityVerdict reads with
  | .ok .unobjected => false
  | .ok _ => true
  | .error e => e.cls = .authorityNotFound

def identityPasses (reads : OwnerReads) : Bool :=
  match identityVerdict reads with
  | .ok .unobjected => true
  | _ => false

/-- `_record_failure` marks the ARK as failed, and does not defer it. -/
def failureMarks (reads : OwnerReads) (e : Exc) : Bool :=
  identityMarks reads || identityPasses reads &&
    (e.cls = .authorityNotFound || e.cls = .authorization || !isInfrastructureError e)

def persistMarks (E : PersistEnv) (r : ARKRecord) (c : Cell) : Bool :=
  match persistBody E r c with
  | .ok _ => false
  | .error e => !isInfrastructureError e

def commitMarks (E : PublishEnv) : Bool :=
  match E.commit with
  | .ok () => false
  | .error e => failureMarks E.failureIdentity e

def writeMarks (E : PublishEnv) (target : Option String) (cid : Cid) : Bool :=
  match E.write with
  | .ok () => commitMarks E
  | .error e => identityMarks E.identity || identityPasses E.identity &&
      match chainMatches E.chain target cid with
      | .ok true => commitMarks E
      | .ok false => failureMarks E.failureIdentity e
      | .error e' => failureMarks E.failureIdentity e'

def publishMarks (E : PublishEnv) (r : ARKRecord) (c : Cell) : Bool :=
  if E.assigned r.authorityId then
    match c.metadata.bind fun m => m.level1Cid.bind fun cid => m.originalCid.map fun _ => cid with
    | some cid => writeMarks E r.target cid
    | none => failureMarks E.failureIdentity
        (valueError "both metadata CIDs are required for chain publication")
  else true

def resultMarks (item : PipelineItem) (result : ARKPublishResult) (E : ResultEnv) (c : Cell) : Bool :=
  identityMarks E.identity || identityPasses E.identity &&
    match reconcileOnChain item E c with
    | .ok none => result.status = "reverted" && failureMarks E.failureIdentity ⟨.runtime, result.message⟩
    | _ => false

def Room (r : ARKRecord) (p : Bool) : Prop := p = true → r.processingAttemptCount < smallintMax

omit [PyLower] in
theorem Room.mono {p q : Bool} (h : Room r p) (hqp : q = true → p = true) : Room r q :=
  fun hq => h (hqp hq)

/-- The attempt counter of the row. -/
def attemptCount (c : Cell) : Nat := (c.record.map fun r => r.processingAttemptCount).getD 0

omit [PyLower] in
theorem markProcessingFailed_some (catalogue : ErrorCatalogue) (ark message : String)
    (code : ProcessingErrorCode) (permanent : Bool) (now : Time) (hr : c.record = some r)
    (hcount : r.processingAttemptCount < smallintMax) :
    ∃ c', markProcessingFailed catalogue ark message code permanent now c = .ok c' := by
  refine ⟨{ c with record := some (failedRecord (failsPermanently catalogue code permanent) message code now r) }, ?_⟩
  simp [markProcessingFailed, hr, Nat.succ_le_of_lt hcount]

omit [PyLower] in
theorem marked_some (catalogue : ErrorCatalogue) (k : ArkId) (message : String)
    (code : ProcessingErrorCode) (now : Time) (hr : c.record = some r)
    (hcount : r.processingAttemptCount < smallintMax) :
    ∃ handled, marked catalogue k message code now c = .ok handled ∧ handled.value = true := by
  obtain ⟨c', hc'⟩ := markProcessingFailed_some catalogue k.ark message code true now hr hcount
  exact ⟨⟨true, c', { permanentFailures := 1 }⟩, by simp [marked, hc', Except.map], rfl⟩

omit [PyLower] in
theorem deferred_some (k : ArkId) (message : String) (code : ProcessingErrorCode) (now : Time)
    (hr : c.record = some r) :
    ∃ handled, deferred k message code now c = .ok handled ∧ handled.value = true ∧
      attemptCount handled.cell = attemptCount c := by
  refine ⟨⟨true, { c with record := some (deferredRecord message code 60 now r) }, { deferred := 1 }⟩, ?_, rfl, ?_⟩
  · simp [deferred, deferProcessingRetry_some hr, Except.map]
  · rw [attemptCount, attemptCount, hr]
    rfl

theorem reconcileFailedIdentity_some (catalogue : ErrorCatalogue) (k : ArkId) (reads : OwnerReads)
    (now : Time) (hr : c.record = some r)
    (hroom : Room r (identityMarks reads)) :
    ∃ handled, reconcileFailedIdentity catalogue k reads now c = .ok handled ∧
      handled.value = !identityPasses reads ∧
        (identityMarks reads = false → attemptCount handled.cell = attemptCount c) := by
  have hmarked : ∀ message code, r.processingAttemptCount < smallintMax →
      ∃ handled, markedOrAborted catalogue k message code now c = .ok handled ∧ handled.value = true := by
    intro message code hcount
    obtain ⟨handled, h, hv⟩ := marked_some catalogue k message code now hr hcount
    exact ⟨handled, by simp [markedOrAborted, h], hv⟩
  unfold Room identityMarks at hroom
  unfold reconcileFailedIdentity identityPasses identityMarks
  simp only [hr]
  cases hverdict : identityVerdict reads with
  | ok verdict =>
      simp only [hverdict] at hroom
      cases verdict with
      | changed | inactive | revoked =>
          obtain ⟨handled, h, hv⟩ := hmarked _ _ (hroom rfl)
          exact ⟨handled, h, hv, by simp⟩
      | unobjected => exact ⟨_, rfl, rfl, fun _ => rfl⟩
  | error e =>
      simp only [hverdict, decide_eq_true_eq] at hroom
      simp only
      split
      · obtain ⟨handled, h, hv⟩ := marked_some catalogue k "Original authority no longer exists" .authorityNotFound now
          hr (hroom ‹_›)
        exact ⟨handled, h, hv, by simp [*]⟩
      · obtain ⟨handled, h, hv, hkept⟩ := deferred_some k
          "Ownership reconciliation unavailable; outcome remains unknown" .chainRpcUnavailable now hr
        exact ⟨handled, h, hv, fun _ => hkept⟩

theorem reconcileFailedIdentity_passes {reads : OwnerReads} {handled : Handled}
    (h : reconcileFailedIdentity catalogue k reads now c = .ok handled)
    (hv : handled.value = false) : handled.cell = c := by
  rcases reconcileFailedIdentity_cases h with ⟨-, hc⟩ | ⟨hv', -⟩
  · exact hc
  · simp [hv] at hv'

theorem recordFailure_some (catalogue : ErrorCatalogue) (k : ArkId) (reads : OwnerReads) (e : Exc)
    (now : Time) (hr : c.record = some r)
    (hroom : Room r (failureMarks reads e)) :
    ∃ handled, recordFailure catalogue k reads e now c = .ok handled ∧
      (failureMarks reads e = false → attemptCount handled.cell = attemptCount c) := by
  obtain ⟨identity, hi, hv, hkept⟩ := reconcileFailedIdentity_some catalogue k reads now
    hr (hroom.mono (q := identityMarks reads) fun h => by simp [failureMarks, h])
  simp only [recordFailure, hi, bind, Except.bind, pure, Except.pure]
  cases hpass : identityPasses reads with
  | false =>
      refine ⟨identity, by simp [hv, hpass], fun hmarks => hkept ?_⟩
      simpa [failureMarks, hpass] using hmarks
  | true =>
      have hcell := reconcileFailedIdentity_passes hi (by simp [hv, hpass])
      simp only [hv, hpass, Bool.not_true, Bool.false_eq_true, if_false, hcell]
      have hmark : ∀ code, (e.cls = .authorityNotFound ∨ e.cls = .authorization ∨
          isInfrastructureError e = false) →
          ∃ handled, marked catalogue k ("blockchain publish failed: " ++ e.text) code now c = .ok handled ∧
            (failureMarks reads e = false → attemptCount handled.cell = attemptCount c) := by
        intro code hcode
        have hdue : failureMarks reads e = true := by rcases hcode with h | h | h <;> simp [failureMarks, hpass, h]
        obtain ⟨handled, h, -⟩ := marked_some catalogue k ("blockchain publish failed: " ++ e.text) code now hr
          (hroom hdue)
        exact ⟨handled, h, by simp [hdue]⟩
      split
      · exact hmark _ (.inl ‹_›)
      · split
        · exact hmark _ (.inr (.inl ‹_›))
        · split
          · obtain ⟨handled, h, -, hsame⟩ := deferred_some k ("blockchain publish failed: " ++ e.text)
              .chainRpcUnavailable now hr
            exact ⟨handled, h, fun _ => hsame⟩
          · exact hmark _ (.inr (.inr (Bool.eq_false_iff.mpr ‹_›)))

theorem persist_returns {E : PersistEnv} (hroom : ∀ r, c.record = some r →
    persistAccepts E.readyAt r = true → Room r (persistMarks E r c)) :
    ∃ b, (persist catalogue k E c).result = .ok b := by
  unfold persist
  cases hr : c.record with
  | none => exact ⟨_, rfl⟩
  | some r =>
      by_cases hacc : persistAccepts E.readyAt r = true
      · have hroom := hroom r hr hacc
        unfold persistMarks at hroom
        simp only [hacc, if_true]
        cases hbody : persistBody E r c with
        | ok c' => exact ⟨_, rfl⟩
        | error e =>
            simp only [hbody] at hroom
            unfold persistFailure
            simp only
            split
            · simp only [deferProcessingRetry_some hr]
              exact ⟨_, rfl⟩
            · rename_i hinfrastructure
              have hfits := hroom (by simp [Bool.eq_false_iff.mpr hinfrastructure])
              obtain ⟨c', hc'⟩ := markProcessingFailed_some catalogue k.ark
                ("metadata persistence failed: " ++ e.text) .storageInvalidResponse true E.failedAt hr hfits
              simp only [hc']
              exact ⟨_, rfl⟩
      · simp only [hacc]
        exact ⟨_, rfl⟩

theorem persist_unmarked {E : PersistEnv} (hmarks : ∀ r, c.record = some r →
    persistAccepts E.readyAt r = true → persistMarks E r c = false) :
    attemptCount (persist catalogue k E c).cell ≤ attemptCount c := by
  unfold persist
  cases hr : c.record with
  | none => exact le_rfl
  | some r =>
      by_cases hacc : persistAccepts E.readyAt r = true
      · have hmarks := hmarks r hr hacc
        unfold persistMarks at hmarks
        simp only [hacc, if_true]
        cases hbody : persistBody E r c with
        | ok c' =>
            obtain ⟨m, _, _, -, -, -, rfl⟩ := persistBody_ok hbody
            exact Nat.zero_le _
        | error e =>
            simp only [hbody, Bool.not_eq_false'] at hmarks
            simp only [persistFailure, hmarks, if_true, deferProcessingRetry_some hr]
            rw [attemptCount, attemptCount, hr]
            exact le_rfl
      · simp only [hacc]
        exact le_rfl

omit [PyLower] in
theorem markUnassigned_returns {authorityId : String}
    (hroom : ∀ r, c.record = some r → Room r (r.authorityId = authorityId)) :
    ∃ c', markUnassigned catalogue k authorityId now c = .ok c' := by
  unfold markUnassigned
  cases hr : c.record with
  | none => exact ⟨_, rfl⟩
  | some r =>
      simp only
      split
      · exact markProcessingFailed_some _ _ _ _ _ _ hr (hroom r hr (by simpa using ‹_›))
      · exact ⟨_, rfl⟩

omit [PyLower] in
theorem finalizePipelineConfirmation_returns {item : PipelineItem} :
    ∃ handled, finalizePipelineConfirmation item now c = .ok handled ∧ attemptCount handled.cell ≤ attemptCount c := by
  unfold finalizePipelineConfirmation
  split
  · obtain ⟨r', m, hr', -, -, hstate, -⟩ := isCurrent_iff.mp ‹_›
    refine ⟨{ value := true, cell := { c with record := some (publishedRecord now r') } }, ?_, Nat.zero_le _⟩
    simp [updateToPublished, hr', hstate, Except.map]
  · exact ⟨_, rfl, le_rfl⟩

omit [PyLower] in
theorem reconcileOnChain_unmarked {item : PipelineItem} {E : ResultEnv} {handled : Handled}
    (h : reconcileOnChain item E c = .ok (some handled)) : attemptCount handled.cell ≤ attemptCount c := by
  obtain ⟨finalized, hfinalized, hle⟩ := @finalizePipelineConfirmation_returns c E.now item
  unfold reconcileOnChain at h
  cases hchain : chainMatches E.chain item.target item.cid with
  | error e => simp [hchain, bind, Except.bind] at h
  | ok found =>
      cases found with
      | false => simp [hchain, bind, Except.bind, pure, Except.pure] at h
      | true =>
          simp only [hchain, hfinalized, bind, Except.bind, pure, Except.pure, if_true, Except.ok.injEq,
            Option.some.injEq] at h
          exact h ▸ hle

theorem settleResult_returns (catalogue : ErrorCatalogue) (item : PipelineItem) {result : ARKPublishResult}
    {E : ResultEnv}
    (hroom : result.status ≠ "confirmed" → ∃ r, c.record = some r ∧ Room r (resultMarks item result E c)) :
    ∃ handled, settleResult catalogue item result E c = .ok handled ∧
      ((result.status ≠ "confirmed" → resultMarks item result E c = false) →
        attemptCount handled.cell ≤ attemptCount c) := by
  unfold settleResult
  split
  · obtain ⟨handled, h, hle⟩ := @finalizePipelineConfirmation_returns c E.now item
    exact ⟨handled, h, fun _ => hle⟩
  · rename_i hstatus
    obtain ⟨r, hr, hroom⟩ := hroom hstatus
    obtain ⟨identity, hi, hv, hkept⟩ := reconcileFailedIdentity_some catalogue item.ark E.identity E.now
      hr (hroom.mono (q := identityMarks E.identity) fun h => by simp [resultMarks, h])
    simp only [handleUnconfirmed, hi, bind, Except.bind, pure, Except.pure]
    cases hpass : identityPasses E.identity with
    | false =>
        refine ⟨identity.declined, by simp [hv, hpass], fun hmarks => le_of_eq (hkept ?_)⟩
        simpa [resultMarks, hpass] using hmarks hstatus
    | true =>
        have hcell := reconcileFailedIdentity_passes hi (by simp [hv, hpass])
        simp only [hv, hpass, Bool.not_true, Bool.false_eq_true, if_false, hcell]
        cases hchain : reconcileOnChain item E c with
        | error e =>
            obtain ⟨handled, h, -, hsame⟩ := deferred_some item.ark
              ("blockchain publication reconciliation failed: " ++ e.text) .chainRpcUnavailable E.now hr
            exact ⟨handled.declined, by simp [h, Except.map], fun _ => le_of_eq hsame⟩
        | ok found =>
            cases found with
            | some handled => exact ⟨_, rfl, fun _ => reconcileOnChain_unmarked hchain⟩
            | none =>
                simp only
                split
                · rename_i hreverted
                  obtain ⟨handled, h, hsame⟩ := recordFailure_some catalogue item.ark E.failureIdentity
                    ⟨.runtime, result.message⟩ E.now hr (hroom.mono (q := failureMarks E.failureIdentity
                      ⟨.runtime, result.message⟩) fun h => by simp_all [resultMarks])
                  refine ⟨handled.declined, by simp [h, Except.map], fun hmarks => le_of_eq (hsame ?_)⟩
                  have hmarks := hmarks hstatus
                  simp only [resultMarks, hpass, hchain, hreverted, decide_true, Bool.true_and,
                    Bool.or_eq_false_iff] at hmarks
                  exact hmarks.2
                · obtain ⟨handled, h, -, hsame⟩ := deferred_some item.ark
                    ("blockchain pipeline " ++ result.status ++ ": " ++ result.message)
                    .chainRpcUnavailable E.now hr
                  exact ⟨handled.declined, by simp [h, Except.map], fun _ => le_of_eq hsame⟩

omit [PyLower] in
theorem updateToPublished_some (ark : String) (now : Time) (hr : c.record = some r) :
    ∃ c', updateToPublished ark [r.state] now c = .ok c' ∧ attemptCount c' ≤ attemptCount c := by
  refine ⟨{ c with record := some (publishedRecord now r) }, ?_, Nat.zero_le _⟩
  simp [updateToPublished, hr]

theorem settleWrite_some (catalogue : ErrorCatalogue) (k : ArkId) (E : PublishEnv)
    (target : Option String) (cid : Cid) (hr : c.record = some r)
    (hroom : Room r (writeMarks E target cid)) :
    (∃ handled, settleWrite catalogue k E target cid c = .ok (some handled) ∧
        (writeMarks E target cid = false → attemptCount handled.cell = attemptCount c)) ∨
      (settleWrite catalogue k E target cid c = .ok none ∧
        (commitMarks E = true → writeMarks E target cid = true)) ∨
      ∃ e, settleWrite catalogue k E target cid c = .error e ∧
        (failureMarks E.failureIdentity e = true → writeMarks E target cid = true) := by
  unfold settleWrite
  unfold writeMarks at hroom ⊢
  cases hw : E.write with
  | ok u =>
      exact .inr (.inl ⟨rfl, id⟩)
  | error e =>
      simp only [hw] at hroom
      obtain ⟨identity, hi, hv, hkept⟩ := reconcileFailedIdentity_some catalogue k E.identity E.failedAt
        hr (hroom.mono (q := identityMarks E.identity) fun h => by simp [h])
      simp only [hi, bind, Except.bind, pure, Except.pure]
      cases hpass : identityPasses E.identity with
      | false =>
          refine .inl ⟨identity.declined, by simp [hv, hpass], fun hmarks => hkept ?_⟩
          simpa using hmarks
      | true =>
          simp only [hv, hpass, Bool.not_true, Bool.false_eq_true, if_false]
          cases hchain : chainMatches E.chain target cid with
          | error e' => exact .inr (.inr ⟨e', rfl, fun h => by simp [h]⟩)
          | ok b =>
              cases b with
              | true => exact .inr (.inl ⟨rfl, fun h => by simp [h]⟩)
              | false => exact .inr (.inr ⟨e, rfl, fun h => by simp [h]⟩)

theorem publishBody_some (catalogue : ErrorCatalogue) (k : ArkId) (E : PublishEnv) (hr : c.record = some r)
    (hroom : Room r (publishMarks E r c)) :
    (∃ handled, publishBody catalogue k E r c = .ok handled ∧
        (publishMarks E r c = false → attemptCount handled.cell ≤ attemptCount c)) ∨
      ∃ e, publishBody catalogue k E r c = .error e ∧
        (failureMarks E.failureIdentity e = true → publishMarks E r c = true) := by
  unfold publishBody
  unfold publishMarks at hroom ⊢
  by_cases hassigned : E.assigned r.authorityId = true
  · simp only [hassigned, if_true] at hroom ⊢
    let missing := valueError "both metadata CIDs are required for chain publication"
    cases hm : c.metadata with
    | none => exact .inr ⟨missing, rfl, id⟩
    | some m =>
        cases h1 : m.level1Cid with
        | none => exact .inr ⟨missing, by simp [h1, missing], by simp [h1, missing]⟩
        | some cid =>
            cases h2 : m.originalCid with
            | none => exact .inr ⟨missing, by simp [h1, h2, missing], by simp [h1, h2, missing]⟩
            | some level2Cid =>
                simp only [hm, h1, h2, Option.bind_some, Option.map_some] at hroom ⊢
                simp only [bind, Except.bind, pure, Except.pure]
                rcases settleWrite_some catalogue k E r.target cid hr hroom with
                  ⟨handled, h, hkept⟩ | ⟨h, hcommit⟩ | ⟨e, h, hfailure⟩
                · exact .inl ⟨handled, by simp [h], fun hmarks => le_of_eq (hkept hmarks)⟩
                · obtain ⟨c', hc', hle⟩ := updateToPublished_some k.ark E.publishedAt hr
                  cases hE : E.commit with
                  | ok u => exact .inl ⟨{ value := true, cell := c' }, by simp [h, hc'], fun _ => hle⟩
                  | error e =>
                      exact .inr ⟨e, by simp [h, hc'], fun hmarks => hcommit (by simpa [commitMarks, hE] using hmarks)⟩
                · exact .inr ⟨e, by simp [h], hfailure⟩
  · simp only [hassigned] at hroom ⊢
    obtain ⟨c', hc'⟩ := markProcessingFailed_some catalogue k.ark
      "Authority not assigned to this Minter" .authorityNotFound true E.failedAt hr (hroom rfl)
    exact .inl ⟨{ value := false, cell := c' }, by simp [hc', Except.map], by simp⟩

theorem publishSingleArk_returns {E : PublishEnv} (hroom : ∀ r, c.record = some r →
    publishAccepts E.readyAt r = true → Room r (publishMarks E r c)) :
    (∃ b, (publishSingleArk catalogue k E c).result = .ok b) ∧
      ((∀ r, c.record = some r → publishAccepts E.readyAt r = true → publishMarks E r c = false) →
        attemptCount (publishSingleArk catalogue k E c).cell ≤ attemptCount c) := by
  unfold publishSingleArk
  cases hr : c.record with
  | none => exact ⟨⟨_, rfl⟩, fun _ => le_rfl⟩
  | some r =>
      by_cases hacc : publishAccepts E.readyAt r = true
      · simp only [hacc, if_true]
        rcases publishBody_some catalogue k E hr (hroom r hr hacc) with
          ⟨handled, h, hkept⟩ | ⟨e, h, hfailure⟩
        · simp only [h]
          exact ⟨⟨_, rfl⟩, fun hmarks => hkept (hmarks r rfl hacc)⟩
        · obtain ⟨failed, hfailed, hkept⟩ := recordFailure_some catalogue k E.failureIdentity e
            E.failedAt hr ((hroom r hr hacc).mono hfailure)
          simp only [h, hfailed]
          refine ⟨⟨_, rfl⟩, fun hmarks => le_of_eq (hkept ?_)⟩
          rw [← Bool.not_eq_true]
          exact fun hdue => by simp [hmarks r rfl hacc] at hfailure; simp [hfailure] at hdue
      · simp only [hacc]
        exact ⟨⟨_, rfl⟩, fun _ => le_rfl⟩

end DarkMinter.Marks
