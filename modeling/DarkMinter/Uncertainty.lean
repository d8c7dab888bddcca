import DarkMinter.Marks

namespace DarkMinter.Uncertainty

open Text Processing Records Repository Publication Attempts Marks

inductive ArkRead : Except Exc ARKInfo → Option ARKInfo → Prop
  | found {info : ARKInfo} : ArkRead (.ok info) (some info)
  | missing {e : Exc} (h : e.cls = .arkNotFound) : ArkRead (.error e) none

def NoAuthority {α : Type} (read : Except Exc α) : Prop := ∃ e, read = .error e ∧ e.cls = .authorityNotFound

def Holds (chain : Except Exc ARKInfo) (item : PipelineItem) : Prop :=
  ∃ info, chain = .ok info ∧ some info.url = item.target ∧ info.cid = item.cid.val

def Differs (chain : Except Exc ARKInfo) (item : PipelineItem) : Prop :=
  ∃ current, ArkRead chain current ∧ ∀ info, current = some info →
    ¬(some info.url = item.target ∧ info.cid = item.cid.val)

def FailedTo (now : Time) (r : ARKRecord) (c c' : Cell) : Prop :=
  ∃ message code, c' = { c with record := some (failedRecord true message code now r) }

def DeferredTo (now : Time) (r : ARKRecord) (c c' : Cell) : Prop :=
  ∃ message, c' = { c with record := some (deferredRecord message .chainRpcUnavailable 60 now r) }

/-- A call that is to record a final failure does so where the counter has room, and else raises. -/
def Fails (now : Time) (r : ARKRecord) (c : Cell) (x : Except Exc Handled) : Prop :=
  (r.processingAttemptCount < smallintMax → ∃ handled, x = .ok handled ∧ FailedTo now r c handled.cell) ∧
    (smallintMax ≤ r.processingAttemptCount → ∃ e, x = .error e)

def Defers (now : Time) (r : ARKRecord) (c : Cell) (x : Except Exc Handled) : Prop :=
  ∃ handled, x = .ok handled ∧ DeferredTo now r c handled.cell

theorem arkRead_ok {info : ARKInfo} {current : Option ARKInfo} : ArkRead (.ok info) current ↔ current = some info := by
  constructor
  · rintro ⟨⟩
    rfl
  · rintro rfl
    exact .found

theorem arkRead_error {e : Exc} {current : Option ARKInfo} :
    ArkRead (.error e) current ↔ e.cls = .arkNotFound ∧ current = none := by
  constructor
  · rintro (_ | h)
    exact ⟨h, rfl⟩
  · rintro ⟨h, rfl⟩
    exact .missing h

@[simp] theorem noAuthority_ok {α : Type} {value : α} : ¬NoAuthority (.ok value : Except Exc α) := by
  rintro ⟨_, h, -⟩
  cases h

@[simp] theorem noAuthority_error {α : Type} {e : Exc} :
    NoAuthority (.error e : Except Exc α) ↔ e.cls = .authorityNotFound := by
  constructor
  · rintro ⟨_, h, he⟩
    cases h
    exact he
  · exact fun he => ⟨e, rfl, he⟩

theorem chainMatches_true {chain : Except Exc ARKInfo} {item : PipelineItem} :
    chainMatches chain item.target item.cid = .ok true ↔ Holds chain item := by
  unfold chainMatches Holds
  cases chain with
  | ok info => simp
  | error e => by_cases he : e.cls = .arkNotFound <;> simp [he]

theorem chainMatches_false {chain : Except Exc ARKInfo} {item : PipelineItem} :
    chainMatches chain item.target item.cid = .ok false ↔ Differs chain item := by
  unfold chainMatches Differs
  cases chain with
  | ok info => simp [arkRead_ok]
  | error e => by_cases he : e.cls = .arkNotFound <;> simp [arkRead_error, he]

section Calls

variable {k : ArkId} {c : Cell} {r : ARKRecord} {now : Time} {message : String} {code : ProcessingErrorCode}

theorem failsPermanently_seeded (hcode : code ∈ chainErrors) : failsPermanently seededCatalogue code true = true := by
  simp only [chainErrors, List.mem_cons, List.not_mem_nil, or_false] at hcode
  rcases hcode with rfl | rfl | rfl | rfl <;> rfl

theorem marked_fails (k : ArkId) (now : Time) (message : String) (hr : c.record = some r) (hcode : code ∈ chainErrors) :
    Fails now r c (marked seededCatalogue k message code now c) := by
  have hpermanent := failsPermanently_seeded hcode
  constructor
  · intro hcount
    obtain ⟨handled, h, -⟩ := marked_some seededCatalogue k message code now hr hcount
    obtain ⟨-, r', hr', -, hc⟩ := marked_ok h
    obtain rfl := Option.some.inj (hr.symm.trans hr')
    exact ⟨handled, h, message, code, by rw [hc, hpermanent]⟩
  · intro hfull
    have hnot : ¬r.processingAttemptCount + 1 ≤ smallintMax := by omega
    simp only [marked, markProcessingFailed, hr, if_neg hnot]
    exact ⟨_, rfl⟩

theorem markedOrAborted_fails (hr : c.record = some r) (hcode : code ∈ chainErrors) :
    Fails now r c (markedOrAborted seededCatalogue k message code now c) := by
  obtain ⟨hroom, hfull⟩ := marked_fails k now message hr hcode
  constructor
  · intro hcount
    obtain ⟨handled, h, hfailed⟩ := hroom hcount
    exact ⟨handled, by rw [markedOrAborted, h], hfailed⟩
  · intro hcount
    obtain ⟨e, he⟩ := hfull hcount
    exact ⟨_, by rw [markedOrAborted, he]⟩

theorem deferred_defers (hr : c.record = some r) :
    Defers now r c (deferred k message .chainRpcUnavailable now c) := by
  simp only [deferred, deferProcessingRetry_some hr]
  exact ⟨_, rfl, message, rfl⟩

theorem Fails.declined {x : Except Exc Handled} (h : Fails now r c x) : Fails now r c (x.map Handled.declined) := by
  constructor
  · intro hcount
    obtain ⟨handled, rfl, hfailed⟩ := h.1 hcount
    exact ⟨handled.declined, rfl, hfailed⟩
  · intro hcount
    obtain ⟨e, rfl⟩ := h.2 hcount
    exact ⟨e, rfl⟩

theorem Defers.declined {x : Except Exc Handled} (h : Defers now r c x) : Defers now r c (x.map Handled.declined) := by
  obtain ⟨handled, rfl, hdeferred⟩ := h
  exact ⟨handled.declined, rfl, hdeferred⟩

end Calls

section

variable [PyLower]

/-- A round of reads, as far as it got, showed the authority missing, no longer the owner, inactive
or not permitted for the NAAN. -/
def Objected (reads : OwnerReads) : Prop :=
  NoAuthority reads.authority ∨ ∃ a, reads.authority = .ok a ∧ (NoAuthority reads.ark ∨
    ∃ current, ArkRead reads.ark current ∧
      ((∃ info, current = some info ∧ lower info.owner ≠ lower a.walletAddress) ∨ a.active = false ∨
        reads.authorized = .ok false ∨ NoAuthority reads.authorized))

def Unobjected (reads : OwnerReads) : Prop :=
  ∃ a current, reads.authority = .ok a ∧ a.active = true ∧ ArkRead reads.ark current ∧
    (∀ info, current = some info → lower info.owner = lower a.walletAddress) ∧ reads.authorized = .ok true

def PublicationShown (item : PipelineItem) (E : ResultEnv) : Prop := Unobjected E.identity ∧ Holds E.chain item

/-- What makes the outcome a failure: an objection, or a revert that the readable chain bears out,
for its own message or for an objection of the second round of reads. -/
def FailureShown (item : PipelineItem) (result : ARKPublishResult) (E : ResultEnv) : Prop :=
  Objected E.identity ∨
    Unobjected E.identity ∧ Differs E.chain item ∧ result.status = "reverted" ∧
      (Objected E.failureIdentity ∨
        Unobjected E.failureIdentity ∧ isInfrastructureError ⟨.runtime, result.message⟩ = false)

variable {reads : OwnerReads} {k : ArkId} {c : Cell} {r : ARKRecord} {now : Time}

theorem identityPasses_iff : identityPasses reads = true ↔ Unobjected reads := by
  obtain ⟨authority, ark, authorized⟩ := reads
  unfold identityPasses identityVerdict Unobjected
  simp only [bind, Except.bind, pure, Except.pure]
  rcases authority with e | a
  · simp
  · rcases ark with e | info
    · simp only [arkRead_error]
      by_cases he : e.cls = .arkNotFound
      · simp only [he, if_true]
        cases hactive : a.active <;> rcases authorized with e' | _ | _ <;> simp [hactive]
      · simp [he]
    · simp only [arkRead_ok]
      by_cases howner : lower info.owner = lower a.walletAddress <;>
      cases hactive : a.active <;> rcases authorized with e' | _ | _ <;> simp [hactive, howner]

theorem identityMarks_iff : identityMarks reads = true ↔ Objected reads := by
  obtain ⟨authority, ark, authorized⟩ := reads
  unfold identityMarks identityVerdict Objected
  simp only [bind, Except.bind, pure, Except.pure]
  rcases authority with e | a
  · simp
  · rcases ark with e | info
    · simp only [arkRead_error]
      by_cases he : e.cls = .arkNotFound
      · simp only [he, if_true]
        cases hactive : a.active <;> rcases authorized with e' | _ | _ <;> simp [hactive, he]
      · simp [he]
    · simp only [arkRead_ok]
      by_cases howner : lower info.owner = lower a.walletAddress <;>
      cases hactive : a.active <;> rcases authorized with e' | _ | _ <;> simp [hactive, howner]

theorem Unobjected.not_objected (h : Unobjected reads) : ¬Objected reads := by
  rw [← identityPasses_iff] at h
  rw [← identityMarks_iff]
  unfold identityPasses at h
  unfold identityMarks
  split at h
  · rename_i hverdict
    simp [hverdict]
  · cases h

theorem reconcileFailedIdentity_outcome (k : ArkId) (reads : OwnerReads) (now : Time) (hr : c.record = some r) :
    (Objected reads → Fails now r c (reconcileFailedIdentity seededCatalogue k reads now c)) ∧
      (Unobjected reads → reconcileFailedIdentity seededCatalogue k reads now c = .ok { value := false, cell := c }) ∧
      (¬Objected reads → ¬Unobjected reads →
        Defers now r c (reconcileFailedIdentity seededCatalogue k reads now c)) := by
  rw [← identityMarks_iff, ← identityPasses_iff]
  simp only [identityMarks, identityPasses, reconcileFailedIdentity, hr]
  rcases identityVerdict reads with e | verdict
  · by_cases he : e.cls = .authorityNotFound
    · simp only [he, if_true, decide_true]
      exact ⟨fun _ => marked_fails _ _ _ hr (by decide), nofun, fun h => absurd trivial h⟩
    · simp only [he, if_false, decide_false]
      exact ⟨nofun, nofun, fun _ _ => deferred_defers hr⟩
  · cases verdict with
    | changed | inactive | revoked =>
        exact ⟨fun _ => markedOrAborted_fails hr (by decide), nofun, fun h => absurd rfl h⟩
    | unobjected => exact ⟨nofun, fun _ => rfl, fun _ h => absurd rfl h⟩

theorem recordFailure_unobjected {e : Exc} (hr : c.record = some r) (hpass : Unobjected reads)
    (hcls : e.cls = .runtime) :
    recordFailure seededCatalogue k reads e now c =
      if isInfrastructureError e then deferred k ("blockchain publish failed: " ++ e.text) .chainRpcUnavailable now c
      else marked seededCatalogue k ("blockchain publish failed: " ++ e.text) .chainReverted now c := by
  simp only [recordFailure, (reconcileFailedIdentity_outcome k reads now hr).2.1 hpass, hcls, bind, Except.bind]
  rfl

theorem identity_value {handled : Handled} (hr : c.record = some r) (hpass : ¬Unobjected reads)
    (h : reconcileFailedIdentity seededCatalogue k reads now c = .ok handled) : handled.value = true := by
  rcases reconcileFailedIdentity_chain h with ⟨-, -, hnone | hverdict⟩ | ⟨hv, -⟩
  · rw [hr] at hnone
    cases hnone
  · refine absurd (identityPasses_iff.mp ?_) hpass
    rw [identityPasses, hverdict]
  · exact hv

theorem recordFailure_objected {e : Exc} (hr : c.record = some r) (hpass : ¬Unobjected reads) :
    recordFailure seededCatalogue k reads e now c = reconcileFailedIdentity seededCatalogue k reads now c := by
  cases hidentity : reconcileFailedIdentity seededCatalogue k reads now c with
  | error e' => simp only [recordFailure, hidentity, bind, Except.bind]
  | ok identity =>
      simp only [recordFailure, hidentity, bind, Except.bind, identity_value hr hpass hidentity, if_true]
      rfl

theorem recordFailure_outcome {e : Exc} (k : ArkId) (reads : OwnerReads) (now : Time) (hr : c.record = some r)
    (hcls : e.cls = .runtime) :
    (Objected reads ∨ Unobjected reads ∧ isInfrastructureError e = false →
        Fails now r c (recordFailure seededCatalogue k reads e now c)) ∧
      (¬(Objected reads ∨ Unobjected reads ∧ isInfrastructureError e = false) →
        Defers now r c (recordFailure seededCatalogue k reads e now c)) := by
  obtain ⟨hfails, -, hdefers⟩ := reconcileFailedIdentity_outcome k reads now hr
  by_cases hpass : Unobjected reads
  · have hobjected := hpass.not_objected
    rw [recordFailure_unobjected hr hpass hcls]
    cases hinfra : isInfrastructureError e with
    | true => exact ⟨fun h => by simp [hobjected] at h, fun _ => deferred_defers hr⟩
    | false => exact ⟨fun _ => marked_fails _ _ _ hr (by decide), fun h => absurd (.inr ⟨hpass, rfl⟩) h⟩
  · rw [recordFailure_objected hr hpass]
    exact ⟨fun h => hfails (h.resolve_right fun h => hpass h.1), fun h => hdefers (fun ho => h (.inl ho)) hpass⟩

variable {item : PipelineItem} {result : ARKPublishResult} {E : ResultEnv}

theorem handleUnconfirmed_objected (hr : c.record = some r) (hpass : ¬Unobjected E.identity) :
    handleUnconfirmed seededCatalogue item result E c =
      (reconcileFailedIdentity seededCatalogue item.ark E.identity E.now c).map Handled.declined := by
  cases hidentity : reconcileFailedIdentity seededCatalogue item.ark E.identity E.now c with
  | error e => simp only [handleUnconfirmed, hidentity, bind, Except.bind, Except.map]
  | ok identity =>
      simp only [handleUnconfirmed, hidentity, bind, Except.bind, identity_value hr hpass hidentity, if_true]
      rfl

omit [PyLower] in
theorem finalize_current (hcurrent : isCurrent item c = true) (hr : c.record = some r) :
    finalizePipelineConfirmation item now c =
      .ok { value := true, cell := { c with record := some (publishedRecord now r) } } := by
  obtain ⟨r', m, hr', -, -, hstate, -⟩ := isCurrent_iff.mp hcurrent
  obtain rfl := Option.some.inj (hr.symm.trans hr')
  simp only [finalizePipelineConfirmation, hcurrent, if_true, updateToPublished, hr, hstate, List.mem_singleton]
  rfl

theorem handleUnconfirmed_unobjected (hcurrent : isCurrent item c = true) (hr : c.record = some r)
    (hpass : Unobjected E.identity) :
    handleUnconfirmed seededCatalogue item result E c =
      match chainMatches E.chain item.target item.cid with
      | .ok true => .ok { value := true, cell := { c with record := some (publishedRecord E.now r) } }
      | .ok false =>
          if result.status = "reverted" then
            (recordFailure seededCatalogue item.ark E.failureIdentity ⟨.runtime, result.message⟩ E.now c).map
              Handled.declined
          else (deferred item.ark ("blockchain pipeline " ++ result.status ++ ": " ++ result.message)
            .chainRpcUnavailable E.now c).map Handled.declined
      | .error e => (deferred item.ark ("blockchain publication reconciliation failed: " ++ e.text)
          .chainRpcUnavailable E.now c).map Handled.declined := by
  have hidentity := (reconcileFailedIdentity_outcome item.ark E.identity E.now hr).2.1 hpass
  simp only [handleUnconfirmed, hidentity, bind, Except.bind, Bool.false_eq_true, if_false, reconcileOnChain]
  rcases chainMatches E.chain item.target item.cid with e | _ | _
  · rfl
  · rfl
  · simp only [if_true, finalize_current hcurrent hr]
    rfl

theorem handleUnconfirmed_outcome (result : ARKPublishResult) (E : ResultEnv) (hcurrent : isCurrent item c = true)
    (hr : c.record = some r) :
    (PublicationShown item E → ∃ handled, handleUnconfirmed seededCatalogue item result E c = .ok handled ∧
        handled.cell = { c with record := some (publishedRecord E.now r) }) ∧
      (FailureShown item result E → Fails E.now r c (handleUnconfirmed seededCatalogue item result E c)) ∧
      (¬PublicationShown item E → ¬FailureShown item result E →
        Defers E.now r c (handleUnconfirmed seededCatalogue item result E c)) := by
  obtain ⟨hfails, -, hdefers⟩ := reconcileFailedIdentity_outcome item.ark E.identity E.now hr
  by_cases hpass : Unobjected E.identity
  · rw [handleUnconfirmed_unobjected hcurrent hr hpass]
    have hobjected := hpass.not_objected
    have hshown : FailureShown item result E ↔ Differs E.chain item ∧ result.status = "reverted" ∧
        (Objected E.failureIdentity ∨
          Unobjected E.failureIdentity ∧ isInfrastructureError ⟨.runtime, result.message⟩ = false) := by
      rw [FailureShown, or_iff_right hobjected, and_iff_right hpass]
    rw [hshown, PublicationShown, and_iff_right hpass, ← chainMatches_true, ← chainMatches_false]
    rcases chainMatches E.chain item.target item.cid with e | _ | _
    · exact ⟨nofun, fun h => absurd h.1 nofun, fun _ _ => (deferred_defers hr).declined⟩
    · obtain ⟨hfailed, hdeferred⟩ := recordFailure_outcome (e := ⟨.runtime, result.message⟩) item.ark
        E.failureIdentity E.now hr rfl
      by_cases hstatus : result.status = "reverted"
      · simp only [hstatus, if_true, true_and]
        exact ⟨nofun, fun h => (hfailed h).declined, fun _ h => (hdeferred h).declined⟩
      · simp only [hstatus, if_false, false_and, and_false]
        exact ⟨nofun, nofun, fun _ _ => (deferred_defers hr).declined⟩
    · exact ⟨fun _ => ⟨_, rfl, rfl⟩, fun h => absurd h.1 nofun, fun h => absurd rfl h⟩
  · rw [handleUnconfirmed_objected hr hpass]
    refine ⟨fun h => absurd h.1 hpass, fun h => ?_, fun _ h => ?_⟩
    · exact (hfails (h.resolve_right fun h => hpass h.1)).declined
    · exact (hdefers (fun ho => h (.inl ho)) hpass).declined

/-- The outcome of a result that is no confirmation, by the reads that were made. -/
structure Settled (item : PipelineItem) (result : ARKPublishResult) (E : ResultEnv) (r : ARKRecord) (c c' : Cell)
    (r' : ARKRecord) : Prop where
  record : c'.record = some r'
  metadata : c'.metadata = c.metadata
  published : r'.state = .published ↔ PublicationShown item E
  failed : r'.processingStatus = .failed → FailureShown item result E
  waits : r'.state ≠ .published → r'.processingStatus ≠ .failed →
    r'.processingStatus = .waiting ∧ (∃ t, r'.nextActionAt = some t ∧ E.now < t) ∧
      r'.processingAttemptCount = r.processingAttemptCount

theorem settled_failed {c' : Cell} (hlive : r.state ≠ .published) (hpublish : ¬PublicationShown item E)
    (hshown : FailureShown item result E) (h : FailedTo E.now r c c') : ∃ r', Settled item result E r c c' r' := by
  obtain ⟨message, code, rfl⟩ := h
  refine ⟨_, rfl, rfl, ?_, fun _ => hshown, fun _ hnot => absurd rfl hnot⟩
  exact ⟨fun h => absurd h hlive, fun h => absurd h hpublish⟩

theorem settled_deferred (result : ARKPublishResult) {c' : Cell} (hlive : r.state ≠ .published)
    (hpublish : ¬PublicationShown item E) (h : DeferredTo E.now r c c') : ∃ r', Settled item result E r c c' r' := by
  obtain ⟨message, rfl⟩ := h
  refine ⟨_, rfl, rfl, ⟨fun h => absurd h hlive, fun h => absurd h hpublish⟩, nofun, fun _ _ => ?_⟩
  refine ⟨rfl, ⟨_, rfl, ?_⟩, rfl⟩
  exact Int.lt_add_of_pos_right E.now (by decide)

theorem settled_published (hshown : PublicationShown item E) :
    Settled item result E r c { c with record := some (publishedRecord E.now r) } (publishedRecord E.now r) :=
  ⟨rfl, rfl, iff_of_true rfl hshown, nofun, fun h => absurd rfl h⟩

/-- An uncertain result is no failure: a result that is no confirmation is settled by what the reads
showed exactly where a failure that is to be recorded has room in the counter. -/
theorem uncertainty_settled_iff (hlive : item.state = .draft ∨ item.state = .update)
    (hcurrent : isCurrent item c = true) (hr : c.record = some r) (hstatus : result.status ≠ "confirmed") :
    (∃ handled r', handlePipelineResult seededCatalogue item result E c = .ok handled ∧
        Settled item result E r c handled.cell r') ↔
      (FailureShown item result E → r.processingAttemptCount < smallintMax) := by
  have hunpublished : r.state ≠ .published := by
    obtain ⟨r', m, hr', -, -, hstate, -⟩ := isCurrent_iff.mp hcurrent
    obtain rfl := Option.some.inj (hr.symm.trans hr')
    rcases hlive with h | h <;> simp [hstate, h]
  obtain ⟨hpublishes, hfails, hdefers⟩ := handleUnconfirmed_outcome result E hcurrent hr
  rw [handlePipelineResult, if_pos hcurrent, settleResult, if_neg hstatus]
  constructor
  · rintro ⟨handled, r', hok, -⟩ hshown
    refine Nat.lt_of_not_le fun hfull => ?_
    obtain ⟨e, he⟩ := (hfails hshown).2 hfull
    rw [he] at hok
    cases hok
  · intro hroom
    by_cases hpublish : PublicationShown item E
    · obtain ⟨handled, hok, hc⟩ := hpublishes hpublish
      exact ⟨handled, _, hok, hc ▸ settled_published hpublish⟩
    · by_cases hshown : FailureShown item result E
      · obtain ⟨handled, hok, hfailed⟩ := (hfails hshown).1 (hroom hshown)
        obtain ⟨r', hsettled⟩ := settled_failed hunpublished hpublish hshown hfailed
        exact ⟨handled, r', hok, hsettled⟩
      · obtain ⟨handled, hok, hdeferred⟩ := hdefers hpublish hshown
        obtain ⟨r', hsettled⟩ := settled_deferred result hunpublished hpublish hdeferred
        exact ⟨handled, r', hok, hsettled⟩

end

section Sample

attribute [local instance] asciiText

def record (attempts : Nat) : ARKRecord :=
  { state := .draft, authorityId := "A", target := some "https://repo.example.org/1", createdAt := 0, updatedAt := 0,
    processingStage := .chain, processingStatus := .ready, processingAttemptCount := attempts }

def cellAfter (attempts : Nat) : Cell where
  record := some (record attempts)
  metadata := some
    { level1Json := some .null, originalContent := some "m", originalSchema := "s", level1Cid := some ⟨"c", by decide⟩,
      originalCid := some ⟨"d", by decide⟩, createdAt := 0, updatedAt := 0 }

def submitted : PipelineItem where
  ark := ⟨"12345", "a"⟩
  authorityId := "A"
  state := .draft
  target := some "https://repo.example.org/1"
  cid := ⟨"c", by decide⟩

def lost : ARKPublishResult := { ref := ⟨"12345", "a"⟩, status := "ambiguous" }

def readsOf (active : Bool) : OwnerReads where
  authority := .ok ⟨"0xab", active⟩
  ark := .error ⟨.arkNotFound, "ARK not found"⟩
  authorized := .ok true

def unreadable (active : Bool) : ResultEnv where
  identity := readsOf active
  chain := .error ⟨.timeout, "timed out"⟩
  failureIdentity := readsOf active
  now := 7

theorem objected_inactive : Objected (readsOf false) :=
  .inr ⟨_, rfl, .inr ⟨none, .missing rfl, .inr (.inl rfl)⟩⟩

theorem uncertainty_settled_unreadable :
    ∃ handled r', handlePipelineResult seededCatalogue submitted lost (unreadable true) (cellAfter 0) = .ok handled ∧
      Settled submitted lost (unreadable true) (record 0) (cellAfter 0) handled.cell r' :=
  (uncertainty_settled_iff (.inl rfl) (by decide) rfl (by decide)).mpr fun _ => by decide

/-- The failure of an item whose counter is full is not recorded. -/
theorem inactive_unrecorded :
    isCurrent submitted (cellAfter smallintMax) = true ∧ lost.status ≠ "confirmed" ∧
      FailureShown submitted lost (unreadable false) ∧
      (∃ e, handlePipelineResult seededCatalogue submitted lost (unreadable false) (cellAfter smallintMax) = .error e) ∧
      ¬∃ handled r', handlePipelineResult seededCatalogue submitted lost (unreadable false) (cellAfter smallintMax) =
          .ok handled ∧ Settled submitted lost (unreadable false) (record smallintMax) (cellAfter smallintMax)
            handled.cell r' := by
  have hcurrent : isCurrent submitted (cellAfter smallintMax) = true := by decide
  have hshown : FailureShown submitted lost (unreadable false) := .inl objected_inactive
  have hraises : ∃ e, handlePipelineResult seededCatalogue submitted lost (unreadable false)
      (cellAfter smallintMax) = .error e := by
    rw [handlePipelineResult, if_pos hcurrent, settleResult, if_neg (by decide)]
    exact ((handleUnconfirmed_outcome lost (unreadable false) hcurrent rfl).2.1 hshown).2 (Nat.le_refl _)
  refine ⟨hcurrent, by decide, hshown, hraises, ?_⟩
  rintro ⟨handled, _, hok, -⟩
  obtain ⟨e, he⟩ := hraises
  rw [he] at hok
  cases hok

end Sample

end DarkMinter.Uncertainty
