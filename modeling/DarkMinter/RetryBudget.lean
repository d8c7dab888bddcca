import DarkMinter.StagedPayload
import DarkMinter.Attempts

namespace DarkMinter.RetryBudget

open Text Processing Records Repository Authority ArkApi Requests Persistence Attempts StagedPayload

def Queued (c : Cell) : Prop :=
  ∃ r m, c.record = some r ∧ c.metadata = some m ∧ (r.state = .draft ∨ r.state = .update) ∧
    r.processingStage = .metadata ∧ m.level1Cid = none ∧
    (r.processingStatus = .ready ∨ r.processingStatus = .waiting ∧ r.nextActionAt.isSome)

def Advanced (c : Cell) : Prop :=
  ∃ r, c.record = some r ∧ r.processingStage = .availability ∧ r.processingStatus = .ready

/-- What the retry budget promises of a record that has used it up. -/
def Exhausted (c : Cell) : Prop :=
  ∃ r, c.record = some r ∧ r.processingStatus = .failed ∧ ∀ now, metadataPendingPersist now c = false

theorem Queued.selected {c : Cell} (h : Queued c) :
    ∃ due, ∀ now, due ≤ now → metadataPendingPersist now c = true := by
  obtain ⟨r, m, hr, hm, hstate, hstage, hcid, hstatus⟩ := h
  have hpending : r.state ∈ [ARKState.draft, ARKState.update] := by simpa using hstate
  rcases hstatus with hstatus | ⟨hstatus, hnext⟩
  · refine ⟨0, fun now _ => ?_⟩
    simp [metadataPendingPersist, hr, hm, hstate, hstage, hcid, readyForProcessing, hstatus]
  · obtain ⟨due, hdue⟩ := Option.isSome_iff_exists.mp hnext
    refine ⟨due, fun now hnow => ?_⟩
    simp [metadataPendingPersist, hr, hm, hstate, hstage, hcid, readyForProcessing, hstatus, hdue, hnow]

theorem Queued.not_failed {c : Cell} (h : Queued c) {r : ARKRecord} (hr : c.record = some r) :
    r.processingStatus ≠ .failed := by
  obtain ⟨r', -, hr', -, -, -, -, hstatus⟩ := h
  obtain rfl := Option.some.inj (hr.symm.trans hr')
  rcases hstatus with h | ⟨h, -⟩ <;> simp [h]

section

variable [PyLower] {catalogue : ErrorCatalogue} {k : ArkId} {c : Cell}

theorem persistFailure_queued (hcode : catalogue .storageInvalidResponse = some true) (E : PersistEnv)
    (e : Exc) (h : Queued c) : Queued (persistFailure catalogue k E e c).cell := by
  obtain ⟨r, m, hr, hm, hstate, hstage, hcid, hstatus⟩ := h
  unfold persistFailure
  simp only
  split
  · rw [deferProcessingRetry_some hr]
    exact ⟨_, m, rfl, hm, hstate, hstage, hcid, .inr ⟨rfl, rfl⟩⟩
  · simp only [markProcessingFailed, hr, failsPermanently, hcode, Bool.not_true]
    by_cases hcount : r.processingAttemptCount + 1 ≤ smallintMax
    · simp only [hcount, if_true]
      exact ⟨_, m, rfl, hm, hstate, hstage, hcid, .inr ⟨rfl, rfl⟩⟩
    · simp only [hcount, if_false]
      exact ⟨r, m, hr, hm, hstate, hstage, hcid, hstatus⟩

theorem persist_queued (hcode : catalogue .storageInvalidResponse = some true) (E : PersistEnv)
    (h : Queued c) :
    Queued (persist catalogue k E c).cell ∨ Advanced (persist catalogue k E c).cell := by
  have hkeep := h
  obtain ⟨r, m, hr, -⟩ := h
  simp only [persist, hr]
  by_cases hacc : persistAccepts E.readyAt r = true
  · simp only [hacc, if_true]
    cases hbody : persistBody E r c with
    | error e => exact .inl (persistFailure_queued hcode E e hkeep)
    | ok c' =>
        obtain ⟨m', _, _, -, -, -, rfl⟩ := persistBody_ok hbody
        exact .inr ⟨_, rfl, rfl, rfl⟩
  · simp only [hacc]
    exact .inl hkeep

theorem persist_advanced (E : PersistEnv) (h : Advanced c) : (persist catalogue k E c).cell = c := by
  obtain ⟨r, hr, hstage, -⟩ := h
  simp [persist, hr, persistAccepts, hstage]

def attempts (catalogue : ErrorCatalogue) (k : ArkId) : List PersistEnv → Cell → Cell
  | [], c => c
  | E :: Es, c => attempts catalogue k Es (persist catalogue k E c).cell

/-- How many attempts of a run count as permanent failures in the statistics
of the worker: those that failed for another reason than the infrastructure. -/
def permanentFailures (catalogue : ErrorCatalogue) (k : ArkId) : List PersistEnv → Cell → Nat
  | [], _ => 0
  | E :: Es, c => (persist catalogue k E c).stats.permanentFailures +
      permanentFailures catalogue k Es (persist catalogue k E c).cell

theorem attempts_append (Es Fs : List PersistEnv) :
    attempts catalogue k (Es ++ Fs) c = attempts catalogue k Fs (attempts catalogue k Es c) := by
  induction Es generalizing c with
  | nil => rfl
  | cons E Es ih => exact ih

theorem permanentFailures_append (Es Fs : List PersistEnv) :
    permanentFailures catalogue k (Es ++ Fs) c =
      permanentFailures catalogue k Es c +
        permanentFailures catalogue k Fs (attempts catalogue k Es c) := by
  induction Es generalizing c with
  | nil => simp [permanentFailures, attempts]
  | cons E Es ih =>
      simp only [List.cons_append, permanentFailures, attempts]
      rw [ih, Nat.add_assoc]

theorem attempts_queued (hcode : catalogue .storageInvalidResponse = some true) (Es : List PersistEnv)
    (h : Queued c ∨ Advanced c) :
    Queued (attempts catalogue k Es c) ∨ Advanced (attempts catalogue k Es c) := by
  induction Es generalizing c with
  | nil => exact h
  | cons E Es ih =>
      unfold attempts
      refine ih ?_
      rcases h with h | h
      · exact persist_queued hcode E h
      · rw [persist_advanced E h]
        exact .inr h

theorem queued_of_staged {A : String} {request : UpdateARKMetadataRequest} {E : PutEnv} {c₀ : Cell}
    (h : Staged k A request E c₀ c) : Queued c := by
  obtain ⟨b, r, json, -, -, -, -, -, -, rfl⟩ := h.ex
  obtain ⟨m, hm, -, -, -, hcid, -⟩ :=
    staged_metadata request E.now json r b
  exact ⟨_, m, rfl, hm, stagedRecord_state, rfl, hcid, .inl rfl⟩

/-- No run of attempts on a staged payload uses its budget up, however many of
them fail: the payload is stored in the end, or due again some time. -/
theorem budget_never_exhausts {A : String} {request : UpdateARKMetadataRequest} {E : PutEnv} {c₀ : Cell}
    (hstaged : Staged k A request E c₀ c) (Es : List PersistEnv) :
    ¬Exhausted (attempts seededCatalogue k Es c) ∧
      ∀ r, (attempts seededCatalogue k Es c).record = some r → r.processingStatus ≠ .failed ∧
        (r.processingStage = .metadata → ∃ due, ∀ now, due ≤ now →
          metadataPendingPersist now (attempts seededCatalogue k Es c) = true) := by
  have hlive : ∀ r, (attempts seededCatalogue k Es c).record = some r → r.processingStatus ≠ .failed ∧
      (r.processingStage = .metadata → ∃ due, ∀ now, due ≤ now →
        metadataPendingPersist now (attempts seededCatalogue k Es c) = true) := by
    intro r hr
    rcases attempts_queued (show seededCatalogue .storageInvalidResponse = some true from rfl) Es
      (.inl (queued_of_staged hstaged)) with h | ⟨r', hr', hstage, hstatus⟩
    · exact ⟨h.not_failed hr, fun _ => h.selected⟩
    · obtain rfl := Option.some.inj (hr.symm.trans hr')
      exact ⟨by simp [hstatus], fun h => by simp [hstage] at h⟩
  refine ⟨?_, hlive⟩
  rintro ⟨r, hr, hfailed, -⟩
  exact (hlive r hr).1 hfailed

end

section Sample

attribute [local instance] asciiText

open Deployment.Sample

def faulty : Storage where
  storeLevel2 _ _ _ := .error (valueError "invalid response")
  storeLevel1WithLevel2Reference _ _ := .error (valueError "invalid response")

def failing (i : Nat) : PersistEnv :=
  { readyAt := seconds (60 * i), storage := faulty, storedAt := seconds (60 * i),
    failedAt := seconds (60 * i) }

/-- The ARK is due at the failing attempt number `n` and has failed `n` times. -/
def FailedTimes (n : Nat) (c : Cell) : Prop :=
  ∃ r m, c.record = some r ∧ c.metadata = some m ∧ m.originalCid = none ∧
    m.originalMediaType = some "text/xml" ∧ m.originalContent.isSome ∧
    persistAccepts (seconds (60 * n)) r = true ∧ r.processingAttemptCount = n

theorem persistBody_failing {n i : Nat} {c : Cell} (h : FailedTimes n c) {r : ARKRecord} :
    persistBody (failing i) r c = .error (valueError "invalid response") := by
  obtain ⟨_, m, -, hm, hcid, hmedia, hcontent, -, -⟩ := h
  obtain ⟨content, hcontent⟩ := Option.isSome_iff_exists.mp hcontent
  simp [persistBody, hm, persistLevel2, hcid, hmedia, hcontent, failing, faulty, bind, Except.bind]

theorem notInfrastructure : isInfrastructureError (valueError "invalid response") = false := by decide

theorem readyForProcessing_failed {message : String} {code : ProcessingErrorCode} {now later : Time}
    {r : ARKRecord} (h : now + seconds 60 ≤ later) :
    readyForProcessing (failedRecord false message code now r) later = true :=
  decide_eq_true h

theorem failedTimes_step {n : Nat} {k : ArkId} {c : Cell} (h : FailedTimes n c) (hn : n < smallintMax) :
    (persist seededCatalogue k (failing n) c).stats.permanentFailures = 1 ∧
      FailedTimes (n + 1) (persist seededCatalogue k (failing n) c).cell := by
  have hbody : ∀ r, persistBody (failing n) r c = .error (valueError "invalid response") :=
    fun r => persistBody_failing h
  obtain ⟨r, m, hr, hm, hcid, hmedia, hcontent, hacc, hcount⟩ := h
  have hcode : failsPermanently seededCatalogue .storageInvalidResponse true = false := rfl
  have hready : (failing n).readyAt = seconds (60 * n) := rfl
  have hfailed : (failing n).failedAt = seconds (60 * n) := rfl
  have hfits : r.processingAttemptCount + 1 ≤ smallintMax := by omega
  have hdue : seconds (60 * n) + seconds 60 ≤ seconds (60 * ((n + 1 : Nat) : Int)) := by
    change (60 * n * 1000000 + 60 * 1000000 : Int) ≤ 60 * ((n + 1 : Nat) : Int) * 1000000
    omega
  simp only [persist, hr, hready, hacc, if_true, hbody, persistFailure, notInfrastructure,
    markProcessingFailed, hfits, Bool.false_eq_true, if_false, hcode]
  refine ⟨trivial, _, m, rfl, hm, hcid, hmedia, hcontent, ?_, by simp only [failedRecord, hcount]⟩
  simp only [persistAccepts, Bool.and_eq_true] at hacc ⊢
  refine ⟨hacc.1, ?_⟩
  rw [hfailed]
  exact readyForProcessing_failed hdue

theorem failedTimes_attempts {n : Nat} {k : ArkId} {c : Cell} (h : FailedTimes 0 c)
    (hn : n ≤ smallintMax) :
    permanentFailures seededCatalogue k ((List.range n).map failing) c = n ∧
      FailedTimes n (attempts seededCatalogue k ((List.range n).map failing) c) := by
  induction n with
  | zero => exact ⟨rfl, h⟩
  | succ n ih =>
      obtain ⟨hfailures, htimes⟩ := ih (by omega)
      obtain ⟨hone, hnext⟩ := failedTimes_step (k := k) htimes (by omega)
      rw [List.range_succ, List.map_append, permanentFailures_append, attempts_append, hfailures]
      exact ⟨by simpa [permanentFailures] using hone, hnext⟩

theorem staged_sample : Staged ark "A" request putEnv reserved (put owner ark request putEnv reserved).2 := by
  have hm : (put owner ark request putEnv reserved).2.metadata.isSome = true := by decide
  rcases put_rows owner ark request putEnv reserved with h | h
  · generalize (put owner ark request putEnv reserved).2 = c' at h hm
    cases h with
    | same => cases hm
    | raced hnone => cases hnone
  · exact h

theorem failedTimes_staged : FailedTimes 0 (put owner ark request putEnv reserved).2 := by
  obtain ⟨b, r, json, -, -, -, -, -, -, hc⟩ := staged_sample.ex
  rw [hc]
  obtain ⟨m, hm, hcontent, hmedia, -, -, hcid⟩ :=
    staged_metadata request putEnv.now json r b
  have htype : normalizeMediaType request.metadataMediaType = "text/xml" := by decide
  refine ⟨_, m, rfl, hm, hcid, hmedia.trans (by rw [htype]), by simp [hcontent], ?_, rfl⟩
  exact persistAccepts_staged

theorem budget_never_exhausts_sample :
    ¬Exhausted (attempts seededCatalogue ark [failing 0] (put owner ark request putEnv reserved).2) :=
  (budget_never_exhausts staged_sample [failing 0]).1

/-- Five failures of five allowed, and the ARK is waiting for the sixth attempt. -/
theorem five_failures_not_exhausted :
    5 ≤ permanentFailures seededCatalogue ark ((List.range 5).map failing)
      (put owner ark request putEnv reserved).2 ∧
    ¬Exhausted (attempts seededCatalogue ark ((List.range 5).map failing)
      (put owner ark request putEnv reserved).2) := by
  refine ⟨by decide, ?_⟩
  rintro ⟨r, hr, hfailed, -⟩
  have h : (attempts seededCatalogue ark ((List.range 5).map failing)
      (put owner ark request putEnv reserved).2).record.map (·.processingStatus) = some .waiting := by
    decide
  simp [hr, hfailed] at h

end Sample

end DarkMinter.RetryBudget
