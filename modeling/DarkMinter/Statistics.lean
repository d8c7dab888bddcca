import DarkMinter.Marks

namespace DarkMinter.Statistics

open Text Processing Records Repository Persistence Publication Attempts

/-- What the chain worker wrote to the row `r`, and what it counted for it. -/
inductive Recorded (catalogue : ErrorCatalogue) (now : Time) (r : ARKRecord) (c : Cell) : Cell → Stats → Prop
  | failed {message : String} {code : ProcessingErrorCode} (hcode : code ∈ chainErrors) :
      Recorded catalogue now r c
        { c with record := some (failedRecord (failsPermanently catalogue code true) message code now r) }
        { permanentFailures := 1 }
  | deferred {message : String} : Recorded catalogue now r c
      { c with record := some (deferredRecord message .chainRpcUnavailable 60 now r) } { deferred := 1 }

/-- How a result of the pipeline is settled for the item it was submitted for. -/
inductive Settled (catalogue : ErrorCatalogue) (now : Time) (r : ARKRecord) (c : Cell) : Handled → Prop
  | published : Settled catalogue now r c { value := true, cell := { c with record := some (publishedRecord now r) } }
  | recorded {c' : Cell} {stats : Stats} (h : Recorded catalogue now r c c' stats) :
      Settled catalogue now r c { value := false, cell := c', stats }

variable {catalogue : ErrorCatalogue} {k : ArkId} {message : String} {code : ProcessingErrorCode} {now : Time}
  {r : ARKRecord} {c : Cell} {handled : Handled}

theorem marked_recorded (hr : c.record = some r) (hcode : code ∈ chainErrors)
    (h : marked catalogue k message code now c = .ok handled) :
    handled.value = true ∧ Recorded catalogue now r c handled.cell handled.stats := by
  unfold marked at h
  cases hm : markProcessingFailed catalogue k.ark message code true now c with
  | error e =>
      rw [hm] at h
      cases h
  | ok c' =>
      rw [hm] at h
      obtain rfl := Except.ok.inj h
      obtain ⟨r', hr', -, rfl⟩ := markProcessingFailed_ok hm
      obtain rfl := Option.some.inj (hr.symm.trans hr')
      exact ⟨rfl, .failed hcode⟩

theorem markedOrAborted_recorded (hr : c.record = some r) (hcode : code ∈ chainErrors)
    (h : markedOrAborted catalogue k message code now c = .ok handled) :
    handled.value = true ∧ Recorded catalogue now r c handled.cell handled.stats := by
  unfold markedOrAborted at h
  split at h
  · rename_i hm
    obtain rfl := Except.ok.inj h
    exact marked_recorded hr hcode hm
  · cases h

theorem deferred_recorded (hr : c.record = some r)
    (h : deferred k message .chainRpcUnavailable now c = .ok handled) :
    handled.value = true ∧ Recorded catalogue now r c handled.cell handled.stats := by
  rw [deferred, deferProcessingRetry_some hr] at h
  obtain rfl := Except.ok.inj h
  exact ⟨rfl, .deferred⟩

section

variable [PyLower]

theorem reconcileFailedIdentity_recorded {reads : OwnerReads} (hr : c.record = some r)
    (h : reconcileFailedIdentity catalogue k reads now c = .ok handled) :
    handled = { value := false, cell := c } ∨
      handled.value = true ∧ Recorded catalogue now r c handled.cell handled.stats := by
  unfold reconcileFailedIdentity at h
  simp only [hr] at h
  split at h
  · exact Or.inr (markedOrAborted_recorded hr (by decide) h)
  · exact Or.inr (markedOrAborted_recorded hr (by decide) h)
  · exact Or.inr (markedOrAborted_recorded hr (by decide) h)
  · exact Or.inl (Except.ok.inj h).symm
  · split at h
    · exact Or.inr (marked_recorded hr (by decide) h)
    · exact Or.inr (deferred_recorded hr h)

theorem recordFailure_recorded {reads : OwnerReads} {e : Exc} (hr : c.record = some r)
    (h : recordFailure catalogue k reads e now c = .ok handled) :
    Recorded catalogue now r c handled.cell handled.stats := by
  unfold recordFailure at h
  cases hi : reconcileFailedIdentity catalogue k reads now c with
  | error e' =>
      rw [hi] at h
      cases h
  | ok identity =>
      simp only [hi, bind, Except.bind] at h
      rcases reconcileFailedIdentity_recorded hr hi with rfl | ⟨hv, hrecorded⟩
      · simp only [Bool.false_eq_true, if_false] at h
        split at h
        · exact (marked_recorded hr (by decide) h).2
        · split at h
          · exact (marked_recorded hr (by decide) h).2
          · split at h
            · exact (deferred_recorded hr h).2
            · exact (marked_recorded hr (by decide) h).2
      · simp only [hv, if_true] at h
        obtain rfl := Except.ok.inj h
        exact hrecorded

omit [PyLower] in
theorem finalize_settled {item : PipelineItem} (hcurrent : isCurrent item c = true) (hr : c.record = some r)
    (h : finalizePipelineConfirmation item now c = .ok handled) : Settled catalogue now r c handled := by
  unfold finalizePipelineConfirmation at h
  rw [if_pos hcurrent] at h
  cases hu : updateToPublished item.ark.ark [item.state] now c with
  | error e =>
      rw [hu] at h
      cases h
  | ok c' =>
      rw [hu] at h
      obtain rfl := Except.ok.inj h
      obtain ⟨r', hr', -, rfl⟩ := updateToPublished_ok hu
      obtain rfl := Option.some.inj (hr.symm.trans hr')
      exact .published

omit [PyLower] in
theorem declined_settled {x : Except Exc Handled} (h : x.map Handled.declined = .ok handled)
    (hx : ∀ failed, x = .ok failed → Recorded catalogue now r c failed.cell failed.stats) :
    Settled catalogue now r c handled := by
  cases x with
  | error e => cases h
  | ok failed =>
      obtain rfl := Except.ok.inj h
      exact .recorded (hx failed rfl)

theorem settleResult_settled {item : PipelineItem} {result : ARKPublishResult} {E : ResultEnv}
    (hcurrent : isCurrent item c = true) (hr : c.record = some r)
    (h : settleResult catalogue item result E c = .ok handled) : Settled catalogue E.now r c handled := by
  unfold settleResult at h
  split at h
  · exact finalize_settled hcurrent hr h
  · unfold handleUnconfirmed at h
    cases hi : reconcileFailedIdentity catalogue item.ark E.identity E.now c with
    | error e =>
        rw [hi] at h
        cases h
    | ok identity =>
        simp only [hi, bind, Except.bind, pure, Except.pure] at h
        rcases reconcileFailedIdentity_recorded hr hi with rfl | ⟨hv, hrecorded⟩
        · simp only [Bool.false_eq_true, if_false] at h
          split at h
          · rename_i hchain
            obtain rfl := Except.ok.inj h
            exact finalize_settled hcurrent hr (reconcileOnChain_some hchain).2
          · split at h
            · exact declined_settled h fun _ hf => recordFailure_recorded hr hf
            · exact declined_settled h fun _ hf => (deferred_recorded hr hf).2
          · exact declined_settled h fun _ hf => (deferred_recorded hr hf).2
        · simp only [hv, if_true] at h
          obtain rfl := Except.ok.inj h
          exact .recorded hrecorded

theorem handlePipelineResult_settled {item : PipelineItem} {result : ARKPublishResult} {E : ResultEnv}
    (h : handlePipelineResult catalogue item result E c = .ok handled) :
    isCurrent item c = false ∧ handled = { value := false, cell := c } ∨
      isCurrent item c = true ∧ ∃ r, c.record = some r ∧ Settled catalogue E.now r c handled := by
  unfold handlePipelineResult at h
  split at h
  · rename_i hcurrent
    obtain ⟨r, -, hr, -⟩ := isCurrent_iff.mp hcurrent
    exact Or.inr ⟨hcurrent, r, hr, settleResult_settled hcurrent hr h⟩
  · rename_i hobsolete
    exact Or.inl ⟨Bool.eq_false_iff.mpr hobsolete, (Except.ok.inj h).symm⟩

end

end DarkMinter.Statistics
