import DarkMinter.Publication

namespace DarkMinter.Faults

open Text Processing Records Repository Persistence Replication Publication

def Payloads (m : ARKMetadata) : Prop := m.level1Json.isSome ∧ m.originalContent.isSome

/-- Both documents were handed to storage, under a media type, and can be
handed to it again. -/
def Stored (m : ARKMetadata) : Prop :=
  Payloads m ∧ (∃ mediaType, m.originalMediaType = some mediaType ∧ mediaType ≠ "") ∧
    m.level1Cid.isSome ∧ m.originalCid.isSome

/-- What can end the body of a metadata attempt, if not a missing payload. -/
inductive PersistFault (E : PersistEnv) (e : Exc) : Prop
  | level2 {content mediaType schema : String} (h : E.storage.storeLevel2 content mediaType schema = .error e)
  | level1 {json : Json} {cid : Cid} (h : E.storage.storeLevel1WithLevel2Reference json cid = .error e)
  | commit (h : E.commit = .error e)

variable {k : ArkId} {c : Cell}

theorem persistBody_error {E : PersistEnv} {r : ARKRecord} {m : ARKMetadata} {e : Exc}
    (hm : c.metadata = some m) (hpayloads : Payloads m)
    (hmedia : ∃ mediaType, m.originalMediaType = some mediaType ∧ mediaType ≠ "")
    (h1 : m.level1Cid = none) (h2 : m.originalCid = none) (h : persistBody E r c = .error e) :
    PersistFault E e := by
  obtain ⟨mediaType, hmedia, hne⟩ := hmedia
  obtain ⟨json, hjson⟩ := Option.isSome_iff_exists.mp hpayloads.1
  obtain ⟨content, hcontent⟩ := Option.isSome_iff_exists.mp hpayloads.2
  have hlevel2 : persistLevel2 E.storage m =
      E.storage.storeLevel2 content mediaType m.originalSchema := by
    simp [persistLevel2, h2, hcontent, hmedia, hne]
  have hlevel1 : ∀ cid, persistLevel1 E.storage m cid =
      E.storage.storeLevel1WithLevel2Reference json cid := by
    intro cid
    simp [persistLevel1, h1, hjson]
  simp only [persistBody, hm, hlevel2, hlevel1, bind, Except.bind, pure, Except.pure] at h
  split at h
  · obtain rfl := Except.error.inj h
    exact .level2 ‹_›
  · split at h
    · obtain rfl := Except.error.inj h
      exact .level1 ‹_›
    · split at h
      · obtain rfl := Except.error.inj h
        exact .commit ‹_›
      · cases h

theorem resubmitted_error {level : String} {stored : Except Exc Cid} {cid : Cid} {e : Exc}
    (h : (resubmitted level stored cid).outcome = .error e) :
    stored = .error e ∨ e = valueError (level ++ " repair returned a different CID") := by
  unfold resubmitted at h
  split at h
  · exact .inl (by simpa using h)
  · split at h
    · cases h
    · exact .inr (Except.error.inj h).symm

variable [PyLower]

inductive ReconcileFault (E : ReconcileEnv) (e : Exc) : Prop
  | observation {level1Cid level2Cid : Cid} (h : observe E level1Cid level2Cid = .error e)
  | level2 {content mediaType schema : String} (h : E.storage.storeLevel2 content mediaType schema = .error e)
  | level1 {json : Json} {cid : Cid} (h : E.storage.storeLevel1WithLevel2Reference json cid = .error e)
  | changedCid {level : String} (h : e = valueError (level ++ " repair returned a different CID"))
  | commit (h : E.commit = .error e)
  | range (h : e = smallintOutOfRange)

theorem repairs_error {cfg : ReplicationConfig} {E : ReconcileEnv} {level1 level2 : ReplicationStatus}
    {m : ARKMetadata} {level1Cid level2Cid : Cid} {e : Exc} (hstored : Stored m)
    (h : (repairs cfg E level1 level2 m level1Cid level2Cid).outcome = .error e) :
    ReconcileFault E e := by
  obtain ⟨hpayloads, ⟨mediaType, hmedia, hne⟩, -⟩ := hstored
  obtain ⟨json, hjson⟩ := Option.isSome_iff_exists.mp hpayloads.1
  obtain ⟨content, hcontent⟩ := Option.isSome_iff_exists.mp hpayloads.2
  have hlevel2 : ∀ needed, (repairLevel2 E.storage needed m level2Cid).outcome = .error e →
      ReconcileFault E e := by
    intro needed h
    cases needed with
    | false => simp [repairLevel2] at h
    | true =>
        simp only [repairLevel2, if_true, hcontent, hmedia, hne, if_false] at h
        rcases resubmitted_error h with h | h
        · exact .level2 h
        · exact .changedCid h
  have hlevel1 : ∀ needed, (repairLevel1 E.storage needed m level1Cid level2Cid).outcome = .error e →
      ReconcileFault E e := by
    intro needed h
    cases needed with
    | false => simp [repairLevel1] at h
    | true =>
        simp only [repairLevel1, if_true, hjson] at h
        rcases resubmitted_error h with h | h
        · exact .level1 h
        · exact .changedCid h
  unfold repairs Repair.andThen at h
  simp only at h
  split at h
  · exact hlevel1 _ h
  · exact hlevel2 _ h

theorem reconcileBody_error {cfg : ReplicationConfig} {E : ReconcileEnv} {r : ARKRecord}
    {m : ARKMetadata} {repair : Repair} {e : Exc} (hm : c.metadata = some m) (hstored : Stored m)
    (h : reconcileBody cfg E r c = (repair, .error e)) : ReconcileFault E e := by
  obtain ⟨level1Cid, h1⟩ := Option.isSome_iff_exists.mp hstored.2.2.1
  obtain ⟨level2Cid, h2⟩ := Option.isSome_iff_exists.mp hstored.2.2.2
  obtain ⟨-, h⟩ := Prod.mk.inj h
  cases hrows : (reconcileRows cfg E r c).2 with
  | error e' =>
      rw [hrows] at h
      obtain rfl := Except.error.inj h
      simp only [reconcileRows, hm, h1, h2] at hrows
      split at hrows
      · obtain rfl := Except.error.inj hrows
        exact .observation ‹_›
      · split at hrows
        · obtain rfl := Except.error.inj hrows
          exact repairs_error hstored ‹_›
        · cases hrows
  | ok rows =>
      simp only [hrows, Except.bind, commitRows] at h
      split at h
      · cases hc : E.commit with
        | error e' =>
            simp only [hc, Except.map, Except.error.injEq] at h
            exact .commit (h ▸ hc)
        | ok u => simp [hc, Except.map] at h
      · exact .range (Except.error.inj h).symm

inductive PublishFault (catalogue : ErrorCatalogue) (k : ArkId) (E : PublishEnv) (r : ARKRecord)
    (c : Cell) (e : Exc) : Prop
  | write {cid : Cid} (h : settleWrite catalogue k E r.target cid c = .error e)
  | commit (h : E.commit = .error e)
  | range (h : e = smallintOutOfRange)

theorem publishBody_error {catalogue : ErrorCatalogue} {E : PublishEnv} {r : ARKRecord}
    {m : ARKMetadata} {e : Exc} (hr : c.record = some r) (hm : c.metadata = some m)
    (hstored : Stored m) (h : publishBody catalogue k E r c = .error e) :
    PublishFault catalogue k E r c e := by
  obtain ⟨level1Cid, h1⟩ := Option.isSome_iff_exists.mp hstored.2.2.1
  obtain ⟨level2Cid, h2⟩ := Option.isSome_iff_exists.mp hstored.2.2.2
  unfold publishBody at h
  split at h
  · simp only [hm, h1, h2, bind, Except.bind, pure, Except.pure] at h
    split at h
    · obtain rfl := Except.error.inj h
      exact .write ‹_›
    · split at h
      · cases h
      · simp only [updateToPublished, hr, List.mem_singleton, if_true] at h
        split at h
        · obtain rfl := Except.error.inj h
          exact .commit ‹_›
        · cases h
  · simp only [markProcessingFailed, hr] at h
    split at h
    · cases h
    · simp only [Except.map, Except.error.injEq] at h
      exact .range h.symm

end DarkMinter.Faults
