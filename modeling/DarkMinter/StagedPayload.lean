import DarkMinter.Deployment

namespace DarkMinter.StagedPayload

open Text Processing Records Repository Authority ArkApi Requests Persistence

def Persistable (m : ARKMetadata) : Prop :=
  m.originalContent.isSome ∧ (∃ mediaType, m.originalMediaType = some mediaType ∧ mediaType ≠ "") ∧
    m.level1Json.isSome

/-- Storage answers every call of the attempt with a CID, and the database commits. -/
structure Healthy (E : PersistEnv) : Prop where
  level2 : ∀ content mediaType schema, ∃ cid, E.storage.storeLevel2 content mediaType schema = .ok cid
  level1 : ∀ json level2Cid, ∃ cid, E.storage.storeLevel1WithLevel2Reference json level2Cid = .ok cid
  commit : E.commit = .ok ()

section

variable [PyLower] {catalogue : ErrorCatalogue} {k : ArkId} {identity : Identity}
  {request : UpdateARKMetadataRequest} {E : PutEnv} {c c' : Cell}

def Persists (catalogue : ErrorCatalogue) (k : ArkId) (c : Cell) : Prop :=
  ∀ E, Healthy E → ∃ r', (persist catalogue k E c).result = .ok true ∧
    (persist catalogue k E c).cell.record = some r' ∧ r'.processingStage = .availability

theorem staged_metadata (request : UpdateARKMetadataRequest) (now : Time) (json : Json) (r : ARKRecord)
    (b : Cell) : ∃ m, (staged request now json r b).metadata = some m ∧
      m.originalContent = some request.originalMetadata ∧
      m.originalMediaType = some (normalizeMediaType request.metadataMediaType) ∧
      m.level1Json = some json ∧ m.level1Cid = none ∧ m.originalCid = none := by
  unfold staged withPayload createOrUpdateMetadata
  cases b.metadata with
  | none => exact ⟨_, rfl, rfl, rfl, rfl, rfl, rfl⟩
  | some m => exact ⟨_, rfl, rfl, rfl, rfl, rfl, rfl⟩

omit [PyLower] in
theorem persistAccepts_staged {request : UpdateARKMetadataRequest} {now later : Time} {r : ARKRecord} :
    persistAccepts later (stagedRecord request now r) = true := by
  have hstate : (stagedRecord request now r).state ∈ [ARKState.draft, ARKState.update] := by
    simpa using stagedRecord_state
  simp only [persistAccepts, decide_eq_true hstate]
  simp [stagedRecord, readyForProcessing]

omit [PyLower] in
theorem persistBody_healthy {E : PersistEnv} {r : ARKRecord} {m : ARKMetadata} (hE : Healthy E)
    (hm : c.metadata = some m) (h : Persistable m) :
    ∃ c', persistBody E r c = .ok c' ∧ c'.record = some (persistedRecord E.storedAt r) := by
  obtain ⟨hcontent, ⟨mediaType, hmedia, hne⟩, hjson⟩ := h
  obtain ⟨content, hcontent⟩ := Option.isSome_iff_exists.mp hcontent
  obtain ⟨json, hjson⟩ := Option.isSome_iff_exists.mp hjson
  have h2 : ∃ level2Cid, persistLevel2 E.storage m = .ok level2Cid := by
    unfold persistLevel2
    cases m.originalCid with
    | some cid => exact ⟨cid, rfl⟩
    | none =>
        simp only [hcontent, hmedia, hne, if_false]
        exact hE.level2 ..
  obtain ⟨level2Cid, h2⟩ := h2
  have h1 : ∃ level1Cid, persistLevel1 E.storage m level2Cid = .ok level1Cid := by
    unfold persistLevel1
    cases m.level1Cid with
    | some cid => exact ⟨cid, rfl⟩
    | none =>
        simp only [hjson]
        exact hE.level1 ..
  obtain ⟨level1Cid, h1⟩ := h1
  have hbody : persistBody E r c = .ok { c with
      record := some (persistedRecord E.storedAt r)
      metadata := some (persistedMetadata (some level1Cid) (some level2Cid) E.storedAt m) } := by
    simp only [persistBody, hm, h2, h1, hE.commit, bind, Except.bind, pure, Except.pure]
  exact ⟨_, hbody, rfl⟩

theorem persists_of_persistable {r : ARKRecord} {m : ARKMetadata} (hr : c.record = some r)
    (hacc : ∀ now, persistAccepts now r = true) (hm : c.metadata = some m) (h : Persistable m) :
    Persists catalogue k c := by
  intro E hE
  obtain ⟨c', hbody, hr'⟩ := persistBody_healthy (r := r) hE hm h
  refine ⟨persistedRecord E.storedAt r, ?_, ?_, rfl⟩
  · simp [persist, hr, hacc, hbody]
  · simp [persist, hr, hacc, hbody, hr']

/-- What an accepted PUT leaves can be persisted, if and only if the media
type of the request does not normalize to the empty string. -/
theorem accepted_put_persists_iff {response : ARKResponse}
    (h : put identity k request E c = (.ok response, c')) :
    ((∃ m, c'.metadata = some m ∧ Persistable m) ∧ Persists catalogue k c') ↔
      normalizeMediaType request.metadataMediaType ≠ "" := by
  rcases put_cases h with ⟨-, -, hstaged⟩ | ⟨_, hres, -⟩
  · obtain ⟨b, r, json, -, -, -, -, -, -, rfl⟩ := hstaged.ex
    obtain ⟨m, hm, hcontent, hmedia, hjson, -, -⟩ :=
      staged_metadata request E.now json r b
    constructor
    · rintro ⟨⟨m', hm', -, ⟨mediaType, hmedia', hne⟩, -⟩, -⟩
      obtain rfl := Option.some.inj (hm.symm.trans hm')
      rw [hmedia] at hmedia'
      rwa [Option.some.inj hmedia']
    · intro hne
      have hready : Persistable m := ⟨by simp [hcontent], ⟨_, hmedia, hne⟩, by simp [hjson]⟩
      exact ⟨⟨m, hm, hready⟩, persists_of_persistable rfl (fun _ => persistAccepts_staged) hm hready⟩
  · cases hres

end

section Sample

attribute [local instance] asciiText

open Deployment.Sample

def reserved : Cell := { record := some (createReserved "A" none 0) }

theorem accepted_put_persists_iff_sample :
    ∃ response c', put owner ark request putEnv reserved = (.ok response, c') ∧
      (((∃ m, c'.metadata = some m ∧ Persistable m) ∧ Persists seededCatalogue ark c') ↔
        normalizeMediaType request.metadataMediaType ≠ "") := by
  have hok : (put owner ark request putEnv reserved).1.isOk = true := by decide
  cases h : put owner ark request putEnv reserved with
  | mk res c' =>
      cases res with
      | error e => simp [h, Except.isOk, Except.toBool] at hok
      | ok response => exact ⟨response, c', rfl, accepted_put_persists_iff h⟩

def untyped : UpdateARKMetadataRequest := { request with metadataMediaType := ";charset=utf-8" }

/-- The PUT is accepted, and no attempt can persist what it stores. -/
theorem accepted_put_unpersistable :
    ∃ response c', put owner ark untyped putEnv reserved = (.ok response, c') ∧
      ¬((∃ m, c'.metadata = some m ∧ Persistable m) ∧ Persists seededCatalogue ark c') := by
  have hok : (put owner ark untyped putEnv reserved).1.isOk = true := by decide
  have hmedia : (put owner ark untyped putEnv reserved).2.metadata.map (·.originalMediaType) =
      some (some "") := by decide
  cases h : put owner ark untyped putEnv reserved with
  | mk res c' =>
      cases res with
      | error e => simp [h, Except.isOk, Except.toBool] at hok
      | ok response =>
          refine ⟨response, c', rfl, ?_⟩
          rintro ⟨⟨m, hm, -, ⟨mediaType, hmedia', hne⟩, -⟩, -⟩
          rw [h] at hmedia
          simp only [hm, Option.map_some, hmedia', Option.some.injEq] at hmedia
          exact hne hmedia

end Sample

end DarkMinter.StagedPayload
