import DarkMinter.Ownership
import DarkMinter.Purging
import DarkMinter.StagedPayload

namespace DarkMinter.StatusReads

open Text Processing Records Repository Authority Requests Persistence Replication Publication
open Deployment Attempts Effects InFlight ResultApplication PipelineInvariant Ownership StagedPayload Lib.Runs
open Purging
open ArkApi hiding ARKResponse

structure ARKStatusBatchRequest where
  arks : List String
  arks_length : 1 ≤ arks.length ∧ arks.length ≤ 100

inductive StatusErrorCode
  | notFound | invalidArk | blockchainError | internalError
  deriving DecidableEq

structure ARKStatusBatchError where
  code : StatusErrorCode
  message : String
  retryable : Bool := false

structure ARKStatusBatchResult where
  ark : String
  status : Option ARKResponse := none
  error : Option ARKStatusBatchError := none

def statusBatchError : Raised → ARKStatusBatchError
  | .http 400 detail => { code := .invalidArk, message := detail }
  | .http 404 detail => { code := .notFound, message := detail }
  | .http status detail =>
      { code := if 500 ≤ status then .blockchainError else .internalError, message := detail
        retryable := 500 ≤ status }
  | .exc e => { code := .blockchainError, message := e.text, retryable := true }

/-- What the lookup of one item meets: the rows at its time, and the external answers. -/
structure Lookup where
  cells : ArkId → Cell
  env : GetEnv

/-- `normalize_ark` of the result. -/
def normalizeArk (parse : String → Option ArkId) (ark : String) : String := ((parse ark).map (·.ark)).getD ark

section

variable [PyLower]

/-- `_get_ark_status`, from the text of the request on. -/
def lookupArk (parse : String → Option ArkId) (ark : String) (L : Lookup) : Except Raised ARKResponse :=
  match parse ark with
  | none => .error (.http 400 "Invalid ARK format. Expected ark:NAAN/suffix")
  | some k => getArkStatus k L.env (L.cells k)

def statusResult (parse : String → Option ArkId) (ark : String) (L : Lookup) : ARKStatusBatchResult :=
  match lookupArk parse ark L with
  | .ok response => { ark := normalizeArk parse ark, status := some response }
  | .error x => { ark := normalizeArk parse ark, error := some (statusBatchError x) }

/-- `batch_get_ark_status`, with the parser of the core library. -/
def batchGetArkStatus (parse : String → Option ArkId) (request : ARKStatusBatchRequest) (lookups : Nat → Lookup) :
    List ARKStatusBatchResult :=
  request.arks.mapIdx fun i ark => statusResult parse ark (lookups i)

end

def IsObject (json : Json) : Prop := ∃ fields, json = .obj fields

/-- What storage returns for a CID: the content of Level 2 documents, and the Level 1 documents. `complete` is
what storage makes of a Level 1 document and the CID of its Level 2 document. -/
structure Archive where
  originals : Cid → Option String
  documents : Cid → Option Json
  complete : Json → Cid → Json
  complete_object : ∀ json level2Cid, IsObject json → IsObject (complete json level2Cid)

/-- Nothing that was stored under a CID is lost or replaced. -/
structure Archive.Holds (R : Archive) (S : Storage) : Prop where
  level2 : ∀ content mediaType schema cid, S.storeLevel2 content mediaType schema = .ok cid →
    R.originals cid = some content
  level1 : ∀ json level2Cid cid, S.storeLevel1WithLevel2Reference json level2Cid = .ok cid →
    R.documents cid = some (R.complete json level2Cid)

/-- The Level 1 schema gives objects, and storage is the archive's. -/
def Keeps (R : Archive) : Op → Prop
  | .mutation (.put _ _ E) => ∀ fields json, E.level1Metadata fields = .ok json → IsObject json
  | .mutation (.persist E) => R.Holds E.storage
  | _ => True

def Archived (R : Archive) (s : Sys) (a : Act) : Prop := ∀ k op, opOf s a k = some op → Keeps R op

/-- The payload of the newest PUT is in the metadata row, or in storage under the CIDs of the row. -/
structure Kept (R : Archive) (put : StagedPut) (json : Json) (m : ARKMetadata) : Prop where
  staged : put.level1 = .ok json
  object : IsObject json
  kept : m.level1Json = some json ∨ m.level1Json = none ∧ m.level1Cid.isSome
  level2 : ∀ level2Cid, m.originalCid = some level2Cid → R.originals level2Cid = some put.request.originalMetadata
  level1 : ∀ level1Cid, m.level1Cid = some level1Cid → ∃ level2Cid, m.originalCid = some level2Cid ∧
    R.documents level1Cid = some (R.complete json level2Cid)

def Payload (R : Archive) (puts : List StagedPut) (c : Cell) : Prop :=
  ∀ m, c.metadata = some m → ∃ put rest json, puts = put :: rest ∧ Kept R put json m

section

variable [PyLower] {R : Archive} {cfg : Config} {s t u : Sys} {a : Act} {k : ArkId} {op : Op} {c c' : Cell}
  {puts : List StagedPut} {r : ARKRecord}

omit [PyLower] in
theorem Payload.same (h : Payload R puts c) (hm : c'.metadata = c.metadata) : Payload R puts c' :=
  fun m hm' => h m (hm ▸ hm')

omit [PyLower] in
theorem Payload.absent (hm : c'.metadata = none) : Payload R puts c' := by
  intro m hm'
  rw [hm] at hm'
  cases hm'

theorem kept_reconciled {cfg : ReplicationConfig} {E : ReconcileEnv} {level1 level2 : ReplicationStatus}
    {repaired : Nat} {put : StagedPut} {json : Json} {m : ARKMetadata} (h : Kept R put json m)
    (hcid : m.level1Cid.isSome) : Kept R put json (reconciledRows cfg E level1 level2 r m repaired).2.1 := by
  obtain ⟨hcid1, hcid2, -⟩ := reconciledRows_copies cfg E level1 level2 r m repaired
  refine ⟨h.staged, h.object, ?_, ?_, ?_⟩
  · rcases reconciledRows_json cfg E level1 level2 r m repaired with hsame | hnone
    · rw [hsame, hcid1]
      exact h.kept
    · exact .inr ⟨hnone, hcid1 ▸ hcid⟩
  · rw [hcid2]
    exact h.level2
  · rw [hcid1, hcid2]
    exact h.level1

theorem kept_persisted {S : Storage} {put : StagedPut} {json : Json} {m : ARKMetadata} {level1Cid level2Cid : Cid}
    {now : Time} (h : Kept R put json m) (hput : Ownership.Holds put m) (hS : R.Holds S)
    (h2 : persistLevel2 S m = .ok level2Cid) (h1 : persistLevel1 S m level2Cid = .ok level1Cid) :
    Kept R put json (persistedMetadata (some level1Cid) (some level2Cid) now m) := by
  have hlevel2 : R.originals level2Cid = some put.request.originalMetadata := by
    unfold persistLevel2 at h2
    split at h2
    · obtain rfl := Except.ok.inj h2
      exact h.level2 _ ‹_›
    · split at h2
      · rename_i hcontent _
        split at h2
        · cases h2
        · rw [← hput.1 _ hcontent]
          exact hS.level2 _ _ _ _ h2
      · cases h2
  have hlevel1 : R.documents level1Cid = some (R.complete json level2Cid) := by
    unfold persistLevel1 at h1
    split at h1
    · obtain rfl := Except.ok.inj h1
      obtain ⟨cid, hcid, hdocument⟩ := h.level1 _ ‹_›
      rw [persistLevel2, hcid] at h2
      obtain rfl := Except.ok.inj h2
      exact hdocument
    · split at h1
      · rename_i hjson
        obtain rfl : _ = json := by
          rcases h.kept with hkept | ⟨hnone, -⟩
          · exact Option.some.inj (hjson.symm.trans hkept)
          · cases hjson.symm.trans hnone
        exact hS.level1 _ _ _ h1
      · cases h1
  refine ⟨h.staged, h.object, ?_, ?_, ?_⟩
  · exact h.kept.imp_right fun hpurged => ⟨hpurged.1, rfl⟩
  · rintro _ ⟨⟩
    exact hlevel2
  · rintro _ ⟨⟩
    exact ⟨level2Cid, rfl, hlevel1⟩

theorem payload_effect (h : Payload R puts c) (hprov : Provenance puts c) (heffect : Effect cfg k c op c')
    (hop : Keeps R op) (hput : ∀ identity request E, op = .mutation (.put identity request E) →
      ¬Staged k identity.authorityId request E c c') : Payload R puts c' := by
  cases heffect with
  | none | reserved | raced | retried => exact h.same rfl
  | staged hstaged => exact absurd hstaged (hput _ _ _ rfl)
  | tombstoned htomb => exact htomb.keeps (I := Payload R puts) h (fun _ _ _ => .absent rfl) fun _ _ _ hb => hb.same rfl
  | @persisted E r m level1Cid level2Cid hr hacc hm h2 h1 =>
      obtain ⟨put, rest, json, hputs, hkept⟩ := h m hm
      obtain ⟨r', put', rest', -, hputs', -, -, hholds⟩ := hprov m hm
      obtain ⟨rfl, -⟩ := List.cons_eq_cons.mp (hputs.symm.trans hputs')
      rintro _ ⟨⟩
      exact ⟨put, rest, json, hputs, kept_persisted hkept hholds hop h2 h1⟩
  | @observed E r m level1Cid level2Cid level1 level2 repaired hr hacc hm hcid =>
      obtain ⟨put, rest, json, hputs, hkept⟩ := h m hm
      rintro _ ⟨⟩
      exact ⟨put, rest, json, hputs, kept_reconciled hkept (Option.isSome_iff_exists.mpr ⟨_, hcid⟩)⟩
  | published _ _ hpub =>
      obtain ⟨m, cid, -, -, -, -, rfl⟩ := hpub
      exact h.same rfl
  | publishedItem hpub =>
      obtain ⟨-, -, r, -, rfl⟩ := hpub
      exact h.same rfl
  | persistNoted _ _ hn | reconcileNoted _ _ hn | publishNoted _ _ hn | unassigned _ _ hn | resultNoted _ hn =>
      exact h.same hn.metadata

theorem staged_kept {request : UpdateARKMetadataRequest} {now : Time} {json : Json} {A : String} {b : Cell}
    (hobject : IsObject json) : Payload R (⟨A, request, .ok json⟩ :: puts) (staged request now json r b) := by
  obtain ⟨m, hm, -, -, hjson, hcid1, hcid2⟩ := staged_metadata request now json r b
  intro m' hm'
  obtain rfl := Option.some.inj (hm.symm.trans hm')
  refine ⟨_, puts, json, rfl, rfl, hobject, .inl hjson, ?_, ?_⟩
  · intro level2Cid h
    cases hcid2.symm.trans h
  · intro level1Cid h
    cases hcid1.symm.trans h

theorem level1Json_object {request : UpdateARKMetadataRequest} {E : PutEnv} {json : Json}
    (hschema : ∀ fields json, E.level1Metadata fields = .ok json → IsObject json)
    (h : level1Json k request E = .ok json) : IsObject json := by
  unfold level1Json at h
  simp only at h
  generalize hmodel : E.level1Metadata _ = model at h
  cases model with
  | error text => cases h
  | ok json' =>
      obtain rfl := Except.ok.inj h
      exact hschema _ _ hmodel

theorem reach_payload (h : Reach (step cfg) (Archived R) {} s) (k : ArkId) : Payload R (s.puts k) (s.cells k) := by
  induction h with
  | init => exact .absent rfl
  | @next s t a h hg hs ih =>
      rcases puts_step hs k with ⟨hputs, hnot⟩ | ⟨identity, request, E, rfl, hstaged, hputs⟩
      · rw [hputs]
        rcases step_effect hs k with ⟨-, hk⟩ | ⟨op, hop, heffect⟩
        · rwa [hk]
        · refine payload_effect ih (reach_provenance h.free k) heffect (hg k op hop) ?_
          rintro identity request E rfl
          exact hnot identity request E (opOf_mutation hop).1
      · obtain ⟨b, r, json, -, -, -, -, -, hjson, hc⟩ := hstaged.ex
        rcases step_effect hs k with ⟨-, hk⟩ | ⟨op, hop, -⟩
        · have hby := stagedBy_put hstaged
          rw [hk] at hby
          simp [stagedBy] at hby
        · have hop' : op = .mutation (.put identity request E) := by
            cases opOf_performs hop
            rfl
          subst hop'
          rw [hputs, hc, hjson]
          exact staged_kept (level1Json_object (hg k _ hop) hjson)

/-- A PUT of the ARK was accepted, and it is not tombstoned. -/
def InUse (r : ARKRecord) : Prop := r.state ≠ .reserved ∧ r.state ≠ .tombstone

def Described (c : Cell) : Prop := ∀ r, c.record = some r → InUse r → c.metadata.isSome

omit [PyLower] in
theorem Described.same {r' : ARKRecord} (h : Described c) (hr : c.record = some r) (hr' : c'.record = some r')
    (hstate : r'.state = r.state) (hm : c'.metadata = c.metadata) : Described c' := by
  intro r₁ hr₁ hused
  obtain rfl := Option.some.inj (hr'.symm.trans hr₁)
  rw [hm]
  exact h r hr ⟨hstate ▸ hused.1, hstate ▸ hused.2⟩

omit [PyLower] in
theorem described_noted (h : Described c) (hn : Noted c c') : Described c' := by
  obtain ⟨r, r', hr, hr', hstate, -, -, -, hm, -⟩ := hn.keeps
  exact h.same hr hr' hstate hm

theorem described_effect (h : Described c) (heffect : Effect cfg k c op c') : Described c' := by
  have hmetadata : c'.metadata.isSome → Described c' := fun hm _ _ _ => hm
  cases heffect with
  | none => exact h
  | reserved | raced =>
      rintro _ ⟨⟩ hused
      exact absurd rfl hused.1
  | staged hstaged =>
      obtain ⟨b, r, json, -, -, -, -, -, -, rfl⟩ := hstaged.ex
      obtain ⟨m, hm, -⟩ := staged_metadata _ _ json r b
      exact hmetadata (Option.isSome_iff_exists.mpr ⟨m, hm⟩)
  | tombstoned htomb =>
      obtain ⟨r', hr', hstate⟩ := htomb.record
      intro r hr hused
      obtain rfl := Option.some.inj (hr'.symm.trans hr)
      exact absurd hstate hused.2
  | retried hr => exact h.same hr rfl rfl rfl
  | persisted | observed => exact hmetadata rfl
  | published _ _ hpub =>
      obtain ⟨m, cid, hm, -, -, -, rfl⟩ := hpub
      exact hmetadata (Option.isSome_iff_exists.mpr ⟨m, hm⟩)
  | publishedItem hpub =>
      obtain ⟨hcurrent, -, r, hr, rfl⟩ := hpub
      obtain ⟨-, m, -, hm, -⟩ := isCurrent_iff.mp hcurrent
      exact hmetadata (Option.isSome_iff_exists.mpr ⟨m, hm⟩)
  | persistNoted _ _ hn | reconcileNoted _ _ hn | publishNoted _ _ hn | unassigned _ _ hn | resultNoted _ hn =>
      exact described_noted h hn

theorem reach_described {G : Sys → Act → Prop} (h : Reach (step cfg) G {} s) (k : ArkId) : Described (s.cells k) := by
  refine reach_cells (I := Described) h ?_ ?_ k
  · rintro _ ⟨⟩
  · intro s a k op _ _ _ heffect hc
    exact described_effect hc heffect

/-- What an answer says of a payload. -/
structure Reports (R : Archive) (put : StagedPut) (json : Json) (response : ARKResponse) : Prop where
  schema : response.metadataSchema = some put.request.metadataSchema
  minimal : response.minimalMetadata = some json ∨ ∃ level2Cid, response.level2Cid = some level2Cid ∧
    response.minimalMetadata = some (R.complete json level2Cid)
  level2 : ∀ level2Cid, response.level2Cid = some level2Cid →
    R.originals level2Cid = some put.request.originalMetadata
  level1 : ∀ level1Cid, response.level1Cid = some level1Cid → ∃ level2Cid, response.level2Cid = some level2Cid ∧
    R.documents level1Cid = some (R.complete json level2Cid)
  target : response.state ≠ .published → response.target = some put.request.target

/-- The documents of the archive are there to be read. -/
def Serves (R : Archive) (G : GetEnv) : Prop :=
  ∀ cid document, R.documents cid = some document → G.getDocument cid.val = .ok document

section

variable {G : GetEnv} {m : ARKMetadata} {document : Json}

omit [PyLower] in
theorem extract_object (h : IsObject document) : extractMinimalMetadata (some document) = some document := by
  obtain ⟨fields, rfl⟩ := h
  rfl

omit [PyLower] in
theorem respondKnown_state (k : ArkId) (r : ARKRecord) (o : Option ARKMetadata) (G : GetEnv) :
    (respondKnown k r o G).state = r.state := by
  unfold respondKnown
  simp only
  split
  · exact (‹r.state = .published›).symm
  · rfl

omit [PyLower] in
theorem respondKnown_rows (k : ArkId) (r : ARKRecord) (m : ARKMetadata) (G : GetEnv) :
    (respondKnown k r (some m) G).metadataSchema = some m.originalSchema ∧
      (respondKnown k r (some m) G).level1Cid = m.level1Cid ∧
        (respondKnown k r (some m) G).level2Cid = m.originalCid ∧
          (r.state ≠ .published → (respondKnown k r (some m) G).target = r.target) := by
  unfold respondKnown
  simp only
  split
  · exact ⟨rfl, rfl, rfl, absurd ‹_›⟩
  · exact ⟨rfl, rfl, rfl, fun _ => rfl⟩

omit [PyLower] in
theorem respondKnown_minimal (h : ∀ fallback, resolveMinimalMetadata (some m) G fallback = some document) :
    (respondKnown k r (some m) G).minimalMetadata = some document := by
  unfold respondKnown
  simp only [h]
  split
  · simp only [chainResponse, h, ite_self]
  · rfl

omit [PyLower] in
theorem kept_resolved {put : StagedPut} {json : Json} (h : Kept R put json m) (hserves : Serves R G) :
    ∃ document, (∀ fallback, resolveMinimalMetadata (some m) G fallback = some document) ∧
      (document = json ∨ ∃ level2Cid, m.originalCid = some level2Cid ∧ document = R.complete json level2Cid) := by
  rcases h.kept with hlocal | ⟨hnone, hcid⟩
  · exact ⟨json, fun _ => resolve_local hlocal (extract_object h.object), .inl rfl⟩
  · obtain ⟨level1Cid, hcid⟩ := Option.isSome_iff_exists.mp hcid
    obtain ⟨level2Cid, hcid2, hdocument⟩ := h.level1 level1Cid hcid
    have hobject : IsObject (R.complete json level2Cid) := R.complete_object json level2Cid h.object
    refine ⟨R.complete json level2Cid, fun _ => ?_, .inr ⟨level2Cid, hcid2, rfl⟩⟩
    exact resolve_stored hnone hcid (hserves level1Cid _ hdocument) (extract_object hobject)

theorem reports_of_kept {put : StagedPut} {json : Json} (h : Kept R put json m) (hholds : Ownership.Holds put m)
    (htarget : r.target = some put.request.target) (hserves : Serves R G) :
    Reports R put json (respondKnown k r (some m) G) := by
  obtain ⟨hschema, hcid1, hcid2, hurl⟩ := respondKnown_rows k r m G
  obtain ⟨document, hresolve, hdocument⟩ := kept_resolved h hserves
  have hminimal := respondKnown_minimal (k := k) (r := r) hresolve
  constructor
  · rw [hschema, hholds.2.2.1]
  · rw [hminimal, hcid2]
    rcases hdocument with rfl | ⟨level2Cid, hcid, rfl⟩
    · exact .inl rfl
    · exact .inr ⟨level2Cid, hcid, rfl⟩
  · rw [hcid2]
    exact h.level2
  · rw [hcid1, hcid2]
    exact h.level1
  · intro hne
    rw [respondKnown_state] at hne
    rw [hurl hne, htarget]

theorem getArkStatus_known (hcheck : validateArkCheckdigit G.checkdigit k = .ok ()) (hr : c.record = some r) :
    getArkStatus k G c = .ok (respondKnown k r c.metadata G) := by
  rw [getArkStatus, hcheck, hr]
  rfl

end

theorem respond_reports {G : GetEnv} (h : Reach (step cfg) (Archived R) {} s) (hr : (s.cells k).record = some r)
    (hused : InUse r) (hserves : Serves R G) : ∃ put rest json, s.puts k = put :: rest ∧ put.level1 = .ok json ∧
      Reports R put json (respondKnown k r (s.cells k).metadata G) := by
  obtain ⟨m, hm⟩ := Option.isSome_iff_exists.mp (reach_described h k r hr hused)
  obtain ⟨put, rest, json, hputs, hkept⟩ := reach_payload h k m hm
  obtain ⟨r', put', rest', hr', hputs', -, htarget, hholds⟩ := reach_provenance h.free k m hm
  obtain rfl := Option.some.inj (hr.symm.trans hr')
  obtain ⟨rfl, -⟩ := List.cons_eq_cons.mp (hputs.symm.trans hputs')
  rw [hm]
  exact ⟨put, rest, json, hputs, hkept.staged, reports_of_kept hkept hholds htarget hserves⟩

theorem get_reports_last_put {G : GetEnv} (h : Reach (step cfg) (Archived R) {} s)
    (hr : (s.cells k).record = some r) (hused : InUse r) (hcheck : validateArkCheckdigit G.checkdigit k = .ok ())
    (hserves : Serves R G) : ∃ put rest json response, s.puts k = put :: rest ∧ put.level1 = .ok json ∧
      getArkStatus k G (s.cells k) = .ok response ∧ response.state = r.state ∧ Reports R put json response := by
  obtain ⟨put, rest, json, hputs, hjson, hreports⟩ := respond_reports h hr hused hserves
  refine ⟨put, rest, json, _, hputs, hjson, getArkStatus_known hcheck hr, ?_, hreports⟩
  exact respondKnown_state k r _ G

/-- Why an item of a batch has no status. -/
inductive Explains (parse : String → Option ArkId) (ark : String) (L : Lookup) : ARKStatusBatchError → Prop
  | unparsed {message : String} (hparse : parse ark = none) :
      Explains parse ark L { code := .invalidArk, message }
  | mistyped {k : ArkId} {x : Raised} {message : String} (hparse : parse ark = some k)
      (hcheck : validateArkCheckdigit L.env.checkdigit k = .error x) :
      Explains parse ark L { code := .invalidArk, message }
  | notFound {k : ArkId} {message : String} (hparse : parse ark = some k) (hr : (L.cells k).record = none)
      (hchain : L.env.arkExists = .ok false) : Explains parse ark L { code := .notFound, message }
  | unread {k : ArkId} {e : Exc} (hparse : parse ark = some k) (hr : (L.cells k).record = none)
      (hchain : L.env.arkExists = .error e ∨ L.env.chain = .error e) :
      Explains parse ark L { code := .blockchainError, message := e.text, retryable := true }

/-- What a batch that runs from the state `s` on says of an item that it looks up in the state `u`. -/
structure Answers (R : Archive) (parse : String → Option ArkId) (s u : Sys) (G : GetEnv) (ark : String)
    (result : ARKStatusBatchResult) : Prop where
  named : result.ark = normalizeArk parse ark
  known : ∀ k, parse ark = some k → validateArkCheckdigit G.checkdigit k = .ok () → (s.cells k).record.isSome →
    ∃ r response, (u.cells k).record = some r ∧ result.status = some response ∧ result.error = none ∧
      response.state = r.state ∧ (InUse r → ∃ put rest json, u.puts k = put :: rest ∧ put.level1 = .ok json ∧
        Reports R put json response)
  refused : result.status = none → ∃ e, result.error = some e ∧ Explains parse ark ⟨u.cells, G⟩ e

end

section Sample

attribute [local instance] asciiText

open Deployment.Sample

theorem reference_object (json : Json) (level2Cid : Cid) (h : IsObject json) :
    IsObject (withLevel2Reference level2Cid json) := by
  obtain ⟨fields, rfl⟩ := h
  exact ⟨_, rfl⟩

def records : Archive where
  originals cid := if cid = cid2 then some "m" else none
  documents := archived
  complete json level2Cid := withLevel2Reference level2Cid json
  complete_object := reference_object

def isStaged : Json → Bool
  | .obj [("ark", .str "ark:1/a"), ("original_metadata", .obj [("schema", .str "s"),
      ("media_type", .str "text/xml"), ("cid", .null)])] => true
  | _ => false

def vault : Storage where
  storeLevel2 content _ _ := if content = "m" then .ok cid2 else .error unread
  storeLevel1WithLevel2Reference json level2Cid :=
    if isStaged json ∧ level2Cid = cid2 then .ok cid1 else .error unread

def untilPurged : List Act :=
  [.reserve [(ark, ⟨"A", none, 0⟩)], .mutate ark (.put owner request putEnv),
    .mutate ark (.persist { persistEnv with storage := vault }), .mutate ark (.reconcile reconcileEnv),
    .select 0 4 [ark], .readMetadata 0, .plan 0, .submit 0 confirmed, .acquire 0, .finish 0 resultEnv, purging]

theorem vault_held : records.Holds vault := by
  constructor
  · intro content mediaType schema cid h
    simp only [vault] at h
    split at h
    · cases h
      subst content
      rfl
    · cases h
  · intro json level2Cid cid h
    simp only [vault] at h
    split at h
    · rename_i hstaged
      obtain ⟨hjson, rfl⟩ := hstaged
      cases h
      obtain rfl : json = stagedDocument := by
        unfold isStaged at hjson
        split at hjson
        · rfl
        · cases hjson
      rfl
    · cases h

theorem reader_serves : Serves records reader := by
  intro cid document h
  simp only [records, archived] at h
  split at h
  · cases h
    subst cid
    rfl
  · cases h

theorem untilPurged_archived : ∀ a ∈ untilPurged, ∀ s, Archived records s a := by
  intro a ha s k op hop
  cases opOf_performs hop with
  | reserve | markUnassigned | finish => exact trivial
  | @mutate m hlock =>
      simp only [untilPurged, purging, List.mem_cons, List.not_mem_nil, or_false, reduceCtorEq, false_or,
        Act.mutate.injEq] at ha
      rcases ha with ⟨-, rfl⟩ | ⟨-, rfl⟩ | ⟨-, rfl⟩ | ⟨-, rfl⟩
      · rintro fields json ⟨⟩
        exact ⟨fields, rfl⟩
      · exact vault_held
      · exact trivial
      · exact trivial

theorem untilPurged_reach : ∃ s r, Reach (step config) (Archived records) {} s ∧ (s.cells ark).record = some r ∧
    InUse r := by
  have hafter : (run (step config) untilPurged {}).map (fun s => (s.cells ark).record.map (·.state)) =
      some (some .published) := by decide +kernel
  obtain ⟨s, hs, hpublished⟩ := Option.map_eq_some_iff.mp hafter
  obtain ⟨r, hr, hstate⟩ := Option.map_eq_some_iff.mp hpublished
  have hreach : Reach (step config) (Archived records) {} s :=
    (run_guarded (fun _ => True) hs trivial (fun s a ha _ => untilPurged_archived a ha s) fun _ _ _ _ _ _ => trivial).1
  exact ⟨s, r, hreach, hr, by simp [InUse, hstate]⟩

theorem get_reports_last_put_sample : ∃ s r, Reach (step config) (Archived records) {} s ∧
    (s.cells ark).record = some r ∧ ∃ put rest json response, s.puts ark = put :: rest ∧ put.level1 = .ok json ∧
      getArkStatus ark reader (s.cells ark) = .ok response ∧ response.state = r.state ∧
        Reports records put json response := by
  obtain ⟨s, r, hs, hr, hused⟩ := untilPurged_reach
  exact ⟨s, r, hs, hr, get_reports_last_put hs hr hused rfl reader_serves⟩

theorem twoItems_length : 1 ≤ ["ark:1/a", "?"].length ∧ ["ark:1/a", "?"].length ≤ 100 := by decide

def twoItems : ARKStatusBatchRequest := ⟨["ark:1/a", "?"], twoItems_length⟩

def parseItem (text : String) : Option ArkId := if text = "ark:1/a" then some ark else none

def lookedUp (s : Sys) : List ARKStatusBatchResult :=
  batchGetArkStatus parseItem twoItems fun _ => ⟨s.cells, reader⟩

end Sample

end DarkMinter.StatusReads
