import DarkMinter.PipelineInvariant

namespace DarkMinter.Purging

open Text Processing Records Repository Authority ArkApi Requests Persistence Replication Publication
open Deployment Attempts Effects InFlight PipelineInvariant Lib.Runs

/-- The answer to a GET. What the rows do not have is left out. -/
structure ARKResponse where
  ark : String
  state : ARKState
  target : Option String
  metadataCid : Option String
  metadataSchema : Option String := none
  minimalMetadata : Option Json := none
  level1Cid : Option Cid := none
  level2Cid : Option Cid := none
  clientItemId : Option String := none

structure GetEnv where
  checkdigit : Bool
  getDocument : String → Except Exc Json
  arkExists : Except Exc Bool
  chain : Except Exc ARKInfo

def extractMinimalMetadata : Option Json → Option Json
  | some (.obj fields) => some (.obj fields)
  | _ => none

def loadMinimalMetadataFromStorage (level1Cid : Option String) (G : GetEnv) : Option Json :=
  match level1Cid.filter (· ≠ "") with
  | none => none
  | some cid => match G.getDocument cid with
    | .ok document => extractMinimalMetadata (some document)
    | .error _ => none

def resolveMinimalMetadata (metadata : Option ARKMetadata) (G : GetEnv) (fallbackLevel1Cid : Option String) :
    Option Json :=
  match extractMinimalMetadata (metadata.bind (·.level1Json)) with
  | some json => some json
  | none =>
      let level1Cid := match metadata with
        | some m => m.level1Cid.map Cid.val
        | none => fallbackLevel1Cid
      loadMinimalMetadataFromStorage ((level1Cid.filter (· ≠ "")).or fallbackLevel1Cid) G

def truthy : Option Json → Bool
  | some (.obj (_ :: _)) => true
  | _ => false

def storedResponse (k : ArkId) (r : ARKRecord) (metadata : Option ARKMetadata) (minimal : Option Json) :
    ARKResponse where
  ark := k.ark
  state := r.state
  target := r.target
  metadataCid := metadata.bind fun m => m.level1Cid.map Cid.val
  metadataSchema := metadata.map (·.originalSchema)
  minimalMetadata := minimal
  level1Cid := metadata.bind (·.level1Cid)
  level2Cid := metadata.bind (·.originalCid)
  clientItemId := r.clientItemId

def chainResponse (k : ArkId) (r : ARKRecord) (metadata : Option ARKMetadata) (minimal : Option Json) (G : GetEnv)
    (info : ARKInfo) : ARKResponse :=
  { storedResponse k r metadata minimal with
    state := .published
    target := some info.url
    metadataCid := some info.cid
    minimalMetadata :=
      if truthy minimal then minimal else resolveMinimalMetadata metadata G (some info.cid) }

def respondKnown (k : ArkId) (r : ARKRecord) (metadata : Option ARKMetadata) (G : GetEnv) : ARKResponse :=
  let minimal := resolveMinimalMetadata metadata G none
  match r.state, G.chain with
  | .published, .ok info => chainResponse k r metadata minimal G info
  | _, _ => storedResponse k r metadata minimal

def respondUnknown (k : ArkId) (G : GetEnv) : Except Raised ARKResponse :=
  match G.arkExists with
  | .error e => .error (.exc e)
  | .ok false => .error (.http 404 "ARK not found")
  | .ok true => match G.chain with
    | .error e => .error (.exc e)
    | .ok info => .ok { ark := k.ark, state := .published, target := some info.url, metadataCid := some info.cid }

def field (key : String) : Json → Option Json
  | .obj fields => (fields.find? (·.1 = key)).map (·.2)
  | _ => none

def reference (document : Json) : Option Json := (field "original_metadata" document).bind (field "cid")

/-- The Level 1 schema takes the reference over as it is. -/
def KeepsReference (level1Metadata : List (String × Json) → Except String Json) : Prop :=
  ∀ fields json, level1Metadata fields = .ok json → reference json = reference (.obj fields)

/-- A Level 1 document is stored with its reference filled in, and is found under its CID. -/
def Stores (documents : Cid → Option Json) (S : Storage) : Prop :=
  ∀ json level2Cid level1Cid, S.storeLevel1WithLevel2Reference json level2Cid = .ok level1Cid →
    ∃ document, documents level1Cid = some document ∧ reference document = some (.str level2Cid.val)

def Handles (documents : Cid → Option Json) : Op → Prop
  | .mutation (.put _ _ E) => KeepsReference E.level1Metadata
  | .mutation (.persist E) => Stores documents E.storage
  | _ => True

/-- A step that stages a payload as the schema does, or stores it as the storage does. -/
def Documented (documents : Cid → Option Json) (s : Sys) (a : Act) : Prop :=
  ∀ k op, opOf s a k = some op → Handles documents op

structure Referenced (documents : Cid → Option Json) (c : Cell) : Prop where
  staged : ∀ m json, c.metadata = some m → m.level1Json = some json → reference json = some .null
  stored : ∀ m level1Cid level2Cid, c.metadata = some m → m.level1Cid = some level1Cid →
    m.originalCid = some level2Cid →
      ∃ document, documents level1Cid = some document ∧ reference document = some (.str level2Cid.val)

section

variable [PyLower]

def getArkStatus (k : ArkId) (G : GetEnv) (c : Cell) : Except Raised ARKResponse := do
  validateArkCheckdigit G.checkdigit k
  match c.record with
  | some r => return respondKnown k r c.metadata G
  | none => respondUnknown k G

end

theorem find_setField (key : String) (value : Json) (fields : List (String × Json)) :
    (setField key value fields).find? (·.1 = key) = some (key, value) := by
  induction fields with
  | nil => simp [setField]
  | cons head fields ih =>
      obtain ⟨key', value'⟩ := head
      rw [setField]
      split
      · rename_i hkey
        simp [hkey]
      · rename_i hkey
        rw [List.find?_cons_of_neg (by simpa using hkey), ih]

variable {documents : Cid → Option Json} {c c' : Cell}

theorem Referenced.same (h : Referenced documents c) (hm : c'.metadata = c.metadata) : Referenced documents c' :=
  ⟨fun m json hm' => h.staged m json (hm ▸ hm'), fun m _ _ hm' => h.stored m _ _ (hm ▸ hm')⟩

theorem Referenced.absent (hm : c'.metadata = none) : Referenced documents c' := by
  constructor
  · intro m json hm'
    rw [hm] at hm'
    cases hm'
  · intro m level1Cid level2Cid hm'
    rw [hm] at hm'
    cases hm'

/-- The attempt at `k` purges the local copy of its Level 1 document. -/
def Purges (s t : Sys) (a : Act) (k : ArkId) : Prop :=
  (∃ E, opOf s a k = some (.mutation (.reconcile E))) ∧
    (∃ m json, (s.cells k).metadata = some m ∧ m.level1Json = some json) ∧
      ∃ m, (t.cells k).metadata = some m ∧ m.level1Json = none

section

variable [PyLower] {cfg : Config} {s t : Sys} {a : Act} {k : ArkId} {op : Op}

theorem reconciledRows_json (cfg : ReplicationConfig) (E : ReconcileEnv) (level1 level2 : ReplicationStatus)
    (r : ARKRecord) (m : ARKMetadata) (repaired : Nat) :
    (reconciledRows cfg E level1 level2 r m repaired).2.1.level1Json = m.level1Json ∨
      (reconciledRows cfg E level1 level2 r m repaired).2.1.level1Json = none := by
  have hmetadata := (reconciledRows_rows cfg E level1 level2 r m repaired).2
  generalize (reconciledRows cfg E level1 level2 r m repaired).2.1 = m' at hmetadata ⊢
  cases hmetadata with
  | counted => exact Or.inl rfl
  | purged => exact Or.inr rfl

theorem staged_payload {request : UpdateARKMetadataRequest} {now : Time} {json : Json} {r : ARKRecord} {b : Cell}
    {m : ARKMetadata} (hm : (staged request now json r b).metadata = some m) :
    m.level1Json = some json ∧ m.level1Cid = none := by
  unfold staged withPayload createOrUpdateMetadata at hm
  cases hb : b.metadata <;> simp only [hb, Option.some.injEq] at hm <;> rw [← hm] <;> exact ⟨rfl, rfl⟩

theorem level1Json_reference {request : UpdateARKMetadataRequest} {E : PutEnv} {json : Json}
    (hkeeps : KeepsReference E.level1Metadata) (h : level1Json k request E = .ok json) :
    reference json = some .null := by
  unfold level1Json at h
  simp only at h
  cases hmodel : E.level1Metadata (setField "original_metadata" (.obj [("schema", .str request.metadataSchema),
      ("media_type", .str (normalizeMediaType request.metadataMediaType)), ("cid", .null)])
      (setField "ark" (.str k.ark) request.minimalMetadata)) with
  | error text =>
      rw [hmodel] at h
      cases h
  | ok json' =>
      rw [hmodel] at h
      obtain rfl := Except.ok.inj h
      rw [hkeeps _ _ hmodel, reference, field, find_setField]
      rfl

theorem referenced_effect (h : Referenced documents c) (hcons : Consistent cfg.replication c)
    (heffect : Effect cfg k c op c') (hop : Handles documents op) : Referenced documents c' := by
  cases heffect with
  | none => exact h
  | reserved | raced | retried => exact h.same rfl
  | staged hstaged =>
      obtain ⟨b, r, json, -, -, -, -, -, hjson, rfl⟩ := hstaged.ex
      have hnull := level1Json_reference hop hjson
      constructor
      · intro m json' hm hjson'
        obtain rfl := Option.some.inj ((staged_payload hm).1.symm.trans hjson')
        exact hnull
      · intro m level1Cid level2Cid hm hcid
        cases (staged_payload hm).2.symm.trans hcid
  | tombstoned htomb =>
      exact htomb.keeps (I := Referenced documents) h (fun _ _ _ => .absent rfl) fun _ _ _ hb => hb.same rfl
  | @persisted E r m level1Cid level2Cid hr hacc hm h2 h1 =>
      obtain ⟨-, m', hm', -, -, hcid, -⟩ := (hcons.live r hr (persistAccepts_live hacc).1).at_metadata
        (persistAccepts_live hacc).2
      obtain rfl := Option.some.inj (hm.symm.trans hm')
      constructor
      · rintro _ json ⟨⟩ hjson
        exact h.staged m json hm hjson
      · rintro _ _ _ ⟨⟩ ⟨⟩ ⟨⟩
        unfold persistLevel1 at h1
        rw [hcid] at h1
        simp only at h1
        split at h1
        · exact hop _ _ _ h1
        · cases h1
  | @observed E r m level1Cid level2Cid level1 level2 repaired hr hacc hm =>
      obtain ⟨hcid1, hcid2, -⟩ := reconciledRows_copies cfg.replication E level1 level2 r m repaired
      constructor
      · rintro _ json ⟨⟩ hjson
        rcases reconciledRows_json cfg.replication E level1 level2 r m repaired with hkept | hpurged
        · exact h.staged m json hm (hkept.symm.trans hjson)
        · rw [hpurged] at hjson
          cases hjson
      · rintro _ _ _ ⟨⟩ hc1 hc2
        exact h.stored m _ _ hm (hcid1.symm.trans hc1) (hcid2.symm.trans hc2)
  | published _ _ hpub =>
      obtain ⟨m, cid, -, -, -, -, rfl⟩ := hpub
      exact h.same rfl
  | publishedItem hpub =>
      obtain ⟨-, -, r, -, rfl⟩ := hpub
      exact h.same rfl
  | persistNoted _ _ hn | reconcileNoted _ _ hn | publishNoted _ _ hn | unassigned _ _ hn | resultNoted _ hn =>
      exact h.same hn.metadata

theorem reach_referenced (h : Reach (step cfg) (Documented documents) {} s) (k : ArkId) :
    Referenced documents (s.cells k) := by
  have hboth : ∀ k, Consistent cfg.replication (s.cells k) ∧ Referenced documents (s.cells k) := by
    have hinit : Consistent cfg.replication {} := by
      refine ⟨fun _ => rfl, ?_⟩
      rintro _ ⟨⟩
    refine reach_cells (I := fun c => Consistent cfg.replication c ∧ Referenced documents c) h ⟨hinit, .absent rfl⟩ ?_
    intro s a k op hg hop hadmissible heffect hI
    exact ⟨consistent_effect hI.1 heffect hadmissible, referenced_effect hI.2 hI.1 heffect (hg k op hop)⟩
  exact (hboth k).2

omit [PyLower] in
theorem readable_of_reference {document value : Json} (h : reference document = some value) :
    extractMinimalMetadata (some document) = some document ∧ truthy (some document) = true := by
  cases document with
  | obj fields =>
      cases fields with
      | nil => cases h
      | cons => exact ⟨rfl, rfl⟩
  | null | bool | num | str | arr => cases h

omit [PyLower] in
theorem resolve_local {m : ARKMetadata} {G : GetEnv} {document : Json} {fallback : Option String}
    (hjson : m.level1Json = some document) (hread : extractMinimalMetadata (some document) = some document) :
    resolveMinimalMetadata (some m) G fallback = some document := by
  simp only [resolveMinimalMetadata, Option.bind_some, hjson, hread]

omit [PyLower] in
theorem resolve_stored {m : ARKMetadata} {G : GetEnv} {document : Json} {cid : Cid} {fallback : Option String}
    (hjson : m.level1Json = none) (hcid : m.level1Cid = some cid) (hdocument : G.getDocument cid.val = .ok document)
    (hread : extractMinimalMetadata (some document) = some document) :
    resolveMinimalMetadata (some m) G fallback = some document := by
  have hfilter : Option.filter (· ≠ "") (some cid.val) = some cid.val := by
    rw [Option.filter_some, if_pos (by simpa using cid.nonempty)]
  simp only [resolveMinimalMetadata, Option.bind_some, hjson, extractMinimalMetadata, hcid, Option.map_some, hfilter,
    Option.some_or, loadMinimalMetadataFromStorage, hdocument]
  exact hread

theorem getArkStatus_minimal {r : ARKRecord} {G : GetEnv} {document : Json} (hr : c.record = some r)
    (hcheck : validateArkCheckdigit G.checkdigit k = .ok ())
    (hminimal : resolveMinimalMetadata c.metadata G none = some document) (htruthy : truthy (some document) = true) :
    ∃ response, getArkStatus k G c = .ok response ∧ response.minimalMetadata = some document := by
  rw [getArkStatus, hcheck, hr]
  refine ⟨_, rfl, ?_⟩
  rw [respondKnown, hminimal]
  split
  · rw [chainResponse, if_pos htruthy]
  · rfl

/-- Before a purge a GET shows the staged copy, without the reference, and after it the stored copy,
with it. -/
theorem purge_shown {G G' : GetEnv} (hreach : Reach (step cfg) (Documented documents) {} s)
    (hs : step cfg s a = some t) (hpurge : Purges s t a k) (hcheck : validateArkCheckdigit G.checkdigit k = .ok ())
    (hcheck' : validateArkCheckdigit G'.checkdigit k = .ok ())
    (hserves : ∀ cid document, documents cid = some document → G'.getDocument cid.val = .ok document) :
    ∃ before after, getArkStatus k G (s.cells k) = .ok before ∧ getArkStatus k G' (t.cells k) = .ok after ∧
      before.minimalMetadata ≠ after.minimalMetadata := by
  obtain ⟨⟨E, hop⟩, ⟨m, json, hm, hjson⟩, m', hm', hnone⟩ := hpurge
  have href := reach_referenced hreach k
  rcases step_effect hs k with ⟨hidle, -⟩ | ⟨op, hop', heffect⟩
  · cases hop.symm.trans hidle
  · obtain rfl := Option.some.inj (hop.symm.trans hop')
    have hkept : (t.cells k).metadata ≠ (s.cells k).metadata := by
      intro hsame
      obtain rfl := Option.some.inj (hm'.symm.trans (hsame.trans hm))
      cases hjson.symm.trans hnone
    generalize t.cells k = c' at heffect hm' hkept ⊢
    cases heffect with
    | none => exact absurd rfl hkept
    | reconcileNoted _ _ hn => exact absurd hn.metadata hkept
    | @observed _ r m₁ level1Cid level2Cid level1 level2 repaired hr hacc hm₁ h1 h2 =>
        obtain ⟨hcid1, -, -⟩ := reconciledRows_copies cfg.replication E level1 level2 r m₁ repaired
        obtain ⟨document, hdocument, hshown⟩ := href.stored m₁ level1Cid level2Cid hm₁ h1 h2
        have hnull := href.staged m json hm hjson
        obtain ⟨hextract, htruthy⟩ := readable_of_reference hnull
        obtain ⟨hextract', htruthy'⟩ := readable_of_reference hshown
        have hbefore : resolveMinimalMetadata (s.cells k).metadata G none = some json := by
          rw [hm]
          exact resolve_local hjson hextract
        have hafter : resolveMinimalMetadata
            (some (reconciledRows cfg.replication E level1 level2 r m₁ repaired).2.1) G' none = some document := by
          obtain rfl := Option.some.inj hm'
          exact resolve_stored hnone (hcid1.trans h1) (hserves level1Cid document hdocument) hextract'
        obtain ⟨before, hget, hminimal⟩ := getArkStatus_minimal hr hcheck hbefore htruthy
        obtain ⟨after, hget', hminimal'⟩ := getArkStatus_minimal (c := { s.cells k with
          record := some (reconciledRows cfg.replication E level1 level2 r m₁ repaired).1
          metadata := some (reconciledRows cfg.replication E level1 level2 r m₁ repaired).2.1 })
          rfl hcheck' hafter htruthy'
        refine ⟨before, after, hget, hget', ?_⟩
        rw [hminimal, hminimal']
        rintro ⟨⟩
        cases hnull.symm.trans hshown

end

section Sample

attribute [local instance] asciiText

open Sample

def withLevel2Reference (level2Cid : Cid) : Json → Json
  | .obj fields =>
      let originalMetadata := match field "original_metadata" (.obj fields) with
        | some (.obj originalMetadata) => originalMetadata
        | _ => []
      .obj (setField "original_metadata" (.obj (setField "cid" (.str level2Cid.val) originalMetadata)) fields)
  | json => json

def stagedDocument : Json :=
  .obj [("ark", .str "ark:1/a"), ("original_metadata", .obj [("schema", .str "s"), ("media_type", .str "text/xml"),
    ("cid", .null)])]

def archived (cid : Cid) : Option Json := if cid = cid1 then some (withLevel2Reference cid2 stagedDocument) else none

def archive : Storage where
  storeLevel2 _ _ _ := .ok cid2
  storeLevel1WithLevel2Reference _ level2Cid := if level2Cid = cid2 then .ok cid1 else .error unread

def reader : GetEnv where
  checkdigit := false
  getDocument cid := if cid = "c1" then .ok (withLevel2Reference cid2 stagedDocument) else .error unread
  arkExists := .ok true
  chain := .ok ⟨"t", "c1", "w"⟩

def untilPublished : List Act :=
  [.reserve [(ark, ⟨"A", none, 0⟩)], .mutate ark (.put owner request putEnv),
    .mutate ark (.persist { persistEnv with storage := archive }), .mutate ark (.reconcile reconcileEnv),
    .select 0 4 [ark], .readMetadata 0, .plan 0, .submit 0 confirmed, .acquire 0, .finish 0 resultEnv]

def purging : Act := .mutate ark (.reconcile reconcileEnv)

theorem documented_of_mutation {documents : Cid → Option Json} {s : Sys} {a : Act}
    (h : ∀ k m, a = .mutate k m → Handles documents (.mutation m)) : Documented documents s a := by
  intro k op hop
  cases opOf_performs hop with
  | mutate => exact h k _ rfl
  | reserve | markUnassigned | finish => exact trivial

theorem archive_stores : Stores archived archive := by
  intro json level2Cid level1Cid h
  simp only [archive] at h
  split at h
  · rename_i hcid
    obtain rfl := Except.ok.inj h
    exact ⟨_, if_pos rfl, hcid ▸ rfl⟩
  · cases h

theorem untilPublished_documented : ∀ a ∈ untilPublished, ∀ s, Documented archived s a := by
  intro a ha s
  refine documented_of_mutation fun k m hmutate => ?_
  subst hmutate
  simp only [untilPublished, List.mem_cons, List.not_mem_nil, or_false, reduceCtorEq, false_or,
    Act.mutate.injEq] at ha
  rcases ha with ⟨-, rfl⟩ | ⟨-, rfl⟩ | ⟨-, rfl⟩
  · rintro fields json ⟨⟩
    rfl
  · exact archive_stores
  · exact trivial

theorem untilPublished_run : ∃ s t, run (step config) untilPublished {} = some s ∧ step config s purging = some t ∧
    Purges s t purging ark := by
  have hafter : ((run (step config) (untilPublished ++ [purging]) {}).map fun t =>
      (t.cells ark).metadata.map fun m => m.level1Json.isNone) = some (some true) := by decide +kernel
  have hbefore : ((run (step config) untilPublished {}).map fun s => ((s.cells ark).metadata.map fun m =>
      m.level1Json.isSome, (s.control.locks ark).isNone)) = some (some true, true) := by decide +kernel
  obtain ⟨t, ht, hpurged⟩ := Option.map_eq_some_iff.mp hafter
  obtain ⟨s, hs, hstep⟩ := run_concat ht
  rw [hs, Option.map_some, Option.some.injEq, Prod.mk.injEq, Option.map_eq_some_iff,
    Option.isNone_iff_eq_none] at hbefore
  obtain ⟨⟨m, hm, hjson⟩, hlock⟩ := hbefore
  obtain ⟨json, hjson⟩ := Option.isSome_iff_exists.mp hjson
  obtain ⟨m', hm', hnone⟩ := Option.map_eq_some_iff.mp hpurged
  refine ⟨s, t, hs, hstep, ⟨reconcileEnv, ?_⟩, ⟨m, json, hm, hjson⟩, m', hm', Option.isNone_iff_eq_none.mp hnone⟩
  simp [opOf, purging, hlock]

theorem purge_shown_sample : ∃ s t, step config s purging = some t ∧ ∃ before after,
    getArkStatus ark reader (s.cells ark) = .ok before ∧ getArkStatus ark reader (t.cells ark) = .ok after ∧
      before.minimalMetadata ≠ after.minimalMetadata := by
  obtain ⟨s, t, hs, hstep, hpurge⟩ := untilPublished_run
  have hreach : Reach (step config) (Documented archived) {} s :=
    (run_guarded (fun _ => True) hs trivial (fun s a ha _ => untilPublished_documented a ha s)
      fun _ _ _ _ _ _ => trivial).1
  have hserves : ∀ cid document, archived cid = some document → reader.getDocument cid.val = .ok document := by
    intro cid document h
    simp only [archived] at h
    split at h
    · rename_i hcid
      obtain rfl := Option.some.inj h
      rw [hcid]
      rfl
    · cases h
  exact ⟨s, t, hstep, purge_shown hreach hstep hpurge rfl rfl hserves⟩

def shownReference (c : Cell) : Option String :=
  ((getArkStatus ark reader c).toOption.bind (·.minimalMetadata)).bind reference |>.map fun
    | .str cid => cid
    | _ => ""

/-- The storage returns what was stored, and the purge of a published ARK shows. -/
theorem purge_invisible_fails : ¬∀ s t, run (step config) untilPublished {} = some s → step config s purging = some t →
    Purges s t purging ark → ∀ before after, getArkStatus ark reader (s.cells ark) = .ok before →
      getArkStatus ark reader (t.cells ark) = .ok after → before.minimalMetadata = after.minimalMetadata := by
  intro hall
  obtain ⟨s, t, hs, hstep, hpurge⟩ := untilPublished_run
  have hbefore : ((run (step config) untilPublished {}).map fun s => shownReference (s.cells ark)) =
      some (some "") := by decide +kernel
  have hafter : ((run (step config) (untilPublished ++ [purging]) {}).map fun t => shownReference (t.cells ark)) =
      some (some "c2") := by decide +kernel
  obtain ⟨t', ht', hshown'⟩ := Option.map_eq_some_iff.mp hafter
  obtain ⟨s', hs', hstep'⟩ := run_concat ht'
  obtain rfl := Option.some.inj (hs.symm.trans hs')
  obtain rfl := Option.some.inj (hstep.symm.trans hstep')
  rw [hs, Option.map_some, Option.some.injEq] at hbefore
  have hread : ∀ {c : Cell} {text : String}, shownReference c = some text →
      ∃ response, getArkStatus ark reader c = .ok response := by
    intro c text htext
    cases hget : getArkStatus ark reader c with
    | ok response => exact ⟨response, rfl⟩
    | error e =>
        rw [shownReference, hget] at htext
        cases htext
  obtain ⟨before, hget⟩ := hread hbefore
  obtain ⟨after, hget'⟩ := hread hshown'
  rw [shownReference, hget] at hbefore
  rw [shownReference, hget', Except.toOption, Option.bind_some,
    ← hall s t hs hstep hpurge before after hget hget'] at hshown'
  exact absurd (hbefore.symm.trans hshown') (by decide)

end Sample

end DarkMinter.Purging
