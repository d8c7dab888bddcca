import DarkMinter.ArkApi

namespace DarkMinter.Requests

open Text Processing Records Repository Authority ArkApi Lib.Transaction

variable [PyLower]

/-- The rows a PUT finds: those before it, or with the row of the reservation
that wins the race against its import. -/
inductive Seen (E : PutEnv) (c : Cell) : Cell → Prop
  | same : Seen E c c
  | raced {row : Reservation} (h : c.record = none) (hr : E.raced = some row) :
      Seen E c { c with record := some row.record }

/-- The rows of `A` that a PUT stages its payload on. -/
inductive PutBase (k : ArkId) (A : String) (E : PutEnv) (c : Cell) : Cell → Prop
  | own {c₀ : Cell} {r : ARKRecord} (hs : Seen E c c₀) (hr : c₀.record = some r)
      (hA : r.authorityId = A) : PutBase k A E c c₀
  | imported {info : ARKInfo} (h : c.record = none) (hi : importInfo k A E = .ok info)
      (hr : E.raced = none) :
      PutBase k A E c { c with record := some (createPublishedImport A (some info.url) E.now) }
  | reclaimed {c₀ : Cell} {r : ARKRecord} {info : ARKInfo} (hs : Seen E c c₀)
      (hr : c₀.record = some r) (hA : r.authorityId ≠ A) (ho : OwnerConfirmed E.owner info) :
      PutBase k A E c (superseded A info E.now r c₀)

theorem PutBase.record {k : ArkId} {A : String} {E : PutEnv} {c b : Cell}
    (h : PutBase k A E c b) : ∃ r, b.record = some r ∧ r.authorityId = A := by
  cases h with
  | own _ hr hA => exact ⟨_, hr, hA⟩
  | imported => exact ⟨_, rfl, rfl⟩
  | reclaimed => exact ⟨_, rfl, rfl⟩

def stagedRecord (request : UpdateARKMetadataRequest) (now : Time) (r : ARKRecord) : ARKRecord :=
  { r with
    state := if r.state = .reserved then .draft else .update
    target := some request.target
    processingStage := .metadata
    processingStatus := .ready
    processingAttemptCount := 0
    nextActionAt := none
    processingWaitReason := .none
    processingErrorCode := none
    processingErrorDetail := none
    updatedAt := now }

def withPayload (request : UpdateARKMetadataRequest) (now : Time) (json : Json) : Cell → Cell :=
  createOrUpdateMetadata json request.originalMetadata request.metadataSchema
    (some (normalizeMediaType request.metadataMediaType)) now

def staged (request : UpdateARKMetadataRequest) (now : Time) (json : Json) (r : ARKRecord)
    (b : Cell) : Cell :=
  { withPayload request now json b with record := some (stagedRecord request now r) }

/-- A PUT of `A` committed the rows `c'`. -/
structure Staged (k : ArkId) (A : String) (request : UpdateARKMetadataRequest) (E : PutEnv)
    (c c' : Cell) : Prop where
  intro ::
  ex : ∃ b r json, PutBase k A E c b ∧ b.record = some r ∧ r.authorityId = A ∧
    (r.state = .reserved ∨ r.state = .published) ∧ request.target ≠ "" ∧
    level1Json k request E = .ok json ∧ c' = staged request E.now json r b

def OnBase (k : ArkId) (A : String) (E : PutEnv) (c : Cell) (s : Session Cell) : Prop :=
  Seen E c s.committed ∧ PutBase k A E c s.working

def OnRecord (k : ArkId) (A : String) (E : PutEnv) (c : Cell) (r : ARKRecord) (s : Session Cell) :
    Prop :=
  s.working.record = some r ∧ Seen E c s.committed ∧
    (s.working = s.committed ∨ r.authorityId = A ∧ PutBase k A E c s.working)

variable {k : ArkId} {A : String} {request : UpdateARKMetadataRequest} {E : PutEnv} {c : Cell}

omit [PyLower] in
theorem execute_triple_of {fails : Statement → Option Exc} {st : Statement} {P : Session Cell → Prop}
    {Q : Unit → Session Cell → Prop} {R : Raised → Session Cell → Prop}
    (hok : ∀ s, P s → fails st = none → Q () s)
    (herr : ∀ e s, P s → fails st = some e → R (.exc e) s) :
    Tx.Triple P (execute fails st) Q R := by
  unfold execute
  split
  · exact Tx.triple_raise fun s hs => herr _ s hs ‹_›
  · exact Tx.triple_pure fun s hs => hok s hs ‹_›

omit [PyLower] in
theorem execute_triple {fails : Statement → Option Exc} {st : Statement} {P : Session Cell → Prop}
    {R : Raised → Session Cell → Prop} (hR : ∀ e s, P s → R e s) :
    Tx.Triple P (execute fails st) (fun _ => P) R :=
  execute_triple_of (fun _ hs _ => hs) fun _ s hs _ => hR _ s hs

omit [PyLower] in
theorem applying_triple {f : Cell → Except Exc Cell} {s₀ : Session Cell} :
    Tx.Triple (· = s₀) (applying f)
      (fun _ s => ∃ b, f s₀.working = .ok b ∧ s = { s₀ with working := b }) (fun _ s => s = s₀) := by
  unfold applying
  refine Tx.Triple.bind (Q := fun c s => c = s₀.working ∧ s = s₀) (Tx.triple_read ?_) fun c => ?_
  · rintro _ rfl
    exact ⟨rfl, rfl⟩
  refine Tx.Triple.bind (Q := fun b s => f s₀.working = .ok b ∧ s = s₀) (Tx.triple_lift ?_ ?_) fun b => ?_
  · rintro b s h ⟨rfl, hs⟩
    refine ⟨?_, hs⟩
    cases hf : f s₀.working with
    | ok b' => simpa [hf, Except.mapError] using h
    | error e => simp [hf, Except.mapError] at h
  · exact fun _ _ _ hs => hs.2
  · refine Tx.triple_modify ?_
    rintro _ ⟨h, rfl⟩
    exact ⟨b, h, rfl⟩

theorem insertImport_triple {info : ARKInfo} (hc : c.record = none)
    (hi : importInfo k A E = .ok info) :
    Tx.Triple (· = ⟨c, c⟩) (insertImport A info E) (fun _ s => ∃ r, OnRecord k A E c r s)
      (fun _ s => Seen E c s.committed) := by
  have hsame : ∀ s : Session Cell, s = ⟨c, c⟩ → Seen E c s.committed := by
    rintro _ rfl
    exact .same
  unfold insertImport
  cases hr : E.raced with
  | some row =>
      refine Tx.Triple.bind (Q := fun _ s => OnRecord k A E c row.record s) ?_ fun _ => ?_
      · refine Tx.triple_elsewhere ?_
        rintro _ rfl
        exact ⟨rfl, .raced hc hr, .inl rfl⟩
      · exact (execute_triple (R := fun _ s => Seen E c s.committed) fun _ _ hs => hs.2.1).imp
          (fun _ hs => hs) (fun _ _ hs => ⟨_, hs⟩) (fun _ _ hs => hs)
  | none =>
      cases hf : E.fails .insertImport with
      | none =>
          refine Tx.triple_modify ?_
          rintro _ rfl
          exact ⟨_, rfl, .same, .inr ⟨rfl, .imported hc hi hr⟩⟩
      | some e =>
          refine Tx.Triple.ite (fun _ => ?_) fun _ => Tx.triple_raise hsame
          refine Tx.Triple.bind (execute_triple fun _ => hsame) fun _ => ?_
          refine Tx.Triple.bind (Q := fun _ s => s = ⟨c, c⟩) (Tx.triple_rollback ?_) fun _ => ?_
          · rintro _ rfl
            rfl
          · exact Tx.triple_raise hsame

theorem findOrImport_triple :
    Tx.Triple (· = ⟨c, c⟩) (findOrImport k A E) (fun p => OnRecord k A E c p.1)
      (fun _ s => Seen E c s.committed) := by
  have hsame : ∀ s : Session Cell, s = ⟨c, c⟩ → Seen E c s.committed := by
    rintro _ rfl
    exact .same
  unfold findOrImport
  refine Tx.Triple.bind (execute_triple fun _ => hsame) fun _ => ?_
  refine Tx.Triple.bind (Q := fun b s => b = c ∧ s = ⟨c, c⟩) (Tx.triple_read ?_) fun b => ?_
  · rintro _ rfl
    exact ⟨rfl, rfl⟩
  cases hb : b.record with
  | some r =>
      refine Tx.triple_pure ?_
      rintro _ ⟨rfl, rfl⟩
      exact ⟨hb, .same, .inl rfl⟩
  | none =>
      refine Tx.Triple.bind (Q := fun info s => importInfo k A E = .ok info ∧ c.record = none ∧ s = ⟨c, c⟩)
        (Tx.triple_lift ?_ ?_) fun info => ?_
      · rintro info _ hi ⟨rfl, rfl⟩
        exact ⟨hi, hb, rfl⟩
      · rintro e _ _ ⟨rfl, rfl⟩
        exact .same
      refine Tx.Triple.bind (Q := fun _ s => ∃ r, OnRecord k A E c r s) ?_ fun _ => ?_
      · intro s hs
        obtain ⟨hi, hc, hs⟩ := hs
        exact insertImport_triple hc hi s hs
      refine Tx.Triple.bind (Q := fun b s => ∃ r, b.record = some r ∧ OnRecord k A E c r s)
        (Tx.triple_read ?_) fun b => ?_
      · rintro s ⟨r, hs⟩
        exact ⟨r, hs.1, hs⟩
      cases hb : b.record with
      | some r =>
          refine Tx.triple_pure ?_
          rintro s ⟨r', hr', hs⟩
          obtain rfl : r = r' := by simpa [hb] using hr'
          exact hs
      | none =>
          refine Tx.triple_raise ?_
          rintro s ⟨_, _, hs⟩
          exact hs.2.1

theorem reconcileLocalOwner_triple {fails : Statement → Option Exc} {now : Time} {owner : OwnerReads}
    {r : ARKRecord} {s₀ : Session Cell} :
    Tx.Triple (· = s₀) (reconcileLocalOwner fails now owner A r)
      (fun info s => OwnerConfirmed owner info ∧
        s = { s₀ with working := superseded A info now r s₀.working })
      (fun _ s => s = s₀) := by
  unfold reconcileLocalOwner
  refine Tx.Triple.bind
    (Q := fun current s => requireCurrentOwner owner false = .ok current ∧ s = s₀)
    (Tx.triple_lift ?_ ?_) fun current => ?_
  · rintro current s h rfl
    exact ⟨h, rfl⟩
  · exact fun _ _ _ hs => hs
  cases current with
  | none => exact Tx.triple_raise fun s hs => hs.2
  | some info =>
      refine Tx.Triple.bind (execute_triple fun _ _ hs => hs.2) fun _ => ?_
      refine Tx.Triple.bind (execute_triple fun _ _ hs => hs.2) fun _ => ?_
      refine Tx.Triple.bind (Q := fun _ s => requireCurrentOwner owner false = .ok (some info) ∧ s = s₀)
        (Tx.triple_read fun _ hs => hs) fun b => ?_
      refine Tx.Triple.bind (Q := fun _ s => requireCurrentOwner owner false = .ok (some info) ∧ s = s₀)
        ?_ fun _ => ?_
      · cases b.metadata with
        | some _ => exact execute_triple fun _ _ hs => hs.2
        | none => exact Tx.triple_pure fun _ hs => hs
      refine Tx.Triple.bind (execute_triple fun _ _ hs => hs.2) fun _ => ?_
      refine Tx.Triple.bind (Q := fun _ s => OwnerConfirmed owner info ∧
        s = { s₀ with working := superseded A info now r s₀.working })
        (Tx.triple_modify ?_) fun _ => Tx.triple_pure fun _ hs => hs
      rintro s ⟨h, rfl⟩
      exact ⟨requireCurrentOwner_some.mp h, rfl⟩

theorem changeState_staged {json : Json} {r : ARKRecord} {b b' : Cell} {now : Time}
    (hb : b.record = some r) (hr : r.state = .reserved ∨ r.state = .published)
    (h : changeState k request.target now r
      (withPayload request now json b) = .ok b') :
    request.target ≠ "" ∧ b' = staged request now json r b := by
  unfold changeState at h
  rcases hr with hr | hr <;> simp only [hr, updateToDraft, updateToUpdate, transition] at h <;>
    split at h
  case inl.isTrue | inr.isTrue => simp at h
  all_goals
    refine ⟨‹_›, ?_⟩
    simpa [withPayload, createOrUpdateMetadata, staged, stagedRecord, hb, hr] using h.symm

theorem stagePayload_triple {json : Json} {known : Option String} {r : ARKRecord}
    {s₀ : Session Cell} (hb : s₀.working.record = some r)
    (hr : r.state = .reserved ∨ r.state = .published) :
    Tx.Triple (· = s₀) (stagePayload k request E r json known)
      (fun _ s => request.target ≠ "" ∧ s.committed = staged request E.now json r s₀.working)
      (fun _ s => s.committed = s₀.committed ∨ E.fails .refresh ≠ none ∧ request.target ≠ "" ∧
        s.committed = staged request E.now json r s₀.working) := by
  unfold stagePayload
  refine Tx.Triple.bind
    (Q := fun _ s => s = { s₀ with working := withPayload request E.now json s₀.working })
    ?_ fun _ => ?_
  · unfold storePayload
    split
    · exact Tx.triple_raise fun s hs => .inl (by rw [hs])
    · refine Tx.triple_modify ?_
      rintro _ rfl
      rfl
  refine Tx.Triple.catching
    (M := fun _ s => s.committed = s₀.committed ∨ E.fails .refresh ≠ none ∧ request.target ≠ "" ∧
      s.committed = staged request E.now json r s₀.working) ?_ fun e => ?_
  · refine Tx.Triple.bind (execute_triple fun _ s hs => .inl (by rw [hs])) fun _ => ?_
    refine Tx.Triple.bind (Q := fun _ s => request.target ≠ "" ∧
      s = { s₀ with working := staged request E.now json r s₀.working }) ?_ fun _ => ?_
    · refine applying_triple.imp (fun _ hs => hs) ?_ fun _ s hs => .inl (by rw [hs])
      rintro _ s ⟨b, h, rfl⟩
      obtain ⟨ht, rfl⟩ := changeState_staged hb hr h
      exact ⟨ht, rfl⟩
    refine Tx.Triple.bind (execute_triple fun _ s hs => .inl (by rw [hs.2])) fun _ => ?_
    refine Tx.Triple.bind (Q := fun _ s => request.target ≠ "" ∧
      s = ⟨staged request E.now json r s₀.working, staged request E.now json r s₀.working⟩)
      (Tx.triple_commit ?_) fun _ => ?_
    · rintro _ ⟨ht, rfl⟩
      exact ⟨ht, rfl⟩
    refine Tx.Triple.bind (Q := fun _ s => request.target ≠ "" ∧
      s = ⟨staged request E.now json r s₀.working, staged request E.now json r s₀.working⟩)
      (execute_triple_of (fun _ hs _ => hs) ?_) fun _ => ?_
    · rintro e _ ⟨ht, rfl⟩ hf
      exact .inr ⟨by simp [hf], ht, rfl⟩
    refine Tx.Triple.bind (Q := fun b s => b = staged request E.now json r s₀.working ∧
      request.target ≠ "" ∧ s.committed = staged request E.now json r s₀.working)
      (Tx.triple_read ?_) fun b => ?_
    · rintro _ ⟨ht, rfl⟩
      exact ⟨rfl, ht, rfl⟩
    refine Tx.triple_lift (fun _ _ _ hs => hs.2) ?_
    rintro _ _ h ⟨rfl, -⟩
    simp [respond, staged, withPayload, createOrUpdateMetadata] at h
  · refine Tx.Triple.bind (Q := fun _ s => s.committed = s₀.committed ∨ E.fails .refresh ≠ none ∧
      request.target ≠ "" ∧ s.committed = staged request E.now json r s₀.working)
      (Tx.triple_rollback fun _ hs => hs) fun _ => Tx.triple_raise fun _ hs => hs

omit [PyLower] in
theorem refusePending_ok {r : ARKRecord} (h : refusePending A r = .ok ()) :
    r.authorityId = A ∧ (r.state = .reserved ∨ r.state = .published) := by
  unfold refusePending at h
  split at h; · simp at h
  split at h; · simp at h
  split at h; · simp at h
  split at h; · simp at h
  cases hr : r.state <;> simp_all

theorem reclaim_triple {found : ARKRecord} {imported : Option String} :
    Tx.Triple (OnRecord k A E c found) (reclaim E.fails E.now E.owner A found imported)
      (fun _ => OnBase k A E c) (fun _ s => Seen E c s.committed) := by
  unfold reclaim
  refine Tx.Triple.ite (fun hA => ?_) fun hA => Tx.triple_pure ?_
  · refine Tx.Triple.bind (Q := fun _ => OnBase k A E c) ?_ fun _ => Tx.triple_pure fun _ hs => hs
    rintro s ⟨hr, hseen, hs | ⟨hA', -⟩⟩
    · refine reconcileLocalOwner_triple.imp (fun _ h => h) ?_ ?_ s rfl
      · rintro info _ ⟨ho, rfl⟩
        refine ⟨hseen, ?_⟩
        rw [hs] at hr ⊢
        exact .reclaimed hseen hr hA ho
      · rintro _ _ rfl
        exact hseen
    · exact absurd hA' hA
  · rintro s ⟨hr, hseen, hs | ⟨-, hb⟩⟩
    · refine ⟨hseen, ?_⟩
      rw [hs] at hr ⊢
      exact .own hseen hr (not_not.mp hA)
    · exact ⟨hseen, hb⟩

theorem updateArkMetadata_triple {identity : Identity} :
    Tx.Triple (· = ⟨c, c⟩) (updateArkMetadata identity k request E)
      (fun _ s => Staged k identity.authorityId request E c s.committed)
      (fun _ s => Seen E c s.committed ∨
        E.fails .refresh ≠ none ∧ Staged k identity.authorityId request E c s.committed) := by
  have hsame : ∀ s : Session Cell, s = ⟨c, c⟩ → Seen E c s.committed := by
    rintro _ rfl
    exact .same
  unfold updateArkMetadata
  refine Tx.Triple.bind (Q := fun A s => A = identity.authorityId ∧ s = ⟨c, c⟩)
    (Tx.triple_lift (fun _ _ h hs => ⟨enforceAuthorityMatch_ok h, hs⟩)
      fun _ s _ hs => .inl (hsame s hs)) fun A => ?_
  refine Tx.Triple.bind (Q := fun _ s => A = identity.authorityId ∧ s = ⟨c, c⟩)
    (Tx.triple_lift (fun _ _ _ hs => hs) fun _ s _ hs => .inl (hsame s hs.2)) fun _ => ?_
  by_cases hA : A = identity.authorityId
  · subst hA
    refine Tx.Triple.bind (Q := fun p => OnRecord k identity.authorityId E c p.1)
      (findOrImport_triple.imp (fun _ hs => hs.2) (fun _ _ hs => hs) fun _ _ hs => .inl hs)
      fun ⟨found, imported⟩ => ?_
    refine Tx.Triple.bind (Q := fun _ => OnBase k identity.authorityId E c)
      (reclaim_triple.imp (fun _ hs => hs) (fun _ _ hs => hs) fun _ _ hs => .inl hs) fun known => ?_
    refine Tx.Triple.bind (Q := fun b s => b = s.working ∧ OnBase k identity.authorityId E c s)
      (Tx.triple_read fun _ hs => ⟨rfl, hs⟩) fun b => ?_
    cases hb : b.record with
    | none => exact Tx.triple_raise fun _ hs => .inl hs.2.1
    | some r =>
        refine Tx.Triple.bind (Q := fun _ s => refusePending identity.authorityId r = .ok () ∧
          b = s.working ∧ OnBase k identity.authorityId E c s)
          (Tx.triple_lift (fun _ _ h hs => ⟨h, hs⟩) fun _ _ _ hs => .inl hs.2.1) fun _ => ?_
        refine Tx.Triple.bind (Q := fun json s => level1Json k request E = .ok json ∧
          refusePending identity.authorityId r = .ok () ∧ b = s.working ∧
            OnBase k identity.authorityId E c s)
          (Tx.triple_lift (fun _ _ h hs => ⟨h, hs⟩) fun _ _ _ hs => .inl hs.2.2.1) fun json => ?_
        rintro s ⟨hjson, hpending, rfl, hseen, hbase⟩
        obtain ⟨hrA, hstate⟩ := refusePending_ok hpending
        have hstaged : request.target ≠ "" → Staged k identity.authorityId request E c
            (staged request E.now json r s.working) :=
          fun ht => ⟨_, r, json, hbase, hb, hrA, hstate, ht, hjson, rfl⟩
        refine (stagePayload_triple hb hstate).imp (fun _ h => h) ?_ ?_ s rfl
        · rintro _ t ⟨ht, hc⟩
          rw [hc]
          exact hstaged ht
        · rintro _ t (hc | ⟨hf, ht, hc⟩)
          · rw [hc]
            exact .inl hseen
          · rw [hc]
            exact .inr ⟨hf, hstaged ht⟩
  · exact fun s hs => absurd hs.1 hA

theorem put_cases {identity : Identity} {res : Except Raised ARKResponse} {c' : Cell}
    (h : put identity k request E c = (res, c')) :
    (∃ response, res = .ok response ∧ Staged k identity.authorityId request E c c') ∨
      ∃ e, res = .error e ∧ (Seen E c c' ∨
        E.fails .refresh ≠ none ∧ Staged k identity.authorityId request E c c') := by
  rcases updateArkMetadata_triple.run h with ⟨response, s, hres, rfl, hs⟩ | ⟨e, s, hres, rfl, hs⟩
  · exact .inl ⟨response, hres, hs⟩
  · exact .inr ⟨e, hres, hs⟩

theorem put_rows (identity : Identity) (k : ArkId) (request : UpdateARKMetadataRequest) (E : PutEnv)
    (c : Cell) :
    Seen E c (put identity k request E c).2 ∨
      Staged k identity.authorityId request E c (put identity k request E c).2 := by
  rcases h : put identity k request E c with ⟨res, c'⟩
  rcases put_cases h with ⟨_, -, h⟩ | ⟨_, -, h | ⟨-, h⟩⟩
  · exact .inr h
  · exact .inl h
  · exact .inr h

omit [PyLower] in
theorem stagedRecord_state {r : ARKRecord} {now : Time} :
    (stagedRecord request now r).state = .draft ∨ (stagedRecord request now r).state = .update := by
  unfold stagedRecord
  by_cases h : r.state = .reserved <;> simp [h]

theorem Staged.record {c' : Cell} (h : Staged k A request E c c') :
    ∃ r', c'.record = some r' ∧ r'.authorityId = A ∧ (r'.state = .draft ∨ r'.state = .update) := by
  obtain ⟨b, r, json, -, -, hA, -, -, -, rfl⟩ := h.ex
  exact ⟨_, rfl, hA, stagedRecord_state⟩

inductive DeleteBase (A : String) (E : DeleteEnv) (c : Cell) : Cell → Prop
  | own {r : ARKRecord} (hr : c.record = some r) (hA : r.authorityId = A) : DeleteBase A E c c
  | reclaimed {r : ARKRecord} {info : ARKInfo} (hr : c.record = some r) (hA : r.authorityId ≠ A)
      (ho : OwnerConfirmed E.owner info) : DeleteBase A E c (superseded A info E.now r c)

theorem DeleteBase.record {E : DeleteEnv} {b : Cell} (h : DeleteBase A E c b) :
    ∃ r, b.record = some r ∧ r.authorityId = A := by
  cases h with
  | own hr hA => exact ⟨_, hr, hA⟩
  | reclaimed => exact ⟨_, rfl, rfl⟩

/-- A DELETE of `A` committed the rows `c'`. -/
def Tombstoned (k : ArkId) (A : String) (E : DeleteEnv) (c c' : Cell) : Prop :=
  ∃ b r current, DeleteBase A E c b ∧ b.record = some r ∧
    requireCurrentOwner E.ownerAgain (r.state ∈ [.reserved, .draft]) = .ok current ∧
    updateToTombstone k.ark E.now b = .ok c'

theorem deleteArk_triple {identity : Identity} {E : DeleteEnv} :
    Tx.Triple (· = ⟨c, c⟩) (deleteArk identity k E)
      (fun _ s => Tombstoned k identity.authorityId E c s.committed) (fun _ s => s.committed = c) := by
  have hsame : ∀ s : Session Cell, s = ⟨c, c⟩ → s.committed = c := by
    rintro _ rfl
    rfl
  unfold deleteArk
  refine Tx.Triple.bind (Q := fun _ s => s = ⟨c, c⟩)
    (Tx.triple_lift (fun _ _ _ hs => hs) fun _ s _ hs => hsame s hs) fun _ => ?_
  refine Tx.Triple.bind (execute_triple fun _ => hsame) fun _ => ?_
  refine Tx.Triple.bind (Q := fun b s => b = c ∧ s = ⟨c, c⟩) (Tx.triple_read ?_) fun b => ?_
  · rintro _ rfl
    exact ⟨rfl, rfl⟩
  cases hb : b.record with
  | none => exact Tx.triple_raise fun s hs => hsame s hs.2
  | some found =>
      refine Tx.Triple.bind (Q := fun _ s => s.committed = c ∧
        DeleteBase identity.authorityId E c s.working) ?_ fun _ => ?_
      · rintro _ ⟨rfl, rfl⟩
        refine (show Tx.Triple (· = ⟨b, b⟩) _ _ _ from ?_) _ rfl
        refine Tx.Triple.ite (fun hA => ?_) fun hA => Tx.triple_pure ?_
        · refine Tx.Triple.bind (Q := fun _ s => s.committed = b ∧
            DeleteBase identity.authorityId E b s.working)
            (reconcileLocalOwner_triple.imp (fun _ hs => hs) ?_ fun _ => hsame)
            fun _ => Tx.triple_pure fun _ hs => hs
          rintro info _ ⟨ho, rfl⟩
          exact ⟨rfl, .reclaimed hb hA ho⟩
        · rintro _ rfl
          exact ⟨rfl, .own hb (not_not.mp hA)⟩
      refine Tx.Triple.bind (Q := fun b s => b = s.working ∧ s.committed = c ∧
        DeleteBase identity.authorityId E c s.working) (Tx.triple_read fun _ hs => ⟨rfl, hs⟩)
        fun b' => ?_
      cases hb' : b'.record with
      | none => exact Tx.triple_raise fun _ hs => hs.2.1
      | some r =>
          refine Tx.Triple.bind (Q := fun _ s => b' = s.working ∧ s.committed = c ∧
            DeleteBase identity.authorityId E c s.working)
            (Tx.triple_lift (fun _ _ _ hs => hs) fun _ _ _ hs => hs.2.1) fun _ => ?_
          refine Tx.Triple.bind (Q := fun current s =>
            requireCurrentOwner E.ownerAgain (r.state ∈ [.reserved, .draft]) = .ok current ∧
              b' = s.working ∧ s.committed = c ∧ DeleteBase identity.authorityId E c s.working)
            (Tx.triple_lift (fun _ _ h hs => ⟨h, hs⟩) fun _ _ _ hs => hs.2.1) fun current => ?_
          rintro s ⟨howner, rfl, hc, hbase⟩
          refine (show Tx.Triple (· = s) _ _ _ from ?_) _ rfl
          refine Tx.Triple.catching (M := fun _ s => s.committed = c) ?_ fun e => ?_
          · refine Tx.Triple.bind (execute_triple fun _ t ht => by rw [ht, hc]) fun _ => ?_
            refine Tx.Triple.bind (applying_triple.imp (fun _ hs => hs) (fun _ _ hs => hs)
              fun _ t ht => by rw [ht, hc]) fun _ => ?_
            refine Tx.Triple.bind (execute_triple ?_) fun _ => Tx.triple_commit ?_
            · rintro _ _ ⟨_, _, rfl⟩
              exact hc
            · rintro _ ⟨b'', h, rfl⟩
              exact ⟨_, r, current, hbase, hb', howner, h⟩
          · exact Tx.Triple.bind (Q := fun _ s => s.committed = c)
              (Tx.triple_rollback fun _ hs => hs) fun _ => Tx.triple_raise fun _ hs => hs

theorem delete_cases {identity : Identity} {E : DeleteEnv} {res : Except Raised Unit} {c' : Cell}
    (h : delete identity k E c = (res, c')) :
    res = .ok () ∧ Tombstoned k identity.authorityId E c c' ∨ (∃ e, res = .error e) ∧ c' = c := by
  rcases deleteArk_triple.run h with ⟨_, s, hres, rfl, hs⟩ | ⟨e, s, hres, rfl, hs⟩
  · exact .inl ⟨hres, hs⟩
  · exact .inr ⟨⟨e, hres⟩, hs⟩

theorem delete_rows (identity : Identity) (k : ArkId) (E : DeleteEnv) (c : Cell) :
    (delete identity k E c).2 = c ∨
      Tombstoned k identity.authorityId E c (delete identity k E c).2 := by
  rcases h : delete identity k E c with ⟨res, c'⟩
  rcases delete_cases h with ⟨-, h⟩ | ⟨-, h⟩
  · exact .inr h
  · exact .inl h

theorem Tombstoned.cases {E : DeleteEnv} {c' : Cell} (h : Tombstoned k A E c c') :
    (∃ r, c.record = some r ∧ r.authorityId = A ∧ (r.state = .tombstone ∧ c' = c ∨
      r.state ≠ .tombstone ∧ c' = { c with record := some (tombstonedRecord E.now r) })) ∨
    ∃ r info r', c.record = some r ∧ r.authorityId ≠ A ∧ OwnerConfirmed E.owner info ∧
      (superseded A info E.now r c).record = some r' ∧
      c' = { superseded A info E.now r c with record := some (tombstonedRecord E.now r') } := by
  obtain ⟨b, r, -, hbase, hr, -, h⟩ := h
  simp only [updateToTombstone, hr] at h
  cases hbase with
  | own hr' hA =>
      obtain rfl := Option.some.inj (hr.symm.trans hr')
      refine .inl ⟨r, hr, hA, ?_⟩
      split at h
      · exact .inl ⟨‹_›, (Except.ok.inj h).symm⟩
      · exact .inr ⟨‹_›, (Except.ok.inj h).symm⟩
  | reclaimed hr' hA ho =>
      refine .inr ⟨_, _, r, hr', hA, ho, hr, ?_⟩
      obtain rfl := Option.some.inj hr
      rw [if_neg (by simp)] at h
      exact (Except.ok.inj h).symm

theorem Tombstoned.keeps {E : DeleteEnv} {c' : Cell} {I : Cell → Prop} (h : Tombstoned k A E c c') (hi : I c)
    (hsuperseded : ∀ info r, c.record = some r → I (superseded A info E.now r c))
    (htombstoned : ∀ b r, b.record = some r → I b → I { b with record := some (tombstonedRecord E.now r) }) : I c' := by
  rcases h.cases with ⟨r, hr, -, ⟨-, rfl⟩ | ⟨-, rfl⟩⟩ | ⟨r, info, r', hr, -, -, hr', rfl⟩
  · exact hi
  · exact htombstoned c r hr hi
  · exact htombstoned _ r' hr' (hsuperseded info r hr)

theorem Tombstoned.record {E : DeleteEnv} {c' : Cell} (h : Tombstoned k A E c c') :
    ∃ r', c'.record = some r' ∧ r'.state = .tombstone := by
  rcases h.cases with ⟨r, hr, -, ⟨hstate, rfl⟩ | ⟨-, rfl⟩⟩ | ⟨r, info, r', -, -, -, -, rfl⟩
  · exact ⟨r, hr, hstate⟩
  · exact ⟨_, rfl, rfl⟩
  · exact ⟨_, rfl, rfl⟩

end DarkMinter.Requests
