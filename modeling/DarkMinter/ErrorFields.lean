import DarkMinter.InFlight

namespace DarkMinter.ErrorFields

open Text Processing Records Repository Authority ArkApi Requests Retry Persistence Replication Publication
open ChainCycle Deployment Attempts Effects ResultApplication InFlight Lib.Runs

section

def normalWaits : List ProcessingWaitReason :=
  [.clusterQueued, .clusterPinning, .initialVisibility, .replicaTarget]

def Cleared (r : ARKRecord) : Prop := r.processingErrorCode = none ∧ r.processingErrorDetail = none

def StorageError (code : ProcessingErrorCode) : Prop := code.id / 100 = 1 ∨ code.id / 100 = 2

/-- What the wait reason of a record says of its error, and the other way around. -/
structure Truthful (r : ARKRecord) : Prop where
  normal : r.processingStatus = .waiting → r.processingWaitReason ∈ normalWaits → Cleared r
  storage : r.processingStatus = .waiting → r.processingWaitReason = .storageBackoff →
    ∃ code, r.processingErrorCode = some code ∧ StorageError code
  rpc : r.processingStatus = .waiting → r.processingErrorCode = some .chainRpcUnavailable →
    r.processingWaitReason = .rpcBackoff

def TruthTelling (c : Cell) : Prop := ∀ r, c.record = some r → Truthful r

def Clearing (c c' : Cell) : Prop :=
  ∀ r r', c.record = some r → c'.record = some r' → r'.processingStage ≠ r.processingStage → Cleared r'

variable {c c' : Cell} {r : ARKRecord} {catalogue : ErrorCatalogue}

theorem truthful_of_ne (h : r.processingStatus ≠ .waiting) : Truthful r :=
  ⟨fun hw => absurd hw h, fun hw => absurd hw h, fun hw => absurd hw h⟩

theorem truthful_of_cleared (hc : Cleared r) (hreason : r.processingWaitReason ≠ .storageBackoff) : Truthful r := by
  refine ⟨fun _ _ => hc, fun _ h => absurd h hreason, fun _ h => ?_⟩
  rw [hc.1] at h
  cases h

theorem truthful_deferred {message : String} {code : ProcessingErrorCode} {delay : Int} {now : Time}
    (hcode : StorageError code) : Truthful (deferredRecord message code delay now r) := by
  refine ⟨fun _ hmem => ?_, fun _ _ => ⟨code, rfl, hcode⟩, fun _ hrpc => ?_⟩
  · simp [deferredRecord, normalWaits] at hmem
  · obtain rfl := Option.some.inj hrpc
    simp [StorageError, ProcessingErrorCode.id] at hcode

theorem truthful_failed {message : String} {code : ProcessingErrorCode} {now : Time}
    (hcode : catalogue code = some true → StorageError code) :
    Truthful (failedRecord (failsPermanently catalogue code true) message code now r) := by
  by_cases hagain : catalogue code = some true
  · have hwaits : failedRecord (failsPermanently catalogue code true) message code now r =
        failedRecord false message code now r := by
      simp [failsPermanently, hagain]
    rw [hwaits]
    refine ⟨fun _ hmem => ?_, fun _ _ => ⟨code, rfl, hcode hagain⟩, fun _ hrpc => ?_⟩
    · simp [failedRecord, normalWaits] at hmem
    · obtain rfl := Option.some.inj hrpc
      have hstored := hcode hagain
      simp [StorageError, ProcessingErrorCode.id] at hstored
  · refine truthful_of_ne ?_
    have hfinal : failsPermanently catalogue code true = true := by
      unfold failsPermanently
      cases h : catalogue code with
      | none => rfl
      | some retryable =>
          cases retryable with
          | true => exact absurd h hagain
          | false => rfl
    simp [failedRecord, hfinal]

theorem truthTelling_notedAs {marks : List ProcessingErrorCode} {defers : ProcessingErrorCode → Prop}
    (hmarks : ∀ code ∈ marks, catalogue code = some true → StorageError code)
    (hdefers : ∀ code, defers code → StorageError code) (h : NotedAs catalogue marks defers c c') :
    TruthTelling c' := by
  cases h with
  | failed _ _ hcode =>
      rintro _ ⟨⟩
      exact truthful_failed (hmarks _ hcode)
  | deferred _ hcode =>
      rintro _ ⟨⟩
      exact truthful_deferred (hdefers _ hcode)

theorem clearing_noted (h : Noted c c') : Clearing c c' := by
  obtain ⟨r₀, r₁, h₀, h₁, -, -, -, hstage, -⟩ := h.keeps
  intro r r' hr hr' hne
  obtain rfl := Option.some.inj (hr.symm.trans h₀)
  obtain rfl := Option.some.inj (hr'.symm.trans h₁)
  exact absurd hstage hne

theorem clearing_refl : Clearing c c := by
  intro r r' hr hr' hne
  obtain rfl := Option.some.inj (hr.symm.trans hr')
  exact absurd rfl hne

variable [PyLower]

theorem reconciledRows_error (cfg : ReplicationConfig) (E : ReconcileEnv)
    (level1 level2 : ReplicationStatus) (r : ARKRecord) (m : ARKMetadata) (repaired : Nat) :
    let r' := (reconciledRows cfg E level1 level2 r m repaired).1
    r'.processingErrorCode = r.processingErrorCode ∧ r'.processingErrorDetail = r.processingErrorDetail ∧
      r'.processingWaitReason ≠ .storageBackoff := by
  have hrecord := (reconciledRows_rows cfg E level1 level2 r m repaired).1
  generalize (reconciledRows cfg E level1 level2 r m repaired).1 = r' at hrecord ⊢
  cases hrecord with
  | chain | complete | again => exact ⟨rfl, rfl, nofun⟩
  | waiting hreason => exact ⟨rfl, rfl, hreason.2⟩

/-- No chain attempt and no result of a pipeline defers, and no observation of the replicas is
recorded over an error. -/
structure Untroubled (cfg : Config) (s : Sys) (a : Act) : Prop where
  publish : ∀ k E r, opOf s a k = some (.mutation (.publish E)) → (s.cells k).record = some r →
    publishAccepts E.readyAt r = true → publishDefers cfg.catalogue k E r (s.cells k) = false
  result : ∀ k item result E, opOf s a k = some (.result item result E) → result.status ≠ "confirmed" →
    resultDefers item result E (s.cells k) = false
  reconcile : ∀ k E r, opOf s a k = some (.mutation (.reconcile E)) → (s.cells k).record = some r →
    reconcileAccepts E.readyAt r = true → Observes cfg.replication E r (s.cells k) → Cleared r

def ChainErrorsFinal (catalogue : ErrorCatalogue) : Prop :=
  ∀ code ∈ chainErrors, catalogue code ≠ some true

def Tells (c c' : Cell) : Prop := (TruthTelling c → TruthTelling c') ∧ Clearing c c'

omit [PyLower] in
theorem tells_refl : Tells c c := ⟨id, clearing_refl⟩

omit [PyLower] in
theorem tells_cleared {r' : ARKRecord} (hr' : c'.record = some r') (hcleared : Cleared r')
    (hreason : r'.processingWaitReason ≠ .storageBackoff) : Tells c c' := by
  constructor
  · intro _ r hr
    obtain rfl := Option.some.inj (hr'.symm.trans hr)
    exact truthful_of_cleared hcleared hreason
  · intro _ r _ hr _
    obtain rfl := Option.some.inj (hr'.symm.trans hr)
    exact hcleared

omit [PyLower] in
theorem tells_kept {r' : ARKRecord} (hr : c.record = some r) (hr' : c'.record = some r')
    (hstage : r'.processingStage = r.processingStage) (hstatus : r'.processingStatus ≠ .waiting) : Tells c c' := by
  constructor
  · intro _ r₁ h₁
    obtain rfl := Option.some.inj (hr'.symm.trans h₁)
    exact truthful_of_ne hstatus
  · intro r₀ r₁ h₀ h₁ hne
    obtain rfl := Option.some.inj (hr.symm.trans h₀)
    obtain rfl := Option.some.inj (hr'.symm.trans h₁)
    exact absurd hstage hne

omit [PyLower] in
theorem tells_notedAs {marks : List ProcessingErrorCode} {defers : ProcessingErrorCode → Prop}
    (hmarks : ∀ code ∈ marks, catalogue code = some true → StorageError code)
    (hdefers : ∀ code, defers code → StorageError code) (h : NotedAs catalogue marks defers c c') :
    Tells c c' :=
  ⟨fun _ => truthTelling_notedAs hmarks hdefers h, clearing_noted h.noted⟩

omit [PyLower] in
theorem tells_chain (defers : Prop) (hfinal : ChainErrorsFinal catalogue) (hdefers : ¬defers)
    (h : ChainNoted catalogue defers c c') : Tells c c' :=
  tells_notedAs (fun code hcode hagain => absurd hagain (hfinal code hcode))
    (fun _ hcode => absurd hcode.2 hdefers) h

variable {cfg : Config} {s t : Sys} {a : Act} {k : ArkId} {op : Op}

theorem tells_put {identity : Identity} {request : UpdateARKMetadataRequest} {E : PutEnv}
    (heffect : Effect cfg k c (.mutation (.put identity request E)) c') : Tells c c' := by
  cases heffect with
  | none => exact tells_refl
  | raced => exact tells_cleared rfl ⟨rfl, rfl⟩ (by simp [Reservation.record, createReserved])
  | staged hstaged =>
      obtain ⟨b, r, json, -, -, -, -, -, -, rfl⟩ := hstaged.ex
      exact tells_cleared rfl ⟨rfl, rfl⟩ (by simp [stagedRecord])

theorem tells_delete {identity : Identity} {E : DeleteEnv}
    (heffect : Effect cfg k c (.mutation (.delete identity E)) c') : Tells c c' := by
  cases heffect with
  | none => exact tells_refl
  | tombstoned htomb =>
      rcases htomb.cases with ⟨r, hr, -, ⟨-, rfl⟩ | ⟨-, rfl⟩⟩ | ⟨r, info, r', -, -, -, hr', rfl⟩
      · exact tells_refl
      · exact tells_kept hr rfl rfl (by simp [tombstonedRecord])
      · obtain rfl := Option.some.inj hr'
        exact tells_cleared rfl ⟨rfl, rfl⟩ (by simp [tombstonedRecord])

theorem tells_retry {identity : Identity} {E : RetryEnv}
    (heffect : Effect cfg k c (.mutation (.retry identity E)) c') : Tells c c' := by
  cases heffect with
  | none => exact tells_refl
  | retried hr => exact tells_kept hr rfl rfl (by simp [retriedRecord])

theorem tells_persist (E : PersistEnv) : Tells c (Persistence.persist cfg.catalogue k E c).cell := by
  rcases persist_notedAs cfg.catalogue k E c with h | ⟨r, -, -, h | ⟨m, level1Cid, level2Cid, -, -, -, h⟩⟩
  · rw [h]
    exact tells_refl
  · refine tells_notedAs ?_ ?_ h
    · intro code hcode _
      obtain rfl := List.mem_singleton.mp hcode
      exact .inl rfl
    · rintro _ rfl
      exact .inl rfl
  · rw [h]
    exact tells_cleared rfl ⟨rfl, rfl⟩ (by simp [persistedRecord])

theorem tells_reconcile {E : ReconcileEnv} (hfinal : ChainErrorsFinal cfg.catalogue)
    (hg : ∀ r, c.record = some r → reconcileAccepts E.readyAt r = true → Observes cfg.replication E r c → Cleared r) :
    Tells c (Replication.reconcile cfg.catalogue cfg.replication k E c).cell := by
  rcases reconcile_notedAs cfg.catalogue cfg.replication k E c with h | ⟨r, hr, hacc, h | ⟨hobserves, hobserved⟩⟩
  · rw [h]
    exact tells_refl
  · refine tells_notedAs ?_ ?_ h
    · intro code hcode hagain
      obtain rfl := List.mem_singleton.mp hcode
      exact absurd hagain (hfinal _ (by decide))
    · rintro _ rfl
      exact .inr rfl
  · obtain ⟨hcode, hdetail⟩ := hg r hr hacc hobserves
    obtain ⟨m, _, _, level1, level2, repaired, -, -, -, -, -, -, -, h⟩ := hobserved
    rw [h]
    obtain ⟨hcode', hdetail', hreason⟩ := reconciledRows_error cfg.replication E level1 level2 r m repaired
    exact tells_cleared rfl ⟨hcode'.trans hcode, hdetail'.trans hdetail⟩ hreason

theorem tells_publish {E : PublishEnv} (hfinal : ChainErrorsFinal cfg.catalogue)
    (hg : ∀ r, c.record = some r → publishAccepts E.readyAt r = true →
      publishDefers cfg.catalogue k E r c = false) :
    Tells c (publishSingleArk cfg.catalogue k E c).cell := by
  rcases publishSingleArk_chain cfg.catalogue k E c with h | ⟨r, hr, hacc, h | ⟨m, cid, -, -, -, -, h⟩⟩
  · rw [h]
    exact tells_refl
  · exact tells_chain _ hfinal (by simp [hg r hr hacc]) h
  · rw [h]
    exact tells_cleared rfl ⟨rfl, rfl⟩ (by simp [publishedRecord])

omit [PyLower] in
theorem tells_unassigned {authorityId : String} {now : Time} (hfinal : ChainErrorsFinal cfg.catalogue) :
    Tells c (settle (Publication.markUnassigned cfg.catalogue k authorityId now c) c) := by
  unfold settle
  split
  · rename_i hmarked
    unfold Publication.markUnassigned at hmarked
    split at hmarked
    · split at hmarked
      · obtain ⟨r, hr, hcount, rfl⟩ := markProcessingFailed_ok hmarked
        exact tells_chain False hfinal id (NotedAs.failed hr hcount (by decide))
      · exact Except.ok.inj hmarked ▸ tells_refl
    · exact Except.ok.inj hmarked ▸ tells_refl
  · exact tells_refl

theorem tells_result {item : PipelineItem} {result : ARKPublishResult} {E : ResultEnv}
    (hfinal : ChainErrorsFinal cfg.catalogue)
    (hg : result.status ≠ "confirmed" → resultDefers item result E c = false) :
    Tells c (settle ((settleResult cfg.catalogue item result E c).map (·.cell)) c) := by
  cases hres : settleResult cfg.catalogue item result E c with
  | error e => exact tells_refl
  | ok handled =>
      simp only [Except.map, settle]
      rcases settleResult_chain hres with h | ⟨hstatus, h⟩ | ⟨-, -, r, -, h⟩
      · rw [h]
        exact tells_refl
      · exact tells_chain _ hfinal (by simp [hg hstatus]) h
      · rw [h]
        exact tells_cleared rfl ⟨rfl, rfl⟩ (by simp [publishedRecord])

theorem tells_op (hfinal : ChainErrorsFinal cfg.catalogue) (hg : Untroubled cfg s a)
    (hop : opOf s a k = some op) (heffect : Effect cfg k (s.cells k) op c') (hrun : c' = op.run cfg k (s.cells k)) :
    Tells (s.cells k) c' := by
  cases op with
  | reserve row =>
      cases heffect with
      | none => exact tells_refl
      | reserved => exact tells_cleared rfl ⟨rfl, rfl⟩ (by simp [Reservation.record, createReserved])
  | unassigned authorityId now =>
      rw [hrun]
      exact tells_unassigned hfinal
  | result item result E =>
      rw [hrun]
      exact tells_result hfinal (hg.result k item result E hop)
  | mutation m =>
      cases m with
      | put => exact tells_put heffect
      | delete => exact tells_delete heffect
      | retry => exact tells_retry heffect
      | persist E =>
          rw [hrun]
          exact tells_persist E
      | reconcile E =>
          rw [hrun]
          exact tells_reconcile hfinal fun r => hg.reconcile k E r hop
      | publish E =>
          rw [hrun]
          exact tells_publish hfinal fun r => hg.publish k E r hop

theorem tells_step (hfinal : ChainErrorsFinal cfg.catalogue) (hg : Untroubled cfg s a)
    (hs : step cfg s a = some t) (k : ArkId) : Tells (s.cells k) (t.cells k) := by
  rcases step_cells hs k with ⟨-, h⟩ | ⟨op, hop, h⟩
  · rw [h]
    exact tells_refl
  · exact tells_op hfinal hg hop (h ▸ op_effect op) h

/-- The error and wait fields tell the truth in every run in which no chain attempt is put off and no
observation of the replicas is recorded over an error. -/
theorem fields_truthful (hfinal : ChainErrorsFinal cfg.catalogue) (h : Reach (step cfg) (Untroubled cfg) {} s) :
    (∀ k, TruthTelling (s.cells k)) ∧
      ∀ a t k, Untroubled cfg s a → step cfg s a = some t → Clearing (s.cells k) (t.cells k) := by
  refine ⟨?_, fun a t k hg hs => (tells_step hfinal hg hs k).2⟩
  refine h.invariant (I := fun s => ∀ k, TruthTelling (s.cells k)) ?_ ?_
  · rintro k r ⟨⟩
  · intro s a t hi hg hs k
    exact (tells_step hfinal hg hs k).1 (hi k)

theorem untroubled_of_ne (hpublish : ∀ k E, a ≠ .mutate k (.publish E)) (hfinish : ∀ p E, a ≠ .finish p E)
    (hreconcile : ∀ k E, a = .mutate k (.reconcile E) → ∀ r, (s.cells k).record = some r → Cleared r) :
    Untroubled cfg s a := by
  refine ⟨?_, ?_, ?_⟩
  · intro k E r hop
    exact absurd (opOf_mutation hop).1 (hpublish k E)
  · intro k item result E hop
    obtain ⟨p, checked, tasks, rfl, -⟩ := opOf_result hop
    exact absurd rfl (hfinish p E)
  · intro k E r hop hr _ _
    exact hreconcile k E (opOf_mutation hop).1 r hr

end

section Sample

attribute [local instance] asciiText

open Sample

theorem seeded_final : ChainErrorsFinal seededCatalogue := by
  unfold ChainErrorsFinal
  decide

def noReplicas : ReconcileEnv :=
  { reconcileEnv with statuses := .ok fun _ => some ⟨"pinning", 0, none⟩ }

def later : ReconcileEnv := { reconcileEnv with readyAt := seconds 600, now := seconds 600 }

def toAvailability : List Act :=
  [.reserve [(ark, ⟨"A", none, 0⟩)], .mutate ark (.put owner request putEnv), .mutate ark (.persist persistEnv)]

theorem fields_truthful_waiting :
    ∃ s t r, Reach (step config) (Untroubled config) {} s ∧
      step config s (.mutate ark (.reconcile noReplicas)) = some t ∧
      (t.cells ark).record = some r ∧ r.processingWaitReason = .clusterPinning ∧ Truthful r := by
  have hrun : ((run (step config) toAvailability {}).bind fun s => (s.cells ark).record.map fun r =>
      (r.processingErrorCode, r.processingErrorDetail)) = some (none, none) := by decide
  obtain ⟨s, hs, hrow⟩ := Option.bind_eq_some_iff.mp hrun
  obtain ⟨r, hr, hrow⟩ := Option.map_eq_some_iff.mp hrow
  have hcleared : Cleared r := Prod.mk.inj hrow
  have hreach : Reach (step config) (Untroubled config) {} s := by
    refine (run_guarded (fun _ => True) hs trivial (fun u a ha _ => ?_) fun _ _ _ _ _ _ => trivial).1
    have hpublish : ∀ a ∈ toAvailability, ∀ k E, a ≠ .mutate k (.publish E) := by simp [toAvailability]
    have hfinish : ∀ a ∈ toAvailability, ∀ p E, a ≠ .finish p E := by simp [toAvailability]
    have hreconcile : ∀ a ∈ toAvailability, ∀ k E, a ≠ .mutate k (.reconcile E) := by simp [toAvailability]
    exact untroubled_of_ne (hpublish a ha) (hfinish a ha) fun k E h => absurd h (hreconcile a ha k E)
  have hwaits : ((run (step config) (toAvailability ++ [.mutate ark (.reconcile noReplicas)]) {}).bind fun t =>
      (t.cells ark).record.map (·.processingWaitReason)) = some .clusterPinning := by decide
  obtain ⟨t, ht, hrow'⟩ := Option.bind_eq_some_iff.mp hwaits
  obtain ⟨u, hu, hstep⟩ := run_concat ht
  obtain rfl := Option.some.inj (hs.symm.trans hu)
  obtain ⟨r', hr', hreason⟩ := Option.map_eq_some_iff.mp hrow'
  have hstep' : Untroubled config s (.mutate ark (.reconcile noReplicas)) := by
    refine untroubled_of_ne (fun _ _ h => by cases h) (fun _ _ h => by cases h) ?_
    rintro k E h r₁ h₁
    obtain ⟨rfl, -⟩ := Act.mutate.inj h
    obtain rfl := Option.some.inj (hr.symm.trans h₁)
    exact hcleared
  exact ⟨s, t, r', hreach, hstep, hr', hreason,
    (fields_truthful seeded_final (hreach.next hstep' hstep)).1 ark r' hr'⟩

/-- A chain write that times out puts the ARK off for the storage. And an ARK whose replicas could
not be observed once goes on to the chain with the error of that time. -/
theorem fields_untruthful :
    (∃ s, Reach (step config) Free {} s ∧ ¬TruthTelling (s.cells ark)) ∧
      ∃ s t, Reach (step config) Free {} s ∧ step config s (.mutate ark (.reconcile later)) = some t ∧
        ¬Clearing (s.cells ark) (t.cells ark) := by
  constructor
  · have hrun : ((run (step config) (toChain ++ [.mutate ark (.publish
        { readyAt := 4, assigned := fun _ => true, write := .error unread, identity := noReads, chain := .error unread,
          publishedAt := 4, failureIdentity := noReads, failedAt := 4 })]) {}).bind fun s =>
        (s.cells ark).record.map fun r => (r.processingStatus, r.processingErrorCode, r.processingWaitReason)) =
        some (.waiting, some .chainRpcUnavailable, .storageBackoff) := by decide
    obtain ⟨s, hs, hrow⟩ := Option.bind_eq_some_iff.mp hrun
    obtain ⟨r, hr, hrow⟩ := Option.map_eq_some_iff.mp hrow
    simp only [Prod.mk.injEq] at hrow
    obtain ⟨hstatus, hcode, hreason⟩ := hrow
    refine ⟨s, run_reach hs, fun htells => ?_⟩
    have hrpc := (htells r hr).rpc hstatus hcode
    rw [hreason] at hrpc
    cases hrpc
  · have hrun : ((run (step config) (toAvailability ++ [.mutate ark (.reconcile
        { reconcileEnv with statuses := .error unread })] ++
        [.mutate ark (.reconcile later)]) {}).bind fun t => (t.cells ark).record.map fun r =>
          (r.processingStage, r.processingErrorCode)) = some (.chain, some .replicationUnavailable) := by decide
    obtain ⟨t, ht, hrow⟩ := Option.bind_eq_some_iff.mp hrun
    obtain ⟨s, hs, hstep⟩ := run_concat ht
    have hbefore : ((run (step config) (toAvailability ++ [.mutate ark (.reconcile
        { reconcileEnv with statuses := .error unread })]) {}).bind fun s =>
        (s.cells ark).record.map (·.processingStage)) = some .availability := by decide
    rw [hs] at hbefore
    obtain ⟨r, hr, hstage⟩ := Option.map_eq_some_iff.mp hbefore
    obtain ⟨r', hr', hrow⟩ := Option.map_eq_some_iff.mp hrow
    obtain ⟨hstage', hcode⟩ := Prod.mk.inj hrow
    refine ⟨s, t, run_reach hs, hstep, fun hclearing => ?_⟩
    have hcleared := (hclearing r r' hr hr' (by simp [hstage, hstage'])).1
    rw [hcode] at hcleared
    cases hcleared

end Sample

end DarkMinter.ErrorFields
