import DarkMinter.Attempts
import DarkMinter.Deployment

namespace DarkMinter.Effects

open Text Processing Records Repository Authority ArkApi Requests Retry Persistence Replication
open Publication Attempts Deployment

variable [PyLower]

/-- Everything that an operation can do to the rows of its ARK. -/
inductive Effect (cfg : Config) (k : ArkId) (c : Cell) : Op → Cell → Prop
  | none {op : Op} : Effect cfg k c op c
  | reserved {row : Reservation} :
      Effect cfg k c (.reserve row) { c with record := some row.record }
  | raced {identity : Identity} {request : UpdateARKMetadataRequest} {E : PutEnv}
      {row : Reservation} (h : c.record = .none) (hraced : E.raced = some row) :
      Effect cfg k c (.mutation (.put identity request E)) { c with record := some row.record }
  | staged {identity : Identity} {request : UpdateARKMetadataRequest} {E : PutEnv} {c' : Cell}
      (h : Staged k identity.authorityId request E c c') :
      Effect cfg k c (.mutation (.put identity request E)) c'
  | tombstoned {identity : Identity} {E : DeleteEnv} {c' : Cell}
      (h : Tombstoned k identity.authorityId E c c') :
      Effect cfg k c (.mutation (.delete identity E)) c'
  | retried {identity : Identity} {E : RetryEnv} {r : ARKRecord} (hr : c.record = some r)
      (hA : r.authorityId = identity.authorityId)
      (hstate : r.state ≠ .reserved ∧ r.state ≠ .tombstone) (hfailed : r.processingStatus = .failed) :
      Effect cfg k c (.mutation (.retry identity E))
        { c with record := some (retriedRecord E.now r) }
  | persistNoted {E : PersistEnv} {r : ARKRecord} {c' : Cell} (hr : c.record = some r)
      (ha : persistAccepts E.readyAt r = true) (h : Noted c c') :
      Effect cfg k c (.mutation (.persist E)) c'
  | persisted {E : PersistEnv} {r : ARKRecord} {m : ARKMetadata} {level1Cid level2Cid : Cid}
      (hr : c.record = some r) (ha : persistAccepts E.readyAt r = true) (hm : c.metadata = some m)
      (h2 : persistLevel2 E.storage m = .ok level2Cid)
      (h1 : persistLevel1 E.storage m level2Cid = .ok level1Cid) :
      Effect cfg k c (.mutation (.persist E)) { c with
        record := some (persistedRecord E.storedAt r)
        metadata := some (persistedMetadata (some level1Cid) (some level2Cid) E.storedAt m) }
  | reconcileNoted {E : ReconcileEnv} {r : ARKRecord} {c' : Cell} (hr : c.record = some r)
      (ha : reconcileAccepts E.readyAt r = true) (h : Noted c c') :
      Effect cfg k c (.mutation (.reconcile E)) c'
  | observed {E : ReconcileEnv} {r : ARKRecord} {m : ARKMetadata} {level1Cid level2Cid : Cid}
      {level1 level2 : ReplicationStatus} {repaired : Nat} (hr : c.record = some r)
      (ha : reconcileAccepts E.readyAt r = true) (hm : c.metadata = some m)
      (h1 : m.level1Cid = some level1Cid) (h2 : m.originalCid = some level2Cid)
      (hfit : smallintsFit (reconciledRows cfg.replication E level1 level2 r m repaired).2.1 = true) :
      Effect cfg k c (.mutation (.reconcile E)) { c with
        record := some (reconciledRows cfg.replication E level1 level2 r m repaired).1
        metadata := some (reconciledRows cfg.replication E level1 level2 r m repaired).2.1 }
  | publishNoted {E : PublishEnv} {r : ARKRecord} {c' : Cell} (hr : c.record = some r)
      (ha : publishAccepts E.readyAt r = true) (h : Noted c c') :
      Effect cfg k c (.mutation (.publish E)) c'
  | published {E : PublishEnv} {r : ARKRecord} {c' : Cell} (hr : c.record = some r)
      (ha : publishAccepts E.readyAt r = true) (h : PublishedBy E r c c') :
      Effect cfg k c (.mutation (.publish E)) c'
  | unassigned {authorityId : String} {now : Time} {r : ARKRecord} {c' : Cell}
      (hr : c.record = some r) (hA : r.authorityId = authorityId) (h : Noted c c') :
      Effect cfg k c (.unassigned authorityId now) c'
  | resultNoted {item : PipelineItem} {result : ARKPublishResult} {E : ResultEnv} {c' : Cell}
      (hstatus : result.status ≠ "confirmed") (h : Noted c c') :
      Effect cfg k c (.result item result E) c'
  | publishedItem {item : PipelineItem} {result : ARKPublishResult} {E : ResultEnv} {c' : Cell}
      (h : PublishedItem item result E c c') : Effect cfg k c (.result item result E) c'

variable {cfg : Config} {k : ArkId} {c : Cell}

theorem mutation_effect (m : Mutation) : Effect cfg k c (.mutation m) (m.run cfg k c) := by
  cases m with
  | put identity request E =>
      have h := put_rows identity k request E c
      simp only [Mutation.run]
      generalize (ArkApi.put identity k request E c).2 = c' at h
      rcases h with hseen | hstaged
      · cases hseen with
        | same => exact .none
        | raced h hraced => exact .raced h hraced
      · exact .staged hstaged
  | delete identity E =>
      have h := delete_rows identity k E c
      simp only [Mutation.run]
      generalize (ArkApi.delete identity k E c).2 = c' at h
      rcases h with rfl | h
      · exact .none
      · exact .tombstoned h
  | retry identity E =>
      simp only [Mutation.run]
      cases h : retryFailedArk identity E c with
      | mk res c' =>
          rcases retryFailedArk_cases h with rfl | ⟨r, hr, hA, hR, hT, hF, rfl⟩
          · exact .none
          · exact .retried hr hA ⟨hR, hT⟩ hF
  | persist E =>
      have h := persist_cases cfg.catalogue k E c
      simp only [Mutation.run]
      generalize (Persistence.persist cfg.catalogue k E c).cell = c' at h
      rcases h with rfl | ⟨r, hr, ha, h | ⟨m, level1Cid, level2Cid, hm, h2, h1, rfl⟩⟩
      · exact .none
      · exact .persistNoted hr ha h
      · exact .persisted hr ha hm h2 h1
  | reconcile E =>
      have h := reconcile_cases cfg.catalogue cfg.replication k E c
      simp only [Mutation.run]
      generalize (Replication.reconcile cfg.catalogue cfg.replication k E c).cell = c' at h
      rcases h with rfl | ⟨r, hr, ha, h | ⟨m, _, _, _, _, _, hm, h1, h2, -, -, -, hfit, rfl⟩⟩
      · exact .none
      · exact .reconcileNoted hr ha h
      · exact .observed hr ha hm h1 h2 hfit
  | publish E =>
      have h := publishSingleArk_cases cfg.catalogue k E c
      simp only [Mutation.run]
      generalize (publishSingleArk cfg.catalogue k E c).cell = c' at h
      rcases h with rfl | ⟨r, hr, ha, h | h⟩
      · exact .none
      · exact .publishNoted hr ha h
      · exact .published hr ha h

theorem op_effect (op : Op) : Effect cfg k c op (op.run cfg k c) := by
  cases op with
  | reserve row => exact .reserved
  | mutation m => exact mutation_effect m
  | unassigned authorityId now =>
      simp only [Op.run, settle, Publication.markUnassigned]
      cases hr : c.record with
      | none => exact .none
      | some r =>
          by_cases hA : r.authorityId = authorityId
          · simp only [hA, if_true]
            split
            · exact .unassigned hr hA (markProcessingFailed_noted ‹_›)
            · exact .none
          · simp only [hA, if_false]
            exact .none
  | result item result E =>
      simp only [Op.run, settle]
      cases hres : settleResult cfg.catalogue item result E c with
      | error e => exact .none
      | ok handled =>
          simp only [Except.map]
          rcases settleResult_cases hres with h | ⟨hstatus, h⟩ | h
          · rw [h]
            exact .none
          · exact .resultNoted hstatus h
          · exact .publishedItem h

/-- What a step does to the rows of each ARK. -/
theorem step_effect {s t : Sys} {a : Act} (hs : step cfg s a = some t) (k : ArkId) :
    opOf s a k = none ∧ t.cells k = s.cells k ∨
      ∃ op, opOf s a k = some op ∧ Effect cfg k (s.cells k) op (t.cells k) := by
  rcases step_cells hs k with h | ⟨op, hop, hc⟩
  · exact .inl h
  · exact .inr ⟨op, hop, hc ▸ op_effect op⟩

theorem effect_cid {op : Op} {c' : Cell} {m' : ARKMetadata} {cid : Cid} (h : Effect cfg k c op c')
    (hne : ∀ E, op ≠ .mutation (.persist E)) (hm' : c'.metadata = some m') (hcid : m'.level1Cid = some cid) :
    ∃ m, c.metadata = some m ∧ m.level1Cid = some cid := by
  cases h with
  | none | reserved | raced | retried => exact ⟨m', hm', hcid⟩
  | persisted | persistNoted => exact absurd rfl (hne _)
  | staged hstaged =>
      obtain ⟨b, r, json, -, -, -, -, -, -, rfl⟩ := hstaged.ex
      unfold staged withPayload createOrUpdateMetadata at hm'
      cases hb : b.metadata <;> simp only [hb, Option.some.injEq] at hm' <;> rw [← hm'] at hcid <;> cases hcid
  | tombstoned htomb =>
      rcases htomb.cases with ⟨r, -, -, ⟨-, rfl⟩ | ⟨-, rfl⟩⟩ | ⟨r, info, r', -, -, -, -, rfl⟩
      · exact ⟨m', hm', hcid⟩
      · exact ⟨m', hm', hcid⟩
      · cases hm'
  | observed _ _ hm =>
      obtain rfl := Option.some.inj hm'
      exact ⟨_, hm, (reconciledRows_copies ..).1.symm.trans hcid⟩
  | published _ _ hpub =>
      obtain ⟨_, _, -, -, -, -, rfl⟩ := hpub
      exact ⟨m', hm', hcid⟩
  | publishedItem hpub =>
      obtain ⟨-, -, _, -, rfl⟩ := hpub
      exact ⟨m', hm', hcid⟩
  | reconcileNoted _ _ hn | publishNoted _ _ hn | unassigned _ _ hn | resultNoted _ hn =>
      exact ⟨m', hn.metadata ▸ hm', hcid⟩

theorem not_pending_of_staged {A : String} {request : UpdateARKMetadataRequest} {E : PutEnv} {c' : Cell}
    (h : Staged k A request E c c') : isPendingOf A c = false := by
  obtain ⟨b, r, json, hb, hr, -, hstate, -⟩ := h.ex
  have hseen : ∀ {c₀ : Cell}, Seen E c c₀ → isPendingOf A c₀ = false → isPendingOf A c = false := by
    intro c₀ hs hc₀
    cases hs with
    | same => exact hc₀
    | raced hnone => simp [isPendingOf, hnone]
  cases hb with
  | own hs hr' =>
      refine hseen hs ?_
      rcases hstate with h | h <;> simp [isPendingOf, hr, h]
  | imported hnone => simp [isPendingOf, hnone]
  | reclaimed hs hr' hA => exact hseen hs (by simp [isPendingOf, hr', hA])

theorem stagedBy_put {s : Sys} {identity : Identity} {request : UpdateARKMetadataRequest} {E : PutEnv}
    {c' : Cell} (h : Staged k identity.authorityId request E (s.cells k) c') :
    stagedBy s (.mutate k (.put identity request E)) k c' =
      some ⟨identity.authorityId, request, level1Json k request E⟩ := by
  obtain ⟨r', hr', hA, hstate⟩ := h.record
  have hafter : isPendingOf identity.authorityId c' = true := by
    rcases hstate with h | h <;> simp [isPendingOf, hr', hA, h]
  simp [stagedBy, hafter, not_pending_of_staged h]

end DarkMinter.Effects
