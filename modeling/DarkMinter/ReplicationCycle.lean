import DarkMinter.Attempts
import DarkMinter.ChainCycle
import DarkMinter.Deployment
import DarkMinter.Lib.Dict
import DarkMinter.Lib.Remembrance
import DarkMinter.Lib.Runs
import DarkMinter.PromotionBudget
import DarkMinter.Replication
import DarkMinter.WakePlan
import Mathlib.Data.List.Dedup

namespace DarkMinter.ReplicationCycle

open Lib Lib.Runs Lib.Remembrance Text Processing Records Repository Replication PromotionBudget WakePlan Attempts
open ChainCycle (chunks chunks_flatten)

structure ClusterStatus extends ReplicationStatus, PinQueue where
  errorReplicas : Int := 0

def ClusterStatus.assigned (status : ClusterStatus) : Int := status.assignedReplicas.getD 0

/-- A replica that is assigned and in no state that Cluster reports. -/
def ClusterStatus.remote (status : ClusterStatus) : Bool :=
  0 < status.assigned - status.totalReplicas - status.queuedReplicas - status.pinningReplicas - status.errorReplicas

structure CycleConfig where
  replication : ReplicationConfig
  pace : Pace
  promotion : Promotion
  statusBatchSize : Nat
  statusBatchSize_pos : 1 ≤ statusBatchSize
  statusBatchSize_le : statusBatchSize ≤ 200
  promotion_le : promotion.batchSize ≤ 200

/-- What one `run_publish_cycle` meets: the rows and clocks that it reads, the answers of storage,
each with the time noted for it, and for each selected ARK whether its lock is free, the row found
under it and the rest of its attempt. -/
structure CycleEnv where
  selectedAt : Time
  table : List (ArkId × Cell)
  observedAt : Time
  answer : List Cid → Except Exc (List (Cid × (Time × ClusterStatus)))
  prunedAt : Cid → Time
  ensure : List Cid → Except Exc (List (Cid × String))
  free : ArkId → Bool
  found : ArkId → Cell
  attempt : ArkId → ReconcileEnv
  endedAt : Time

/-- The worker between its cycles, with the last time its clock was read. -/
structure Worker where
  memo : Memo Cid ClusterStatus := {}
  budget : Budget
  clock : Time
  totalProcessed : Nat := 0
  totalSucceeded : Nat := 0
  totalDeferred : Nat := 0
  totalFailed : Nat := 0

structure Probe where
  memo : Memo Cid ClusterStatus
  observed : List (Cid × ClusterStatus)
  batchCount : Nat := 0

def candidates (limit : Int) (stage : ProcessingStage) (now : Time) (table : List (ArkId × Cell)) :
    List (ArkId × Cell) :=
  ((table.filter fun e => reconciliationCandidate stage now e.2).mergeSort fun a b => queueOrder a.2 b.2).take
    limit.toNat

def selection (cfg : Pace) (now : Time) (table : List (ArkId × Cell)) : List (ArkId × Cell) × Bool :=
  let records := candidates cfg.pageSize .availability now table
  if records = [] ∧ hasCriticalReconciliationBacklog (table.map Prod.snd) = false then
    (candidates (maintenancePageSize cfg) .replication now table, true)
  else (records, false)

def cidsOf (c : Cell) : List Cid :=
  match c.metadata with
  | some m => m.level1Cid.toList ++ m.originalCid.toList
  | none => []

def uniqueCids (rows : List (ArkId × Cell)) : List Cid :=
  (rows.flatMap fun e => cidsOf e.2).dedup.mergeSort fun a b => a.val ≤ b.val

def cached (observedAt : Time) (memo : Memo Cid ClusterStatus) (cids : List Cid) : List (Cid × ClusterStatus) :=
  cids.filterMap fun cid => (memo.remembered (seconds 2) observedAt cid).map fun v => (cid, v.2)

def pendingCids (observed : List (Cid × ClusterStatus)) (cids : List Cid) : List Cid :=
  cids.filter fun cid => (Dict.get observed cid).isNone

def Probe.note (p : Probe) (e : Cid × (Time × ClusterStatus)) : Probe :=
  { p with memo := p.memo.note e, observed := Dict.set p.observed e.1 e.2.2 }

def askBatch (answer : List Cid → Except Exc (List (Cid × (Time × ClusterStatus)))) (p : Probe)
    (batch : List Cid) : Probe :=
  match answer batch with
  | .ok fresh => { fresh.foldl Probe.note p with batchCount := p.batchCount + 1 }
  | .error _ => p

def batches (cfg : CycleConfig) (E : CycleEnv) (memo : Memo Cid ClusterStatus) (cids : List Cid) : List (List Cid) :=
  chunks cfg.statusBatchSize (pendingCids (cached E.observedAt memo cids) cids)

def probe (cfg : CycleConfig) (E : CycleEnv) (memo : Memo Cid ClusterStatus) (cids : List Cid) : Probe :=
  (batches cfg E memo cids).foldl (askBatch E.answer) { memo, observed := cached E.observedAt memo cids }

def promotionCandidates (cfg : ReplicationConfig) (cids : List Cid) (observed : List (Cid × ClusterStatus)) :
    List Cid :=
  cids.filter fun cid => (Dict.get observed cid).any fun status => status.assigned < (cfg.targetReplicas : Int)

structure Figures where
  confirmedCids : Nat
  assignedTarget : Nat
  queuedCids : Nat
  pinningCids : Nat
  errorCids : Nat
  remoteCids : Nat
  pendingCids : Nat

def figures (cfg : ReplicationConfig) (observed : List ClusterStatus) : Figures where
  confirmedCids := observed.countP fun s => (cfg.targetReplicas : Int) ≤ s.totalReplicas
  assignedTarget := observed.countP fun s => (cfg.targetReplicas : Int) ≤ s.assigned
  queuedCids := observed.countP fun s => 0 < s.queuedReplicas
  pinningCids := observed.countP fun s => 0 < s.pinningReplicas
  errorCids := observed.countP fun s => 0 < s.errorReplicas
  remoteCids := observed.countP ClusterStatus.remote
  pendingCids := observed.length - observed.countP fun s => (cfg.targetReplicas : Int) ≤ s.totalReplicas

structure Promoted where
  requested : List Cid := []
  candidates : Nat := 0
  accepted : Nat := 0
  deferred : Nat := 0
  failed : Nat := 0

def promote (cfg : ReplicationConfig) (E : CycleEnv) (budget : Budget) (cids : List Cid)
    (observed : List (Cid × ClusterStatus)) : Promoted :=
  let all := promotionCandidates cfg cids observed
  let requested := all.take budget.effectivePromotionBatchSize.toNat
  let asked : Promoted := { requested, candidates := all.length, deferred := all.length - requested.length }
  if requested = [] then asked
  else match E.ensure requested with
    | .ok results =>
        { asked with
          accepted := results.countP fun e => e.2 = "promotion_requested"
          failed := results.countP fun e => e.2 = "promotion_failed" }
    | .error _ => { asked with failed := requested.length }

def add (a b : ReconcileCounts) : ReconcileCounts where
  checked := a.checked + b.checked
  advanced := a.advanced + b.advanced
  waiting := a.waiting + b.waiting
  repaired := a.repaired + b.repaired
  purged := a.purged + b.purged
  failed := a.failed + b.failed

def noCounts : ReconcileCounts := { checked := 0 }

section Probe

variable {cfg : CycleConfig} {E : CycleEnv} {memo m : Memo Cid ClusterStatus} {cids : List Cid} {cid : Cid}
  {status : ClusterStatus} {observed : List (Cid × ClusterStatus)} {t t' : Time}

def noted (E : CycleEnv) (batches : List (List Cid)) : List (Cid × (Time × ClusterStatus)) :=
  batches.flatMap fun batch =>
    match E.answer batch with
    | .ok fresh => fresh
    | .error _ => []

def Chronological : Time → List (Cid × (Time × ClusterStatus)) → Time → Prop
  | t, [], t' => t ≤ t'
  | t, e :: notes, t' => t ≤ e.2.1 ∧ Chronological e.2.1 notes t'

theorem note_memo (notes : List (Cid × (Time × ClusterStatus))) (p : Probe) :
    (notes.foldl Probe.note p).memo = notes.foldl Memo.note p.memo ∧
      (notes.foldl Probe.note p).observed = notes.foldl (fun d e => Dict.set d e.1 e.2.2) p.observed := by
  induction notes generalizing p with
  | nil => exact ⟨rfl, rfl⟩
  | cons e notes ih => exact ih (p.note e)

theorem askBatches (batches : List (List Cid)) (p : Probe) :
    (batches.foldl (askBatch E.answer) p).memo = (noted E batches).foldl Memo.note p.memo ∧
      (batches.foldl (askBatch E.answer) p).observed =
        (noted E batches).foldl (fun d e => Dict.set d e.1 e.2.2) p.observed := by
  induction batches generalizing p with
  | nil => exact ⟨rfl, rfl⟩
  | cons batch batches ih =>
      have hfirst : (askBatch E.answer p batch).memo = (noted E [batch]).foldl Memo.note p.memo ∧
          (askBatch E.answer p batch).observed =
            (noted E [batch]).foldl (fun d e => Dict.set d e.1 e.2.2) p.observed := by
        unfold askBatch noted
        cases h : E.answer batch with
        | ok fresh => simpa [h] using note_memo fresh p
        | error e => simp [h]
      have hnoted : noted E (batch :: batches) = noted E [batch] ++ noted E batches := by simp [noted]
      rw [hnoted, List.foldl_append, List.foldl_append, ← hfirst.1, ← hfirst.2]
      exact ih (askBatch E.answer p batch)

theorem notes_coherent (notes : List (Cid × (Time × ClusterStatus))) (h : Coherent m) :
    Coherent (notes.foldl Memo.note m) := by
  induction notes generalizing m with
  | nil => exact h
  | cons e notes ih => exact ih (coherent_note h e)

theorem notes_spaced {window : Time} {notes : List (Cid × (Time × ClusterStatus))} (h : Spaced window t m)
    (hclock : Chronological t notes t') : Spaced window t' (notes.foldl Memo.note m) := by
  induction notes generalizing m t with
  | nil => exact h.mono hclock
  | cons e notes ih => exact ih (h.note hclock.1) hclock.2

theorem notes_observed (notes : List (Cid × (Time × ClusterStatus))) (m : Memo Cid ClusterStatus)
    (h : Dict.get (notes.foldl (fun d e => Dict.set d e.1 e.2.2) observed) cid = some status) :
    (∃ t, latest (notes.foldl Memo.note m).history cid = some (t, status) ∧ (cid, (t, status)) ∈ notes) ∨
      Dict.get observed cid = some status ∧
        latest (notes.foldl Memo.note m).history cid = latest m.history cid := by
  induction notes using List.reverseRecOn with
  | nil => exact .inr ⟨h, rfl⟩
  | append_singleton notes e ih =>
      rw [List.foldl_concat, Dict.get_set] at h
      rw [List.foldl_concat]
      change (∃ t, latest (e :: _) cid = _ ∧ _) ∨ _ ∧ latest (e :: _) cid = _
      rw [latest_cons]
      by_cases hcid : e.1 = cid
      · obtain rfl : e.2.2 = status := by simpa [hcid] using h
        subst hcid
        exact .inl ⟨e.2.1, if_pos rfl, List.mem_append_right _ (List.mem_singleton.mpr rfl)⟩
      · rw [if_neg hcid] at h ⊢
        rcases ih h with ⟨t, hlatest, hmem⟩ | hbefore
        · exact .inl ⟨t, hlatest, List.mem_append_left _ hmem⟩
        · exact .inr hbefore

theorem get_cached (h : Dict.get (cached t memo cids) cid = some status) :
    ∃ t', memo.remembered (seconds 2) t cid = some (t', status) := by
  induction cids with
  | nil => cases h
  | cons c cids ih =>
      unfold cached at h ih
      rw [List.filterMap_cons] at h
      cases hc : memo.remembered (seconds 2) t c with
      | none =>
          rw [hc] at h
          exact ih h
      | some v =>
          rw [hc] at h
          change (if c = cid then some v.2 else Dict.get _ cid) = some status at h
          split at h
          · rename_i hcid
            subst hcid
            exact ⟨v.1, by rw [hc, ← Option.some.inj h]⟩
          · exact ih h

theorem cached_get (hmem : cid ∈ cids) {v : Time × ClusterStatus}
    (h : memo.remembered (seconds 2) t cid = some v) : (Dict.get (cached t memo cids) cid).isSome := by
  induction cids with
  | nil => cases hmem
  | cons c cids ih =>
      unfold cached at ih ⊢
      rw [List.filterMap_cons]
      by_cases hcid : c = cid
      · subst hcid
        rw [h]
        simp [Dict.get]
      · have hrest := ih ((List.mem_cons.mp hmem).resolve_left (Ne.symm hcid))
        cases hc : memo.remembered (seconds 2) t c with
        | none => exact hrest
        | some u => simpa [Dict.get, hcid] using hrest

theorem chunks_length {α : Type} {size : Nat} {l part : List α} (h : part ∈ chunks size l) : part.length ≤ size := by
  obtain ⟨i, -, rfl⟩ := List.mem_map.mp h
  exact List.length_take_le ..

theorem batches_pending : (batches cfg E memo cids).flatten = pendingCids (cached E.observedAt memo cids) cids :=
  chunks_flatten cfg.statusBatchSize_pos _

theorem pending_forgotten (h : cid ∈ pendingCids (cached t memo cids) cids) :
    memo.remembered (seconds 2) t cid = none := by
  obtain ⟨hmem, hnone⟩ := List.mem_filter.mp h
  by_contra hsome
  obtain ⟨v, hv⟩ := Option.ne_none_iff_exists'.mp hsome
  have := cached_get hmem hv
  rw [Option.isNone_iff_eq_none.mp hnone] at this
  cases this

end Probe

section

variable [PyLower]

def attemptOf (catalogue : ErrorCatalogue) (cfg : CycleConfig) (E : CycleEnv)
    (observed : List (Cid × ClusterStatus)) (k : ArkId) : Reconciled :=
  if E.free k then
    reconcile catalogue cfg.replication k
      { E.attempt k with statuses := .ok fun cid => (Dict.get observed cid).map (·.toReplicationStatus) }
      (E.found k)
  else { cell := E.found k, counts := noCounts }

/-- What a cycle did. An attempt that raises ends it before the counters are added up. -/
structure Report where
  maintenance : Bool
  rows : List (ArkId × Cell)
  cids : List Cid
  probe : Probe
  figures : Figures
  promoted : Promoted
  attempts : List (ArkId × Reconciled)
  totals : Except Exc ReconcileCounts

def sumCounts : List Reconciled → Except Exc ReconcileCounts
  | [] => .ok noCounts
  | r :: rest => do
      r.result
      let totals ← sumCounts rest
      return add r.counts totals

def nextBudget (cfg : CycleConfig) (s : Worker) (observed : List (Cid × ClusterStatus)) : Budget :=
  updatePromotionBudget cfg.promotion (pressurePercent (observed.map fun e => e.2.toPinQueue)) s.budget

def report (catalogue : ErrorCatalogue) (cfg : CycleConfig) (s : Worker) (E : CycleEnv) : Report :=
  let (rows, maintenance) := selection cfg.pace E.selectedAt E.table
  let cids := uniqueCids rows
  let p := probe cfg E s.memo cids
  let attempts := (rows.map Prod.fst).dedup.map fun k => (k, attemptOf catalogue cfg E p.observed k)
  { maintenance, rows, cids
    probe := p
    figures := figures cfg.replication (p.observed.map Prod.snd)
    promoted := if maintenance then promote cfg.replication E (nextBudget cfg s p.observed) cids p.observed else {}
    attempts
    totals := sumCounts (attempts.map Prod.snd) }

def cycle (catalogue : ErrorCatalogue) (cfg : CycleConfig) (s : Worker) (E : CycleEnv) : Worker :=
  let r := report catalogue cfg s E
  let t :=
    { s with
      memo := r.probe.memo.prune (seconds 2) E.prunedAt
      budget := nextBudget cfg s r.probe.observed
      clock := E.endedAt }
  match r.totals with
  | .ok totals =>
      { t with
        totalProcessed := s.totalProcessed + totals.checked
        totalSucceeded := s.totalSucceeded + totals.advanced
        totalDeferred := s.totalDeferred + totals.waiting
        totalFailed := s.totalFailed + totals.failed }
  | .error _ => t

def step (catalogue : ErrorCatalogue) (cfg : CycleConfig) (s : Worker) (E : CycleEnv) : Option Worker :=
  some (cycle catalogue cfg s E)

def start (cfg : CycleConfig) (clock : Time) : Worker := { budget := PromotionBudget.start cfg.promotion, clock }

section Attempts

variable {catalogue : ErrorCatalogue} {cfg : ReplicationConfig} {k : ArkId} {E : ReconcileEnv} {r r' : ARKRecord}
  {m : ARKMetadata} {c : Cell} {level1 level2 : ReplicationStatus} {repaired : Nat}

theorem reconciledRows_advanced
    (h : (reconciledRows cfg E level1 level2 r m repaired).1.processingStage ≠ r.processingStage) :
    (if r.processingStage = .availability then cfg.publishAfter else cfg.targetReplicas) ≤
      min level1.totalReplicas.toNat level2.totalReplicas.toNat := by
  unfold reconciledRows at h
  simp only at h
  split
  · rename_i hstage
    rw [if_pos hstage] at h
    unfold reconcileAvailability at h
    simp only at h
    split at h
    · assumption
    · exact absurd rfl h
  · rename_i hstage
    rw [if_neg hstage] at h
    unfold reconcileDurability at h
    split at h
    · assumption
    · split at h <;> exact absurd rfl h

theorem reconcile_advanced {lookup : Cid → Option ReplicationStatus} (hstatuses : E.statuses = .ok lookup)
    (hr : c.record = some r) (hr' : (reconcile catalogue cfg k E c).cell.record = some r')
    (hstage : r'.processingStage ≠ r.processingStage) :
    ∃ m level1Cid level2Cid level1 level2, c.metadata = some m ∧ m.level1Cid = some level1Cid ∧
      m.originalCid = some level2Cid ∧ lookup level1Cid = some level1 ∧ lookup level2Cid = some level2 ∧
      (if r.processingStage = .availability then cfg.publishAfter else cfg.targetReplicas) ≤
        min level1.totalReplicas.toNat level2.totalReplicas.toNat := by
  rcases reconcile_cases catalogue cfg k E c with h | ⟨r₀, hr₀, -, hnoted | hobserved⟩
  · rw [h, hr] at hr'
    exact absurd (Option.some.inj hr').symm fun h => hstage (h ▸ rfl)
  · obtain ⟨r₁, r₂, hr₁, hr₂, -, -, -, hsame, -⟩ := hnoted.keeps
    rw [hr] at hr₁
    rw [hr'] at hr₂
    rw [← Option.some.inj hr₁, ← Option.some.inj hr₂] at hsame
    exact absurd hsame hstage
  · obtain rfl := Option.some.inj (hr.symm.trans hr₀)
    obtain ⟨m, level1Cid, level2Cid, level1, level2, repaired, hm, h1, h2, hobserve, -, -, -, hcell⟩ := hobserved
    rw [hcell] at hr'
    obtain rfl := Option.some.inj hr'
    have hseen : lookup level1Cid = some level1 ∧ lookup level2Cid = some level2 := by
      unfold observe at hobserve
      rw [hstatuses] at hobserve
      cases hl1 : lookup level1Cid with
      | none => simp [bind, Except.bind, hl1] at hobserve
      | some l1 =>
          cases hl2 : lookup level2Cid with
          | none => simp [bind, Except.bind, hl1, hl2] at hobserve
          | some l2 =>
              simp only [bind, Except.bind, hl1, hl2] at hobserve
              split at hobserve
              · cases hobserve
              · obtain ⟨rfl, rfl⟩ := Prod.mk.inj (Except.ok.inj hobserve)
                exact ⟨rfl, rfl⟩
    exact ⟨m, level1Cid, level2Cid, level1, level2, hm, h1, h2, hseen.1, hseen.2, reconciledRows_advanced hstage⟩

/-- A record that is checked advances, waits or fails, or does so and fails on top. -/
def Balanced (counts : ReconcileCounts) (lost : Bool) : Prop :=
  counts.advanced + counts.waiting + counts.failed = counts.checked + lost.toNat

end Attempts

section Cycles

variable {catalogue : ErrorCatalogue} {cfg : CycleConfig} {s t : Worker} {E : CycleEnv} {clock : Time} {cid : Cid}
  {status : ClusterStatus} {k : ArkId}

def asked (cfg : CycleConfig) (s : Worker) (E : CycleEnv) : List (List Cid) :=
  batches cfg E s.memo (uniqueCids (selection cfg.pace E.selectedAt E.table).1)

/-- The clock does not go back, from cycle to cycle and within one. -/
def Forward (cfg : CycleConfig) (s : Worker) (E : CycleEnv) : Prop :=
  s.clock ≤ E.observedAt ∧ Chronological E.observedAt (noted E (asked cfg s E)) E.endedAt ∧
    ∀ cid, E.prunedAt cid ≤ E.endedAt

def remembering (cfg : CycleConfig) (s : Worker) (E : CycleEnv) : Probe where
  memo := s.memo
  observed := cached E.observedAt s.memo (uniqueCids (selection cfg.pace E.selectedAt E.table).1)

theorem report_probe : (report catalogue cfg s E).probe =
    (asked cfg s E).foldl (askBatch E.answer) (remembering cfg s E) := rfl

theorem cycle_next : (cycle catalogue cfg s E).memo =
      ((noted E (asked cfg s E)).foldl Memo.note s.memo).prune (seconds 2) E.prunedAt ∧
    (cycle catalogue cfg s E).budget = nextBudget cfg s (report catalogue cfg s E).probe.observed ∧
    (cycle catalogue cfg s E).clock = E.endedAt := by
  have hprobe := (askBatches (E := E) (asked cfg s E) (remembering cfg s E)).1
  have hmemo : (report catalogue cfg s E).probe.memo.prune (seconds 2) E.prunedAt =
      ((noted E (asked cfg s E)).foldl Memo.note s.memo).prune (seconds 2) E.prunedAt := by
    rw [report_probe, hprobe]
    rfl
  simp only [cycle]
  cases (report catalogue cfg s E).totals <;> exact ⟨hmemo, rfl, rfl⟩

theorem reach_coherent {G : Worker → CycleEnv → Prop} (h : Reach (step catalogue cfg) G (start cfg clock) s) :
    Coherent s.memo := by
  apply h.invariant
  · intro k v hv
    cases hv
  · intro s E t hs _ hstep
    obtain rfl := Option.some.inj hstep
    rw [cycle_next.1]
    exact coherent_prune (notes_coherent _ hs)

theorem reach_spaced (h : Reach (step catalogue cfg) (Forward cfg) (start cfg clock) s) :
    Spaced (seconds 2) s.clock s.memo := by
  apply h.invariant
  · exact ⟨by simp [start], by simp [start]⟩
  · intro s E t hs hforward hstep
    obtain rfl := Option.some.inj hstep
    obtain ⟨hclock, hnotes, hpruned⟩ := hforward
    rw [cycle_next.1, cycle_next.2.2]
    exact (notes_spaced (hs.mono hclock) hnotes).prune hpruned

theorem reach_budget {G : Worker → CycleEnv → Prop} (h : Reach (step catalogue cfg) G (start cfg clock) s) :
    Bounded cfg.promotion s.budget := by
  apply h.invariant
  · exact ⟨cfg.promotion.minBatchSize_le, le_rfl⟩
  · intro s E t hs _ hstep
    obtain rfl := Option.some.inj hstep
    rw [cycle_next.2.1]
    exact update_bounded hs

/-- An answer of storage that a cycle may still go by: its latest one about the CID, got in this
cycle or less than two seconds before it. -/
def Current (cfg : CycleConfig) (s : Worker) (E : CycleEnv) (p : Probe) (cid : Cid) (status : ClusterStatus) : Prop :=
  ∃ t, latest p.memo.history cid = some (t, status) ∧
    ((cid, (t, status)) ∈ noted E (asked cfg s E) ∨ E.observedAt - t < seconds 2)

theorem observed_current {G : Worker → CycleEnv → Prop} (h : Reach (step catalogue cfg) G (start cfg clock) s)
    (hget : Dict.get (report catalogue cfg s E).probe.observed cid = some status) :
    Current cfg s E (report catalogue cfg s E).probe cid status := by
  have hprobe := askBatches (E := E) (asked cfg s E) (remembering cfg s E)
  rw [report_probe, hprobe.2] at hget
  rw [Current, report_probe, hprobe.1]
  rcases notes_observed _ s.memo hget with ⟨t, hlatest, hmem⟩ | ⟨hcached, hsame⟩
  · exact ⟨t, hlatest, .inl hmem⟩
  · obtain ⟨t, hremembered⟩ := get_cached hcached
    obtain ⟨hrecent, hnear⟩ := remembered_some.mp hremembered
    exact ⟨t, hsame.trans (reach_coherent h cid (t, status) hrecent), .inr hnear⟩

omit [PyLower] in
theorem uniqueCids_nodup (rows : List (ArkId × Cell)) : (uniqueCids rows).Nodup :=
  (List.mergeSort_perm _ _).nodup_iff.mpr (List.nodup_dedup _)

/-- While the clock does not go back, storage is asked at most once in a cycle about a CID, and only
where its last answer about it is two seconds old, in batches of at most 200. -/
theorem probes_spaced (h : Reach (step catalogue cfg) (Forward cfg) (start cfg clock) s) (hforward : Forward cfg s E) :
    (asked cfg s E).flatten.Nodup ∧ (∀ batch ∈ asked cfg s E, batch.length ≤ 200) ∧
      ∀ cid ∈ (asked cfg s E).flatten, ∀ e ∈ s.memo.history, e.1 = cid → seconds 2 ≤ E.observedAt - e.2.1 := by
  refine ⟨?_, fun batch hbatch => (chunks_length hbatch).trans cfg.statusBatchSize_le, fun cid hcid => ?_⟩
  · rw [asked, batches_pending]
    exact (uniqueCids_nodup _).filter _
  · rw [asked, batches_pending] at hcid
    exact ((reach_spaced h).mono hforward.1).asked (pending_forgotten hcid)

/-- A cycle moves an ARK on, to the chain or to its end with the payload purged, only where
storage's current answers about both CIDs of the row have the replicas that the stage waits for. -/
theorem advance_confirmed {G : Worker → CycleEnv → Prop} (h : Reach (step catalogue cfg) G (start cfg clock) s)
    {res : Reconciled} {r r' : ARKRecord} (hattempt : (k, res) ∈ (report catalogue cfg s E).attempts)
    (hr : (E.found k).record = some r) (hr' : res.cell.record = some r')
    (hstage : r'.processingStage ≠ r.processingStage) :
    ∃ m level1Cid level2Cid level1 level2, (E.found k).metadata = some m ∧ m.level1Cid = some level1Cid ∧
      m.originalCid = some level2Cid ∧ Current cfg s E (report catalogue cfg s E).probe level1Cid level1 ∧
      Current cfg s E (report catalogue cfg s E).probe level2Cid level2 ∧
      (if r.processingStage = .availability then cfg.replication.publishAfter else cfg.replication.targetReplicas) ≤
        min level1.totalReplicas.toNat level2.totalReplicas.toNat := by
  obtain ⟨k', -, hpair⟩ := List.mem_map.mp hattempt
  obtain ⟨rfl, rfl⟩ := Prod.mk.inj hpair
  unfold attemptOf at hr'
  split at hr'
  · obtain ⟨m, level1Cid, level2Cid, l1, l2, hm, h1, h2, hseen1, hseen2, hreplicas⟩ :=
      reconcile_advanced rfl hr hr' hstage
    obtain ⟨level1, hlevel1, rfl⟩ := Option.map_eq_some_iff.mp hseen1
    obtain ⟨level2, hlevel2, rfl⟩ := Option.map_eq_some_iff.mp hseen2
    exact ⟨m, level1Cid, level2Cid, level1, level2, hm, h1, h2, observed_current h hlevel1,
      observed_current h hlevel2, hreplicas⟩
  · rw [hr] at hr'
    exact absurd (Option.some.inj hr').symm fun h => hstage (h ▸ rfl)

omit [PyLower] in
theorem selection_maintenance {now : Time} {table : List (ArkId × Cell)}
    (h : (selection cfg.pace now table).2 = true) :
    (∀ e ∈ table, reconciliationCandidate .availability now e.2 = false) ∧
      hasCriticalReconciliationBacklog (table.map Prod.snd) = false := by
  unfold selection at h
  simp only at h
  split at h
  · rename_i hnone
    refine ⟨fun e he => ?_, hnone.2⟩
    have hpage : cfg.pace.pageSize.toNat ≠ 0 := by
      have := cfg.pace.pageSize_pos
      omega
    have hsorted := (List.take_eq_nil_iff.mp hnone.1).resolve_left hpage
    have hfiltered : (table.filter fun e => reconciliationCandidate .availability now e.2) = [] := by
      rw [← List.length_eq_zero_iff, ← List.length_mergeSort, hsorted, List.length_nil]
    simpa using List.filter_eq_nil_iff.mp hfiltered e he
  · cases h

omit [PyLower] in
theorem promote_spec (cfg : ReplicationConfig) (E : CycleEnv) (budget : Budget) (cids : List Cid)
    (observed : List (Cid × ClusterStatus)) :
    let p := promote cfg E budget cids observed
    let all := promotionCandidates cfg cids observed
    p.requested = all.take budget.effectivePromotionBatchSize.toNat ∧ p.candidates = all.length ∧
      p.deferred = all.length - p.requested.length := by
  unfold promote
  simp only
  split
  · exact ⟨rfl, rfl, rfl⟩
  · split <;> exact ⟨rfl, rfl, rfl⟩

/-- Promotions are asked for in maintenance only, when no first-pin work is due and none is left on
the way to the chain: each CID once, no more of them than the budget, and only what storage's
current answer shows to be assigned to fewer replicas than the target. What is left over of them is
counted as deferred, and then the budget is used up. -/
theorem promotions_bounded {G : Worker → CycleEnv → Prop} (h : Reach (step catalogue cfg) G (start cfg clock) s) :
    let r := report catalogue cfg s E
    let budget := (cycle catalogue cfg s E).budget.effectivePromotionBatchSize
    r.promoted.requested.Nodup ∧ (r.promoted.requested.length : Int) ≤ budget ∧ budget ≤ 200 ∧
      r.promoted.candidates = r.promoted.requested.length + r.promoted.deferred ∧
      (0 < r.promoted.deferred → (r.promoted.requested.length : Int) = budget) ∧
      ∀ cid ∈ r.promoted.requested,
        (∀ e ∈ E.table, reconciliationCandidate .availability E.selectedAt e.2 = false) ∧
        hasCriticalReconciliationBacklog (E.table.map Prod.snd) = false ∧
        ∃ status, Current cfg s E r.probe cid status ∧ status.assigned < (cfg.replication.targetReplicas : Int) := by
  simp only
  have hbudget : (cycle catalogue cfg s E).budget = nextBudget cfg s (report catalogue cfg s E).probe.observed :=
    cycle_next.2.1
  rw [hbudget]
  generalize hb : nextBudget cfg s (report catalogue cfg s E).probe.observed = budget
  obtain ⟨hlow, hhigh⟩ : Bounded cfg.promotion budget := hb ▸ update_bounded (reach_budget h)
  have hpos := cfg.promotion.minBatchSize_pos
  have hle := cfg.promotion_le
  have hpromoted : (report catalogue cfg s E).promoted = if (report catalogue cfg s E).maintenance then
      promote cfg.replication E budget (report catalogue cfg s E).cids (report catalogue cfg s E).probe.observed
      else {} := by
    rw [← hb]
    rfl
  rw [hpromoted]
  split
  · rename_i hmaintenance
    obtain ⟨hrequested, hcandidates, hdeferred⟩ := promote_spec cfg.replication E budget
      (report catalogue cfg s E).cids (report catalogue cfg s E).probe.observed
    have hlength := congrArg List.length hrequested
    rw [List.length_take] at hlength
    refine ⟨?_, by omega, by omega, by omega, by omega, fun cid hcid => ?_⟩
    · rw [hrequested]
      exact ((uniqueCids_nodup _).filter _).sublist (List.take_sublist ..)
    · obtain ⟨hfirst, hbacklog⟩ := selection_maintenance hmaintenance
      rw [hrequested] at hcid
      obtain ⟨-, hshort⟩ := List.mem_filter.mp (List.mem_of_mem_take hcid)
      obtain ⟨status, hstatus, hassigned⟩ := (Option.any_eq_true ..).mp hshort
      exact ⟨hfirst, hbacklog, status, observed_current h hstatus, by simpa using hassigned⟩
  · refine ⟨List.nodup_nil, ?_, by omega, rfl, by simp, by simp⟩
    simp only [List.length_nil]
    omega

end Cycles

end

section Sample

attribute [local instance] asciiText

open Deployment.Sample

theorem one_le_batch : 1 ≤ 200 := by decide

theorem two_le_high : (2 : Int) ≤ 80 := by decide

theorem minBatch_le : (100 : Int) ≤ 200 := by decide

def sampleConfig : CycleConfig where
  replication := config.replication
  pace := WakePlan.defaults
  promotion := .init 100 20 80 50 two_le_high
  statusBatchSize := 200
  statusBatchSize_pos := one_le_batch
  statusBatchSize_le := Nat.le_refl 200
  promotion_le := minBatch_le

def stored : Cell where
  record := some
    { state := .draft, authorityId := "A", createdAt := 0, updatedAt := 0, processingStage := .availability
      processingStatus := .ready }
  metadata := some
    { level1Json := some (.obj []), level1Cid := some cid1, originalContent := some "m", originalSchema := "s",
      originalMediaType := some "text/xml", originalCid := some cid2, createdAt := 0, updatedAt := 0 }

def pinned : ClusterStatus where
  status := "pinned"
  totalReplicas := 1
  assignedReplicas := some 1

def firstCycle : CycleEnv where
  selectedAt := 10
  table := [(ark, stored)]
  observedAt := 11
  answer _ := .ok [(cid1, (12, pinned)), (cid2, (12, pinned))]
  prunedAt _ := 13
  ensure _ := .ok []
  free _ := true
  found _ := stored
  attempt _ := { reconcileEnv with readyAt := 13, now := 13, scheduledAt := 13 }
  endedAt := 14

def atStart : Worker := start sampleConfig 10

theorem reach_atStart {G : Worker → CycleEnv → Prop} :
    Reach (step config.catalogue sampleConfig) G (start sampleConfig 10) atStart := .init

theorem sample_selection : selection sampleConfig.pace firstCycle.selectedAt firstCycle.table =
    ([(ark, stored)], false) := by
  have hfilter : (firstCycle.table.filter fun e => reconciliationCandidate .availability firstCycle.selectedAt e.2) =
      [(ark, stored)] := rfl
  have hrows : candidates sampleConfig.pace.pageSize .availability firstCycle.selectedAt firstCycle.table =
      [(ark, stored)] := by
    rw [candidates, hfilter, List.mergeSort_singleton]
    rfl
  simp [selection, hrows]

theorem sample_cids : uniqueCids [(ark, stored)] = [cid1, cid2] := by
  have hcids : ([(ark, stored)].flatMap fun e => cidsOf e.2).dedup = [cid1, cid2] := by decide
  rw [uniqueCids, hcids]
  exact List.mergeSort_of_pairwise (by decide)

theorem sample_asked : asked sampleConfig atStart firstCycle = [[cid1, cid2]] := by
  rw [asked, sample_selection, sample_cids]
  decide

theorem sample_observed : (report config.catalogue sampleConfig atStart firstCycle).probe.observed =
    [(cid1, pinned), (cid2, pinned)] := by
  rw [report_probe, sample_asked, remembering, sample_selection, sample_cids]
  rfl

theorem sample_forward : Forward sampleConfig atStart firstCycle := by
  have hpruned : (13 : Time) ≤ 14 := by decide
  refine ⟨by decide, ?_, fun _ => hpruned⟩
  rw [sample_asked]
  change (11 : Time) ≤ 12 ∧ (12 : Time) ≤ 12 ∧ (12 : Time) ≤ 14
  decide

theorem probes_spaced_sample :
    Reach (step config.catalogue sampleConfig) (Forward sampleConfig) atStart
        (cycle config.catalogue sampleConfig atStart firstCycle) ∧
      (asked sampleConfig atStart firstCycle).flatten = [cid1, cid2] ∧
      ((asked sampleConfig atStart firstCycle).flatten.Nodup ∧
        (∀ batch ∈ asked sampleConfig atStart firstCycle, batch.length ≤ 200) ∧
        ∀ cid ∈ (asked sampleConfig atStart firstCycle).flatten, ∀ e ∈ atStart.memo.history, e.1 = cid →
          seconds 2 ≤ firstCycle.observedAt - e.2.1) := by
  refine ⟨.next .init sample_forward rfl, ?_, probes_spaced reach_atStart sample_forward⟩
  rw [sample_asked]
  rfl

theorem advance_confirmed_sample :
    ∃ res r', (ark, res) ∈ (report config.catalogue sampleConfig atStart firstCycle).attempts ∧
      res.cell.record = some r' ∧ r'.processingStage = .chain ∧
      ∃ m level1Cid level2Cid level1 level2, stored.metadata = some m ∧ m.level1Cid = some level1Cid ∧
        m.originalCid = some level2Cid ∧
        Current sampleConfig atStart firstCycle (report config.catalogue sampleConfig atStart firstCycle).probe
          level1Cid level1 ∧
        Current sampleConfig atStart firstCycle (report config.catalogue sampleConfig atStart firstCycle).probe
          level2Cid level2 ∧
        1 ≤ min level1.totalReplicas.toNat level2.totalReplicas.toNat := by
  have hattempt : (ark, attemptOf config.catalogue sampleConfig firstCycle [(cid1, pinned), (cid2, pinned)] ark) ∈
      (report config.catalogue sampleConfig atStart firstCycle).attempts := by
    change _ ∈ ((selection sampleConfig.pace firstCycle.selectedAt firstCycle.table).1.map Prod.fst).dedup.map fun k =>
      (k, attemptOf config.catalogue sampleConfig firstCycle
        (report config.catalogue sampleConfig atStart firstCycle).probe.observed k)
    rw [sample_selection, sample_observed]
    exact List.mem_singleton.mpr rfl
  have hmoved : ((attemptOf config.catalogue sampleConfig firstCycle [(cid1, pinned), (cid2, pinned)]
      ark).cell.record.map fun r => r.processingStage) = some .chain := by decide
  obtain ⟨r', hr', hstage⟩ := Option.map_eq_some_iff.mp hmoved
  have hfound := advance_confirmed (G := Free) reach_atStart hattempt
    (show (firstCycle.found ark).record = some _ from rfl) hr' (by rw [hstage]; decide)
  exact ⟨_, r', hattempt, hr', hstage, hfound⟩

def available : Cell :=
  { stored with record := stored.record.map fun r => { r with state := .published, processingStage := .replication } }

def maintenanceCycle : CycleEnv := { firstCycle with table := [(ark, available)], found := fun _ => available }

theorem sample_maintenance : selection sampleConfig.pace maintenanceCycle.selectedAt maintenanceCycle.table =
    ([(ark, available)], true) := by
  have hfirst : candidates sampleConfig.pace.pageSize .availability maintenanceCycle.selectedAt
      maintenanceCycle.table = [] := by
    have hnone : (maintenanceCycle.table.filter fun e =>
        reconciliationCandidate .availability maintenanceCycle.selectedAt e.2) = [] := rfl
    rw [candidates, hnone, List.mergeSort_nil, List.take_nil]
  have hrows : candidates (maintenancePageSize sampleConfig.pace) .replication maintenanceCycle.selectedAt
      maintenanceCycle.table = [(ark, available)] := by
    have hone : (maintenanceCycle.table.filter fun e =>
        reconciliationCandidate .replication maintenanceCycle.selectedAt e.2) = [(ark, available)] := rfl
    rw [candidates, hone, List.mergeSort_singleton]
    rfl
  have hbacklog : hasCriticalReconciliationBacklog (maintenanceCycle.table.map Prod.snd) = false := by decide
  simp [selection, hfirst, hrows, hbacklog]

theorem promotions_bounded_sample :
    let r := report config.catalogue sampleConfig atStart maintenanceCycle
    r.promoted.requested = [cid1, cid2] ∧ r.promoted.requested.Nodup := by
  refine ⟨?_, (promotions_bounded (E := maintenanceCycle) (G := Free) reach_atStart).1⟩
  have hcids : uniqueCids [(ark, available)] = [cid1, cid2] := sample_cids
  have hasked : asked sampleConfig atStart maintenanceCycle = [[cid1, cid2]] := by
    rw [asked, sample_maintenance, hcids]
    decide
  have hobserved : (report config.catalogue sampleConfig atStart maintenanceCycle).probe.observed =
      [(cid1, pinned), (cid2, pinned)] := by
    rw [report_probe, hasked, remembering, sample_maintenance, hcids]
    rfl
  have hbudget : (20 : Int) ≤
      (nextBudget sampleConfig atStart [(cid1, pinned), (cid2, pinned)]).effectivePromotionBatchSize :=
    (update_bounded (reach_budget (G := Free) reach_atStart)).1
  change (if (selection sampleConfig.pace maintenanceCycle.selectedAt maintenanceCycle.table).2 then
    promote sampleConfig.replication maintenanceCycle
      (nextBudget sampleConfig atStart (report config.catalogue sampleConfig atStart maintenanceCycle).probe.observed)
      (uniqueCids (selection sampleConfig.pace maintenanceCycle.selectedAt maintenanceCycle.table).1)
      (report config.catalogue sampleConfig atStart maintenanceCycle).probe.observed else {}).requested = _
  rw [sample_maintenance, hobserved, if_pos rfl, hcids, (promote_spec ..).1]
  refine List.take_of_length_le ?_
  change 2 ≤ Int.toNat _
  omega

end Sample

end DarkMinter.ReplicationCycle
