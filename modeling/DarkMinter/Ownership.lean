import DarkMinter.InFlight

namespace DarkMinter.Ownership

open Text Processing Records Repository Authority ArkApi Requests Persistence Replication Publication
open ChainCycle Deployment Attempts Effects ResultApplication InFlight Lib.Runs

section

def RequestOf (A : String) : Act → Prop
  | .reserve rows => ∀ row ∈ rows, row.2.authorityId = A
  | .mutate _ (.put identity _ _) | .mutate _ (.delete identity _) | .mutate _ (.retry identity _) =>
      identity.authorityId = A
  | _ => False

def ownerReads : Act → Option OwnerReads
  | .mutate _ (.put _ _ E) => some E.owner
  | .mutate _ (.delete _ E) => some E.owner
  | _ => none

variable [PyLower]

/-- The request took over the ARK with the record `r` and handed it to `A`:
its chain reads confirmed `A` as the owner, and what there was of the former
authority is a superseded job in the same commit. -/
def TakenOver (a : Act) (A : String) (r : ARKRecord) (c c' : Cell) : Prop :=
  (∃ reads info, ownerReads a = some reads ∧ OwnerConfirmed reads info) ∧
    c'.superseded = c.superseded ++
      [{ originalAuthorityId := r.authorityId, replacementAuthorityId := A, record := r,
         metadata := c.metadata }] ∧
    ∃ r', c'.record = some r' ∧ r'.authorityId = A

variable {cfg : Config} {s t u : Sys} {a : Act} {k : ArkId} {c c' : Cell} {op : Op} {A : String}
  {r : ARKRecord}

theorem takenOver_of_staged {identity : Identity} {request : UpdateARKMetadataRequest} {E : PutEnv}
    {c₀ : Cell} {info : ARKInfo} {now : Time} {json : Json} {r' : ARKRecord}
    (ho : OwnerConfirmed E.owner info) (hmeta : c₀.metadata = c.metadata)
    (hjobs : c₀.superseded = c.superseded) (hr' : r'.authorityId = identity.authorityId) :
    TakenOver (.mutate k (.put identity request E)) identity.authorityId r c
      (staged request now json r' (superseded identity.authorityId info E.now r c₀)) := by
  refine ⟨⟨_, info, rfl, ho⟩, ?_, _, rfl, hr'⟩
  rw [← hmeta, ← hjobs]
  rfl

theorem staged_foreign {identity : Identity} {request : UpdateARKMetadataRequest} {E : PutEnv}
    (h : Staged k identity.authorityId request E c c') (hr : c.record = some r)
    (hA : r.authorityId ≠ identity.authorityId) :
    TakenOver (.mutate k (.put identity request E)) identity.authorityId r c c' := by
  obtain ⟨b, r', json, hb, -, hr', -, -, -, rfl⟩ := h.ex
  cases hb with
  | own hs h₁ hA₁ =>
      cases hs with
      | same =>
          obtain rfl := Option.some.inj (hr.symm.trans h₁)
          exact absurd hA₁ hA
      | raced hnone => simp [hnone] at hr
  | imported hnone => simp [hnone] at hr
  | reclaimed hs h₁ _ ho =>
      cases hs with
      | same =>
          obtain rfl := Option.some.inj (hr.symm.trans h₁)
          exact takenOver_of_staged ho rfl rfl hr'
      | raced hnone => simp [hnone] at hr

theorem staged_raced {identity : Identity} {request : UpdateARKMetadataRequest} {E : PutEnv}
    {row : Reservation} (h : Staged k identity.authorityId request E c c') (hnone : c.record = none)
    (hraced : E.raced = some row) (hA : row.authorityId ≠ identity.authorityId) :
    TakenOver (.mutate k (.put identity request E)) identity.authorityId row.record c c' := by
  obtain ⟨b, r', json, hb, -, hr', -, -, -, rfl⟩ := h.ex
  cases hb with
  | own hs h₁ hA₁ =>
      cases hs with
      | same => simp [hnone] at h₁
      | raced _ hraced' =>
          obtain rfl := Option.some.inj (hraced.symm.trans hraced')
          obtain rfl := Option.some.inj h₁
          exact absurd hA₁ hA
  | imported _ _ hnot => simp [hraced] at hnot
  | reclaimed hs h₁ _ ho =>
      cases hs with
      | same => simp [hnone] at h₁
      | raced _ hraced' =>
          obtain rfl := Option.some.inj (hraced.symm.trans hraced')
          obtain rfl := Option.some.inj h₁
          exact takenOver_of_staged ho rfl rfl hr'

theorem tombstoned_foreign {identity : Identity} {E : DeleteEnv}
    (h : Tombstoned k identity.authorityId E c c') (hr : c.record = some r)
    (hA : r.authorityId ≠ identity.authorityId) :
    TakenOver (.mutate k (.delete identity E)) identity.authorityId r c c' := by
  rcases h.cases with ⟨r₁, h₁, hA₁, -⟩ | ⟨r₁, info, r', h₁, -, ho, hr', rfl⟩
  · obtain rfl := Option.some.inj (hr.symm.trans h₁)
    exact absurd hA₁ hA
  · obtain rfl := Option.some.inj (hr.symm.trans h₁)
    obtain rfl := Option.some.inj hr'
    exact ⟨⟨_, _, rfl, ho⟩, rfl, _, rfl, rfl⟩

theorem request_foreign (hr : Reach (step cfg) Free {} s) (hs : step cfg s a = some t)
    (ha : RequestOf A a) (hrec : (s.cells k).record = some r) (hA : r.authorityId ≠ A) :
    t.cells k = s.cells k ∨ TakenOver a A r (s.cells k) (t.cells k) := by
  rcases reach_effect hr hs k with ⟨-, h⟩ | ⟨op, hop, hadm, heffect⟩
  · exact .inl h
  generalize t.cells k = c' at heffect ⊢
  cases opOf_performs hop with
  | reserve =>
      rw [show (s.cells k).record = none from hadm] at hrec
      cases hrec
  | @mutate m =>
      cases m with
      | put identity request E =>
          obtain rfl : identity.authorityId = A := ha
          cases heffect with
          | none => exact .inl rfl
          | raced hnone => simp [hnone] at hrec
          | staged h => exact .inr (staged_foreign h hrec hA)
      | delete identity E =>
          obtain rfl : identity.authorityId = A := ha
          cases heffect with
          | none => exact .inl rfl
          | tombstoned h => exact .inr (tombstoned_foreign h hrec hA)
      | retry identity E =>
          obtain rfl : identity.authorityId = A := ha
          cases heffect with
          | none => exact .inl rfl
          | retried hr' hA' =>
              obtain rfl := Option.some.inj (hrec.symm.trans hr')
              exact absurd hA' hA
      | persist | reconcile | publish => cases ha
  | markUnassigned | finish => cases ha

theorem request_raced (hs : step cfg s a = some t) {identity : Identity}
    {request : UpdateARKMetadataRequest} {E : PutEnv} {row : Reservation}
    (ha : a = .mutate k (.put identity request E)) (hnone : (s.cells k).record = none)
    (hraced : E.raced = some row) (hA : row.authorityId ≠ identity.authorityId) :
    t.cells k = s.cells k ∨ t.cells k = { s.cells k with record := some row.record } ∨
      TakenOver a identity.authorityId row.record (s.cells k) (t.cells k) := by
  subst ha
  rcases step_effect hs k with ⟨-, h⟩ | ⟨op, hop, heffect⟩
  · exact .inl h
  generalize t.cells k = c' at heffect ⊢
  cases opOf_performs hop
  cases heffect with
  | none => exact .inl rfl
  | raced _ hraced' =>
      obtain rfl := Option.some.inj (hraced.symm.trans hraced')
      exact .inr (.inl rfl)
  | staged h => exact .inr (.inr (staged_raced h hnone hraced hA))

/-- The metadata row holds the payload of a PUT, as far as it is not purged. -/
def Holds (put : StagedPut) (m : ARKMetadata) : Prop :=
  (∀ content, m.originalContent = some content → content = put.request.originalMetadata) ∧
    (∀ json, m.level1Json = some json → put.level1 = .ok json) ∧
    m.originalSchema = put.request.metadataSchema ∧
    m.originalMediaType = some (normalizeMediaType put.request.metadataMediaType)

/-- An ARK with a metadata row holds what the last accepted PUT for it staged,
and that PUT was a request of the authority of the record. -/
def Provenance (puts : List StagedPut) (c : Cell) : Prop :=
  ∀ m, c.metadata = some m → ∃ r put rest, c.record = some r ∧ puts = put :: rest ∧
    put.authorityId = r.authorityId ∧ r.target = some put.request.target ∧ Holds put m

theorem stagedBy_none (h : ∀ identity request E, a = .mutate k (.put identity request E) →
    isPendingOf identity.authorityId c' = true → isPendingOf identity.authorityId (s.cells k) = true) :
    stagedBy s a k c' = none := by
  unfold stagedBy
  split
  · simp only [ite_eq_right_iff, reduceCtorEq]
    rintro ⟨rfl, hafter, hbefore⟩
    exact hbefore (h _ _ _ rfl hafter)
  · rfl

theorem puts_step (hs : step cfg s a = some t) (k : ArkId) :
    t.puts k = s.puts k ∧ (∀ identity request E, a = .mutate k (.put identity request E) →
        ¬Staged k identity.authorityId request E (s.cells k) (t.cells k)) ∨
      ∃ identity request E, a = .mutate k (.put identity request E) ∧
        Staged k identity.authorityId request E (s.cells k) (t.cells k) ∧
        t.puts k = ⟨identity.authorityId, request, level1Json k request E⟩ :: s.puts k := by
  have hputs : t.puts k = (stagedBy s a k (t.cells k)).toList ++ s.puts k := by rw [(step_eq hs).2.2]
  by_cases hput : ∃ identity request E, a = .mutate k (.put identity request E) ∧
      Staged k identity.authorityId request E (s.cells k) (t.cells k)
  · obtain ⟨identity, request, E, rfl, hstaged⟩ := hput
    refine .inr ⟨identity, request, E, rfl, hstaged, ?_⟩
    rw [hputs, stagedBy_put hstaged]
    rfl
  · refine .inl ⟨?_, fun identity request E ha hstaged => hput ⟨identity, request, E, ha, hstaged⟩⟩
    rw [hputs, stagedBy_none]
    · rfl
    rintro identity request E rfl hpending
    rcases step_effect hs k with ⟨-, h⟩ | ⟨op, hop, heffect⟩
    · rwa [← h]
    cases opOf_performs hop
    generalize t.cells k = c' at heffect hpending hput
    cases heffect with
    | none => exact hpending
    | raced => simp [isPendingOf, Reservation.record, createReserved] at hpending
    | staged hstaged => exact absurd ⟨_, _, _, rfl, hstaged⟩ hput

theorem holds_observed {cfg : ReplicationConfig} {E : ReconcileEnv} {level1 level2 : ReplicationStatus}
    {m : ARKMetadata} {repaired : Nat} {put : StagedPut} (h : Holds put m) :
    Holds put (reconciledRows cfg E level1 level2 r m repaired).2.1 := by
  unfold reconciledRows reconcileAvailability reconcileDurability
  simp only
  repeat' split
  all_goals first
    | exact h
    | exact ⟨nofun, nofun, h.2.2⟩

theorem holds_staged {request : UpdateARKMetadataRequest} {now : Time} {json : Json} {b : Cell}
    {m : ARKMetadata} {level1 : Except Raised Json} (hjson : level1 = .ok json)
    (hm : (staged request now json r b).metadata = some m) : Holds ⟨A, request, level1⟩ m := by
  unfold staged withPayload createOrUpdateMetadata at hm
  cases hb : b.metadata with
  | none =>
      simp only [hb, Option.some.injEq] at hm
      subst hm
      exact ⟨fun _ h => (Option.some.inj h).symm, fun _ h => by rw [hjson, Option.some.inj h], rfl, rfl⟩
  | some m' =>
      simp only [hb, Option.some.injEq] at hm
      subst hm
      exact ⟨fun _ h => (Option.some.inj h).symm, fun _ h => by rw [hjson, Option.some.inj h], rfl, rfl⟩

theorem provenance_of_keeps {puts : List StagedPut} {r' : ARKRecord} (h : Provenance puts c)
    (hr : c.record = some r) (hr' : c'.record = some r') (hA : r'.authorityId = r.authorityId)
    (htarget : r'.target = r.target) (hm : ∀ m', c'.metadata = some m' → ∃ m, c.metadata = some m ∧
      ∀ put, Holds put m → Holds put m') : Provenance puts c' := by
  intro m' hm'
  obtain ⟨m, hm, hholds⟩ := hm m' hm'
  obtain ⟨r₁, put, rest, h₁, hputs, hput, hurl, hpayload⟩ := h m hm
  obtain rfl := Option.some.inj (hr.symm.trans h₁)
  exact ⟨r', put, rest, hr', hputs, hput.trans hA.symm, htarget.trans hurl, hholds put hpayload⟩

theorem provenance_noted {puts : List StagedPut} (hn : Noted c c') (h : Provenance puts c) :
    Provenance puts c' := by
  obtain ⟨r, r', hr, hr', -, hA, htarget, -, hm, -⟩ := hn.keeps
  exact provenance_of_keeps h hr hr' hA htarget fun m' hm' => ⟨m', hm ▸ hm', fun _ hp => hp⟩

theorem provenance_tombstoned {E : DeleteEnv} {puts : List StagedPut} (htomb : Tombstoned k A E c c')
    (h : Provenance puts c) : Provenance puts c' := by
  refine htomb.keeps h (fun _ _ _ _ hm => nomatch hm) fun b r hr hb => ?_
  exact provenance_of_keeps hb hr rfl rfl rfl fun m' hm' => ⟨m', hm', fun _ hp => hp⟩

theorem provenance_effect {puts : List StagedPut} (h : Provenance puts c)
    (heffect : Effect cfg k c op c') (ha : Admissible c op)
    (hput : ∀ identity request E, op = .mutation (.put identity request E) →
      ¬Staged k identity.authorityId request E c c') : Provenance puts c' := by
  have hfresh : c.record = none → ∀ r', Provenance puts { c with record := some r' } := by
    intro hnone r' m hm
    obtain ⟨r, -, -, hr, -⟩ := h m hm
    simp [hnone] at hr
  cases heffect with
  | none => exact h
  | reserved => exact hfresh ha _
  | raced hnone => exact hfresh hnone _
  | staged hstaged => exact absurd hstaged (hput _ _ _ rfl)
  | tombstoned htomb => exact provenance_tombstoned htomb h
  | retried hr => exact provenance_of_keeps h hr rfl rfl rfl fun m' hm' => ⟨m', hm', fun _ hp => hp⟩
  | persisted hr _ hm =>
      refine provenance_of_keeps h hr rfl rfl rfl ?_
      rintro _ ⟨⟩
      exact ⟨_, hm, fun _ hp => hp⟩
  | observed hr _ hm =>
      refine provenance_of_keeps h hr rfl (reconciledRows_keeps ..).2.1 (reconciledRows_keeps ..).2.2 ?_
      rintro _ ⟨⟩
      exact ⟨_, hm, fun _ hp => holds_observed hp⟩
  | published hr _ hpub =>
      obtain ⟨m, cid, -, -, -, -, rfl⟩ := hpub
      exact provenance_of_keeps h hr rfl rfl rfl fun m' hm' => ⟨m', hm', fun _ hp => hp⟩
  | publishedItem hpub =>
      obtain ⟨-, -, r, hr, rfl⟩ := hpub
      exact provenance_of_keeps h hr rfl rfl rfl fun m' hm' => ⟨m', hm', fun _ hp => hp⟩
  | persistNoted _ _ hn | reconcileNoted _ _ hn | publishNoted _ _ hn | unassigned _ _ hn
  | resultNoted _ hn => exact provenance_noted hn h

theorem metadata_effect (heffect : Effect cfg k c op c') (hnone : c.metadata = none)
    (hput : ∀ identity request E, op = .mutation (.put identity request E) →
      ¬Staged k identity.authorityId request E c c') : c'.metadata = none := by
  cases heffect with
  | none | reserved | raced | retried => exact hnone
  | staged hstaged => exact absurd hstaged (hput _ _ _ rfl)
  | tombstoned htomb =>
      exact htomb.keeps (I := fun b => b.metadata = .none) hnone (fun _ _ _ => rfl) fun _ _ _ hb => hb
  | persisted _ _ hm | observed _ _ hm => simp [hnone] at hm
  | published _ _ hpub =>
      obtain ⟨m, cid, hm, -⟩ := hpub
      simp [hnone] at hm
  | publishedItem hpub =>
      obtain ⟨-, -, r, -, rfl⟩ := hpub
      exact hnone
  | persistNoted _ _ hn | reconcileNoted _ _ hn | publishNoted _ _ hn | unassigned _ _ hn
  | resultNoted _ hn =>
      exact hn.metadata.trans hnone

theorem superseded_effect (heffect : Effect cfg k c op c')
    (hput : ∀ identity request E, op = .mutation (.put identity request E) →
      ¬Staged k identity.authorityId request E c c') :
    c'.superseded = c.superseded ∨ c'.metadata = none := by
  cases heffect with
  | none | reserved | raced | retried | persisted | observed => exact .inl rfl
  | staged hstaged => exact absurd hstaged (hput _ _ _ rfl)
  | tombstoned htomb =>
      exact htomb.keeps (I := fun b => b.superseded = c.superseded ∨ b.metadata = .none) (.inl rfl)
        (fun _ _ _ => .inr rfl) fun _ _ _ hb => hb
  | published _ _ hpub =>
      obtain ⟨m, cid, -, -, -, -, rfl⟩ := hpub
      exact .inl rfl
  | publishedItem hpub =>
      obtain ⟨-, -, r, -, rfl⟩ := hpub
      exact .inl rfl
  | persistNoted _ _ hn | reconcileNoted _ _ hn | publishNoted _ _ hn | unassigned _ _ hn
  | resultNoted _ hn =>
      exact .inl hn.superseded

theorem reach_provenance (h : Reach (step cfg) Free {} s) (k : ArkId) :
    Provenance (s.puts k) (s.cells k) := by
  induction h with
  | init => exact fun _ hm => nomatch hm
  | next h _ hs ih =>
      rcases puts_step hs k with ⟨hputs, hnot⟩ | ⟨identity, request, E, rfl, hstaged, hputs⟩
      · rw [hputs]
        rcases reach_effect h hs k with ⟨-, hk⟩ | ⟨op, hop, ha, heffect⟩
        · rwa [hk]
        · refine provenance_effect ih heffect ha ?_
          rintro identity request E rfl
          exact hnot identity request E (opOf_mutation hop).1
      · obtain ⟨b, r, json, -, -, hr, -, -, hjson, hc⟩ := hstaged.ex
        rw [hputs, hc]
        exact fun m hm => ⟨_, _, _, rfl, rfl, hr.symm, rfl, holds_staged hjson hm⟩

theorem puts_later (h : Reach (step cfg) Free t u) (k : ArkId) :
    ∃ newer, u.puts k = newer ++ t.puts k ∧
      (newer = [] → (u.cells k).metadata ≠ none → (t.cells k).metadata ≠ none) := by
  induction h with
  | init => exact ⟨[], rfl, fun _ h => h⟩
  | @next u v a h _ hs ih =>
      obtain ⟨newer, hputs, hmeta⟩ := ih
      rcases puts_step hs k with ⟨hsame, hnot⟩ | ⟨identity, request, E, rfl, -, hput⟩
      · refine ⟨newer, hsame.trans hputs, fun hnil hm => hmeta hnil fun hnone => hm ?_⟩
        rcases step_effect hs k with ⟨-, hk⟩ | ⟨op, hop, heffect⟩
        · rw [hk, hnone]
        · refine metadata_effect heffect hnone ?_
          rintro identity request E rfl
          exact hnot identity request E (opOf_mutation hop).1
      · exact ⟨_ :: newer, by rw [hput, hputs]; rfl, fun hnil => nomatch hnil⟩

/-- What a later selection finds of an ARK that a request took over: the
payload of a newer PUT, staged by the authority that the record then has. -/
theorem later_payload (hr : Reach (step cfg) Free {} s) (hs : step cfg s a = some t)
    (htaken : TakenOver a A r (s.cells k) (t.cells k)) (hu : Reach (step cfg) Free t u) {m : ARKMetadata}
    (hm : (u.cells k).metadata = some m) :
    ∃ r' put newer, (u.cells k).record = some r' ∧ u.puts k = put :: newer ++ s.puts k ∧
      put.authorityId = r'.authorityId ∧ r'.target = some put.request.target ∧ Holds put m := by
  obtain ⟨r', put, rest, hr', hputs, hA, htarget, hholds⟩ :=
    reach_provenance ((hr.next trivial hs).trans hu) k m hm
  suffices h : ∃ first newer, u.puts k = first :: newer ++ s.puts k by
    obtain ⟨first, newer, h⟩ := h
    obtain ⟨rfl, -⟩ := List.cons.inj (hputs.symm.trans h)
    exact ⟨r', put, newer, hr', h, hA, htarget, hholds⟩
  obtain ⟨newer, hnewer, hnil⟩ := puts_later hu k
  rcases puts_step hs k with ⟨hsame, hnot⟩ | ⟨identity, request, E, rfl, -, hput⟩
  · cases newer with
    | cons first newer => exact ⟨first, newer, by rw [hnewer, hsame]⟩
    | nil =>
        have hgrown : (t.cells k).superseded ≠ (s.cells k).superseded := by
          rw [htaken.2.1]
          simp
        have hgone : (t.cells k).metadata = none := by
          rcases step_effect hs k with ⟨-, hk⟩ | ⟨op, hop, heffect⟩
          · rw [hk] at hgrown
            exact absurd rfl hgrown
          · refine (superseded_effect heffect ?_).resolve_left hgrown
            rintro identity request E rfl
            exact hnot identity request E (opOf_mutation hop).1
        exact absurd hgone (hnil rfl (by simp [hm]))
  · cases newer with
    | nil => exact ⟨_, [], by rw [hnewer, hput]; rfl⟩
    | cons first newer =>
        exact ⟨first, newer ++ [⟨identity.authorityId, request, level1Json k request E⟩], by
          rw [hnewer, hput]
          simp⟩

def ReadAfter (cfg : Config) (t : Sys) (item : PipelineItem) : Prop :=
  (∃ v r m, Reach (step cfg) Free t v ∧ (v.cells item.ark).record = some r ∧
    (v.cells item.ark).metadata = some m ∧ r.authorityId = item.authorityId ∧ r.target = item.target) ∧
  ∃ v m, Reach (step cfg) Free t v ∧ (v.cells item.ark).metadata = some m ∧ m.level1Cid = some item.cid

structure SelectedAfter (cfg : Config) (t : Sys) (k : ArkId) (phase : Phase) : Prop where
  rows : ∀ rows items, phase = .reading rows items → ∀ row ∈ rows, row.1 = k →
    ∃ v m, Reach (step cfg) Free t v ∧ (v.cells k).record = some row.2 ∧ (v.cells k).metadata = some m
  items : ∀ rows items, phase = .reading rows items → ∀ item ∈ items, item.ark = k → ReadAfter cfg t item
  tasks : ∀ authorityId items, .submit authorityId items ∈ phase.tasks → ∀ item ∈ items, item.ark = k →
    ReadAfter cfg t item

theorem selectedAfter_step (hu : Reach (step cfg) Free t s) (hs : step cfg s a = some u) {p : Nat}
    (h : SelectedAfter cfg t k (s.control.phase p)) : SelectedAfter cfg t k (u.control.phase p) := by
  have hm := control_moves (step_eq hs).1
  generalize u.control = ctl at hm
  refine ⟨?_, ?_, ?_⟩
  · intro rows items hphase row hrow hk
    rcases hm.reading hphase with hold | ⟨now, page, -, hpage, rfl, -⟩ | ⟨j, r, read, -, hold, -⟩
    · exact h.rows rows items hold row hrow hk
    · obtain ⟨hr, -, -, m, hmeta⟩ := mem_selectedRows hpage hrow
      rw [hk] at hr hmeta
      exact ⟨s, m, hu, hr, hmeta⟩
    · exact h.rows _ _ hold row (List.mem_cons_of_mem _ hrow) hk
  · intro rows items hphase item hitem hk
    rcases hm.reading hphase with hold | ⟨now, page, -, -, -, rfl⟩ | ⟨j, r, read, -, hold, rfl⟩
    · exact h.items rows items hold item hitem hk
    · cases hitem
    · rcases List.mem_append.mp hitem with hitem | hitem
      · exact h.items _ _ hold item hitem hk
      · obtain ⟨m, hmeta, hcid, hread⟩ := itemOf_spec (Option.mem_toList.mp hitem)
        obtain rfl := itemOf_ark (Option.mem_toList.mp hitem)
        have hA := congrArg PipelineItem.authorityId hread
        have htarget := congrArg PipelineItem.target hread
        obtain ⟨v, m', hv, hr, hm'⟩ := h.rows _ _ hold _ (List.mem_cons_self ..) hk
        rw [← hk] at hr hm'
        exact ⟨⟨v, r, m', hv, hr, hm', hA.symm, htarget.symm⟩, s, m, hu, hmeta, hcid⟩
  · intro authorityId items htask item hitem hk
    rcases hm.tasks htask with htask | ⟨_, hold, htask⟩ | ⟨_, _, _, _, _, _, _, _, htask⟩
    · exact h.tasks authorityId items htask item hitem hk
    · exact h.items _ _ hold item (mem_plan_submit cfg.rpcBatchSize_pos htask item hitem).1 hk
    · cases htask

theorem reach_selectedAfter (hu : Reach (step cfg) Free t u) {p : Nat}
    (hp : k ∉ (t.control.phase p).arks) : SelectedAfter cfg t k (u.control.phase p) := by
  induction hu with
  | init =>
      refine ⟨?_, ?_, ?_⟩
      · rintro rows items hphase row hrow rfl
        rw [hphase] at hp
        exact absurd (List.mem_append_left _ (List.mem_map_of_mem hrow)) hp
      · rintro rows items hphase item hitem rfl
        rw [hphase] at hp
        exact absurd (List.mem_append_right _ (List.mem_map_of_mem hitem)) hp
      · rintro authorityId items htask item hitem rfl
        refine absurd ?_ hp
        have hmem : item.ark ∈ (t.control.phase p).tasks.flatMap Task.arks :=
          List.mem_flatMap.mpr ⟨_, htask, List.mem_map_of_mem hitem⟩
        cases hphase : t.control.phase p with
        | reading => simp [hphase, Phase.tasks] at htask
        | idle | working | holding => simpa [Phase.arks, hphase] using hmem
  | next hv _ hs ih => exact selectedAfter_step hv hs ih

/-- The operation carries the target of a PUT that the authority of the call
made after the payloads `old` were staged, and the CID of a payload newer than these. -/
def Newer (cfg : Config) (t : Sys) (k : ArkId) (old : List StagedPut) (call : Call)
    (operation : ARKPublishOperation) : Prop :=
  (∃ w put newer, Reach (step cfg) Free t w ∧ w.puts k = put :: newer ++ old ∧
    put.authorityId = call.authorityId ∧ operation.url = some put.request.target) ∧
  ∃ w m put newer, Reach (step cfg) Free t w ∧ (w.cells k).metadata = some m ∧
    w.puts k = put :: newer ++ old ∧ Holds put m ∧ m.level1Cid = some operation.cid

theorem submitted_newer (hr : Reach (step cfg) Free {} s) (hs : step cfg s a = some t)
    (htaken : TakenOver a A r (s.cells k) (t.cells k)) (hu : Reach (step cfg) Free t u) {w v : Sys} {p : Nat}
    {answer : Answer} (hp : k ∉ (u.control.phase p).arks) (hw : Reach (step cfg) Free u w)
    (hv : step cfg w (.submit p answer) = some v) :
    ∃ call, v.control.calls = call :: w.control.calls ∧
      ∀ operation ∈ call.operations, operation.ref = k → Newer cfg t k (s.puts k) call operation := by
  have hselected := reach_selectedAfter hw hp
  have huniform := (reach_applying (((hr.next trivial hs).trans hu).trans hw)).uniform
  have hm := control_moves (step_eq hv).1
  generalize v.control = ctl at hm
  cases hm with
  | @submit _ _ authorityId items tasks hphase =>
      refine ⟨_, rfl, ?_⟩
      simp only [List.mem_map, forall_exists_index, and_imp, forall_apply_eq_imp_iff₂]
      rintro item hitem hk
      have htask : .submit authorityId items ∈ (w.control.phase p).tasks := by simp [hphase, Phase.tasks]
      obtain ⟨⟨x, r', m, hx, hr', hmeta, hA, htarget⟩, y, m', hy, hmeta', hcid⟩ :=
        hselected.tasks authorityId items htask item hitem hk
      have hk' : item.ark = k := hk
      rw [hk'] at hr' hmeta hmeta'
      refine ⟨?_, ?_⟩
      · obtain ⟨r₁, put, newer, h₁, hputs, hput, hurl, -⟩ := later_payload hr hs htaken (hu.trans hx) hmeta
        obtain rfl := Option.some.inj (hr'.symm.trans h₁)
        refine ⟨x, put, newer, hu.trans hx, hputs, ?_, htarget.symm.trans hurl⟩
        rw [hput, hA]
        exact huniform p authorityId items htask item hitem
      · obtain ⟨-, put, newer, -, hputs, -, -, hholds⟩ := later_payload hr hs htaken (hu.trans hy) hmeta'
        exact ⟨y, m', put, newer, hu.trans hy, hmeta', hputs, hholds, hcid⟩

/-- Ownership isolation. A request of `A` leaves an ARK of another authority
as it is, or takes it over on chain reads that confirm `A` as the owner; also
where it loses its import to a reservation. And of an ARK taken over, no later
attempt finds, and no cycle that selects it later submits, a payload staged before. -/
theorem ownership_isolation (hr : Reach (step cfg) Free {} s) (hs : step cfg s a = some t)
    (ha : RequestOf A a) (k : ArkId) :
    (∀ r, (s.cells k).record = some r → r.authorityId ≠ A →
      t.cells k = s.cells k ∨ TakenOver a A r (s.cells k) (t.cells k)) ∧
    (∀ identity request E row, a = .mutate k (.put identity request E) → (s.cells k).record = none →
      E.raced = some row → row.authorityId ≠ A →
        t.cells k = s.cells k ∨ t.cells k = { s.cells k with record := some row.record } ∨
          TakenOver a A row.record (s.cells k) (t.cells k)) ∧
    ∀ r, TakenOver a A r (s.cells k) (t.cells k) → ∀ u, Reach (step cfg) Free t u →
      (∀ m, (u.cells k).metadata = some m → ∃ r' put newer, (u.cells k).record = some r' ∧
        u.puts k = put :: newer ++ s.puts k ∧ put.authorityId = r'.authorityId ∧
          r'.target = some put.request.target ∧ Holds put m) ∧
      ∀ w v p answer, k ∉ (u.control.phase p).arks → Reach (step cfg) Free u w →
        step cfg w (.submit p answer) = some v → ∃ call, v.control.calls = call :: w.control.calls ∧
          ∀ operation ∈ call.operations, operation.ref = k → Newer cfg t k (s.puts k) call operation := by
  refine ⟨?_, ?_, ?_⟩
  · intro r hrec hA
    exact request_foreign hr hs ha hrec hA
  · rintro identity request E row rfl hnone hraced hA
    obtain rfl : identity.authorityId = A := ha
    exact request_raced hs rfl hnone hraced hA
  · intro r htaken u hu
    refine ⟨fun m hm => later_payload hr hs htaken hu hm, ?_⟩
    intro w v p answer hp hw hv
    exact submitted_newer hr hs htaken hu hp hw hv

end

section Sample

attribute [local instance] asciiText

open Sample

def takeover : Act :=
  .mutate ark (.put ⟨"B", by decide, by decide⟩ { request with authorityId := "B" }
    { putEnv with owner := ownReads })

theorem ownership_isolation_takeover :
    ∃ s t r, Reach (step config) Free {} s ∧ step config s takeover = some t ∧
      (s.cells ark).record = some r ∧ r.authorityId = "A" ∧
      TakenOver takeover "B" r (s.cells ark) (t.cells ark) := by
  have hbefore : ((run (step config) toChain {}).bind
      fun s => (s.cells ark).record.map (·.authorityId)) = some "A" := by decide
  have hafter : ((run (step config) (toChain ++ [takeover]) {}).bind
      fun s => (s.cells ark).record.map (·.authorityId)) = some "B" := by decide
  obtain ⟨t, ht, hafter⟩ := Option.bind_eq_some_iff.mp hafter
  obtain ⟨s, hs, hstep⟩ := run_concat ht
  rw [hs, Option.bind_some] at hbefore
  obtain ⟨r, hr, hA⟩ := Option.map_eq_some_iff.mp hbefore
  refine ⟨s, t, r, run_reach hs, hstep, hr, hA, ?_⟩
  refine ((ownership_isolation (run_reach hs) hstep (A := "B") rfl ark).1 r hr (by simp [hA])).resolve_left ?_
  intro hsame
  rw [hsame, hr] at hafter
  simp [hA] at hafter

end Sample

end DarkMinter.Ownership
