import DarkMinter.InFlight

namespace DarkMinter.Tombstones

open Text Processing Records Repository Authority ArkApi Requests Persistence Replication Publication
open ChainCycle Deployment Attempts Effects ResultApplication InFlight Lib.Runs

section

/-- The record is a tombstone of `A`, and nothing is left to do for it. -/
def Buried (A : String) (c : Cell) : Prop :=
  ∃ r, c.record = some r ∧ r.state = .tombstone ∧ r.authorityId = A ∧ r.processingStatus = .cancelled

def Cancelled (c : Cell) : Prop :=
  ∀ r, c.record = some r → r.state = .tombstone → r.processingStatus = .cancelled

/-- No chain cycle marks a tombstone as unassigned. -/
def Sparing (s : Sys) (a : Act) : Prop :=
  ∀ k authorityId now r, opOf s a k = some (.unassigned authorityId now) → (s.cells k).record = some r →
    r.authorityId = authorityId → r.state ≠ .tombstone

variable [PyLower] {cfg : Config} {s t : Sys} {a : Act} {k : ArkId} {c c' : Cell} {op : Op} {A : String}

def ByOwner (A : String) : Op → Prop
  | .mutation (.put identity _ E) => identity.authorityId ≠ A ∧ ∃ info, OwnerConfirmed E.owner info
  | .mutation (.delete identity E) => identity.authorityId ≠ A ∧ ∃ info, OwnerConfirmed E.owner info
  | _ => False

/-- The step hands the ARK over from `A` to the authority that the chain reports as its owner. -/
def HandsOver (cfg : Config) (k : ArkId) (A : String) (s : Sys) (a : Act) : Prop :=
  (∃ op, opOf s a k = some op ∧ ByOwner A op) ∧
    ∃ r, (cellsAfter cfg s a k).record = some r ∧ r.authorityId ≠ A

omit [PyLower] in
theorem Buried.cancelled (h : Buried A c) : Cancelled c := by
  obtain ⟨r, hr, -, -, hcancelled⟩ := h
  intro r' hr' _
  obtain rfl := Option.some.inj (hr.symm.trans hr')
  exact hcancelled

theorem buried_effect (h : Buried A c) (heffect : Effect cfg k c op c') (ha : Admissible c op)
    (hspared : ∀ authorityId now, op = .unassigned authorityId now → authorityId ≠ A) :
    Buried A c' ∨ ByOwner A op ∧ ∃ r, c'.record = some r ∧ r.authorityId ≠ A := by
  have hb := h
  obtain ⟨r₀, h₀, htomb, hA, hcancelled⟩ := h
  have hlive : ∀ r, c.record = some r → ¬r.state ≠ .tombstone := by
    intro r hr hne
    obtain rfl := Option.some.inj (h₀.symm.trans hr)
    exact hne htomb
  cases heffect with
  | none => exact .inl hb
  | reserved =>
      rw [show c.record = .none from ha] at h₀
      cases h₀
  | raced hnone =>
      rw [hnone] at h₀
      cases h₀
  | @staged identity request E c' hstaged =>
      obtain ⟨b, r, json, hbase, hr, hrA, hstate, -, -, rfl⟩ := hstaged.ex
      right
      cases hbase with
      | own hs hr' =>
          obtain rfl := Option.some.inj (hr.symm.trans hr')
          cases hs with
          | same =>
              refine absurd ?_ (hlive r hr)
              rcases hstate with h | h <;> simp [h]
          | raced hnone =>
              rw [hnone] at h₀
              cases h₀
      | imported hnone =>
          rw [hnone] at h₀
          cases h₀
      | @reclaimed c₀ r' info hs hr' hne ho =>
          cases hs with
          | same =>
              obtain rfl := Option.some.inj (h₀.symm.trans hr')
              rw [hA] at hne
              exact ⟨⟨hne.symm, info, ho⟩, _, rfl, by simpa [stagedRecord, hrA] using hne.symm⟩
          | raced hnone =>
              rw [hnone] at h₀
              cases h₀
  | @tombstoned identity E c' htombstoned =>
      rcases htombstoned.cases with ⟨r, hr, -, ⟨-, rfl⟩ | ⟨hne, -⟩⟩ | ⟨r, info, r', hr, hne, ho, hr', rfl⟩
      · exact .inl hb
      · exact absurd hne (hlive r hr)
      · obtain rfl := Option.some.inj (h₀.symm.trans hr)
        obtain rfl := Option.some.inj hr'
        rw [hA] at hne
        exact .inr ⟨⟨hne.symm, _, ho⟩, _, rfl, hne.symm⟩
  | retried hr _ hstate => exact absurd hstate.2 (hlive _ hr)
  | persistNoted hr hacc | persisted hr hacc => exact absurd (persistAccepts_live hacc).1 (hlive _ hr)
  | reconcileNoted hr hacc | observed hr hacc => exact absurd (reconcileAccepts_live hacc).1 (hlive _ hr)
  | publishNoted hr hacc | published hr hacc => exact absurd (publishAccepts_live hacc).1 (hlive _ hr)
  | unassigned hr hrA =>
      obtain rfl := Option.some.inj (h₀.symm.trans hr)
      exact absurd (hrA.symm.trans hA) (hspared _ _ rfl)
  | resultNoted hstatus =>
      exact absurd (isCurrent_live ha.1 (ha.2.resolve_left hstatus) h₀).1 (hlive r₀ h₀)
  | publishedItem hpub => exact absurd (isCurrent_live ha.1 hpub.1 h₀).1 (hlive r₀ h₀)

omit [PyLower] in
theorem cancelled_of_live {r : ARKRecord} (hr : c.record = some r) (hlive : r.state ≠ .tombstone) :
    Cancelled c := by
  intro r' hr' htomb
  obtain rfl := Option.some.inj (hr.symm.trans hr')
  exact absurd htomb hlive

omit [PyLower] in
theorem cancelled_noted (h : Noted c c') (hlive : ∀ r, c.record = some r → r.state ≠ .tombstone) :
    Cancelled c' := by
  obtain ⟨r, r', hr, hr', hstate, -⟩ := h.keeps
  exact cancelled_of_live hr' (hstate ▸ hlive r hr)

theorem cancelled_effect (h : Cancelled c) (heffect : Effect cfg k c op c') (ha : Admissible c op)
    (hspared : ∀ authorityId now r, op = .unassigned authorityId now → c.record = some r →
      r.authorityId = authorityId → r.state ≠ .tombstone) : Cancelled c' := by
  cases heffect with
  | none => exact h
  | reserved => exact cancelled_of_live rfl nofun
  | raced => exact cancelled_of_live rfl nofun
  | staged hstaged =>
      obtain ⟨r', hr', -, hstate⟩ := hstaged.record
      refine cancelled_of_live hr' ?_
      rcases hstate with hstate | hstate <;> simp [hstate]
  | tombstoned htombstoned =>
      refine htombstoned.keeps h (fun _ _ _ => cancelled_of_live rfl nofun) fun b r _ _ => ?_
      rintro _ ⟨⟩ -
      rfl
  | retried hr _ hstate => exact cancelled_of_live rfl hstate.2
  | persistNoted hr hacc hn => exact cancelled_noted hn fun r' hr' => (inWork_persist hr hacc r' hr').1
  | persisted hr hacc => exact cancelled_of_live rfl (persistAccepts_live hacc).1
  | reconcileNoted hr hacc hn => exact cancelled_noted hn fun r' hr' => (inWork_reconcile hr hacc r' hr').1
  | observed hr hacc =>
      refine cancelled_of_live rfl fun hT => ?_
      rw [(reconciledRows_keeps ..).1] at hT
      exact (reconcileAccepts_live hacc).1 hT
  | publishNoted hr hacc hn => exact cancelled_noted hn fun r' hr' => (inWork_publish hr hacc r' hr').1
  | published _ _ hpub =>
      obtain ⟨m, cid, -, -, -, -, rfl⟩ := hpub
      exact cancelled_of_live rfl nofun
  | unassigned hr hA hn =>
      refine cancelled_noted hn fun r' hr' => ?_
      obtain rfl := Option.some.inj (hr.symm.trans hr')
      exact hspared _ _ _ rfl hr hA
  | resultNoted hstatus hn =>
      exact cancelled_noted hn fun r hr => (inWork_current ha.1 (ha.2.resolve_left hstatus) r hr).1
  | publishedItem hpub =>
      obtain ⟨-, -, r, -, rfl⟩ := hpub
      exact cancelled_of_live rfl nofun

theorem reach_cancelled (h : Reach (step cfg) Sparing {} s) (k : ArkId) : Cancelled (s.cells k) := by
  refine reach_cells (I := Cancelled) h ?_ ?_ k
  · rintro _ ⟨⟩
  · intro s a k op hg hop ha heffect hc
    refine cancelled_effect hc heffect ha ?_
    rintro authorityId now r rfl hr hA
    exact hg k authorityId now r hop hr hA

/-- In every run that marks no tombstone as unassigned, a tombstone of `A` stays one, and
cancelled, for as long as no step hands the ARK over to the owner that the chain reports. -/
theorem tombstone_final (h : Reach (step cfg) Sparing {} s) {r : ARKRecord}
    (hr : (s.cells k).record = some r) (htomb : r.state = .tombstone)
    (h' : Reach (step cfg) (fun u a => Sparing u a ∧ ¬HandsOver cfg k r.authorityId u a) s t) :
    Buried r.authorityId (t.cells k) := by
  have hstart : Buried r.authorityId (s.cells k) :=
    ⟨r, hr, htomb, rfl, reach_cancelled h k r hr htomb⟩
  suffices hrun : ∀ t, Reach (step cfg) (fun u a => Sparing u a ∧ ¬HandsOver cfg k r.authorityId u a) s t →
      Reach (step cfg) Sparing {} t ∧ Buried r.authorityId (t.cells k) from (hrun t h').2
  intro t ht
  induction ht with
  | init => exact ⟨h, hstart⟩
  | @next u v a hu hg hs ih =>
      obtain ⟨hreach, hburied⟩ := ih
      refine ⟨hreach.next hg.1 hs, ?_⟩
      rcases reach_effect hreach hs k with ⟨-, hk⟩ | ⟨op, hop, ha, heffect⟩
      · rwa [hk]
      · have hmarks : ∀ authorityId now, op = .unassigned authorityId now → authorityId ≠ r.authorityId := by
          rintro _ now rfl rfl
          obtain ⟨r', hr', htomb', hA, -⟩ := hburied
          exact hg.1 k _ now r' hop hr' hA htomb'
        refine (buried_effect hburied heffect ha hmarks).resolve_right ?_
        rintro ⟨hby, r', hr', hne⟩
        rw [(step_eq hs).2.1] at hr'
        exact hg.2 ⟨⟨op, hop, hby⟩, r', hr', hne⟩

end

section Sample

attribute [local instance] asciiText

open Sample

def deleted : List Act := toChain ++ [.mutate ark (.delete owner deleteEnv)]

theorem sparing_of_ne {s : Sys} {a : Act} (ha : ∀ p now, a ≠ .markUnassigned p now) : Sparing s a := by
  intro k authorityId now r hop
  obtain ⟨p, rfl⟩ := opOf_unassigned hop
  exact absurd rfl (ha p now)

theorem tombstone_final_sample :
    ∃ s t r, Reach (step config) Sparing {} s ∧ (s.cells ark).record = some r ∧ r.state = .tombstone ∧
      step config s (.mutate ark (.delete owner deleteEnv)) = some t ∧ Buried "A" (t.cells ark) := by
  have hstate : ((run (step config) deleted {}).bind fun s => (s.cells ark).record.map fun r =>
      (r.state, r.authorityId)) = some (.tombstone, "A") := by decide
  obtain ⟨s, hs, hrow⟩ := Option.bind_eq_some_iff.mp hstate
  obtain ⟨r, hr, hrow⟩ := Option.map_eq_some_iff.mp hrow
  obtain ⟨htomb, hA⟩ := Prod.mk.inj hrow
  have hspared : ∀ p now, ∀ a ∈ deleted, a ≠ .markUnassigned p now := by
    intro p now
    simp [deleted, toChain]
  have hreach : Reach (step config) Sparing {} s :=
    (run_guarded (fun _ => True) hs trivial (fun _ a ha _ => sparing_of_ne fun p now => hspared p now a ha)
      fun _ _ _ _ _ _ => trivial).1
  have hkeeps : ¬HandsOver config ark r.authorityId s (.mutate ark (.delete owner deleteEnv)) := by
    rintro ⟨⟨op, hop, hby⟩, -⟩
    cases opOf_performs hop
    exact hby.1 hA.symm
  obtain ⟨t, ht⟩ : ∃ t, step config s (.mutate ark (.delete owner deleteEnv)) = some t := ⟨_, rfl⟩
  have hspared' : Sparing s (.mutate ark (.delete owner deleteEnv)) :=
    sparing_of_ne fun _ _ h => by cases h
  exact ⟨s, t, r, hreach, hr, htomb, ht,
    hA ▸ tombstone_final hreach hr htomb (.next .init ⟨hspared', hkeeps⟩ ht)⟩

/-- A process that does not serve the authority has selected the ARK before its owner deletes
it, and marks the tombstone as failed. -/
theorem tombstone_marked_failed :
    ∃ s t, Reach (step config) Free {} s ∧ Buried "A" (s.cells ark) ∧
      step config s (.markUnassigned 1 10) = some t ∧ ¬HandsOver config ark "A" s (.markUnassigned 1 10) ∧
      ¬Buried "A" (t.cells ark) := by
  have hbefore : ((run (step config) (toChain ++ [.select 1 4 [ark], .readMetadata 1, .plan 1,
      .mutate ark (.delete owner deleteEnv)]) {}).bind fun s => (s.cells ark).record.map fun r =>
        (r.state, r.authorityId, r.processingStatus)) = some (.tombstone, "A", .cancelled) := by decide
  have hafter : ((run (step config) (toChain ++ [.select 1 4 [ark], .readMetadata 1, .plan 1,
      .mutate ark (.delete owner deleteEnv)] ++ [.markUnassigned 1 10]) {}).bind fun t =>
        (t.cells ark).record.map (·.processingStatus)) = some .failed := by decide
  obtain ⟨t, ht, hfailed⟩ := Option.bind_eq_some_iff.mp hafter
  obtain ⟨s, hs, hstep⟩ := run_concat ht
  rw [hs] at hbefore
  obtain ⟨r, hr, hrow⟩ := Option.map_eq_some_iff.mp hbefore
  obtain ⟨htomb, hA, hcancelled⟩ : r.state = .tombstone ∧ r.authorityId = "A" ∧
      r.processingStatus = .cancelled := by simpa using hrow
  refine ⟨s, t, run_reach hs, ⟨r, hr, htomb, hA, hcancelled⟩, hstep, ?_, ?_⟩
  · rintro ⟨⟨op, hop, hby⟩, -⟩
    cases opOf_performs hop
    exact hby
  · rintro ⟨r', hr', -, -, hcancelled'⟩
    obtain ⟨r'', hr'', hfailed⟩ := Option.map_eq_some_iff.mp hfailed
    obtain rfl := Option.some.inj (hr'.symm.trans hr'')
    rw [hcancelled'] at hfailed
    cases hfailed

end Sample

end DarkMinter.Tombstones
