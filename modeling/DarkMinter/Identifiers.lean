import DarkMinter.Reservations
import Mathlib.Data.List.Nodup
import Mathlib.Data.List.Perm.Basic
import Mathlib.Data.List.Perm.Subperm

namespace DarkMinter.Identifiers

open Lib.Runs Records BatchReserve Reservations

section

variable {P : Type*} [DecidableEq P]

def base (t : Tables P) (ns : String) : Nat := (t.counters ns).getD 0

/-- The counters are ahead of the minted rows: the committed counter of the committed rows, and the
value that an open transaction has written of the rows of that transaction, which lie above the
committed counter. -/
structure Counted (t : Tables P) : Prop where
  committed : ∀ st ∈ t.committed, ∀ ns n, st.mint = some (ns, n) → n < base t ns
  distinct : (t.committed.filterMap (·.mint)).Nodup
  locked : ∀ ns p v, t.uncommitted ns = some (p, v) → base t ns ≤ v
  opened : ∀ e ∈ openRows t, ∀ ns n, e.2.mint = some (ns, n) →
    base t ns ≤ n ∧ ∃ v, t.uncommitted ns = some (e.1, v) ∧ n < v
  openDistinct : ((openRows t).filterMap (·.2.mint)).Nodup

/-- `p` was given the value `n`, and has inserted no row for it yet. -/
structure Allotted (t : Tables P) (p : P) (ns : String) (n : Nat) : Prop where
  held : t.uncommitted ns = some (p, n + 1)
  above : base t ns ≤ n
  unused : ∀ e ∈ openRows t, ∀ m, e.2.mint = some (ns, m) → m < n

variable {t u : Tables P} {p q : P} {ns : String} {n : Nat} {st : Stored}

omit [DecidableEq P] in
theorem counted_write (h : Counted t) (hfree : ∀ q v, t.uncommitted ns = some (q, v) → q = p ∧ v ≤ n)
    (habove : base t ns ≤ n) : Counted (t.write p ns n) := by
  refine ⟨h.committed, h.distinct, ?_, ?_, h.openDistinct⟩
  · intro ns' q v hv
    by_cases hns : ns' = ns
    · subst hns
      obtain ⟨-, rfl⟩ : p = q ∧ n = v := by
        simpa [Tables.write] using hv
      exact habove
    · have hold : t.uncommitted ns' = some (q, v) := by
        simpa [Tables.write, hns] using hv
      exact h.locked ns' q v hold
  · intro e he ns' m hm
    obtain ⟨hbase, v, hv, hlt⟩ := h.opened e he ns' m hm
    refine ⟨hbase, ?_⟩
    by_cases hns : ns' = ns
    · subst hns
      obtain ⟨hp, hle⟩ := hfree e.1 v hv
      exact ⟨n, by simp [Tables.write, hp], by omega⟩
    · exact ⟨v, by simp [Tables.write, hns, hv], hlt⟩

theorem counted_ensure (h : Counted t) (hu : t.ensureCounterRow p ns = some u) : Counted u := by
  unfold Tables.ensureCounterRow at hu
  split at hu
  · rename_i hcounter huncommitted
    obtain rfl := Option.some.inj hu
    refine counted_write h ?_ ?_
    · intro q v hv
      simp [huncommitted] at hv
    · simp [base, hcounter]
  · split at hu
    · exact Option.some.inj hu ▸ h
    · cases hu
  · exact Option.some.inj hu ▸ h

theorem allocate_spec {r : Except DbError Nat} (h : Counted t) (hu : t.allocate p ns = some (r, u)) :
    Counted u ∧ ∀ n, r = .ok n → Allotted u p ns n := by
  unfold Tables.allocate at hu
  split at hu
  · rename_i q v hv
    split at hu
    · rename_i hq
      subst hq
      obtain ⟨rfl, rfl⟩ := Prod.mk.inj (Option.some.inj hu)
      have hbase := h.locked ns q v hv
      refine ⟨counted_write h ?_ (by omega), ?_⟩
      · intro q' v' hv'
        obtain ⟨rfl, rfl⟩ := Prod.mk.inj (Option.some.inj (hv.symm.trans hv'))
        exact ⟨rfl, by omega⟩
      · rintro n ⟨⟩
        refine ⟨by simp [Tables.write], hbase, fun e he m hm => ?_⟩
        obtain ⟨-, v', hv', hlt⟩ := h.opened e he ns m hm
        obtain ⟨-, rfl⟩ := Prod.mk.inj (Option.some.inj (hv.symm.trans hv'))
        exact hlt
    · cases hu
  · rename_i huncommitted
    split at hu
    · rename_i v hv
      obtain ⟨rfl, rfl⟩ := Prod.mk.inj (Option.some.inj hu)
      have hbase : base t ns = v := by
        simp [base, hv]
      refine ⟨counted_write h (by simp [huncommitted]) (by omega), ?_⟩
      rintro n ⟨⟩
      refine ⟨by simp [Tables.write], hbase.le, fun e he m hm => ?_⟩
      obtain ⟨-, v', hv', -⟩ := h.opened e he ns m hm
      simp [huncommitted] at hv'
    · obtain ⟨rfl, rfl⟩ := Prod.mk.inj (Option.some.inj hu)
      exact ⟨h, by rintro n ⟨⟩⟩

theorem counted_insert (h : Counted t) (hmint : st.mint = some (ns, n)) (ha : Allotted t p ns n)
    (hu : t.insert p st = some (.ok u)) : Counted u := by
  obtain rfl := insert_ok hu
  have hrows : openRows { t with tentative := t.tentative ++ [(p, st)] } = openRows t ++ [(p, st)] := by
    simp [openRows]
  refine ⟨h.committed, h.distinct, h.locked, ?_, ?_⟩
  · intro e he ns' m hm
    rw [hrows] at he
    rcases List.mem_append.mp he with he | he
    · exact h.opened e he ns' m hm
    · obtain rfl := List.mem_singleton.mp he
      obtain ⟨rfl, rfl⟩ := Prod.mk.inj (Option.some.inj (hmint.symm.trans hm))
      exact ⟨ha.above, n + 1, ha.held, by omega⟩
  · rw [hrows, List.filterMap_append]
    refine List.Nodup.append h.openDistinct (by simp [hmint]) ?_
    intro mint hold hnew
    obtain ⟨e, he, hm⟩ := List.mem_filterMap.mp hold
    have hsame : mint = (ns, n) := by
      simpa [hmint, eq_comm] using hnew
    have hlt := ha.unused e he n (hsame ▸ hm)
    omega

omit [DecidableEq P] in
theorem counted_drop (h : Counted t) (hcommitted : u.committed = t.committed) (hcounters : u.counters = t.counters)
    (huncommitted : ∀ ns q v, u.uncommitted ns = some (q, v) → t.uncommitted ns = some (q, v))
    (hheld : ∀ e ∈ openRows u, ∀ ns v, t.uncommitted ns = some (e.1, v) → u.uncommitted ns = some (e.1, v))
    (hrows : (openRows u).Subperm (openRows t)) : Counted u := by
  have hbase : base u = base t := by
    funext ns
    simp only [base, hcounters]
  refine ⟨?_, hcommitted ▸ h.distinct, ?_, ?_, ?_⟩
  · intro st hst ns n hmint
    rw [hbase]
    exact h.committed st (hcommitted ▸ hst) ns n hmint
  · intro ns q v hv
    rw [hbase]
    exact h.locked ns q v (huncommitted ns q v hv)
  · intro e he ns n hmint
    rw [hbase]
    obtain ⟨habove, v, hv, hlt⟩ := h.opened e (hrows.subset he) ns n hmint
    exact ⟨habove, v, hheld e he ns v hv, hlt⟩
  · obtain ⟨rows, hperm, hsub⟩ := hrows
    exact (hperm.filterMap _).nodup_iff.mp (h.openDistinct.sublist (hsub.filterMap _))

theorem counted_release (h : Counted t) : Counted (t.release p) :=
  counted_drop h rfl rfl (fun _ _ _ h => h) (fun _ _ _ _ h => h) release_rows.subperm

theorem counted_rollbackTo (h : Counted t) : Counted (t.rollbackTo p) :=
  counted_drop h rfl rfl (fun _ _ _ h => h) (fun _ _ _ _ h => h)
    ((List.Sublist.refl _).append List.filter_sublist).subperm

theorem rollback_uncommitted {v : Nat} :
    (t.rollback p).uncommitted ns = some (q, v) ↔ t.uncommitted ns = some (q, v) ∧ q ≠ p := by
  simp [Tables.rollback, Option.filter_eq_some_iff]

theorem counted_rollback (h : Counted t) : Counted (t.rollback p) := by
  refine counted_drop h rfl rfl (fun ns q v hv => (rollback_uncommitted.mp hv).1) ?_
    (List.filter_sublist.append List.filter_sublist).subperm
  intro e he ns v hv
  exact rollback_uncommitted.mpr ⟨hv, (mem_openRows_rollback.mp he).2⟩

theorem base_commit (h : Counted t) (ns : String) : base t ns ≤ base (t.commit p) ns := by
  simp only [base, Tables.commit, Tables.counterAfter]
  split
  · rename_i q v hv
    split
    · exact h.locked ns q v hv
    · exact le_rfl
  · exact le_rfl

theorem base_commit_own {v : Nat} (hv : t.uncommitted ns = some (p, v)) : base (t.commit p) ns = v := by
  simp [base, Tables.commit, Tables.counterAfter, hv]

theorem base_commit_other {v : Nat} (hv : t.uncommitted ns = some (q, v)) (hne : q ≠ p) :
    base (t.commit p) ns = base t ns := by
  simp [base, Tables.commit, Tables.counterAfter, hv, hne]

theorem counted_commit (h : Counted t) : Counted (t.commit p) := by
  have hown : ∀ e ∈ ownRows t p, ∀ ns n, e.2.mint = some (ns, n) →
      base t ns ≤ n ∧ n < base (t.commit p) ns := by
    intro e he ns n hmint
    obtain ⟨he, hp⟩ := List.mem_filter.mp he
    obtain ⟨habove, v, hv, hlt⟩ := h.opened e he ns n hmint
    rw [of_decide_eq_true hp] at hv
    exact ⟨habove, base_commit_own hv ▸ hlt⟩
  refine ⟨?_, ?_, ?_, ?_, (counted_rollback h).openDistinct⟩
  · intro st hst ns n hmint
    rw [commit_committed] at hst
    rcases List.mem_append.mp hst with hst | hst
    · exact lt_of_lt_of_le (h.committed st hst ns n hmint) (base_commit h ns)
    · obtain ⟨e, he, rfl⟩ := List.mem_map.mp hst
      exact (hown e he ns n hmint).2
  · rw [commit_committed, List.filterMap_append, List.filterMap_map]
    refine List.Nodup.append h.distinct (h.openDistinct.sublist (List.filter_sublist.filterMap _)) ?_
    intro mint hold hnew
    obtain ⟨st, hst, hmint⟩ := List.mem_filterMap.mp hold
    obtain ⟨e, he, hmint'⟩ := List.mem_filterMap.mp hnew
    have hlt := h.committed st hst mint.1 mint.2 hmint
    have hle := (hown e he mint.1 mint.2 hmint').1
    omega
  · intro ns q v hv
    obtain ⟨hv, hne⟩ := rollback_uncommitted.mp hv
    rw [base_commit_other hv hne]
    exact h.locked ns q v hv
  · intro e he ns n hmint
    obtain ⟨he, hne⟩ := mem_openRows_rollback.mp he
    obtain ⟨habove, v, hv, hlt⟩ := h.opened e he ns n hmint
    rw [base_commit_other hv hne]
    exact ⟨habove, v, rollback_uncommitted.mpr ⟨hv, hne⟩, hlt⟩

omit [DecidableEq P] in
theorem counted_committed (h : Counted t) {rows : List Stored}
    (hrows : rows.filterMap (·.mint) = t.committed.filterMap (·.mint)) : Counted { t with committed := rows } := by
  refine ⟨?_, hrows ▸ h.distinct, h.locked, h.opened, h.openDistinct⟩
  intro st hst ns n hmint
  have hmem : (ns, n) ∈ t.committed.filterMap (·.mint) := hrows ▸ List.mem_filterMap.mpr ⟨st, hst, hmint⟩
  obtain ⟨st', hst', hmint'⟩ := List.mem_filterMap.mp hmem
  exact h.committed st' hst' ns n hmint'

omit [DecidableEq P] in
theorem Allotted.keep (h : Allotted t p ns n) (hheld : u.uncommitted ns = t.uncommitted ns)
    (hbase : base u ns = base t ns)
    (hrows : ∀ e ∈ openRows u, ∀ m, e.2.mint = some (ns, m) → e ∈ openRows t) : Allotted u p ns n := by
  refine ⟨hheld ▸ h.held, hbase ▸ h.above, fun e he m hm => ?_⟩
  exact h.unused e (hrows e he m hm) m hm

omit [DecidableEq P] in
theorem Allotted.written (h : Allotted t q ns n) (hne : q ≠ p) (hu : Written p t u) : Allotted u q ns n := by
  rcases hu with rfl | ⟨ns', v, rfl, hfree⟩
  · exact h
  · have hns : ns ≠ ns' := by
      rintro rfl
      exact hne (hfree q (n + 1) h.held)
    exact h.keep (Function.update_of_ne hns ..) rfl fun e he _ _ => he

theorem Allotted.rollback (h : Allotted t q ns n) (hne : q ≠ p) : Allotted (t.rollback p) q ns n := by
  refine h.keep ?_ rfl fun e he _ _ => (mem_openRows_rollback.mp he).1
  rw [h.held]
  exact rollback_uncommitted.mpr ⟨h.held, hne⟩

theorem Allotted.commit (h : Allotted t q ns n) (hne : q ≠ p) : Allotted (t.commit p) q ns n :=
  (h.rollback hne).keep rfl (base_commit_other h.held hne) fun _ he _ _ => he

theorem Allotted.insert {k : Nat} (h : Allotted t q ns n) (hne : q ≠ p) {ns' : String} (ha : Allotted t p ns' k)
    (hmint : st.mint = some (ns', k)) (hu : t.insert p st = some (.ok u)) : Allotted u q ns n := by
  obtain rfl := insert_ok hu
  refine h.keep rfl rfl fun e he m hm => ?_
  simp only [openRows, ← List.append_assoc] at he
  rcases List.mem_append.mp he with he | he
  · exact he
  · obtain rfl := List.mem_singleton.mp he
    obtain ⟨rfl, -⟩ := Prod.mk.inj (Option.some.inj (hmint.symm.trans hm))
    have hsame : q = p := by
      have hheld := ha.held
      rw [h.held] at hheld
      exact (Prod.mk.inj (Option.some.inj hheld)).1
    exact absurd hsame hne

variable [Text.PyLower] {x x' : Session} {s s' : Sys P} {answer : Answer} {a : Act P}

/-- The name of the ARK encodes the counter value `n` of the namespace. -/
def Encodes (k : ArkId) (ns : String) (n : Nat) : Prop :=
  ∃ (r : Request) (fullArk : String), r.namespaceKey = ns ∧ r.naan = k.naan ∧
    r.asBatch.mintArkId n = .ok fullArk ∧ k.name = Text.afterFirst '/' fullArk

def Holding (t : Tables P) (p : P) (x : Session) : Prop :=
  match x.phase with
  | .savepoint _ n fullArk | .insert _ n fullArk =>
      Allotted t p x.request.namespaceKey n ∧ x.request.asBatch.mintArkId n = .ok fullArk
  | _ => True

structure Inv (s : Sys P) : Prop where
  counted : Counted s.tables
  encoded : ∀ st ∈ allRows s.tables, ∀ ns n, st.mint = some (ns, n) → Encodes st.row.key ns n
  holding : ∀ p x, s.sessions p = some x → Holding s.tables p x

omit [DecidableEq P] in
theorem holding_of_not_holds (h : x.phase.holds = false) : Holding t p x := by
  unfold Holding
  cases hx : x.phase <;> simp_all [Phase.holds]

theorem effect_counted (h : Counted t) (hx : Holding t p x) (heffect : Effect p x t u) : Counted u := by
  cases heffect with
  | same => exact h
  | ensured hu => exact counted_ensure h hu
  | allocated hu => exact (allocate_spec h hu).1
  | inserted hphase hu =>
      rw [Holding, hphase] at hx
      exact counted_insert h rfl hx.1 hu
  | released => exact counted_release h
  | rolledBackTo => exact counted_rollbackTo h
  | rolledBack => exact counted_rollback h
  | committed => exact counted_commit h

theorem stored_encodes {fullArk : String} (h : x.request.asBatch.mintArkId n = .ok fullArk) {ns : String} {m : Nat}
    (hmint : (x.stored n fullArk).mint = some (ns, m)) : Encodes (x.stored n fullArk).row.key ns m := by
  obtain ⟨rfl, rfl⟩ := Prod.mk.inj (Option.some.inj hmint)
  exact ⟨x.request, fullArk, rfl, rfl, h, rfl⟩

theorem effect_allotted (hne : q ≠ p) (hx : Holding t p x) (heffect : Effect p x t u) (h : Allotted t q ns n) :
    Allotted u q ns n := by
  cases heffect with
  | same => exact h
  | ensured hu => exact h.written hne (ensure_written hu)
  | allocated hu => exact h.written hne (allocate_written hu)
  | inserted hphase hu =>
      rw [Holding, hphase] at hx
      exact h.insert hne hx.1 rfl hu
  | released => exact h.keep rfl rfl fun e he _ _ => release_rows.mem_iff.mp he
  | rolledBackTo =>
      exact h.keep rfl rfl fun e he _ _ => ((List.Sublist.refl _).append List.filter_sublist).subset he
  | rolledBack => exact h.rollback hne
  | committed => exact h.commit hne

theorem inv_moved (hi : Inv s) (hx : s.sessions p = some x) (h : Moved p x s s') : Inv s' := by
  have hholding := hi.holding p x hx
  refine ⟨effect_counted hi.counted hholding h.effect, ?_, ?_⟩
  · intro st hst ns n hmint
    rcases effect_rows h.effect hst with hold | ⟨k, m, fullArk, hphase, rfl⟩
    · exact hi.encoded st hold ns n hmint
    · rw [Holding, hphase] at hholding
      exact stored_encodes hholding.2 hmint
  · intro q y hy
    by_cases hq : q = p
    · subst hq
      obtain ⟨hrequest, hfollows⟩ := h.next y hy
      unfold Holding
      cases hphase : y.phase with
      | savepoint k n fullArk =>
          rw [hphase] at hfollows
          obtain ⟨hallocated, hmint⟩ := hfollows
          rw [hrequest]
          exact ⟨(allocate_spec hi.counted hallocated).2 n rfl, hmint⟩
      | insert k n fullArk =>
          rw [hphase] at hfollows
          obtain ⟨hbefore, htables⟩ := hfollows
          rw [Holding, hbefore] at hholding
          rw [hrequest, htables]
          exact hholding
      | _ => trivial
    · rw [h.others q hq] at hy
      have hqholding := hi.holding q y hy
      unfold Holding at hqholding ⊢
      cases hphase : y.phase with
      | savepoint k n fullArk | insert k n fullArk =>
          rw [hphase] at hqholding
          exact ⟨effect_allotted hq hholding h.effect hqholding.1, hqholding.2⟩
      | _ => trivial

/-- Another transaction writes committed rows: it changes some, which keep their identifiers, and
adds rows that are not minted. -/
structure Rewrites (t u : Tables P) : Prop where
  mints : u.committed.filterMap (·.mint) = t.committed.filterMap (·.mint)
  keys : ∀ st ∈ u.committed, ∀ ns n, st.mint = some (ns, n) →
    ∃ st' ∈ t.committed, st'.row.key = st.row.key ∧ st'.mint = some (ns, n)
  counters : u.counters = t.counters
  uncommitted : u.uncommitted = t.uncommitted
  pending : u.pending = t.pending
  tentative : u.tentative = t.tentative

omit [DecidableEq P] [Text.PyLower] in
theorem rewrites_modify {k : ArkId} {f : ARKRecord → ARKRecord} {rows : List ArkId} :
    Rewrites t { t.modify k f with ended := rows } := by
  refine ⟨?_, ?_, rfl, rfl, rfl, rfl⟩
  · simp only [Tables.modify, List.filterMap_map]
    exact List.filterMap_congr fun st _ => touch_mint
  · intro st hst ns n hmint
    obtain ⟨st', hst', rfl⟩ := List.mem_map.mp hst
    exact ⟨st', hst', touch_key.symm, touch_mint.symm.trans hmint⟩

omit [DecidableEq P] [Text.PyLower] in
theorem rewrites_import (hmint : st.mint = none) (hu : importRow t st = some u) : Rewrites t u := by
  unfold importRow at hu
  split at hu
  · cases hu
  · obtain rfl := Option.some.inj hu
    refine ⟨by simp [hmint], ?_, rfl, rfl, rfl, rfl⟩
    intro st' hst' ns n hmint'
    rcases List.mem_append.mp hst' with hst' | hst'
    · exact ⟨st', hst', rfl, hmint'⟩
    · obtain rfl := List.mem_singleton.mp hst'
      simp [hmint] at hmint'

omit [DecidableEq P] [Text.PyLower] in
theorem rewrites_endArk {k : ArkId} {g : ARKRecord → Bool} {f : ARKRecord → ARKRecord}
    (hu : t.endArk k g f = some u) : Rewrites t u := by
  unfold Tables.endArk at hu
  split at hu
  · exact Option.some.inj hu ▸ rewrites_modify
  · cases hu

omit [DecidableEq P] in
theorem Rewrites.inv (hw : Rewrites s.tables u) (hi : Inv s) : Inv (s.setTables u) := by
  have hbase : base u = base s.tables := by
    funext ns
    simp only [base, hw.counters]
  have hopen : openRows u = openRows s.tables := by
    simp only [openRows, hw.pending, hw.tentative]
  have hcounted := counted_committed hi.counted hw.mints
  refine ⟨?_, ?_, ?_⟩
  · obtain ⟨h1, h2, h3, h4, h5⟩ := hcounted
    refine ⟨fun st hst ns n hmint => ?_, h2, fun ns q v hv => ?_, fun e he ns n hmint => ?_, ?_⟩
    · exact hbase ▸ h1 st hst ns n hmint
    · exact hbase ▸ h3 ns q v (hw.uncommitted ▸ hv)
    · obtain ⟨habove, v, hv, hlt⟩ := h4 e (hopen ▸ he) ns n hmint
      exact ⟨hbase ▸ habove, v, hw.uncommitted ▸ hv, hlt⟩
    · exact hopen ▸ h5
  · intro st hst ns n hmint
    rcases List.mem_append.mp hst with hst | hst
    · obtain ⟨st', hst', hkey, hmint'⟩ := hw.keys st hst ns n hmint
      exact hkey ▸ hi.encoded st' (List.mem_append_left _ hst') ns n hmint'
    · exact hi.encoded st (List.mem_append_right _ (hopen ▸ hst)) ns n hmint
  · intro p x hx
    have hholding := hi.holding p x hx
    unfold Holding at hholding ⊢
    cases hphase : x.phase with
    | savepoint k n fullArk | insert k n fullArk =>
        rw [hphase] at hholding
        refine ⟨hholding.1.keep (congrFun hw.uncommitted _) (congrFun hbase _) fun e he _ _ => ?_, hholding.2⟩
        exact hopen ▸ he
    | _ => trivial

theorem inv_step (hi : Inv s) (h : step s a = some s') : Inv s' := by
  cases a with
  | arrive p request =>
      simp only [step] at h
      split at h
      · obtain rfl := Option.some.inj h
        refine ⟨hi.counted, hi.encoded, fun q y hy => ?_⟩
        by_cases hq : q = p
        · subst hq
          obtain rfl : openSession request = y := by
            simpa [Sys.put] using hy
          refine holding_of_not_holds ?_
          unfold openSession
          split <;> rfl
        · exact hi.holding q y ((Function.update_of_ne hq ..).symm.trans hy)
      · cases h
  | statement p answer =>
      obtain ⟨x, hx, hrun⟩ := Option.bind_eq_some_iff.mp h
      exact inv_moved hi hx (statement_moved hrun)
  | vanish p =>
      obtain rfl := Option.some.inj h
      refine ⟨counted_rollback hi.counted, ?_, fun q y hy => ?_⟩
      · intro st hst
        refine hi.encoded st (List.Sublist.subset ?_ hst)
        exact (List.Sublist.refl _).append ((List.filter_sublist.append List.filter_sublist).map _)
      · have hq : q ≠ p := by
          rintro rfl
          simp at hy
        have hqholding := hi.holding q y ((Function.update_of_ne hq ..).symm.trans hy)
        unfold Holding at hqholding ⊢
        cases hphase : y.phase with
        | savepoint k n fullArk | insert k n fullArk =>
            rw [hphase] at hqholding
            exact ⟨hqholding.1.rollback hq, hqholding.2⟩
        | _ => trivial
  | importPublished k authorityId target now =>
      obtain ⟨u, hu, rfl⟩ := Option.map_eq_some_iff.mp h
      exact (rewrites_import rfl hu).inv hi
  | tombstone k now | reown k authorityId info now =>
      obtain ⟨u, hu, rfl⟩ := Option.map_eq_some_iff.mp h
      exact (rewrites_endArk hu).inv hi
  | advance k state =>
      obtain rfl := Option.some.inj h
      exact rewrites_modify.inv hi

theorem reach_inv (h : Reach step Free ({} : Sys P) s) : Inv s := by
  refine h.invariant ?_ fun _ _ _ hi _ hs => inv_step hi hs
  refine ⟨⟨by simp, List.nodup_nil, by simp, by simp [openRows], List.nodup_nil⟩, ?_, by simp⟩
  simp [allRows, openRows]

theorem counter_step (hi : Inv s) (h : step s a = some s') {next : Nat} (hnext : s.tables.counters ns = some next) :
    ∃ next', s'.tables.counters ns = some next' ∧ next ≤ next' := by
  have hcommit : ∀ p, ∃ next', (s.tables.commit p).counters ns = some next' ∧ next ≤ next' := by
    intro p
    have hle := base_commit (p := p) hi.counted ns
    simp only [base, hnext, Option.getD_some] at hle
    cases hafter : (s.tables.commit p).counters ns with
    | some next' => exact ⟨next', rfl, by simpa [hafter] using hle⟩
    | none =>
        simp only [Tables.commit, Tables.counterAfter] at hafter
        split at hafter
        · split at hafter
          · cases hafter
          · simp [hnext] at hafter
        · simp [hnext] at hafter
  have hkept : s'.tables.counters = s.tables.counters ∨ ∃ p, s'.tables = s.tables.commit p := by
    cases a with
    | arrive p request =>
        simp only [step] at h
        split at h
        · exact .inl (Option.some.inj h ▸ rfl)
        · cases h
    | statement p answer =>
        obtain ⟨x, hx, hrun⟩ := Option.bind_eq_some_iff.mp h
        have heffect := (statement_moved hrun).effect
        generalize s'.tables = u at heffect ⊢
        cases heffect with
        | same | released | rolledBackTo | rolledBack => exact .inl rfl
        | ensured hu =>
            rcases ensure_written hu with rfl | ⟨_, _, rfl, -⟩ <;> exact .inl rfl
        | allocated hu =>
            rcases allocate_written hu with rfl | ⟨_, _, rfl, -⟩ <;> exact .inl rfl
        | inserted _ hu => exact .inl (insert_ok hu ▸ rfl)
        | committed => exact .inr ⟨p, rfl⟩
    | vanish p => exact .inl (Option.some.inj h ▸ rfl)
    | importPublished k authorityId target now =>
        obtain ⟨u, hu, rfl⟩ := Option.map_eq_some_iff.mp h
        exact .inl (rewrites_import rfl hu).counters
    | tombstone k now | reown k authorityId info now =>
        obtain ⟨u, hu, rfl⟩ := Option.map_eq_some_iff.mp h
        exact .inl (rewrites_endArk hu).counters
    | advance k state => exact .inl (Option.some.inj h ▸ rfl)
  rcases hkept with hsame | ⟨p, hp⟩
  · exact ⟨next, hsame ▸ hnext, le_rfl⟩
  · exact hp ▸ hcommit p

theorem counter_run (h : Reach step Free ({} : Sys P) s) (h' : Reach step Free s s') {next : Nat}
    (hnext : s.tables.counters ns = some next) : ∃ next', s'.tables.counters ns = some next' ∧ next ≤ next' := by
  induction h' with
  | init => exact ⟨next, hnext, le_rfl⟩
  | next hreach _ hs ih =>
      obtain ⟨mid, hmid, hle⟩ := ih
      obtain ⟨next', hnext', hle'⟩ := counter_step (reach_inv (h.trans hreach)) hs hmid
      exact ⟨next', hnext', hle.trans hle'⟩

/-- Identifiers are never reissued: the name of each committed row that was minted encodes a value
below the counter of its namespace, no value of a namespace is used twice, and no counter goes back. -/
theorem identifiers_never_reissued (h : Reach step Free ({} : Sys P) s) :
    (∀ st ∈ s.tables.committed, ∀ ns n, st.mint = some (ns, n) →
      Encodes st.row.key ns n ∧ ∃ next, s.tables.counters ns = some next ∧ n < next) ∧
    (s.tables.committed.filterMap (·.mint)).Nodup ∧
    ∀ t, Reach step Free s t → ∀ ns next, s.tables.counters ns = some next →
      ∃ next', t.tables.counters ns = some next' ∧ next ≤ next' := by
  have hi := reach_inv h
  refine ⟨fun st hst ns n hmint => ⟨?_, ?_⟩, hi.counted.distinct, fun t ht ns next hnext => counter_run h ht hnext⟩
  · exact hi.encoded st (List.mem_append_left _ hst) ns n hmint
  · have hlt := hi.counted.committed st hst ns n hmint
    unfold base at hlt
    cases hnext : s.tables.counters ns with
    | none => simp [hnext] at hlt
    | some next => exact ⟨next, rfl, by simpa [hnext] using hlt⟩

end

section Sample

attribute [local instance] Text.asciiText

def request : Request := ⟨"A", "12345", .single, 0, "200", 2, false⟩

def oks (n : Nat) : List (Act Nat) := List.replicate n (.statement 0 .ok)

def collision : List (Act Nat) :=
  [.importPublished ⟨"12345", "20000"⟩ "B" none 0, .arrive 0 request] ++ oks 12

theorem identifiers_never_reissued_collision :
    ∃ s, Reach step Free ({} : Sys Nat) s ∧
      s.tables.committed.map (·.mint) = [none, some ("12345:200", 1)] ∧
      ∃ next, s.tables.counters "12345:200" = some next ∧ 1 < next := by
  have hrun : ((run step collision ({} : Sys Nat)).map fun s => s.tables.committed.map (·.mint)) =
      some [none, some ("12345:200", 1)] := by decide +kernel
  obtain ⟨s, hs, hmints⟩ := Option.map_eq_some_iff.mp hrun
  have hreach := run_reach hs
  have hmem : some ("12345:200", 1) ∈ s.tables.committed.map (·.mint) := by
    simp [hmints]
  obtain ⟨st, hst, hmint⟩ := List.mem_map.mp hmem
  exact ⟨s, hreach, hmints, ((identifiers_never_reissued hreach).1 st hst _ _ hmint).2⟩

end Sample

end DarkMinter.Identifiers
