import DarkMinter.BatchReserve

namespace DarkMinter.BatchReports

open Text Processing Records Repository Authority Lib.Transaction Lib.Savepoint BatchReserve

section

variable {s t u : State Database} {own own' : List ArkId} {α : Type}

/-- The rows of other sessions are new to both states. The transaction adds the
rows with the keys `own`. -/
structure Extends (s t : State Database) (own : List ArkId) : Prop where
  committed : ∀ k ∈ s.committed.data.keys, k ∈ t.committed.data.keys
  working : ∀ k ∈ s.working.data.keys, k ∈ t.working.data.keys
  sub : (∀ k ∈ s.committed.data.keys, k ∈ s.working.data.keys) →
    ∀ k ∈ t.committed.data.keys, k ∈ t.working.data.keys
  new : ∀ k ∈ t.working.data.keys, k ∈ s.working.data.keys ∨ k ∈ t.committed.data.keys ∨ k ∈ own
  fresh : ∀ k ∈ t.committed.data.keys, k ∈ s.committed.data.keys ∨ k ∉ s.working.data.keys

theorem Extends.of_keys (hc : t.committed.data.keys = s.committed.data.keys)
    (hw : t.working.data.keys = s.working.data.keys) : Extends s t [] := by
  constructor
  · exact fun _ hk => hc ▸ hk
  · exact fun _ hk => hw ▸ hk
  · exact fun h _ hk => hw ▸ h _ (hc ▸ hk)
  · exact fun _ hk => .inl (hw ▸ hk)
  · exact fun _ hk => .inl (hc ▸ hk)

theorem Extends.refl (s : State Database) : Extends s s [] := .of_keys rfl rfl

theorem Extends.trans (h : Extends s t own) (h' : Extends t u own') : Extends s u (own ++ own') := by
  constructor
  · exact fun k hk => h'.committed k (h.committed k hk)
  · exact fun k hk => h'.working k (h.working k hk)
  · exact fun hsub => h'.sub (h.sub hsub)
  · intro k hk
    rcases h'.new k hk with ht | hcommitted | hown
    · rcases h.new k ht with hs | hcommitted | hown
      · exact .inl hs
      · exact .inr (.inl (h'.committed k hcommitted))
      · exact .inr (.inr (List.mem_append_left _ hown))
    · exact .inr (.inl hcommitted)
    · exact .inr (.inr (List.mem_append_right _ hown))
  · intro k hk
    rcases h'.fresh k hk with ht | hnew
    · exact h.fresh k ht
    · exact .inr fun hs => hnew (h.working k hs)

theorem Extends.insert {d : Database} {row : Row} (hd : d.keys = s.working.data.keys) :
    Extends s (s.put (d.insert row)) [row.key] := by
  constructor
  · exact fun _ hk => hk
  · intro k hk
    simpa [hd] using .inl hk
  · intro h k hk
    simpa [hd] using .inl (h k hk)
  · intro k hk
    simp only [State.put_data, Database.mem_keys_insert, hd] at hk
    exact hk.imp_right fun h => .inr (List.mem_singleton.mpr h)
  · exact fun _ hk => .inl hk

theorem not_mem_of_admits {d : Database} {row : Row} (h : d.admits row = true) : row.key ∉ d.keys := by
  intro hmem
  obtain ⟨other, hother, hkey⟩ := List.mem_map.mp hmem
  have hfree := List.all_eq_true.mp h other hother
  simp [Row.conflicts, hkey] at hfree

theorem commitRow_extends (row : Row) (s : State Database) :
    Extends s (commitRow row s) [] ∧ (commitRow row s).working.aborted = s.working.aborted := by
  unfold commitRow
  split
  · rename_i hadmits
    refine ⟨⟨?_, ?_, ?_, ?_, ?_⟩, rfl⟩
    · intro k hk
      simpa using .inl hk
    · intro k hk
      simpa using .inl hk
    · intro h k hk
      simpa using (Database.mem_keys_insert.mp hk).imp_left (h k)
    · intro k hk
      exact (Database.mem_keys_insert.mp hk).imp_right fun hk => .inl (by simp [hk])
    · intro k hk
      exact (Database.mem_keys_insert.mp hk).imp_right fun (hk : k = row.key) => hk ▸ not_mem_of_admits hadmits
  · exact ⟨.refl s, rfl⟩

theorem commitRows_extends (rows : List Row) (s : State Database) :
    Extends s (commitRows rows s) [] ∧ (commitRows rows s).working.aborted = s.working.aborted := by
  induction rows generalizing s with
  | nil => exact ⟨.refl s, rfl⟩
  | cons row rows ih =>
      obtain ⟨hrow, haborted⟩ := commitRow_extends row s
      obtain ⟨hrows, haborted'⟩ := ih (commitRow row s)
      exact ⟨hrow.trans hrows, haborted'.trans haborted⟩

theorem othersCommit_eq {rows : List Row} (h : s.working.aborted = false) :
    othersCommit rows s = (.ok (), commitRows rows s) := by
  simp [othersCommit, h]

theorem othersCommit_aborted {rows : List Row} (h : s.working.aborted = true) :
    othersCommit rows s = (.ok (), s) := by
  simp [othersCommit, h]

variable {fault : Option DbError} {f : Database → Except DbError (α × Database)}

theorem execute_aborted (h : s.working.aborted = true) :
    execute fault f s = (.error (.exc inFailedTransaction), s) := statement_aborted h

theorem execute_fault {err : DbError} (h : s.working.aborted = false) (hfault : fault = some err) :
    execute fault f s = (.error (.exc err), s.abort) := by
  subst hfault
  exact statement_fault h

theorem execute_ok {a : α} {d : Database} (h : s.working.aborted = false) (hfault : fault = none)
    (hf : f s.working.data = .ok (a, d)) : execute fault f s = (.ok a, s.put d) := by
  subst hfault
  exact statement_ok h (by simp [hf, Except.mapError])

/-- The error of the two statements that allocate a counter. The fallback of an
operational error runs in an aborted transaction. -/
def allocationFault (e : AttemptEnv) : Option DbError :=
  match e.fails .ensureCounter with
  | some err => some err
  | none => (e.fails .updateCounter).map fun err =>
      if err.kind = .operational then inFailedTransaction else err

theorem ensureCounterRow_ok {e : AttemptEnv} {ns : String} (h : s.working.aborted = false)
    (hensure : e.fails .ensureCounter = none) : ensureCounterRow e ns s =
      (.ok (), s.put (s.working.data.setCounter ns (s.working.data.counter ns))) :=
  execute_ok h hensure rfl

theorem allocateNext_error {e : AttemptEnv} (ns : String) {err : DbError} (h : s.working.aborted = false)
    (hfault : allocationFault e = some err) :
    ∃ t, allocateNext e ns s = (.error (.exc err), t) ∧ t.working.aborted = true ∧ Extends s t [] := by
  unfold allocationFault at hfault
  split at hfault
  · rename_i err' hensure
    obtain rfl := Option.some.inj hfault
    exact ⟨s.abort, Tx.bind_error (execute_fault h hensure), rfl, .of_keys rfl rfl⟩
  · rename_i hensure
    obtain ⟨⟨kind, text, orig⟩, hupdate, hkind⟩ := Option.map_eq_some_iff.mp hfault
    refine ⟨(s.put (s.working.data.setCounter ns (s.working.data.counter ns))).abort, ?_, rfl, .of_keys rfl rfl⟩
    refine (Tx.bind_ok (ensureCounterRow_ok h hensure)).trans ?_
    refine (Tx.catching_error (execute_fault rfl hupdate)).trans ?_
    cases kind with
    | operational => exact hkind ▸ Tx.bind_error (execute_aborted rfl)
    | integrity | other => exact hkind ▸ rfl

theorem allocateNext_ok {e : AttemptEnv} (ns : String) (h : s.working.aborted = false)
    (hfault : allocationFault e = none) : ∃ d, d.records = s.working.data.records ∧
      allocateNext e ns s = (.ok (s.working.data.counter ns), s.put d) := by
  unfold allocationFault at hfault
  split at hfault
  · cases hfault
  · rename_i hensure
    have hupdate := Option.map_eq_none_iff.mp hfault
    have hcounter : (s.working.data.setCounter ns (s.working.data.counter ns)).counter ns =
        s.working.data.counter ns := by simp [Database.counter, Database.setCounter]
    refine ⟨(s.working.data.setCounter ns (s.working.data.counter ns)).setCounter ns
      (s.working.data.counter ns + 1), rfl, ?_⟩
    refine (Tx.bind_ok (ensureCounterRow_ok h hensure)).trans ?_
    refine (Tx.catching_ok (execute_ok rfl hupdate rfl)).trans ?_
    simp only [State.put_data, hcounter]
    rfl

def insertFault (e : AttemptEnv) (row : Row) (d : Database) : Option DbError :=
  match e.fails .insert with
  | some err => some err
  | none => if d.admits row then e.fails .release else some uniqueViolation

theorem innerFault_insert (e : AttemptEnv) (row : Row) (d : Database) :
    innerFault e.bracket ((e.fails .insert).map .exc) (fun d => (insertRow row d).mapError .exc) d =
      (insertFault e row d).map .exc := by
  unfold innerFault insertFault insertRow
  cases e.fails .insert with
  | some err => rfl
  | none =>
      cases hadmits : d.admits row with
      | false => simp [hadmits, Except.mapError]
      | true => simp [hadmits, Except.mapError, AttemptEnv.bracket]

theorem insert_ok {e : AttemptEnv} {row : Row} (h : s.working.aborted = false)
    (hsavepoint : e.fails .savepoint = none) (hinsert : insertFault e row s.working.data = none) :
    nested (.exc inFailedTransaction) e.bracket (execute (e.fails .insert) (insertRow row)) s =
      (.ok (), s.put (s.working.data.insert row)) := by
  have hadmits : s.working.data.admits row = true := by
    unfold insertFault at hinsert
    split at hinsert
    · cases hinsert
    · split at hinsert
      · assumption
      · cases hinsert
  refine nested_ok h (by simp [AttemptEnv.bracket, hsavepoint]) (released_ok h ?_ ?_)
  · simp [insertRow, hadmits, Except.mapError]
  · rw [innerFault_insert, hinsert]
    rfl

theorem insert_error {e : AttemptEnv} {row : Row} {err : DbError} (h : s.working.aborted = false)
    (hsavepoint : e.fails .savepoint = none) (hinsert : insertFault e row s.working.data = some err) :
    nested (.exc inFailedTransaction) e.bracket (execute (e.fails .insert) (insertRow row)) s =
      match e.fails .rollbackTo with
      | none => (.error (.exc err), s)
      | some err' => (.error (.exc err'), s.abort) := by
  have hinner : innerFault e.bracket ((e.fails .insert).map .exc) (fun d => (insertRow row d).mapError .exc)
      s.working.data = some (.exc err) := by
    rw [innerFault_insert, hinsert]
    rfl
  obtain ⟨t, hreleased, hcommitted⟩ := released_error (.exc inFailedTransaction) h hinner
  rw [execute, nested_error h (by simp [AttemptEnv.bracket, hsavepoint]) hreleased hcommitted]
  cases hrollback : e.fails .rollbackTo <;> simp [AttemptEnv.bracket, hrollback]

/-- The error of the statement outside the savepoint that fails first, if one does. -/
def outsideFault [PyLower] (b : Batch) (e : AttemptEnv) (clientItemId : String) (s : State Database) :
    Option DbError :=
  match allocationFault e with
  | some err => some err
  | none =>
      let d := (commitRows e.others s).working.data
      match b.mintArkId (d.counter b.namespaceKey) with
      | .error _ => none
      | .ok fullArk => match e.fails .savepoint with
        | some err => some err
        | none => match insertFault e (b.row clientItemId fullArk) d with
          | some _ => e.fails .rollbackTo
          | none => none

variable [PyLower] {b : Batch} {e : AttemptEnv} {cid : String}

omit [PyLower] in
theorem insertFault_congr {row : Row} {d d' : Database} (h : d.records = d'.records) :
    insertFault e row d = insertFault e row d' := by
  have hadmits : d.admits row = d'.admits row := by simp only [Database.admits, h]
  unfold insertFault
  rw [hadmits]

omit [PyLower] in
theorem Extends.put {d : Database} (h : Extends s t own) (hd : d.records = t.working.data.records) :
    Extends s (t.put d) own := by
  have hput : Extends t (t.put d) [] := .of_keys rfl (congrArg (List.map Row.key) hd)
  simpa using h.trans hput

theorem reserve_spec (b : Batch) (e : AttemptEnv) (cid : String) (h : s.working.aborted = false) :
    match outsideFault b e cid s with
    | some err => ∃ t, reserve b e cid s = (.error (.exc err), t) ∧ t.working.aborted = true ∧ Extends s t []
    | none => ∃ r t, reserve b e cid s = (r, t) ∧ t.working.aborted = false ∧
        ((∃ row, r = .ok row ∧ row.key ∈ t.working.data.keys ∧ Extends s t [row.key]) ∨
          ∃ err, r = .error (.exc err) ∧ Extends s t []) := by
  obtain ⟨hothers, hhealthy⟩ := commitRows_extends e.others s
  rw [h] at hhealthy
  unfold reserve outsideFault
  rw [Tx.bind_ok (othersCommit_eq h)]
  generalize commitRows e.others s = u at hothers hhealthy ⊢
  cases halloc : allocationFault e with
  | some err =>
      obtain ⟨t, ht, haborted, hextends⟩ := allocateNext_error b.namespaceKey hhealthy halloc
      exact ⟨t, Tx.bind_error ht, haborted, hothers.trans hextends⟩
  | none =>
      obtain ⟨d, hd, halloc⟩ := allocateNext_ok b.namespaceKey hhealthy halloc
      have hextends : Extends s (u.put d) [] := hothers.put hd
      rw [Tx.bind_ok halloc]
      dsimp only
      cases hmint : b.mintArkId (u.working.data.counter b.namespaceKey) with
      | error err => exact ⟨_, _, Tx.bind_error rfl, rfl, .inr ⟨err, rfl, hextends⟩⟩
      | ok fullArk =>
          have hlift : (Tx.lift ((Except.ok fullArk).mapError .exc) : Handler String) (u.put d) =
              (.ok fullArk, u.put d) := rfl
          rw [Tx.bind_ok hlift]
          cases hsavepoint : e.fails .savepoint with
          | some err =>
              have hrefused : e.bracket.enter = some (.exc err) := by simp [AttemptEnv.bracket, hsavepoint]
              refine ⟨_, Tx.bind_error (nested_refused rfl hrefused), rfl, ?_⟩
              exact hextends.trans (.of_keys rfl rfl)
          | none =>
              dsimp only
              have hrow : insertFault e (b.row cid fullArk) (u.put d).working.data =
                  insertFault e (b.row cid fullArk) u.working.data := insertFault_congr hd
              cases hinsert : insertFault e (b.row cid fullArk) u.working.data with
              | none =>
                  refine ⟨_, _, Tx.bind_ok (insert_ok rfl hsavepoint (hrow.trans hinsert)), rfl, ?_⟩
                  exact .inl ⟨_, rfl, by simp, hextends.trans (.insert rfl)⟩
              | some err =>
                  dsimp only
                  have herror := insert_error rfl hsavepoint (hrow.trans hinsert)
                  cases hrollback : e.fails .rollbackTo with
                  | none =>
                      rw [hrollback] at herror
                      exact ⟨_, _, Tx.bind_error herror, rfl, .inr ⟨err, rfl, hextends⟩⟩
                  | some err' =>
                      rw [hrollback] at herror
                      exact ⟨_, Tx.bind_error herror, rfl, hextends.trans (.of_keys rfl rfl)⟩

omit [PyLower] in
theorem Extends.mono (h : Extends s t own) (hsub : own ⊆ own') : Extends s t own' :=
  { h with new := fun k hk => (h.new k hk).imp_right fun hk => hk.imp_right fun hk => hsub hk }

/-- What a healthy attempt leaves: only a saved row can be new. -/
def Kept (s t : State Database) : Attempt → Prop
  | .saved row => row.key ∈ t.working.data.keys ∧ Extends s t [row.key]
  | .retry _ | .failed _ => Extends s t []

theorem handleError_spec {err : DbError} (h : t.working.aborted = false) (hextends : Extends s t []) :
    (∃ a u, handleError b e cid err t = (.ok a, u) ∧ u.working.aborted = false ∧ Kept s u a) ∨
      ∃ f u, handleError b e cid err t = (.error f, u) := by
  unfold handleError
  split
  · obtain ⟨hothers, hhealthy⟩ := commitRows_extends e.othersLater t
    rw [h] at hhealthy
    rw [Tx.bind_ok (othersCommit_eq h)]
    generalize commitRows e.othersLater t = v at hothers hhealthy ⊢
    cases hlookup : e.fails .lookup with
    | some err' => exact .inr ⟨_, _, Tx.bind_error (execute_fault hhealthy rfl)⟩
    | none =>
        rw [Tx.bind_ok (execute_ok hhealthy rfl rfl)]
        have hv : Extends s (v.put v.working.data) [] := (hextends.trans hothers).put rfl
        refine .inl ?_
        cases hfind : getActiveByClientItemId v.working.data b.authorityId b.naan cid with
        | some row =>
            have hmem : row.key ∈ v.working.data.keys := List.mem_map_of_mem (getActive_spec hfind).1
            exact ⟨_, _, rfl, rfl, hmem, hv.mono (List.nil_subset _)⟩
        | none =>
            refine ⟨_, _, rfl, rfl, ?_⟩
            split <;> exact hv
  · exact .inl ⟨_, _, rfl, h, hextends⟩

theorem handleError_aborted {err : DbError} (h : t.working.aborted = true) : handleError b e cid err t =
    if err.kind = .integrity then (.error (.exc inFailedTransaction), t) else (.ok (.failed err), t) := by
  unfold handleError
  split
  · rw [Tx.bind_ok (othersCommit_aborted h), Tx.bind_error (execute_aborted h)]
  · rfl

theorem attempt_error {err : DbError} (h : reserve b e cid s = (.error (.exc err), t)) :
    attempt b e cid s = handleError b e cid err t :=
  Tx.catching_error (Tx.bind_error h)

theorem attempt_spec (b : Batch) (e : AttemptEnv) (cid : String) (h : s.working.aborted = false) :
    match outsideFault b e cid s with
    | some err => if err.kind = .integrity then ∃ f t, attempt b e cid s = (.error f, t)
        else ∃ t, attempt b e cid s = (.ok (.failed err), t) ∧ t.working.aborted = true ∧ Extends s t []
    | none => (∃ a t, attempt b e cid s = (.ok a, t) ∧ t.working.aborted = false ∧ Kept s t a) ∨
        ∃ f t, attempt b e cid s = (.error f, t) := by
  have hreserve := reserve_spec b e cid h
  cases hfault : outsideFault b e cid s with
  | some err =>
      rw [hfault] at hreserve
      obtain ⟨t, ht, haborted, hextends⟩ := hreserve
      have hattempt := (attempt_error ht).trans (handleError_aborted haborted)
      dsimp only
      split at hattempt
      · rw [if_pos ‹_›]
        exact ⟨_, t, hattempt⟩
      · rw [if_neg ‹_›]
        exact ⟨t, hattempt, haborted, hextends⟩
  | none =>
      rw [hfault] at hreserve
      obtain ⟨r, t, ht, hhealthy, hrow | herror⟩ := hreserve
      · obtain ⟨row, rfl, hmem, hextends⟩ := hrow
        exact .inl ⟨_, t, Tx.catching_ok (Tx.bind_ok ht), hhealthy, hmem, hextends⟩
      · obtain ⟨err, rfl, hextends⟩ := herror
        rw [attempt_error ht]
        exact handleError_spec hhealthy hextends

theorem attempt_aborted (h : s.working.aborted = true) :
    attempt b e cid s = (.ok (.failed inFailedTransaction), s) := by
  have hreserve : reserve b e cid s = (.error (.exc inFailedTransaction), s) :=
    (Tx.bind_ok (othersCommit_aborted h)).trans (Tx.bind_error (Tx.bind_error (execute_aborted h)))
  exact (attempt_error hreserve).trans (handleError_aborted h)

/-- An attempt on the item, the first at which a statement outside the savepoint
fails, gets another exception than an IntegrityError. -/
def FailsOutside (b : Batch) (env : Nat → AttemptEnv) (clientItemId : String) :
    (n k : Nat) → State Database → Prop
  | 0, _, _ => False
  | n + 1, k, s =>
      (∃ err, outsideFault b (env k) clientItemId s = some err ∧ err.kind ≠ .integrity) ∨
        outsideFault b (env k) clientItemId s = none ∧ ∃ err t,
          attempt b (env k) clientItemId s = (.ok (.retry err), t) ∧
            FailsOutside b env clientItemId n (k + 1) t

variable {env : Nat → AttemptEnv} {n k : Nat} {last : Option DbError}

theorem attempts_broken (last : Option DbError) (h : s.working.aborted = false)
    (hfails : FailsOutside b env cid n k s) :
    ∃ err t, attempts b env cid n k last s = (.ok (.error err), t) ∧ t.working.aborted = true ∧
      Extends s t [] := by
  induction n generalizing k s last with
  | zero => exact hfails.elim
  | succ n ih =>
      have hattempt := attempt_spec b (env k) cid h
      rcases hfails with ⟨err, hfault, hkind⟩ | ⟨hfault, err, t, ht, hfails⟩
      · rw [hfault] at hattempt
        dsimp only at hattempt
        rw [if_neg hkind] at hattempt
        obtain ⟨t, ht, haborted, hextends⟩ := hattempt
        exact ⟨some err, t, Tx.bind_ok ht, haborted, hextends⟩
      · rw [hfault, ht] at hattempt
        rcases hattempt with ⟨a, t', hr, hhealthy, hkept⟩ | ⟨f, t', hr⟩
        · obtain ⟨ha, rfl⟩ := Prod.mk.inj hr
          obtain rfl := Except.ok.inj ha
          obtain ⟨err', u, hu, haborted, hextends⟩ := ih (some err) hhealthy hfails
          exact ⟨err', u, (Tx.bind_ok ht).trans hu, haborted, hkept.trans hextends⟩
        · cases congrArg Prod.fst hr

def KeptRow (s t : State Database) : Except (Option DbError) Row → Prop
  | .ok row => row.key ∈ t.working.data.keys ∧ Extends s t [row.key]
  | .error _ => Extends s t []

theorem attempts_kept (last : Option DbError) (h : s.working.aborted = false) (hfails : ¬FailsOutside b env cid n k s) :
    (∃ r t, attempts b env cid n k last s = (.ok r, t) ∧ t.working.aborted = false ∧ KeptRow s t r) ∨
      ∃ f t, attempts b env cid n k last s = (.error f, t) := by
  induction n generalizing k s last with
  | zero => exact .inl ⟨_, s, rfl, h, .refl s⟩
  | succ n ih =>
      have hattempt := attempt_spec b (env k) cid h
      cases hfault : outsideFault b (env k) cid s with
      | some err =>
          by_cases hkind : err.kind = .integrity
          · rw [hfault] at hattempt
            dsimp only at hattempt
            rw [if_pos hkind] at hattempt
            obtain ⟨f, t, ht⟩ := hattempt
            exact .inr ⟨f, t, Tx.bind_error ht⟩
          · exact absurd (.inl ⟨err, hfault, hkind⟩) hfails
      | none =>
          rw [hfault] at hattempt
          rcases hattempt with ⟨a, t, ht, hhealthy, hkept⟩ | ⟨f, t, ht⟩
          · unfold attempts
            rw [Tx.bind_ok ht]
            cases a with
            | saved row => exact .inl ⟨_, t, rfl, hhealthy, hkept⟩
            | failed err => exact .inl ⟨_, t, rfl, hhealthy, hkept⟩
            | retry err =>
                have hrest : ¬FailsOutside b env cid n (k + 1) t :=
                  fun hrest => hfails (.inr ⟨hfault, err, t, ht, hrest⟩)
                rcases ih (some err) hhealthy hrest with ⟨r, u, hu, hhealthy', hrow⟩ | hraised
                · refine .inl ⟨r, u, hu, hhealthy', ?_⟩
                  cases r with
                  | ok row => exact ⟨hrow.1, hkept.trans hrow.2⟩
                  | error => exact hkept.trans hrow
                · exact .inr hraised
          · exact .inr ⟨f, t, Tx.bind_error ht⟩

/-- What the loop knows of the rows that it lists: each is in the open
transaction, which adds no other ones. -/
structure Tracked (p : Progress) (s : State Database) : Prop where
  sub : ∀ k ∈ s.committed.data.keys, k ∈ s.working.data.keys
  listed : ∀ x ∈ p.results, x.key ∈ s.working.data.keys
  active : ∀ cid row, Lib.Dict.get p.active cid = some row → row.key ∈ s.working.data.keys
  new : ∀ k ∈ s.working.data.keys, k ∈ s.committed.data.keys ∨ ∃ x ∈ p.results, x.key = k

def Breaks (b : Batch) (p : Progress) (idx : Nat) (cid : String) (s : State Database) : Prop :=
  Lib.Dict.get p.active cid = none ∧ FailsOutside b (b.env.attempt idx) cid maxRetriesPerItem 0 s

variable {p : Progress} {idx : Nat}

omit [PyLower] in
theorem Tracked.extends (hp : Tracked p s) (h : Extends s t []) : Tracked p t := by
  constructor
  · exact h.sub hp.sub
  · exact fun x hx => h.working _ (hp.listed x hx)
  · exact fun cid row hrow => h.working _ (hp.active cid row hrow)
  · intro k hk
    rcases h.new k hk with hold | hcommitted | hown
    · exact (hp.new k hold).imp_left (h.committed k)
    · exact .inl hcommitted
    · cases hown

omit [PyLower] in
theorem Tracked.again {row : Row} (hp : Tracked p s) (hrow : row.key ∈ s.working.data.keys) :
    Tracked { p with results := p.results ++ [arkBatchResponseItem row] } s := by
  refine ⟨hp.sub, ?_, hp.active, ?_⟩
  · intro x hx
    rcases List.mem_append.mp hx with hx | hx
    · exact hp.listed x hx
    · obtain rfl := List.mem_singleton.mp hx
      exact hrow
  · intro k hk
    refine (hp.new k hk).imp_right ?_
    rintro ⟨x, hx, hkey⟩
    exact ⟨x, List.mem_append_left _ hx, hkey⟩

omit [PyLower] in
theorem Tracked.list {row : Row} (hp : Tracked p s) (h : Extends s t [row.key])
    (hrow : row.key ∈ t.working.data.keys) :
    Tracked { p with
      active := Lib.Dict.set p.active cid row
      results := p.results ++ [arkBatchResponseItem row] } t := by
  constructor
  · exact h.sub hp.sub
  · intro x hx
    rcases List.mem_append.mp hx with hx | hx
    · exact h.working _ (hp.listed x hx)
    · obtain rfl := List.mem_singleton.mp hx
      exact hrow
  · intro cid' row' hactive
    rw [Lib.Dict.get_set] at hactive
    split at hactive
    · exact Option.some.inj hactive ▸ hrow
    · exact h.working _ (hp.active cid' row' hactive)
  · intro k hk
    rcases h.new k hk with hold | hcommitted | hown
    · rcases hp.new k hold with hcommitted | ⟨x, hx, hkey⟩
      · exact .inl (h.committed k hcommitted)
      · exact .inr ⟨x, List.mem_append_left _ hx, hkey⟩
    · exact .inl hcommitted
    · obtain rfl := List.mem_singleton.mp hown
      exact .inr ⟨arkBatchResponseItem row, by simp, rfl⟩

omit [PyLower] in
theorem Tracked.note {errors : List BatchError} (hp : Tracked p s) : Tracked { p with errors := errors } s :=
  ⟨hp.sub, hp.listed, hp.active, hp.new⟩

theorem attempts_aborted (h : s.working.aborted = true) :
    attempts b env cid (n + 1) k last s = (.ok (.error (some inFailedTransaction)), s) :=
  Tx.bind_ok (attempt_aborted h)

theorem reserveItem_known {row : Row} (hknown : Lib.Dict.get p.active cid = some row) :
    reserveItem b p idx cid s =
      (.ok { p with results := p.results ++ [arkBatchResponseItem row] }, s) := by
  simp only [reserveItem, hknown]
  rfl

theorem reserveItem_new {r : Except (Option DbError) Row} (hnew : Lib.Dict.get p.active cid = none)
    (h : attempts b (b.env.attempt idx) cid maxRetriesPerItem 0 none s = (.ok r, t)) :
    reserveItem b p idx cid s = (.ok (match r with
      | .ok row => { p with
          active := Lib.Dict.set p.active cid row
          results := p.results ++ [arkBatchResponseItem row] }
      | .error last => { p with
          errors := p.errors ++ [⟨cid, (last.map (·.text)).getD "Unknown error", idx⟩] }), t) := by
  simp only [reserveItem, hnew]
  rw [Tx.bind_ok h]
  cases r <;> rfl

theorem reserveItem_aborted (b : Batch) (idx : Nat) (cid : String) (h : s.working.aborted = true) (hp : Tracked p s) :
    ∃ p', reserveItem b p idx cid s = (.ok p', s) ∧ Tracked p' s := by
  cases hknown : Lib.Dict.get p.active cid with
  | some row => exact ⟨_, reserveItem_known hknown, hp.again (hp.active cid row hknown)⟩
  | none => exact ⟨_, reserveItem_new hknown (attempts_aborted h), hp.note⟩

theorem reserveItem_broken (h : s.working.aborted = false) (hp : Tracked p s) (hbreaks : Breaks b p idx cid s) :
    ∃ p' t, reserveItem b p idx cid s = (.ok p', t) ∧ t.working.aborted = true ∧ Extends s t [] ∧
      Tracked p' t := by
  obtain ⟨err, t, ht, haborted, hextends⟩ := attempts_broken none h hbreaks.2
  exact ⟨_, t, reserveItem_new hbreaks.1 ht, haborted, hextends, (hp.extends hextends).note⟩

theorem reserveItem_kept (h : s.working.aborted = false) (hp : Tracked p s) (hbreaks : ¬Breaks b p idx cid s) :
    (∃ p' t, reserveItem b p idx cid s = (.ok p', t) ∧ t.working.aborted = false ∧ Tracked p' t) ∨
      ∃ f t, reserveItem b p idx cid s = (.error f, t) := by
  cases hknown : Lib.Dict.get p.active cid with
  | some row => exact .inl ⟨_, s, reserveItem_known hknown, h, hp.again (hp.active cid row hknown)⟩
  | none =>
      have hfails := fun hfails => hbreaks ⟨hknown, hfails⟩
      rcases attempts_kept none h hfails with ⟨r, t, ht, hhealthy, hkept⟩ | ⟨f, t, ht⟩
      · refine .inl ⟨_, t, reserveItem_new hknown ht, hhealthy, ?_⟩
        cases r with
        | ok row => exact hp.list hkept.2 hkept.1
        | error => exact (hp.extends hkept).note
      · refine .inr ⟨f, t, ?_⟩
        simp only [reserveItem, hknown]
        exact Tx.bind_error ht

variable {items : List String}

theorem reserveItems_aborted (b : Batch) (items : List String) (idx : Nat) (h : s.working.aborted = true)
    (hp : Tracked p s) :
    ∃ p', reserveItems b items idx p s = (.ok p', s) ∧ Tracked p' s := by
  induction items generalizing idx p with
  | nil => exact ⟨p, rfl, hp⟩
  | cons cid items ih =>
      obtain ⟨q, hq, hqs⟩ := reserveItem_aborted b idx cid h hp
      obtain ⟨p', hp', hps⟩ := ih (idx + 1) hqs
      exact ⟨p', (Tx.bind_ok hq).trans hp', hps⟩

def BreaksIn (b : Batch) (items : List String) (idx : Nat) (p : Progress) (s u : State Database) : Prop :=
  ∃ before cid after q, items = before ++ cid :: after ∧ reserveItems b before idx p s = (.ok q, u) ∧
    u.working.aborted = false ∧ Breaks b q (idx + before.length) cid u

theorem reserveItems_spec (b : Batch) (items : List String) (idx : Nat) (h : s.working.aborted = false)
    (hp : Tracked p s) :
    (∃ p' t, reserveItems b items idx p s = (.ok p', t) ∧ Tracked p' t ∧
      (t.working.aborted = false ∨ t.working.aborted = true ∧
        ∃ u, BreaksIn b items idx p s u ∧ Extends u t [])) ∨
      ∃ f t, reserveItems b items idx p s = (.error f, t) := by
  induction items generalizing idx p s with
  | nil => exact .inl ⟨p, s, rfl, hp, .inl h⟩
  | cons cid items ih =>
      by_cases hbreaks : Breaks b p idx cid s
      · obtain ⟨q, t, hq, haborted, hextends, hqt⟩ := reserveItem_broken h hp hbreaks
        obtain ⟨p', hp', hpt⟩ := reserveItems_aborted b items (idx + 1) haborted hqt
        refine .inl ⟨p', t, (Tx.bind_ok hq).trans hp', hpt, .inr ⟨haborted, s, ?_, hextends⟩⟩
        exact ⟨[], cid, items, p, rfl, rfl, h, hbreaks⟩
      · rcases reserveItem_kept h hp hbreaks with ⟨q, t, hq, hhealthy, hqt⟩ | ⟨f, t, hf⟩
        · rcases ih (idx + 1) hhealthy hqt with ⟨p', v, hp', hpv, hend⟩ | ⟨f, v, hf⟩
          · refine .inl ⟨p', v, (Tx.bind_ok hq).trans hp', hpv, hend.imp_right ?_⟩
            rintro ⟨haborted, u, ⟨before, cid', after, q', rfl, hbefore, hu, hbreak⟩, hextends⟩
            refine ⟨haborted, u, ⟨cid :: before, cid', after, q', rfl, (Tx.bind_ok hq).trans hbefore, hu, ?_⟩,
              hextends⟩
            rwa [List.length_cons, ← Nat.add_assoc, Nat.add_right_comm]
          · exact .inr ⟨f, v, (Tx.bind_ok hq).trans hf⟩
        · exact .inr ⟨f, t, Tx.bind_error hf⟩

theorem reserveItems_append {before after : List String} {q : Progress}
    (h : reserveItems b before idx p s = (.ok q, u)) :
    reserveItems b (before ++ after) idx p s = reserveItems b after (idx + before.length) q u := by
  induction before generalizing idx p s with
  | nil =>
      obtain ⟨hq, rfl⟩ := Prod.mk.inj h
      obtain rfl := Except.ok.inj hq
      rfl
  | cons cid before ih =>
      obtain ⟨p', t, hitem, hbefore⟩ := Tx.bind_eq_ok h
      refine ((Tx.bind_ok hitem).trans (ih hbefore)).trans ?_
      rw [List.length_cons, Nat.add_assoc, Nat.add_comm 1]

theorem reserveItems_broken (h : s.working.aborted = false) (hp : Tracked p s)
    (hbreaks : BreaksIn b items idx p s u) :
    ∃ p' t, reserveItems b items idx p s = (.ok p', t) ∧ t.working.aborted = true ∧ Extends u t [] ∧
      Tracked p' t := by
  obtain ⟨before, cid, after, q, rfl, hbefore, hhealthy, hbreak⟩ := hbreaks
  have hq : Tracked q u := by
    rcases reserveItems_spec b before idx h hp with ⟨q', u', hq', hqu, -⟩ | ⟨f, u', hf⟩
    · obtain ⟨hq, rfl⟩ := Prod.mk.inj (hbefore.symm.trans hq')
      exact Except.ok.inj hq ▸ hqu
    · cases congrArg Prod.fst (hbefore.symm.trans hf)
  obtain ⟨q', t, hitem, haborted, hextends, hqt⟩ := reserveItem_broken hhealthy hq hbreak
  obtain ⟨p', hp', hpt⟩ := reserveItems_aborted b after (idx + before.length + 1) haborted hqt
  exact ⟨p', t, (reserveItems_append hbefore).trans ((Tx.bind_ok hitem).trans hp'), haborted, hextends, hpt⟩

omit [PyLower] in
theorem commitBatch_none (s : State Database) : ∃ t, commitBatch none s = (.ok (), t) ∧
    t.committed = if s.working.aborted then s.committed else s.working := by
  cases haborted : s.working.aborted with
  | true => exact ⟨_, Tx.catching_ok (commit_aborted haborted), rfl⟩
  | false => exact ⟨_, Tx.catching_ok (commit_healthy haborted), rfl⟩

omit [PyLower] in
theorem commitBatch_some (err : DbError) (s : State Database) :
    ∃ f t, commitBatch (some err) s = (.error f, t) :=
  ⟨_, _, (Tx.catching_error (commit_fault (Failure.exc err))).trans (Tx.bind_ok rfl)⟩

def Reported (identity : Identity) (request : ReserveBatchRequest) (E : BatchEnv) (d : Database) : Prop :=
  ∀ response d', Tx.run (batchReserveArk identity request E) { data := d } = (.ok response, d') →
    ∀ x ∈ response.results, x.key ∈ d'.data.keys

def opening (d : Database) : State Database := ⟨{ data := d }, { data := d }⟩

def Batch.start (b : Batch) (request : ReserveBatchRequest) (d : Database) : Progress :=
  { active := getActiveByClientItemIds d b.authorityId b.naan request.items }

/-- A statement outside a savepoint fails when an earlier item has stored its
row, with another exception than an IntegrityError, and COMMIT raises nothing. -/
def Poisoned (identity : Identity) (request : ReserveBatchRequest) (E : BatchEnv) (d : Database) : Prop :=
  E.select = none ∧ E.commit = none ∧ ∃ b u, admitBatch identity request E = .ok b ∧
    BreaksIn b request.items 0 (Batch.start b request d) (opening d) u ∧
      ∃ k ∈ u.working.data.keys, k ∉ u.committed.data.keys

variable {identity : Identity} {request : ReserveBatchRequest} {E : BatchEnv} {d : Database}

omit [PyLower] in
theorem tracked_start (b : Batch) (request : ReserveBatchRequest) (d : Database) :
    Tracked (Batch.start b request d) (opening d) := by
  constructor
  · exact fun _ hk => hk
  · intro x hx
    cases hx
  · intro cid row hget
    exact List.mem_map_of_mem (getActive_spec (get_getActives hget)).1
  · exact fun _ hk => .inl hk

def Answers (identity : Identity) (request : ReserveBatchRequest) (E : BatchEnv) (d : Database)
    (p : Progress) (t : State Database) : Prop :=
  E.select = none ∧ E.commit = none ∧ ∃ b, admitBatch identity request E = .ok b ∧
    reserveItems b request.items 0 (Batch.start b request d) (opening d) = (.ok p, t)

theorem Answers.run (h : Answers identity request E d p t) :
    Tx.run (batchReserveArk identity request E) { data := d } =
      (.ok ⟨p.results, if p.errors = [] then none else some p.errors⟩,
        if t.working.aborted then t.committed else t.working) := by
  obtain ⟨hselect, hcommit, b, hb, hitems⟩ := h
  obtain ⟨u, hu, hcommitted⟩ := commitBatch_none t
  have hadmit : (Tx.lift (admitBatch identity request E) : Handler Batch) (opening d) = (.ok b, opening d) := by
    rw [hb]
    rfl
  have hrun : batchReserveArk identity request E (opening d) =
      (.ok ⟨p.results, if p.errors = [] then none else some p.errors⟩, u) := by
    refine (Tx.bind_ok hadmit).trans ((Tx.bind_ok (execute_ok rfl hselect rfl)).trans ?_)
    refine (Tx.bind_ok hitems).trans ?_
    rw [hcommit]
    exact Tx.bind_ok hu
  rw [← hcommitted]
  exact Tx.run_eq hrun

theorem answers_of_run {response : ARKBatchResponse} {d' : Open Database}
    (h : Tx.run (batchReserveArk identity request E) { data := d } = (.ok response, d')) :
    ∃ p t, Answers identity request E d p t := by
  obtain ⟨u, hok⟩ := Tx.run_eq_ok h
  obtain ⟨b, s₁, hb, hrest⟩ := Tx.bind_eq_ok hok
  have hadmit : admitBatch identity request E = .ok b := congrArg Prod.fst hb
  obtain rfl : opening d = s₁ := congrArg Prod.snd hb
  cases hselect : E.select with
  | some err =>
      rw [Tx.bind_error (execute_fault rfl hselect)] at hrest
      cases congrArg Prod.fst hrest
  | none =>
      rw [Tx.bind_ok (execute_ok rfl hselect rfl)] at hrest
      obtain ⟨p, t, hitems, hrest⟩ := Tx.bind_eq_ok hrest
      refine ⟨p, t, hselect, ?_, b, hadmit, hitems⟩
      cases hcommit : E.commit with
      | none => rfl
      | some err =>
          obtain ⟨f, u, hf⟩ := commitBatch_some err t
          rw [hcommit, Tx.bind_error hf] at hrest
          cases congrArg Prod.fst hrest

/-- A batch reports only what it stored, exactly when none of its items breaks
the transaction after an earlier one has stored its row. -/
theorem batch_reports_stored : Reported identity request E d ↔ ¬Poisoned identity request E d := by
  constructor
  · rintro hreported ⟨hselect, hcommit, b, u, hb, hbreaks, k, hworking, hcommitted⟩
    obtain ⟨p, t, hitems, haborted, hextends, htracked⟩ := reserveItems_broken rfl (tracked_start b request d) hbreaks
    have hrun := Answers.run ⟨hselect, hcommit, b, hb, hitems⟩
    rw [if_pos haborted] at hrun
    have hlost : k ∉ t.committed.data.keys := fun hk =>
      (hextends.fresh k hk).elim hcommitted fun hnew => hnew hworking
    rcases htracked.new k (hextends.working k hworking) with hk | ⟨x, hx, rfl⟩
    · exact hlost hk
    · exact hlost (hreported _ _ hrun x hx)
  · intro hpoisoned response d' hrun x hx
    obtain ⟨p, t, hanswers⟩ := answers_of_run hrun
    obtain ⟨hresponse, rfl⟩ := Prod.mk.inj (hrun.symm.trans hanswers.run)
    obtain rfl := Except.ok.inj hresponse
    obtain ⟨hselect, hcommit, b, hb, hitems⟩ := hanswers
    rcases reserveItems_spec b request.items 0 rfl (tracked_start b request d) with
      ⟨q, v, hq, htracked, hend⟩ | ⟨f, v, hf⟩
    · obtain ⟨hp, rfl⟩ := Prod.mk.inj (hitems.symm.trans hq)
      obtain rfl := Except.ok.inj hp
      have hlisted := htracked.listed x hx
      rcases hend with hhealthy | ⟨haborted, u, hbreaks, hextends⟩
      · rwa [if_neg (by simp [hhealthy])]
      · rw [if_pos haborted]
        rcases hextends.new _ hlisted with hold | hcommitted | hown
        · by_contra hlost
          refine hpoisoned ⟨hselect, hcommit, b, u, hb, hbreaks, x.key, hold, ?_⟩
          exact fun hk => hlost (hextends.committed _ hk)
        · exact hcommitted
        · cases hown
    · cases congrArg Prod.fst (hitems.symm.trans hf)

end

section Sample

attribute [local instance] asciiText

def identity : Identity := ⟨"A", by decide, by decide⟩

def request : ReserveBatchRequest := ⟨"A", "12345", ["item-1", "item-2"], by decide⟩

/-- PostgreSQL cancels the statement that counts for the second item. -/
def cancelled : BatchEnv where
  now := 0
  shoulder := "200"
  noidLength := 7
  checkdigit := true
  authorized := .ok true
  attempt idx _ :=
    if idx = 1 then
      { fails := fun
          | .updateCounter => some ⟨.operational, "(psycopg2.errors.QueryCanceled) canceling statement",
              "canceling statement due to statement timeout"⟩
          | _ => none }
    else {}

def listsLost : Except Failure ARKBatchResponse × Open Database → Bool
  | (.ok response, d') => response.results.map (·.clientItemId) = [some "item-1"] ∧ d'.data.records = []
  | _ => false

theorem batch_lists_lost_row : ∃ identity request E d, ¬Reported identity request E d := by
  refine ⟨identity, request, cancelled, { records := [] }, fun hreported => ?_⟩
  have hrun : listsLost (Tx.run (batchReserveArk identity request cancelled) { data := { records := [] } }) =
      true := by decide +kernel
  unfold listsLost at hrun
  split at hrun
  · rename_i response d' hanswer
    obtain ⟨hresults, hrecords⟩ := of_decide_eq_true hrun
    obtain ⟨x, hx, -⟩ := List.mem_map.mp (hresults ▸ List.mem_singleton_self (some "item-1"))
    have hstored := hreported response d' hanswer x hx
    rw [Database.keys, hrecords] at hstored
    cases hstored
  · cases hrun

end Sample

end DarkMinter.BatchReports
