import DarkMinter.Atomicity

namespace DarkMinter.RepeatedDelete

open Text Processing Records Repository Authority ArkApi Requests Atomicity Lib.Transaction

/-- The same DELETE again: under the same settings, with the same answers of the chain, and on a
database whose statements succeed. -/
structure Repeats (E E' : DeleteEnv) : Prop where
  checkdigit : E'.checkdigit = E.checkdigit
  ownerAgain : E'.ownerAgain = E.ownerAgain
  fails : ∀ statement, E'.fails statement = none

/-- The ARK of the authority is not published yet, and the chain has no record of it. -/
def OffChain (identity : Identity) (E : DeleteEnv) (c : Cell) : Prop :=
  ∃ r, c.record = some r ∧ r.authorityId = identity.authorityId ∧ (r.state = .reserved ∨ r.state = .draft) ∧
    ∃ e, E.ownerAgain.ark = .error e ∧ e.cls = .arkNotFound

section

variable [PyLower] {identity : Identity} {k : ArkId} {E E' : DeleteEnv} {c c' : Cell} {reads : OwnerReads}

omit [PyLower] in
theorem enforceAuthorityMatch_own (identity : Identity) :
    enforceAuthorityMatch identity identity.authorityId = .ok identity.authorityId := by
  have hclean : cleanAuthorityId identity.authorityId = some identity.authorityId := by
    simp only [cleanAuthorityId, identity.stripped]
    exact if_neg identity.nonempty
  simp only [enforceAuthorityMatch, hclean, if_true]

omit [PyLower] in
theorem execute_ok {statement : Statement} {s : Session Cell} (h : E.fails statement = none) :
    execute E.fails statement s = (.ok (), s) := by
  simp only [execute, h]
  rfl

omit [PyLower] in
theorem applying_ok {f : Cell → Except Exc Cell} {s : Session Cell} (h : f s.working = .ok c') :
    applying f s = (.ok (), { s with working := c' }) := by
  have hlift : Tx.lift ((f s.working).mapError Raised.exc) s = (.ok c', s) := by
    rw [h]
    rfl
  exact (Tx.bind_ok (x := Tx.read) rfl).trans (Tx.bind_ok hlift)

theorem requireCurrentOwner_allowing {current : Option ARKInfo} (h : requireCurrentOwner reads true = .ok current) :
    requireCurrentOwner reads false = .ok current ∨ ∃ e, reads.ark = .error e ∧ e.cls = .arkNotFound := by
  cases current with
  | some current =>
      exact .inl (requireCurrentOwner_some.mpr (requireCurrentOwner_some.mp h))
  | none =>
      unfold requireCurrentOwner at h
      cases hark : reads.ark with
      | error e =>
          by_cases hcls : e.cls = .arkNotFound
          · exact .inr ⟨e, rfl, hcls⟩
          · simp only [hark, hcls, if_false] at h
            repeat' split at h
            all_goals cases h
      | ok info =>
          simp only [hark] at h
          repeat' split at h
          all_goals cases h

theorem requireCurrentOwner_missing {e : Exc} (hark : reads.ark = .error e) (hcls : e.cls = .arkNotFound)
    (current : Option ARKInfo) : requireCurrentOwner reads false ≠ .ok current := by
  intro h
  unfold requireCurrentOwner at h
  simp only [hark, hcls, if_true, Bool.false_eq_true, if_false] at h
  repeat' split at h
  all_goals cases h

theorem delete_tombstone {r : ARKRecord} (hr : c.record = some r) (hstate : r.state = .tombstone)
    (hA : r.authorityId = identity.authorityId) (hcheck : validateArkCheckdigit E.checkdigit k = .ok ())
    (hfails : ∀ statement, E.fails statement = none) :
    delete identity k E c = ((requireCurrentOwner E.ownerAgain false).map fun _ => (), c) := by
  have hmatch : enforceAuthorityMatch identity r.authorityId = .ok identity.authorityId := by
    rw [hA]
    exact enforceAuthorityMatch_own identity
  have happlied : updateToTombstone k.ark E.now c = .ok c := by
    simp only [updateToTombstone, hr, if_pos hstate]
  have hmissing : decide (r.state ∈ [ARKState.reserved, .draft]) = false := by
    rw [hstate]
    rfl
  have hreclaim : reclaim E.fails E.now E.owner identity.authorityId r none ⟨c, c⟩ = (.ok none, ⟨c, c⟩) := by
    rw [reclaim, if_neg (not_not.mpr hA)]
    rfl
  have hlift : ∀ {α : Type} {result value : Except Raised α}, result = value →
      Tx.lift result (⟨c, c⟩ : Session Cell) = (value, ⟨c, c⟩) := by
    rintro α _ _ rfl
    rfl
  have hread : Tx.read (⟨c, c⟩ : Session Cell) = ((.ok c : Except Raised Cell), ⟨c, c⟩) := rfl
  refine Tx.run_eq (x := deleteArk identity k E) (t := ⟨c, c⟩) ?_
  rw [deleteArk, Tx.bind_ok (hlift hcheck), Tx.bind_ok (execute_ok (hfails _)), Tx.bind_ok hread]
  simp only [hr]
  rw [Tx.bind_ok hreclaim, Tx.bind_ok hread]
  simp only [hr]
  rw [Tx.bind_ok (hlift hmatch), hmissing]
  cases howner : requireCurrentOwner E.ownerAgain false with
  | error raised => exact Tx.bind_error (hlift rfl)
  | ok current =>
      rw [Tx.bind_ok (hlift rfl)]
      refine Tx.catching_ok ?_
      rw [Tx.bind_ok (execute_ok (hfails _)), Tx.bind_ok (applying_ok happlied), Tx.bind_ok (execute_ok (hfails _))]
      rfl

theorem delete_ok (h : delete identity k E c = (.ok (), c')) :
    validateArkCheckdigit E.checkdigit k = .ok () ∧ Tombstoned k identity.authorityId E c c' := by
  obtain ⟨t, ht⟩ := Tx.run_eq_ok h
  obtain ⟨_, _, hcheck, -⟩ := Tx.bind_eq_ok ht
  refine ⟨(Prod.mk.inj hcheck).1, ?_⟩
  rcases delete_cases h with ⟨-, htombstoned⟩ | ⟨⟨_, herror⟩, -⟩
  · exact htombstoned
  · cases herror

theorem owner_again (h : Tombstoned k identity.authorityId E c c') :
    (∃ current, requireCurrentOwner E.ownerAgain false = .ok current) ↔ ¬OffChain identity E c := by
  obtain ⟨b, r, current, hbase, hr, howner, -⟩ := h
  constructor
  · rintro ⟨again, hagain⟩ ⟨_, _, _, _, e, hark, hcls⟩
    exact requireCurrentOwner_missing hark hcls again hagain
  · intro hoff
    by_cases hmissing : r.state ∈ [ARKState.reserved, .draft]
    · rw [decide_eq_true hmissing] at howner
      refine (requireCurrentOwner_allowing howner).elim (fun h => ⟨current, h⟩) fun hark => ?_
      cases hbase with
      | own hown hA =>
          obtain rfl := Option.some.inj (hr.symm.trans hown)
          exact absurd ⟨r, hr, hA, by simpa using hmissing, hark⟩ hoff
      | reclaimed =>
          obtain rfl := Option.some.inj hr
          simp at hmissing
    · exact ⟨current, decide_eq_false hmissing ▸ howner⟩

omit [PyLower] in
theorem updateToTombstone_ok {b : Cell} {r : ARKRecord} {ark : String} {now : Time} (hr : b.record = some r)
    (h : updateToTombstone ark now b = .ok c') :
    ∃ r', c'.record = some r' ∧ r'.state = .tombstone ∧ r'.authorityId = r.authorityId := by
  simp only [updateToTombstone, hr] at h
  split at h
  · obtain rfl := Except.ok.inj h
    exact ⟨r, hr, ‹_›, rfl⟩
  · obtain rfl := Except.ok.inj h
    exact ⟨_, rfl, rfl, rfl⟩

theorem tombstoned_own (h : Tombstoned k identity.authorityId E c c') :
    ∃ r, c'.record = some r ∧ r.state = .tombstone ∧ r.authorityId = identity.authorityId := by
  obtain ⟨b, r, -, hbase, hr, -, hupdate⟩ := h
  obtain ⟨r', hr', hA⟩ := hbase.record
  obtain rfl := Option.some.inj (hr.symm.trans hr')
  exact hA ▸ updateToTombstone_ok hr hupdate

theorem delete_again (h : delete identity k E c = (.ok (), c')) (hrep : Repeats E E') :
    delete identity k E' c' = (.ok (), c') ↔ ¬OffChain identity E c := by
  obtain ⟨hcheck, htombstoned⟩ := delete_ok h
  obtain ⟨r, hr, hstate, hA⟩ := tombstoned_own htombstoned
  rw [delete_tombstone hr hstate hA (hrep.checkdigit ▸ hcheck) hrep.fails, hrep.ownerAgain, ← owner_again htombstoned]
  cases requireCurrentOwner E.ownerAgain false with
  | ok current => exact ⟨fun _ => ⟨current, rfl⟩, fun _ => rfl⟩
  | error raised => exact ⟨fun h => absurd (Prod.mk.inj h).1 nofun, fun ⟨_, h⟩ => by cases h⟩

variable {parse : String → Option ArkId} {assigned : String → Bool} {arrival : Arrival} {tables tables' : Tables}

theorem deleteRequest_ok (h : deleteRequest parse assigned arrival E tables = (.ok (), tables')) :
    ∃ identity k c', dependencies parse false assigned arrival = .ok (identity, k) ∧
      delete identity k E (tables k) = (.ok (), c') ∧ tables' = Function.update tables k c' := by
  unfold deleteRequest at h
  split at h
  · cases (Prod.mk.inj h).1
  · rename_i identity k hdependencies
    obtain ⟨hres, rfl⟩ := Prod.mk.inj h
    exact ⟨identity, k, _, hdependencies, Prod.ext hres rfl, rfl⟩

def RequestOffChain (parse : String → Option ArkId) (assigned : String → Bool) (arrival : Arrival) (E : DeleteEnv)
    (tables : Tables) : Prop :=
  ∃ identity k, dependencies parse false assigned arrival = .ok (identity, k) ∧ OffChain identity E (tables k)

/-- A DELETE that has succeeded succeeds again, and leaves every row as it is, exactly where it was
not of an unpublished ARK that the chain has no record of. -/
theorem delete_idempotent_iff (h : deleteRequest parse assigned arrival E tables = (.ok (), tables'))
    (hrep : Repeats E E') :
    deleteRequest parse assigned arrival E' tables' = (.ok (), tables') ↔
      ¬RequestOffChain parse assigned arrival E tables := by
  obtain ⟨identity, k, c', hdependencies, hdelete, rfl⟩ := deleteRequest_ok h
  have hoff : RequestOffChain parse assigned arrival E tables ↔ OffChain identity E (tables k) := by
    constructor
    · rintro ⟨identity', k', hdependencies', hoff⟩
      obtain ⟨rfl, rfl⟩ := Prod.mk.inj (Except.ok.inj (hdependencies.symm.trans hdependencies'))
      exact hoff
    · exact fun hoff => ⟨identity, k, hdependencies, hoff⟩
  rw [hoff, ← delete_again hdelete hrep, deleteRequest, hdependencies]
  simp only [onArk, Function.update_self, Function.update_idem]
  constructor
  · intro hagain
    obtain ⟨hres, hrows⟩ := Prod.mk.inj hagain
    have hcell := congrFun hrows k
    rw [Function.update_self, Function.update_self] at hcell
    exact Prod.ext hres hcell
  · intro hagain
    rw [hagain]

end

section Sample

attribute [local instance] asciiText

open Deployment.Sample

def rows (state : ARKState) : Tables := fun _ =>
  { record := some { state, authorityId := "A", createdAt := 0, updatedAt := 0 } }

def send (E : DeleteEnv) (tables : Tables) : Except Raised Unit × Tables :=
  deleteRequest (fun _ => some ark) (fun _ => true) arrival E tables

theorem repeats_later {E : DeleteEnv} {now : Time} (h : E.fails = fun _ => none) : Repeats E { E with now } :=
  ⟨rfl, rfl, congrFun h⟩

theorem delete_idempotent_published :
    ∃ tables, send deleteEnv (rows .published) = (.ok (), tables) ∧
      send { deleteEnv with now := 6 } tables = (.ok (), tables) := by
  have h : send deleteEnv (rows .published) = (.ok (), (send deleteEnv (rows .published)).2) := rfl
  refine ⟨_, h, (delete_idempotent_iff h (repeats_later rfl)).mpr ?_⟩
  rintro ⟨_, _, -, _, -, -, -, e, hark, -⟩
  cases hark

def unpublished : DeleteEnv :=
  { deleteEnv with ownerAgain := ⟨.ok ⟨"w", true⟩, .error ⟨.arkNotFound, ""⟩, .ok true⟩ }

/-- The first DELETE of a reserved ARK succeeds and the second is refused. -/
theorem delete_refused_again :
    ∃ tables, send unpublished (rows .reserved) = (.ok (), tables) ∧
      ((tables ark).record.map fun r => (r.state, r.tombstonedAt)) = some (.tombstone, some 5) ∧
      send { unpublished with now := 6 } tables = (.error (.http 409 "CHAIN_RECORD_MISSING"), tables) := by
  refine ⟨(send unpublished (rows .reserved)).2, rfl, rfl, ?_⟩
  rw [send, deleteRequest]
  exact Prod.ext rfl (Function.update_eq_self ..)

end Sample

end DarkMinter.RepeatedDelete
