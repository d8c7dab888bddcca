import DarkMinter.SignedAuth

namespace DarkMinter.AuthSteps

open Processing Encoding SignedAuth Lib.Runs

variable {C : Crypto} {S : Settings} {w w' : World} {a : Act}

/-- What a step does to the call `id`. -/
inductive Moves (C : Crypto) (S : Settings) (w w' : World) (id : Nat) :
    Act → Option Call → Option Call → Prop
  | begin (p r) : Moves C S w w' id (.begin id p r) none (some ⟨p, r, .received⟩)
  | check (p r) : Moves C S w w' id (.check id) (some ⟨p, r, .received⟩)
      (some ⟨p, r, settle .checked (checkHeaders S w.wall r)⟩)
  | read (p r q) : Moves C S w w' id (.read id) (some ⟨p, r, .checked q⟩)
      (some ⟨p, r, settle (.read q) (checkBody C r q)⟩)
  | lookup (p r q path available) : Moves C S w w' id (.lookup id available) (some ⟨p, r, .read q path⟩)
      (some ⟨p, r, settle .verified (verifyCall C S w ⟨p, r, .read q path⟩ q path available)⟩)
  | claimed (p r v cutoff outcome) (hcutoff : cutoff ≤ w.wall)
      (hfresh : ¬∃ r ∈ cleanup w.nonces (cleanupDue w p) cutoff,
        r.authorityId = v.signed.identity.authorityId ∧ r.nonce = v.signed.nonce)
      (hrows : w'.nonces = cleanup w.nonces (cleanupDue w p) cutoff ++ [v.signed.row S]) :
      Moves C S w w' id (.claim id cutoff outcome) (some ⟨p, r, .verified v⟩) (some ⟨p, r, .claimed v w.wall⟩)
  | unclaimed (p r v cutoff outcome e) :
      Moves C S w w' id (.claim id cutoff outcome) (some ⟨p, r, .verified v⟩) (some ⟨p, r, .refused e⟩)
  | store (p r v t) : Moves C S w w' id (.store id) (some ⟨p, r, .claimed v t⟩) (some ⟨p, r, .accepted v t⟩)
  | restart (p r phase) : Moves C S w w' id (.restart p) (some ⟨p, r, phase⟩) (some ⟨p, r, phase.lost⟩)

theorem claimCall_calls {id j p : Nat} {r : Request} {v : Verified} {cutoff : Time} {outcome : Outcome} :
    (claimCall S w id ⟨p, r, .verified v⟩ v cutoff outcome).calls j =
      if j = id then
        match (claimNonce w.nonces (cleanupDue w p) cutoff (v.signed.row S) outcome).1 with
        | .ok () => some ⟨p, r, .claimed v w.wall⟩
        | .error e => some ⟨p, r, .refused e⟩
      else w.calls j := by
  cases hclaim : (claimNonce w.nonces (cleanupDue w p) cutoff (v.signed.row S) outcome).1 with
  | error e => simp [claimCall, hclaim]
  | ok u =>
      simp only [claimCall, hclaim, World.setPhase_calls]
      split
      · rfl
      · split <;> rfl

theorem claimCall_frame {id p : Nat} {r : Request} {v : Verified} {cutoff : Time} {outcome : Outcome} :
    let w' := claimCall S w id ⟨p, r, .verified v⟩ v cutoff outcome
    w'.nonces = (claimNonce w.nonces (cleanupDue w p) cutoff (v.signed.row S) outcome).2 ∧
      w'.wall = w.wall ∧ w'.registry = w.registry ∧
        ∀ q, (w'.processes q).cache = (w.processes q).cache := by
  cases hclaim : (claimNonce w.nonces (cleanupDue w p) cutoff (v.signed.row S) outcome).1 with
  | error e => simp [claimCall, hclaim]
  | ok u =>
      simp only [claimCall, hclaim]
      split
      · refine ⟨rfl, rfl, rfl, ?_⟩
        intro q
        by_cases hq : q = p <;> simp [hq]
      · exact ⟨rfl, rfl, rfl, fun q => rfl⟩

/-- The steps, each with the call that it finds. -/
inductive Steps (C : Crypto) (S : Settings) (w : World) : Act → World → Prop
  | tick (dt : Nat) : Steps C S w (.tick dt) { w with wall := w.wall + dt }
  | tickMonotonic (p dt : Nat) : Steps C S w (.tickMonotonic p dt)
      { w with monotonic := Function.update w.monotonic p (w.monotonic p + dt) }
  | register (authority : String) (registered : Option (Bytes × Bool)) : Steps C S w (.register authority registered)
      { w with registry := Function.update w.registry authority registered }
  | begin (id p r) (hcall : w.calls id = none) :
      Steps C S w (.begin id p r) (w.setPhase id ⟨p, r, .received⟩ .received)
  | check (id p r) (hcall : w.calls id = some ⟨p, r, .received⟩) : Steps C S w (.check id)
      (w.setPhase id ⟨p, r, .received⟩ (settle .checked (checkHeaders S w.wall r)))
  | read (id p r q) (hcall : w.calls id = some ⟨p, r, .checked q⟩) : Steps C S w (.read id)
      (w.setPhase id ⟨p, r, .checked q⟩ (settle (.read q) (checkBody C r q)))
  | lookup (id p r q path available) (hcall : w.calls id = some ⟨p, r, .read q path⟩) :
      Steps C S w (.lookup id available) (w.setPhase id ⟨p, r, .read q path⟩
        (settle .verified (verifyCall C S w ⟨p, r, .read q path⟩ q path available)))
  | claim (id p r v cutoff outcome) (hcall : w.calls id = some ⟨p, r, .verified v⟩) (hcutoff : cutoff ≤ w.wall) :
      Steps C S w (.claim id cutoff outcome) (claimCall S w id ⟨p, r, .verified v⟩ v cutoff outcome)
  | store (id p r v t) (hcall : w.calls id = some ⟨p, r, .claimed v t⟩) :
      Steps C S w (.store id) (storeCall w id ⟨p, r, .claimed v t⟩ v t)
  | restart (p : Nat) : Steps C S w (.restart p) { w.setProcess p {} with
      calls := fun id => (w.calls id).map fun c => if c.process = p then { c with phase := c.phase.lost } else c }

theorem step_steps (h : step C S w a = some w') : Steps C S w a w' := by
  cases a with
  | tick | tickMonotonic | register | restart =>
      obtain rfl := Option.some.inj h
      constructor
  | begin | check | read | lookup | store =>
      simp only [step] at h
      split at h
      · obtain rfl := Option.some.inj h
        constructor
        assumption
      · cases h
  | claim =>
      simp only [step] at h
      split at h
      · split at h
        · obtain rfl := Option.some.inj h
          exact .claim _ _ _ _ _ _ ‹_› ‹_›
        · cases h
      · cases h

theorem step_calls (h : step C S w a = some w') (id : Nat) :
    w'.calls id = w.calls id ∨ Moves C S w w' id a (w.calls id) (w'.calls id) := by
  cases step_steps h with
  | tick | tickMonotonic | register => exact .inl rfl
  | begin j p r hcall =>
      by_cases hj : id = j
      · subst hj
        refine .inr ?_
        simpa [hcall] using Moves.begin p r
      · simp [hj]
  | check j p r hcall =>
      by_cases hj : id = j
      · subst hj
        refine .inr ?_
        simpa [hcall] using Moves.check p r
      · simp [hj]
  | read j p r q hcall =>
      by_cases hj : id = j
      · subst hj
        refine .inr ?_
        simpa [hcall] using Moves.read p r q
      · simp [hj]
  | lookup j p r q path available hcall =>
      by_cases hj : id = j
      · subst hj
        refine .inr ?_
        simpa [hcall] using Moves.lookup p r q path available
      · simp [hj]
  | claim j p r v cutoff outcome hcall hcutoff =>
      by_cases hj : id = j
      · subst hj
        rw [claimCall_calls, if_pos rfl, hcall]
        refine .inr ?_
        split
        · rename_i hclaim
          obtain ⟨hfresh, hrows⟩ := claimNonce_ok hclaim
          exact .claimed _ _ _ _ _ hcutoff hfresh (claimCall_frame.1.trans hrows)
        · exact .unclaimed _ _ _ _ _ _
      · rw [claimCall_calls, if_neg hj]
        exact .inl rfl
  | store j p r v t hcall =>
      by_cases hj : id = j
      · subst hj
        refine .inr ?_
        simpa [hcall, storeCall] using Moves.store p r v t
      · simp [hj, storeCall]
  | restart p =>
      rcases hcall : w.calls id with _ | ⟨q, r, phase⟩
      · simp [hcall]
      · by_cases hq : q = p
        · subst hq
          refine .inr ?_
          simpa [hcall] using Moves.restart _ _ _
        · simp [hcall, hq]

theorem step_wall (h : step C S w a = some w') : w.wall ≤ w'.wall := by
  cases step_steps h with
  | tick dt => exact Int.le_add_of_nonneg_right (Int.natCast_nonneg dt)
  | claim => exact claimCall_frame.2.1.ge
  | tickMonotonic | register | restart | begin | check | read | lookup | store => exact le_rfl

theorem step_nonces (h : step C S w a = some w') : w'.nonces = w.nonces ∨
    ∃ id p r v cutoff outcome, a = .claim id cutoff outcome ∧ w.calls id = some ⟨p, r, .verified v⟩ ∧
      cutoff ≤ w.wall ∧
        w'.nonces = (claimNonce w.nonces (cleanupDue w p) cutoff (v.signed.row S) outcome).2 := by
  cases step_steps h with
  | claim id p r v cutoff outcome hcall hcutoff =>
      exact .inr ⟨id, p, r, v, cutoff, outcome, rfl, hcall, hcutoff, claimCall_frame.1⟩
  | tick | tickMonotonic | register | restart | begin | check | read | lookup | store => exact .inl rfl

theorem step_registry (h : step C S w a = some w') : w'.registry = w.registry ∨
    ∃ authority registered, a = .register authority registered ∧
      w'.registry = Function.update w.registry authority registered := by
  cases step_steps h with
  | register authority registered => exact .inr ⟨authority, registered, rfl, rfl⟩
  | claim => exact .inl claimCall_frame.2.2.1
  | tick | tickMonotonic | restart | begin | check | read | lookup | store => exact .inl rfl

theorem step_cache (h : step C S w a = some w') (p : Nat) :
    (w'.processes p).cache = (w.processes p).cache ∨ (w'.processes p).cache = [] ∨
      ∃ id r v t, a = .store id ∧ w.calls id = some ⟨p, r, .claimed v t⟩ ∧
        (w'.processes p).cache = storeKey (w.processes p).cache v.signed.identity.authorityId
          ⟨v.key, v.active, w.monotonic p⟩ := by
  cases step_steps h with
  | tick | tickMonotonic | register | begin | check | read | lookup => exact .inl rfl
  | claim => exact .inl (claimCall_frame.2.2.2 p)
  | store id q r v t hcall =>
      by_cases hq : p = q
      · subst hq
        exact .inr (.inr ⟨id, r, v, t, rfl, hcall, by simp [storeCall]⟩)
      · exact .inl (by simp [storeCall, hq])
  | restart q =>
      by_cases hq : p = q
      · exact .inr (.inl (by simp [hq]))
      · exact .inl (by simp [hq])

end DarkMinter.AuthSteps
