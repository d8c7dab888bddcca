import DarkMinter.AuthSteps

namespace DarkMinter.KeyRotation

open Processing Encoding SignedAuth AuthSteps Lib.Runs

section

variable {C : Crypto} {S : Settings} {w₀ w₁ w w' : World} {a : Act} {i p : Nat} {A : String} {K K' : Bytes}

/-- The process of a call, and the signature that it has verified. Calls
refused later do not count. -/
def verifiedOf (w : World) (i : Nat) : Option (Nat × Verified) :=
  (w.calls i).bind fun c => match c.phase with
    | .verified v | .claimed v _ | .accepted v _ => some (c.process, v)
    | _ => none

/-- The call has looked its key up in the process `p`, and is signed by `A` with the key `K`. -/
def LookedUp (w : World) (p : Nat) (A : String) (K : Bytes) (i : Nat) : Prop :=
  ∃ v, verifiedOf w i = some (p, v) ∧ v.signed.identity.authorityId = A ∧ v.key = K

def Accepted (w : World) (p : Nat) (A : String) (K : Bytes) (i : Nat) : Prop :=
  ∃ r v t, w.calls i = some ⟨p, r, .accepted v t⟩ ∧ v.signed.identity.authorityId = A ∧ v.key = K

def Retired (w₁ w : World) (p : Nat) (A : String) (K : Bytes) : Prop :=
  ∀ i, Accepted w p A K i → LookedUp w₁ p A K i

def Forward (A : String) (K : Bytes) (_ : World) (a : Act) : Prop :=
  ∀ active, a ≠ .register A (some (K, active))

def Restores (w₁ : World) (p : Nat) (A : String) (K : Bytes) (a : Act) : Prop :=
  ∃ i, a = .store i ∧ LookedUp w₁ p A K i

theorem Accepted.lookedUp (h : Accepted w p A K i) : LookedUp w p A K i := by
  obtain ⟨r, v, t, hcall, hv⟩ := h
  exact ⟨v, by simp [verifiedOf, hcall], hv⟩

theorem lookup_key {cache : List (String × Entry)} {now : Time} {q : Signed}
    {registry : Except AuthError (Bytes × Bool)} {key : Bytes} {active : Bool}
    (h : lookup C S cache now q registry = .ok (key, active)) :
    (∃ e, Lib.Dict.get cache q.identity.authorityId = some e ∧ e.key = key) ∨
      registry = .ok (key, active) := by
  unfold lookup at h
  split at h
  · rename_i e he
    split at h
    · obtain ⟨rfl, -⟩ : e.key = key ∧ e.active = active := by simpa using h
      exact .inl ⟨e, he, rfl⟩
    · exact .inr h
  · exact .inr h

theorem getAuthorityAuth_key {registered : Option (Bytes × Bool)} {available : Bool} {k : Bytes × Bool}
    (h : getAuthorityAuth registered available = .ok k) : registered = some k := by
  cases available with
  | false => cases h
  | true =>
      cases registered with
      | none => cases h
      | some k' => exact congrArg some (Except.ok.inj h)

theorem verifyCall_key {c : Call} {q : Signed} {path : String} {available : Bool} {v : Verified}
    (h : verifyCall C S w c q path available = .ok v) : v.signed = q ∧
      ((∃ e, Lib.Dict.get (w.processes c.process).cache q.identity.authorityId = some e ∧ e.key = v.key) ∨
        ∃ active, w.registry q.identity.authorityId = some (v.key, active)) := by
  unfold verifyCall at h
  cases hlookup : lookup C S (w.processes c.process).cache (w.monotonic c.process) q
      (getAuthorityAuth (w.registry q.identity.authorityId) available) with
  | error e => simp [hlookup, bind, Except.bind] at h
  | ok k =>
      obtain ⟨key, active⟩ := k
      cases hcheck : checkKey C S c.request q path key active with
      | error e => simp [hlookup, hcheck, bind, Except.bind] at h
      | ok =>
          obtain rfl : ⟨q, key, active⟩ = v := by
            simpa [hlookup, hcheck, bind, Except.bind, pure, Except.pure] using h
          refine ⟨rfl, ?_⟩
          rcases lookup_key hlookup with hcached | hregistry
          · exact .inl hcached
          · exact .inr ⟨active, getAuthorityAuth_key hregistry⟩

theorem get_storeKey {cache : List (String × Entry)} {B : String} {e e' : Entry}
    (h : Lib.Dict.get (storeKey cache B e) A = some e') :
    B = A ∧ e = e' ∨ Lib.Dict.get cache A = some e' := by
  unfold storeKey at h
  by_cases hB : B = A
  · subst hB
    exact .inl ⟨rfl, by split at h <;> simpa using h⟩
  · refine .inr ?_
    split at h
    · exact Lib.Dict.get_evict (by simpa [hB] using h)
    · simpa [hB] using h

theorem storeKey_get (cache : List (String × Entry)) (e : Entry) :
    Lib.Dict.get (storeKey cache A e) A = some e := by
  unfold storeKey
  split <;> simp

theorem lookedUp_step (h : step C S w a = some w') (hi : LookedUp w' p A K i) :
    LookedUp w p A K i ∨ (∃ e, Lib.Dict.get (w.processes p).cache A = some e ∧ e.key = K) ∨
      ∃ active, w.registry A = some (K, active) := by
  obtain ⟨v, hv, rfl, rfl⟩ := hi
  unfold LookedUp verifiedOf at *
  rcases step_calls h i with hsame | hmoves
  · exact .inl ⟨v, hsame ▸ hv, rfl, rfl⟩
  · generalize w.calls i = c at hmoves ⊢
    generalize w'.calls i = c' at hmoves hv
    cases hmoves with
    | begin | unclaimed => cases hv
    | check q r => cases hcheck : checkHeaders S w.wall r <;> simp [settle, hcheck] at hv
    | read q r signed => cases hbody : checkBody C r signed <;> simp [settle, hbody] at hv
    | lookup q r signed path available =>
        cases hverify : verifyCall C S w ⟨q, r, .read signed path⟩ signed path available with
        | error e => simp [settle, hverify] at hv
        | ok u =>
            obtain ⟨rfl, rfl⟩ : q = p ∧ u = v := by simpa [settle, hverify] using hv
            obtain ⟨rfl, hkey⟩ := verifyCall_key hverify
            exact .inr hkey
    | claimed | store => exact .inl ⟨v, hv, rfl, rfl⟩
    | restart q r phase =>
        cases phase with
        | accepted => exact .inl ⟨v, hv, rfl, rfl⟩
        | _ => cases hv

/-- The key `K` is neither cached nor registered, and no call has looked it up since `w₁`. -/
structure Gone (w₁ : World) (p : Nat) (A : String) (K : Bytes) (w : World) : Prop where
  cache : ∀ e, Lib.Dict.get (w.processes p).cache A = some e → e.key ≠ K
  registry : ∀ active, w.registry A ≠ some (K, active)
  calls : ∀ i, LookedUp w p A K i → LookedUp w₁ p A K i

theorem gone_step (hI : Gone w₁ p A K w) (hback : Forward A K w a) (hrestore : ¬Restores w₁ p A K a)
    (h : step C S w a = some w') : Gone w₁ p A K w' := by
  constructor
  · intro e he hK
    rcases step_cache h p with hsame | hempty | ⟨i, r, v, t, rfl, hcall, hstored⟩
    · exact hI.cache e (hsame ▸ he) hK
    · rw [hempty] at he
      cases he
    · rw [hstored] at he
      rcases get_storeKey he with ⟨hA, rfl⟩ | hold
      · exact hrestore ⟨i, rfl, hI.calls i ⟨v, by simp [verifiedOf, hcall], hA, hK⟩⟩
      · exact hI.cache e hold hK
  · intro active
    rcases step_registry h with hsame | ⟨authority, registered, rfl, hregistry⟩
    · rw [hsame]
      exact hI.registry active
    · rw [hregistry]
      by_cases hA : A = authority
      · subst hA
        rw [Function.update_self]
        rintro rfl
        exact hback active rfl
      · rw [Function.update_of_ne hA]
        exact hI.registry active
  · intro i hi
    rcases lookedUp_step h hi with hold | ⟨e, he, hK⟩ | ⟨active, hregistry⟩
    · exact hI.calls i hold
    · exact absurd hK (hI.cache e he)
    · exact absurd hregistry (hI.registry active)

theorem store_cached (h : step C S w₀ (.store i) = some w₁) (hi : Accepted w₁ p A K' i) :
    ∃ e, Lib.Dict.get (w₁.processes p).cache A = some e ∧ e.key = K' := by
  obtain ⟨r, v, t, hcall, rfl, rfl⟩ := hi
  simp only [step] at h
  split at h
  · obtain rfl := Option.some.inj h
    obtain ⟨rfl, rfl, rfl, rfl⟩ := by simpa [storeCall] using hcall
    exact ⟨_, by simpa [storeCall] using storeKey_get _ _, rfl⟩
  · cases h

/-- Once a request signed with the new key is accepted, no request whose lookup
comes later is accepted on the old key: unless a call that had looked the old
key up before stores it again. -/
theorem key_retired (hstore : step C S w₀ (.store i) = some w₁) (hnew : Accepted w₁ p A K' i) (hK : K' ≠ K)
    (hmoved : ∀ active, w₁.registry A ≠ some (K, active))
    (h : Reach (step C S) (fun w a => Forward A K w a ∧ ¬Restores w₁ p A K a) w₁ w) :
    Retired w₁ w p A K := by
  have hgone : Gone w₁ p A K w := by
    refine h.invariant ⟨?_, hmoved, fun _ hi => hi⟩ ?_
    · obtain ⟨e, he, hkey⟩ := store_cached hstore hnew
      intro e' he'
      obtain rfl := Option.some.inj (he.symm.trans he')
      exact hkey ▸ hK
    · intro s a t hI hg hs
      exact gone_step hI hg.1 hg.2 hs
  exact fun j hj => hgone.calls j hj.lookedUp

end

section Sample

open Sample

def rotation : List Act :=
  arrive 0 first ++ [.register authority (some (key₂, true))] ++ arrive 1 rotated ++
    [.claim 1 (seconds 1700000000) .committed]

def restored : List Act :=
  finish 0 (seconds 1700000000) ++ arrive 2 stale ++ finish 2 (seconds 1700000000)

def isAccepted (w : World) (key : Bytes) (i : Nat) : Bool :=
  match w.calls i with
  | some ⟨p, _, .accepted v _⟩ => p = 0 ∧ v.signed.identity.authorityId = authority ∧ v.key = key
  | _ => false

theorem accepted_of_isAccepted {w : World} {key : Bytes} {i : Nat} (h : isAccepted w key i = true) :
    Accepted w 0 authority key i := by
  unfold isAccepted at h
  split at h
  · rename_i r v t hcall
    obtain ⟨rfl, hv⟩ := of_decide_eq_true h
    exact ⟨r, v, t, hcall, hv⟩
  · cases h

def Rotated (w₀ w₁ : World) : Prop :=
  Reach (step crypto settings) Free start w₀ ∧ step crypto settings w₀ (.store 1) = some w₁ ∧
    Accepted w₁ 0 authority key₂ 1 ∧ key₂ ≠ key₁ ∧
      (∀ active, w₁.registry authority ≠ some (key₁, active)) ∧ w₁.calls 2 = none

theorem rotation_runs : ∃ w₀ w₁, Rotated w₀ w₁ ∧
    (∃ w, run (step crypto settings) (arrive 2 stale) w₁ = some w) ∧
      ∃ w, run (step crypto settings) restored w₁ = some w ∧ Accepted w 0 authority key₁ 2 := by
  have hrun : ((run (step crypto settings) (rotation ++ [.store 1]) start).any fun w₁ =>
      isAccepted w₁ key₂ 1 ∧ w₁.registry authority = some (key₂, true) ∧ (w₁.calls 2).isNone ∧
        (run (step crypto settings) (arrive 2 stale) w₁).isSome ∧
          (run (step crypto settings) restored w₁).any fun w => isAccepted w key₁ 2) = true := by
    decide +kernel
  obtain ⟨w₁, hw₁, hobserved⟩ := (Option.any_eq_true _ _).mp hrun
  obtain ⟨hnew, hregistry, hunborn, hlater, hrestored⟩ := of_decide_eq_true hobserved
  obtain ⟨w₀, hw₀, hstore⟩ := run_concat hw₁
  have hkeys : key₂ ≠ key₁ := by decide +kernel
  refine ⟨w₀, w₁, ⟨run_reach hw₀, hstore, accepted_of_isAccepted hnew, hkeys, ?_, ?_⟩, ?_, ?_⟩
  · intro active h
    rw [hregistry] at h
    exact hkeys (congrArg Prod.fst (Option.some.inj h))
  · simpa using hunborn
  · exact Option.isSome_iff_exists.mp hlater
  · obtain ⟨w, hw, haccepted⟩ := (Option.any_eq_true _ _).mp hrestored
    exact ⟨w, hw, accepted_of_isAccepted haccepted⟩

/-- The call in flight stores the old key again, and a call that begins only
after that is accepted on it. -/
theorem old_key_restored : ∃ C S w w₀ w₁ w₂ i p A K K', (∀ id, World.calls w id = none) ∧
    Reach (step C S) Free w w₀ ∧ step C S w₀ (.store i) = some w₁ ∧ Accepted w₁ p A K' i ∧ K' ≠ K ∧
      (∀ active, w₁.registry A ≠ some (K, active)) ∧ Reach (step C S) (Forward A K) w₁ w₂ ∧
        ¬Retired w₁ w₂ p A K := by
  obtain ⟨w₀, w₁, ⟨hw₀, hstore, hnew, hkeys, hmoved, hunborn⟩, -, w, hw, hold⟩ := rotation_runs
  refine ⟨crypto, settings, start, w₀, w₁, w, 1, 0, authority, key₁, key₂, fun _ => rfl, hw₀, hstore, hnew,
    hkeys, hmoved, ?_, ?_⟩
  · refine (run_guarded (fun _ => True) hw trivial ?_ fun _ _ _ _ _ _ => trivial).1
    rintro s a ha - active rfl
    simp [restored, arrive, finish] at ha
  · intro hretired
    obtain ⟨v, hv, -⟩ := hretired 2 hold
    simp [verifiedOf, hunborn] at hv

theorem key_retired_sample : ∃ w₁ w, run (step crypto settings) (arrive 2 stale) w₁ = some w ∧
    Retired w₁ w 0 authority key₁ := by
  obtain ⟨w₀, w₁, ⟨-, hstore, hnew, hkeys, hmoved, -⟩, ⟨w, hw⟩, -⟩ := rotation_runs
  refine ⟨w₁, w, hw, key_retired hstore hnew hkeys hmoved ?_⟩
  refine (run_guarded (fun _ => True) hw trivial ?_ fun _ _ _ _ _ _ => trivial).1
  intro s a ha _
  refine ⟨?_, ?_⟩
  · rintro active rfl
    simp [arrive] at ha
  · rintro ⟨j, rfl, -⟩
    simp [arrive] at ha

end Sample

end DarkMinter.KeyRotation
