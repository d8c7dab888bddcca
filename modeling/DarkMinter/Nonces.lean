import DarkMinter.AuthSteps

namespace DarkMinter.Nonces

open Processing SignedAuth AuthSteps Lib.Runs

section

variable {C : Crypto} {S : Settings} {w₀ w w' : World} {a : Act} {i j : Nat} {v u : Verified} {t t' : Time}

def claimOf (w : World) (i : Nat) : Option (Verified × Time) :=
  (w.calls i).bind fun c => match c.phase with
    | .claimed v t | .accepted v t => some (v, t)
    | _ => none

def Accepted (w : World) (i : Nat) (v : Verified) (t : Time) : Prop :=
  ∃ p r, w.calls i = some ⟨p, r, .accepted v t⟩

def SameNonce (v u : Verified) : Prop :=
  v.signed.identity.authorityId = u.signed.identity.authorityId ∧ v.signed.nonce = u.signed.nonce

/-- The end of the window in which the timestamp of a request is valid. -/
def expiry (S : Settings) (v : Verified) : Time := (v.signed.row S).expiresAt

def Admits (S : Settings) (w w' : World) (v : Verified) : Prop :=
  ∃ due cutoff, cutoff ≤ w.wall ∧
    (¬∃ r ∈ cleanup w.nonces due cutoff,
      r.authorityId = v.signed.identity.authorityId ∧ r.nonce = v.signed.nonce) ∧
        w'.nonces = cleanup w.nonces due cutoff ++ [v.signed.row S]

theorem Accepted.claimOf_eq (h : Accepted w i v t) : claimOf w i = some (v, t) := by
  obtain ⟨p, r, hcall⟩ := h
  simp [claimOf, hcall]

theorem claimOf_step (h : step C S w a = some w') (hi : claimOf w' i = some (v, t)) :
    claimOf w i = some (v, t) ∨
      t = w.wall ∧ Admits S w w' v ∧ ∃ cutoff outcome, a = .claim i cutoff outcome := by
  unfold claimOf at hi ⊢
  rcases step_calls h i with hsame | hmoves
  · exact .inl (hsame ▸ hi)
  · generalize w.calls i = c at hmoves ⊢
    generalize w'.calls i = c' at hmoves hi
    cases hmoves with
    | begin | unclaimed => cases hi
    | check p r => cases hcheck : checkHeaders S w.wall r <;> simp [settle, hcheck] at hi
    | read p r q => cases hbody : checkBody C r q <;> simp [settle, hbody] at hi
    | lookup p r q path available =>
        cases hverify : verifyCall C S w ⟨p, r, .read q path⟩ q path available <;>
          simp [settle, hverify] at hi
    | claimed p r v cutoff outcome hcutoff hfresh hrows =>
        obtain ⟨rfl, rfl⟩ : v = _ ∧ w.wall = _ := by simpa using hi
        exact .inr ⟨rfl, ⟨_, cutoff, hcutoff, hfresh, hrows⟩, cutoff, outcome, rfl⟩
    | store => exact .inl hi
    | restart p r phase =>
        cases phase with
        | accepted => exact .inl hi
        | _ => cases hi

/-- Every claimed nonce keeps its row until its expiry. So the claims of one
nonce follow each other's expiry. -/
structure Remembered (S : Settings) (w : World) : Prop where
  past : ∀ i v t, claimOf w i = some (v, t) → t ≤ w.wall
  rows : ∀ i v t, claimOf w i = some (v, t) → expiry S v < w.wall ∨ v.signed.row S ∈ w.nonces
  pairs : ∀ i j v u t t', claimOf w i = some (v, t) → claimOf w j = some (u, t') → i ≠ j →
    SameNonce v u → expiry S v < t' ∨ expiry S u < t

theorem rows_step (h : step C S w a = some w') {row : AuthorityRequestNonce} (hrow : row ∈ w.nonces) :
    row.expiresAt < w'.wall ∨ row ∈ w'.nonces := by
  rcases step_nonces h with hsame | ⟨id, p, r, v, cutoff, outcome, rfl, -, hcutoff, hrows⟩
  · exact .inr (hsame ▸ hrow)
  · rw [hrows]
    rcases claimNonce_keeps (v.signed.row S) outcome hrow with hkept | hexpired
    · exact .inr hkept
    · exact .inl (hexpired.trans_le (hcutoff.trans (step_wall h)))

theorem Admits.expired (h : Admits S w w' u) (hrow : v.signed.row S ∈ w.nonces) (hsame : SameNonce v u) :
    expiry S v < w.wall := by
  obtain ⟨due, cutoff, hcutoff, hfresh, -⟩ := h
  rcases mem_cleanup due cutoff hrow with hkept | hexpired
  · exact absurd ⟨_, hkept, hsame⟩ hfresh
  · exact hexpired.trans_le hcutoff

theorem Remembered.expired (hI : Remembered S w) (hi : claimOf w i = some (v, t)) (hu : Admits S w w' u)
    (hsame : SameNonce v u) : expiry S v < w.wall :=
  (hI.rows i v t hi).elim id fun hrow => hu.expired hrow hsame

theorem SameNonce.symm (h : SameNonce v u) : SameNonce u v := ⟨h.1.symm, h.2.symm⟩

theorem remembered_step (hI : Remembered S w) (h : step C S w a = some w') : Remembered S w' := by
  have hwall := step_wall h
  constructor
  · intro i v t hi
    rcases claimOf_step h hi with hold | ⟨rfl, -⟩
    · exact (hI.past i v t hold).trans hwall
    · exact hwall
  · intro i v t hi
    rcases claimOf_step h hi with hold | ⟨-, ⟨due, cutoff, -, -, hrows⟩, -⟩
    · rcases hI.rows i v t hold with hexpired | hrow
      · exact .inl (hexpired.trans_le hwall)
      · exact rows_step h hrow
    · exact .inr (by simp [hrows])
  · intro i j v u t t' hi hj hij hsame
    rcases claimOf_step h hi with hold | ⟨rfl, hadmits, cutoff, outcome, hact⟩
    · rcases claimOf_step h hj with hold' | ⟨rfl, hadmits', -⟩
      · exact hI.pairs i j v u t t' hold hold' hij hsame
      · exact .inl (hI.expired hold hadmits' hsame)
    · rcases claimOf_step h hj with hold' | ⟨-, -, cutoff', outcome', hact'⟩
      · exact .inr (hI.expired hold' hadmits hsame.symm)
      · injection hact.symm.trans hact' with hid
        exact absurd hid hij

theorem reach_remembered (h : Reach (step C S) Free w₀ w) (h0 : ∀ id, w₀.calls id = none) :
    Remembered S w := by
  refine h.invariant ?_ fun _ _ _ hI _ hs => remembered_step hI hs
  have hnone : ∀ i, claimOf w₀ i = none := fun i => by simp [claimOf, h0]
  constructor <;> intros <;> simp_all

theorem Remembered.unique (hI : Remembered S w) (hi : Accepted w i v t) (hj : Accepted w j u t')
    (hsame : SameNonce v u) : i = j ∨ expiry S v < t' ∨ expiry S u < t := by
  by_cases hij : i = j
  · exact .inl hij
  · exact .inr (hI.pairs i j v u t t' hi.claimOf_eq hj.claimOf_eq hij hsame)

/-- A nonce that was accepted is accepted again only on a claim after the window
of the other request. Of the requests with one authority, nonce and timestamp
that claim within their window, at most one is accepted. -/
theorem nonce_reused_after_window (h : Reach (step C S) Free w₀ w) (h0 : ∀ id, w₀.calls id = none) :
    ∀ i j v u t t', Accepted w i v t → Accepted w j u t' → SameNonce v u →
      (i = j ∨ expiry S v < t' ∨ expiry S u < t) ∧
        (v.signed.seconds = u.signed.seconds → t ≤ expiry S v → t' ≤ expiry S u → i = j) := by
  intro i j v u t t' hi hj hsame
  have hunique := (reach_remembered h h0).unique hi hj hsame
  refine ⟨hunique, ?_⟩
  intro hseconds ht ht'
  have hexpiry : expiry S v = expiry S u := by simp [expiry, Signed.row, hseconds]
  rcases hunique with hij | hv | hu
  · exact hij
  · exact absurd (hexpiry ▸ hv) (not_lt.mpr ht')
  · exact absurd (hexpiry ▸ hu) (not_lt.mpr ht)

end

section Sample

open Sample

def reuse : List Act :=
  arrive 0 first ++ finish 0 (seconds 1700000000) ++ [.tick 400000000, .tickMonotonic 0 400000000] ++
    arrive 1 repeated ++ finish 1 (seconds 1700000400)

def acceptedTwice (w : World) : Bool :=
  match w.calls 0, w.calls 1 with
  | some ⟨_, _, .accepted v t⟩, some ⟨_, _, .accepted u t'⟩ =>
      v.signed.identity.authorityId = u.signed.identity.authorityId ∧ v.signed.nonce = u.signed.nonce ∧
        t = seconds v.signed.seconds ∧ t' = seconds u.signed.seconds
  | _, _ => false

theorem reuse_accepted : ∃ w v u t t', Reach (step crypto settings) Free start w ∧ Accepted w 0 v t ∧
    Accepted w 1 u t' ∧ SameNonce v u ∧ t = seconds v.signed.seconds ∧ t' = seconds u.signed.seconds := by
  have hrun : (run (step crypto settings) reuse start).any acceptedTwice = true := by decide +kernel
  obtain ⟨w, hw, htwice⟩ := (Option.any_eq_true _ _).mp hrun
  unfold acceptedTwice at htwice
  split at htwice
  · rename_i hi hj
    obtain ⟨hauthority, hnonce, ht, ht'⟩ := of_decide_eq_true htwice
    exact ⟨w, _, _, _, _, run_reach hw, ⟨_, _, hi⟩, ⟨_, _, hj⟩, ⟨hauthority, hnonce⟩, ht, ht'⟩
  · cases htwice

/-- A nonce is accepted twice: each request arrives at the time that it states. -/
theorem nonce_accepted_twice : ∃ C S w₀ w i j v u t t', (∀ id, World.calls w₀ id = none) ∧
    Reach (step C S) Free w₀ w ∧ Accepted w i v t ∧ Accepted w j u t' ∧ i ≠ j ∧ SameNonce v u ∧
      t = seconds v.signed.seconds ∧ t' = seconds u.signed.seconds := by
  obtain ⟨w, v, u, t, t', hw, hi, hj, hsame, ht, ht'⟩ := reuse_accepted
  exact ⟨crypto, settings, start, w, 0, 1, v, u, t, t', fun _ => rfl, hw, hi, hj, by decide, hsame, ht, ht'⟩

theorem nonce_reused_after_window_sample : ∃ w v u t t', Reach (step crypto settings) Free start w ∧
    Accepted w 0 v t ∧ Accepted w 1 u t' ∧ (expiry settings v < t' ∨ expiry settings u < t) := by
  obtain ⟨w, v, u, t, t', hw, hi, hj, hsame, -⟩ := reuse_accepted
  have hwindow := (nonce_reused_after_window hw (fun _ => rfl) 0 1 v u t t' hi hj hsame).1
  exact ⟨w, v, u, t, t', hw, hi, hj, hwindow.resolve_left (by decide)⟩

end Sample

end DarkMinter.Nonces
