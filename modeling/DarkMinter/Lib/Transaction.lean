import Mathlib.Order.Basic

namespace DarkMinter.Lib.Transaction

/-- What a database session sees: the last committed state, and the state its
open transaction has reached. -/
structure Session (σ : Type) where
  committed : σ
  working : σ

/-- A request handler over one session. An exception keeps the session, so
that what it leaves uncommitted is visible until the session closes. -/
def Tx (σ ε α : Type) : Type := Session σ → Except ε α × Session σ

variable {σ ε α β : Type}

namespace Tx

def pure (a : α) : Tx σ ε α := fun s => (.ok a, s)

def bind (x : Tx σ ε α) (f : α → Tx σ ε β) : Tx σ ε β := fun s =>
  match x s with
  | (.ok a, t) => f a t
  | (.error e, t) => (.error e, t)

instance : Monad (Tx σ ε) where
  pure := pure
  bind := bind

def raise (e : ε) : Tx σ ε α := fun s => (.error e, s)

def lift (r : Except ε α) : Tx σ ε α := fun s => (r, s)

def read : Tx σ ε σ := fun s => (.ok s.working, s)

def modify (f : σ → σ) : Tx σ ε Unit := fun s => (.ok (), { s with working := f s.working })

def commit : Tx σ ε Unit := fun s => (.ok (), { s with committed := s.working })

def rollback : Tx σ ε Unit := fun s => (.ok (), { s with working := s.committed })

/-- Another session commits `f`, and this one sees it. -/
def elsewhere (f : σ → σ) : Tx σ ε Unit := fun s =>
  (.ok (), { committed := f s.committed, working := f s.working })

/-- `try: x except e: f e`. -/
def catching (x : Tx σ ε α) (f : ε → Tx σ ε α) : Tx σ ε α := fun s =>
  match x s with
  | (.ok a, t) => (.ok a, t)
  | (.error e, t) => f e t

/-- Run a handler on its own session. Closing the session drops whatever was
not committed. -/
def run (x : Tx σ ε α) (s : σ) : Except ε α × σ :=
  let r := x ⟨s, s⟩
  (r.1, r.2.committed)

section

variable {x : Tx σ ε α} {s t : Session σ}

theorem bind_ok {f : α → Tx σ ε β} {a : α} (h : x s = (.ok a, t)) : (x >>= f) s = f a t := by
  change Tx.bind x f s = _
  simp only [Tx.bind, h]

theorem bind_error {f : α → Tx σ ε β} {e : ε} (h : x s = (.error e, t)) : (x >>= f) s = (.error e, t) := by
  change Tx.bind x f s = _
  simp only [Tx.bind, h]

theorem bind_eq_ok {f : α → Tx σ ε β} {b : β} {u : Session σ} (h : (x >>= f) s = (.ok b, u)) :
    ∃ a t, x s = (.ok a, t) ∧ f a t = (.ok b, u) := by
  change Tx.bind x f s = _ at h
  unfold Tx.bind at h
  rcases hx : x s with ⟨e | a, t⟩
  · simp [hx] at h
  · exact ⟨a, t, rfl, by simpa [hx] using h⟩

theorem catching_ok {f : ε → Tx σ ε α} {a : α} (h : x s = (.ok a, t)) : catching x f s = (.ok a, t) := by
  simp only [catching, h]

theorem catching_error {f : ε → Tx σ ε α} {e : ε} (h : x s = (.error e, t)) : catching x f s = f e t := by
  simp only [catching, h]

theorem run_eq {c : σ} {r : Except ε α} (h : x ⟨c, c⟩ = (r, t)) : run x c = (r, t.committed) := by
  simp only [run, h]

theorem run_eq_ok {a : α} {c c' : σ} (h : run x c = (.ok a, c')) : ∃ t, x ⟨c, c⟩ = (.ok a, t) := by
  rcases hx : x ⟨c, c⟩ with ⟨r, t⟩
  obtain ⟨rfl, -⟩ := Prod.mk.inj ((run_eq hx).symm.trans h)
  exact ⟨t, rfl⟩

end

/-- From a session that meets `P`, the handler ends with a value and `Q` or
with an exception and `R`. -/
def Triple (P : Session σ → Prop) (x : Tx σ ε α) (Q : α → Session σ → Prop)
    (R : ε → Session σ → Prop) : Prop :=
  ∀ s, P s → match x s with
    | (.ok a, t) => Q a t
    | (.error e, t) => R e t

variable {P P' : Session σ → Prop} {Q Q' : α → Session σ → Prop} {R R' : ε → Session σ → Prop}

theorem Triple.bind {x : Tx σ ε α} {f : α → Tx σ ε β} {Q₂ : β → Session σ → Prop}
    (hx : Triple P x Q R) (hf : ∀ a, Triple (Q a) (f a) Q₂ R) : Triple P (x >>= f) Q₂ R := by
  intro s hs
  have h := hx s hs
  change match Tx.bind x f s with | (.ok b, t) => Q₂ b t | (.error e, t) => R e t
  unfold Tx.bind
  rcases hxs : x s with ⟨e | a, t⟩
  · simpa [hxs] using h
  · simp only [hxs] at h
    exact hf a t h

theorem Triple.catching {x : Tx σ ε α} {f : ε → Tx σ ε α} {M : ε → Session σ → Prop}
    (hx : Triple P x Q M) (hf : ∀ e, Triple (M e) (f e) Q R) : Triple P (catching x f) Q R := by
  intro s hs
  have h := hx s hs
  unfold Tx.catching
  rcases hxs : x s with ⟨e | a, t⟩
  · simp only [hxs] at h
    exact hf e t h
  · simpa [hxs] using h

theorem Triple.imp {x : Tx σ ε α} (hx : Triple P x Q R) (hP : ∀ s, P' s → P s)
    (hQ : ∀ a s, Q a s → Q' a s) (hR : ∀ e s, R e s → R' e s) : Triple P' x Q' R' := by
  intro s hs
  have h := hx s (hP s hs)
  rcases hxs : x s with ⟨e | a, t⟩
  · simp only [hxs] at h
    exact hR e t h
  · simp only [hxs] at h
    exact hQ a t h

theorem Triple.ite {x y : Tx σ ε α} {p : Prop} [Decidable p] (hx : p → Triple P x Q R)
    (hy : ¬p → Triple P y Q R) : Triple P (if p then x else y) Q R := by
  split
  · exact hx ‹_›
  · exact hy ‹_›

theorem triple_pure {a : α} (h : ∀ s, P s → Q a s) : Triple P (Pure.pure a : Tx σ ε α) Q R :=
  fun s hs => h s hs

theorem triple_raise {e : ε} (h : ∀ s, P s → R e s) : Triple P (raise e : Tx σ ε α) Q R :=
  fun s hs => h s hs

theorem triple_lift {r : Except ε α} (hok : ∀ a s, r = .ok a → P s → Q a s)
    (herr : ∀ e s, r = .error e → P s → R e s) : Triple P (lift r) Q R := by
  intro s hs
  cases r with
  | ok a => exact hok a s rfl hs
  | error e => exact herr e s rfl hs

theorem triple_read {Q : σ → Session σ → Prop} (h : ∀ s, P s → Q s.working s) :
    Triple P (read : Tx σ ε σ) Q R :=
  fun s hs => h s hs

theorem triple_modify {f : σ → σ} {Q : Unit → Session σ → Prop}
    (h : ∀ s, P s → Q () { s with working := f s.working }) :
    Triple P (modify f : Tx σ ε Unit) Q R :=
  fun s hs => h s hs

theorem triple_commit {Q : Unit → Session σ → Prop}
    (h : ∀ s, P s → Q () { s with committed := s.working }) :
    Triple P (commit : Tx σ ε Unit) Q R :=
  fun s hs => h s hs

theorem triple_rollback {Q : Unit → Session σ → Prop}
    (h : ∀ s, P s → Q () { s with working := s.committed }) :
    Triple P (rollback : Tx σ ε Unit) Q R :=
  fun s hs => h s hs

theorem triple_elsewhere {f : σ → σ} {Q : Unit → Session σ → Prop}
    (h : ∀ s, P s → Q () ⟨f s.committed, f s.working⟩) :
    Triple P (elsewhere f : Tx σ ε Unit) Q R :=
  fun s hs => h s hs

/-- What a triple says of the committed state after a whole request. -/
theorem Triple.run {x : Tx σ ε α} {c c' : σ} {r : Except ε α} (hx : Triple (· = ⟨c, c⟩) x Q R)
    (h : run x c = (r, c')) :
    (∃ a s, r = .ok a ∧ s.committed = c' ∧ Q a s) ∨
      ∃ e s, r = .error e ∧ s.committed = c' ∧ R e s := by
  have hs := hx ⟨c, c⟩ rfl
  obtain ⟨rfl, rfl⟩ := Prod.mk.injEq .. ▸ h
  rcases hxs : x ⟨c, c⟩ with ⟨e | a, t⟩
  · simp only [hxs] at hs
    exact .inr ⟨e, t, rfl, rfl, hs⟩
  · simp only [hxs] at hs
    exact .inl ⟨a, t, rfl, rfl, hs⟩

end Tx

end DarkMinter.Lib.Transaction
