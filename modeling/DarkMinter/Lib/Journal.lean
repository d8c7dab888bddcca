import Mathlib.Order.Basic

namespace DarkMinter.Lib.Journal

/-- A point of a run: the stored state, the instruction that comes next, and whether it raises. -/
structure Point (σ ι : Type) where
  state : σ
  next : ι
  failed : Bool

structure Trace (σ ι ε α : Type) where
  points : List (Point σ ι)
  result : Except ε α
  state : σ

/-- A program on stored state. What it leaves behind when it is interrupted is the state of one
of its points. -/
def Prog (σ ι ε α : Type) : Type := σ → Trace σ ι ε α

variable {σ ι ε α β γ : Type}

namespace Prog

def pure (a : α) : Prog σ ι ε α := fun s => ⟨[], .ok a, s⟩

def bind (x : Prog σ ι ε α) (f : α → Prog σ ι ε β) : Prog σ ι ε β := fun s =>
  match x s with
  | ⟨points, .ok a, t⟩ => { f a t with points := points ++ (f a t).points }
  | ⟨points, .error e, t⟩ => ⟨points, .error e, t⟩

instance : Monad (Prog σ ι ε) where
  pure := pure
  bind := bind

def lift (r : Except ε α) : Prog σ ι ε α := fun s => ⟨[], r, s⟩

def read : Prog σ ι ε σ := fun s => ⟨[], .ok s, s⟩

def perform (next : ι) (f : σ → Except ε α × σ) : Prog σ ι ε α := fun s =>
  match f s with
  | (.ok a, t) => ⟨[⟨s, next, false⟩], .ok a, t⟩
  | (.error e, t) => ⟨[⟨s, next, true⟩], .error e, t⟩

def catching (x : Prog σ ι ε α) (f : ε → Prog σ ι ε α) : Prog σ ι ε α := fun s =>
  match x s with
  | ⟨points, .ok a, t⟩ => ⟨points, .ok a, t⟩
  | ⟨points, .error e, t⟩ => { f e t with points := points ++ (f e t).points }

section

variable {x : Prog σ ι ε α} {f : α → Prog σ ι ε β} {s t : σ} {a : α} {points : List (Point σ ι)}

@[simp] theorem pure_run : (Pure.pure a : Prog σ ι ε α) s = ⟨[], .ok a, s⟩ := rfl

theorem bind_ok (hx : x s = ⟨points, .ok a, t⟩) :
    (x >>= f) s = ⟨points ++ (f a t).points, (f a t).result, (f a t).state⟩ := by
  change bind x f s = _
  rw [bind, hx]

end

theorem foldlM_spec {f : β → γ → Prog σ ι ε β} {J : List γ → List (Point σ ι) → β → σ → Prop}
    {l : List γ}
    (hstep : ∀ done a rest points b s, l = done ++ a :: rest → J done points b s →
      ∃ b', (f b a s).result = .ok b' ∧
        J (done ++ [a]) (points ++ (f b a s).points) b' (f b a s).state)
    {b : β} {s : σ} (h : J [] [] b s) :
    ∃ b', (l.foldlM f b s).result = .ok b' ∧ J l (l.foldlM f b s).points b' (l.foldlM f b s).state := by
  suffices hloop : ∀ rest done points b s, l = done ++ rest → J done points b s →
      ∃ b', (rest.foldlM f b s).result = .ok b' ∧
        J l (points ++ (rest.foldlM f b s).points) b' (rest.foldlM f b s).state from hloop l [] [] b s rfl h
  intro rest
  induction rest with
  | nil =>
      intro done points b s hl hJ
      refine ⟨b, rfl, ?_⟩
      simpa [hl] using hJ
  | cons a rest ih =>
      intro done points b s hl hJ
      obtain ⟨b₁, hresult, hJ₁⟩ := hstep done a rest points b s hl hJ
      obtain ⟨b₂, hrest, hJ₂⟩ := ih (done ++ [a]) _ b₁ _ (by simp [hl]) hJ₁
      have hrun : (a :: rest).foldlM f b s = ⟨(f b a s).points ++ (rest.foldlM f b₁ (f b a s).state).points,
          (rest.foldlM f b₁ (f b a s).state).result, (rest.foldlM f b₁ (f b a s).state).state⟩ := by
        rw [List.foldlM_cons]
        exact bind_ok (by rw [← hresult])
      refine ⟨b₂, ?_, ?_⟩
      · rw [hrun]
        exact hrest
      · rw [hrun, ← List.append_assoc]
        exact hJ₂

end Prog

end DarkMinter.Lib.Journal
