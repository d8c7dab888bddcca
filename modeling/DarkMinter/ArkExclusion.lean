import DarkMinter.ArkLocks

namespace DarkMinter.ArkLocks

open Lib.Runs Lib.SessionLocks Lib.Turns

variable {P B E V : Type*} {F : Fleet P E} {s t : Sys P B E V} {p q : P} {b c : B} {k : Int} {n : Nat}

/-- A backend that has a lock is one that nobody gets any more, or the one of an attempt on the key
that has the lock or that gives up its connection. -/
def Accounted (F : Fleet P E) (s : Sys P B E V) (k : Int) (b : B) : Prop :=
  s.place b = .gone ∨
    ∃ p, s.place b = .lent p ∧ F.key p = k ∧ ((s.attempt p).keeps ∨ (s.attempt p).discards)

structure Sound (F : Fleet P E) (s : Sys P B E V) : Prop where
  sane : ∀ p, (s.attempt p).Sane
  lent : ∀ p b, s.place b = .lent p ↔ (s.attempt p).backend = some b
  live : ∀ k b n, s.locks k = some (b, n) → s.alive b
  held : ∀ k b n, s.locks k = some (b, n) → n = 1 ∧ Accounted F s k b
  keeps : ∀ p b, (s.attempt p).backend = some b → (s.attempt p).keeps → s.alive b →
    s.locks (F.key p) = some (b, 1)

section Frames

@[simp] theorem move_attempt [DecidableEq B] {place : Place P E} : (s.move b place).attempt = s.attempt := rfl

@[simp] theorem abort_attempt [DecidableEq B] : (s.abort b).attempt = s.attempt := rfl

@[simp] theorem set_place [DecidableEq P] {x : Attempt B} : (s.set p x).place = s.place := rfl

@[simp] theorem set_attempt [DecidableEq P] {x : Attempt B} : (s.set p x).attempt p = x := Function.update_self ..

theorem set_other [DecidableEq P] {x : Attempt B} (h : q ≠ p) : (s.set p x).attempt q = s.attempt q :=
  Function.update_of_ne h ..

@[simp] theorem move_place [DecidableEq B] {place : Place P E} : (s.move b place).place b = place :=
  Function.update_self ..

theorem move_other [DecidableEq B] {place : Place P E} (h : c ≠ b) : (s.move b place).place c = s.place c :=
  Function.update_of_ne h ..

end Frames

section Sound

variable (hs : Sound F s)

include hs

theorem Sound.free (hgone : s.place b ≠ .gone) (hlent : ∀ p, s.place b ≠ .lent p) :
    s.locks k ≠ some (b, n) := by
  intro hheld
  rcases (hs.held k b n hheld).2 with h | ⟨p, h, -⟩
  · exact hgone h
  · exact hlent p h

theorem Sound.free_lent (hb : (s.attempt p).backend = some b)
    (hkeeps : (s.attempt p).keeps = false) (hdiscards : (s.attempt p).discards = false) :
    s.locks k ≠ some (b, n) := by
  intro hheld
  have hplace := (hs.lent p b).mpr hb
  rcases (hs.held k b n hheld).2 with h | ⟨q, h, hq⟩
  · simp [hplace] at h
  · obtain rfl : p = q := by simpa [hplace] using h
    simp [hkeeps, hdiscards] at hq

theorem Sound.owner_unique (hp : (s.attempt p).backend = some b) (hq : (s.attempt q).backend = some b) : p = q := by
  have hplace := (hs.lent p b).mpr hp
  rw [(hs.lent q b).mpr hq] at hplace
  simpa using hplace.symm

theorem Sound.keeps_holding (hphase : (s.attempt p).phase = .holding) : (s.attempt p).keeps :=
  Bool.and_eq_true_iff.mpr ⟨(hs.sane p).holding (by simp [hphase]), by rw [hphase]; rfl⟩

variable [DecidableEq P]

theorem Sound.sane_update {x : Attempt B} (hx : x.Sane) (q : P) : (Function.update s.attempt p x q).Sane := by
  by_cases hq : q = p
  · subst hq
    rwa [Function.update_self]
  · rw [Function.update_of_ne hq]
    exact hs.sane q

theorem Sound.lent_update {x : Attempt B} (hx : x.backend = (s.attempt p).backend) (q : P) (c : B) :
    s.place c = .lent q ↔ (Function.update s.attempt p x q).backend = some c := by
  rw [hs.lent q c]
  by_cases hq : q = p
  · subst hq
    rw [Function.update_self, hx]
  · rw [Function.update_of_ne hq]

theorem sound_follow {x : Attempt B} (hx : (s.attempt p).Follows x)
    (hattempt : t.attempt = Function.update s.attempt p x) (hplace : t.place = s.place) (halive : t.alive = s.alive)
    (hlocks : t.locks = s.locks) : Sound F t := by
  have hself : t.attempt p = x := by rw [hattempt, Function.update_self]
  have hother : ∀ q, q ≠ p → t.attempt q = s.attempt q := fun q hq => by rw [hattempt, Function.update_of_ne hq]
  have hbackend : ∀ q, (t.attempt q).backend = (s.attempt q).backend := by
    intro q
    by_cases hq : q = p
    · rw [hq, hself, hx.backend]
    · rw [hother q hq]
  constructor
  · rw [hattempt]
    exact hs.sane_update hx.sane
  · rw [hattempt, hplace]
    exact hs.lent_update hx.backend
  · rw [hlocks, halive]
    exact hs.live
  · intro k c n hheld
    rw [hlocks] at hheld
    obtain ⟨hn, haccounted⟩ := hs.held k c n hheld
    refine ⟨hn, ?_⟩
    rcases haccounted with hgone | ⟨q, hlent, hkey, hq⟩
    · exact .inl (hplace ▸ hgone)
    · refine .inr ⟨q, hplace ▸ hlent, hkey, ?_⟩
      by_cases hqp : q = p
      · subst hqp
        rw [hself]
        rcases hq with hkeeps | hdiscards
        · exact hx.keeps hkeeps
        · exact .inr (hx.discards hdiscards)
      · rw [hother q hqp]
        exact hq
  · intro q c hq hkeeps hc
    rw [hlocks]
    rw [hbackend] at hq
    rw [halive] at hc
    refine hs.keeps q c hq ?_ hc
    by_cases hqp : q = p
    · subst hqp
      exact hx.keeps_back (hself ▸ hkeeps)
    · rwa [hother q hqp] at hkeeps

theorem sound_attach {x : Attempt B} (hx : x.Sane) (hkeeps : x.keeps = false)
    (hattempt : t.attempt = Function.update s.attempt p x) (halive : t.alive = s.alive) (hlocks : t.locks = s.locks)
    (hlent : ∀ q c, t.place c = .lent q ↔ (t.attempt q).backend = some c)
    (hheld : ∀ c n k, s.locks k = some (c, n) →
      (s.attempt p).backend ≠ some c ∧ t.place c = s.place c ∨ t.place c = .gone) : Sound F t := by
  have hself : t.attempt p = x := by rw [hattempt, Function.update_self]
  have hother : ∀ q, q ≠ p → t.attempt q = s.attempt q := fun q hq => by rw [hattempt, Function.update_of_ne hq]
  constructor
  · rw [hattempt]
    exact hs.sane_update hx
  · exact hlent
  · rw [hlocks, halive]
    exact hs.live
  · intro k c n h
    rw [hlocks] at h
    obtain ⟨hn, haccounted⟩ := hs.held k c n h
    refine ⟨hn, ?_⟩
    rcases hheld c n k h with ⟨hne, hplace⟩ | hgone
    · rcases haccounted with hgone | ⟨q, hq, hby⟩
      · exact .inl (hplace ▸ hgone)
      · have hqp : q ≠ p := by
          rintro rfl
          exact hne ((hs.lent q c).mp hq)
        refine .inr ⟨q, hplace ▸ hq, ?_⟩
        rw [hother q hqp]
        exact hby
    · exact .inl hgone
  · intro q c hq hk hc
    by_cases hqp : q = p
    · rw [hqp, hself, hkeeps] at hk
      cases hk
    · rw [hother q hqp] at hq hk
      rw [hlocks]
      exact hs.keeps q c hq hk (halive ▸ hc)

theorem sound_refuses (hphase : (s.attempt p).phase = .unstarted) : Sound F (s.set p { phase := .ended }) := by
  have hnone : (s.attempt p).backend = none := (hs.sane p).detached.mpr (.inl hphase)
  refine sound_attach hs ⟨by simp, by simp, by simp, by simp⟩ rfl rfl rfl rfl ?_ fun c n k _ =>
    .inl ⟨by simp [hnone], rfl⟩
  intro q c
  by_cases hq : q = p
  · subst hq
    have hfree : s.place c ≠ .lent q := fun h => by simp [(hs.lent q c).mp h] at hnone
    simpa using hfree
  · simpa [set_other hq] using hs.lent q c

variable [DecidableEq B]

theorem sound_connects [DecidableEq E] (hphase : (s.attempt p).phase = .unstarted) (hoffer : s.offers (F.engine p) b) :
    Sound F ((s.move b (.lent p)).set p { phase := .connected, backend := some b }) := by
  have hnone : (s.attempt p).backend = none := (hs.sane p).detached.mpr (.inl hphase)
  refine sound_attach hs ⟨by simp, by simp, by simp, by simp⟩ rfl rfl rfl rfl ?_ ?_
  · intro q c
    by_cases hc : c = b
    · subst hc
      by_cases hq : q = p
      · subst hq
        simp
      · have hfree : (s.attempt q).backend ≠ some c := fun h => offers_lent hoffer q ((hs.lent q c).mpr h)
        simpa [set_other hq, hfree] using Ne.symm hq
    · by_cases hq : q = p
      · subst hq
        have hfree : s.place c ≠ .lent q := fun h => by simp [(hs.lent q c).mp h] at hnone
        simpa [move_other hc, hfree] using Ne.symm hc
      · simpa [set_other hq, move_other hc] using hs.lent q c
  · intro c n k hheld
    have hc : c ≠ b := by
      rintro rfl
      exact hs.free (offers_gone hoffer) (offers_lent hoffer) hheld
    exact .inl ⟨by simp [hnone], move_other hc⟩

theorem sound_closes {place : Place P E} (hb : (s.attempt p).backend = some b)
    (hphase : (s.attempt p).phase = .returning)
    (hplace : place = .gone ∨ (s.attempt p).invalidated = false ∧ place = .idle (F.engine p)) :
    Sound F (((s.abort b).move b place).set p { phase := .ended }) := by
  have hkeeps : (s.attempt p).keeps = false := by simp [Attempt.keeps, Phase.locked, hphase]
  have hunlent : ∀ q, place ≠ .lent q := by rcases hplace with rfl | ⟨-, rfl⟩ <;> simp
  have hother : ∀ {c}, c ≠ b → ((s.abort b).move b place).place c = s.place c := fun hc => move_other hc
  refine sound_attach hs ⟨by simp, by simp, by simp, by simp⟩ rfl rfl rfl rfl ?_ ?_
  · intro q c
    by_cases hc : c = b
    · subst hc
      by_cases hq : q = p
      · subst hq
        simp [hunlent]
      · have hfree : (s.attempt q).backend ≠ some c := fun h => hq (hs.owner_unique h hb)
        simp [set_other hq, hunlent, hfree]
    · by_cases hq : q = p
      · subst hq
        have hfree : s.place c ≠ .lent q := by
          intro h
          rw [(hs.lent q c).mp h] at hb
          exact hc (Option.some.inj hb)
        simpa [hother hc] using hfree
      · simpa [set_other hq, hother hc] using hs.lent q c
  · intro c n k hheld
    by_cases hc : c = b
    · subst hc
      right
      rcases hplace with rfl | ⟨hvalid, rfl⟩
      · exact move_place
      · have hdiscards : (s.attempt p).discards = false := by simp [Attempt.discards, hphase, hvalid]
        exact absurd hheld (hs.free_lent hb hkeeps hdiscards)
    · exact .inl ⟨fun h => hc (Option.some.inj (h.symm.trans hb)), hother hc⟩

theorem sound_locks {x : Attempt B} {locks : Table Int B} (hb : (s.attempt p).backend = some b)
    (hphase : (s.attempt p).phase = .connected) (halive : s.alive b) (hlocks : s.locks.tryLock (F.key p) b = some locks)
    (hbackend : x.backend = some b) (hkeeps : x.keeps ∨ x.discards) (hsane : x.Sane) :
    Sound F ({ s with locks := locks }.set p x) := by
  have hacquired := (hs.sane p).refused (by simp [hphase])
  have hvalid := (hs.sane p).connected hphase
  have hnone : ∀ {k n}, s.locks k ≠ some (b, n) :=
    hs.free_lent hb (by simp [Attempt.keeps, hacquired]) (by simp [Attempt.discards, hvalid, hphase])
  obtain ⟨⟨n, hnew, hbefore⟩, hothers⟩ := tryLock_cases hlocks
  have hfree : s.locks (F.key p) = none ∧ n = 1 := by
    rcases hbefore with h | ⟨m, h⟩
    · exact h
    · exact absurd h hnone
  obtain ⟨hfree, rfl⟩ := hfree
  have hattempt : ∀ q, q ≠ p → ({ s with locks := locks }.set p x).attempt q = s.attempt q := fun q hq => set_other hq
  constructor
  · exact hs.sane_update hsane
  · exact hs.lent_update (hbackend.trans hb.symm)
  · intro k c n hheld
    change locks k = some (c, n) at hheld
    by_cases hk : k = F.key p
    · subst hk
      obtain ⟨rfl, -⟩ := Prod.mk.inj (Option.some.inj (hnew.symm.trans hheld))
      exact halive
    · rw [hothers k hk] at hheld
      exact hs.live k c n hheld
  · intro k c n hheld
    change locks k = some (c, n) at hheld
    by_cases hk : k = F.key p
    · subst hk
      obtain ⟨rfl, rfl⟩ := Prod.mk.inj (Option.some.inj (hnew.symm.trans hheld))
      refine ⟨rfl, .inr ⟨p, (hs.lent p b).mpr hb, rfl, ?_⟩⟩
      rw [set_attempt]
      exact hkeeps
    · rw [hothers k hk] at hheld
      obtain ⟨hn, haccounted⟩ := hs.held k c n hheld
      refine ⟨hn, haccounted.imp_right ?_⟩
      rintro ⟨q, hlent, hq⟩
      have hqp : q ≠ p := by
        rintro rfl
        obtain rfl := Option.some.inj (hb.symm.trans ((hs.lent q c).mp hlent))
        exact hnone hheld
      refine ⟨q, hlent, ?_⟩
      rw [hattempt q hqp]
      exact hq
  · intro q c hq hk hc
    change locks (F.key q) = some (c, 1)
    by_cases hqp : q = p
    · subst hqp
      rw [set_attempt, hbackend] at hq
      obtain rfl := Option.some.inj hq
      exact hnew
    · rw [hattempt q hqp] at hq hk
      have hheld := hs.keeps q c hq hk hc
      have hkey : F.key q ≠ F.key p := by
        intro hkey
        rw [hkey, hfree] at hheld
        cases hheld
      rw [hothers _ hkey]
      exact hheld

theorem sound_unlocks {x : Attempt B} {locks : Table Int B} (hb : (s.attempt p).backend = some b)
    (hkept : (s.attempt p).keeps) (halive : s.alive b) (hlocks : s.locks.unlock (F.key p) b = some locks)
    (hbackend : x.backend = some b) (hgave : x.keeps = false) (hsane : x.Sane) :
    Sound F ({ s with locks := locks }.set p x) := by
  have hheld := hs.keeps p b hb hkept halive
  obtain rfl : Function.update s.locks (F.key p) none = locks := by
    rw [unlock_once hheld] at hlocks
    exact Option.some.inj hlocks
  have hattempt : ∀ q, q ≠ p →
      (({ s with locks := Function.update s.locks (F.key p) none } : Sys P B E V).set p x).attempt q = s.attempt q :=
    fun q hq => set_other hq
  have hkept : ∀ {k c n}, Function.update s.locks (F.key p) none k = some (c, n) →
      k ≠ F.key p ∧ s.locks k = some (c, n) := by
    intro k c n h
    by_cases hk : k = F.key p
    · subst hk
      simp at h
    · exact ⟨hk, by rwa [Function.update_of_ne hk] at h⟩
  constructor
  · exact hs.sane_update hsane
  · exact hs.lent_update (hbackend.trans hb.symm)
  · intro k c n h
    exact hs.live k c n (hkept h).2
  · intro k c n h
    obtain ⟨hk, h⟩ := hkept h
    obtain ⟨hn, haccounted⟩ := hs.held k c n h
    refine ⟨hn, haccounted.imp_right ?_⟩
    rintro ⟨q, hlent, hkey, hq⟩
    have hqp : q ≠ p := by
      rintro rfl
      exact hk hkey.symm
    refine ⟨q, hlent, hkey, ?_⟩
    rw [hattempt q hqp]
    exact hq
  · intro q c hq hk hc
    by_cases hqp : q = p
    · subst hqp
      rw [set_attempt, hgave] at hk
      cases hk
    · rw [hattempt q hqp] at hq hk
      have hother := hs.keeps q c hq hk hc
      have hkey : F.key q ≠ F.key p := by
        intro hkey
        rw [hkey, hheld] at hother
        obtain ⟨rfl, -⟩ := Prod.mk.inj (Option.some.inj hother)
        exact hqp (hs.owner_unique hq hb)
      change Function.update s.locks (F.key p) none (F.key q) = some (c, 1)
      rw [Function.update_of_ne hkey]
      exact hother

omit [DecidableEq P] in
theorem sound_moves {place : Place P E} (hgone : s.place b ≠ .gone) (hlent : ∀ p, s.place b ≠ .lent p)
    (hplace : ∀ p, place ≠ .lent p) : Sound F (s.move b place) := by
  constructor
  · exact hs.sane
  · intro q c
    by_cases hc : c = b
    · subst hc
      have hfree : (s.attempt q).backend ≠ some c := fun h => hlent q ((hs.lent q c).mpr h)
      simp [hplace, hfree]
    · rw [move_other hc]
      exact hs.lent q c
  · exact hs.live
  · intro k c n hheld
    have hc : c ≠ b := by
      rintro rfl
      exact hs.free hgone hlent hheld
    obtain ⟨hn, haccounted⟩ := hs.held k c n hheld
    refine ⟨hn, ?_⟩
    unfold Accounted
    rw [move_other hc]
    exact haccounted
  · exact hs.keeps

omit [DecidableEq P] in
theorem sound_terminates : Sound F (terminate s b) := by
  have halive : ∀ c, c ≠ b → (terminate s b).alive c = s.alive c := fun c hc => Function.update_of_ne hc ..
  constructor
  · exact hs.sane
  · exact hs.lent
  · intro k c n hheld
    obtain ⟨hheld, hc⟩ := endSession_some.mp hheld
    rw [halive c hc]
    exact hs.live k c n hheld
  · intro k c n hheld
    exact hs.held k c n (endSession_some.mp hheld).1
  · intro q c hq hk hc
    have hcb : c ≠ b := by
      rintro rfl
      simp [terminate] at hc
    rw [halive c hcb] at hc
    exact endSession_some.mpr ⟨hs.keeps q c hq hk hc, hcb⟩

omit [DecidableEq P] [DecidableEq B] in
theorem sound_crashes [DecidableEq E] (e : E) : Sound F (crash F s e) := by
  have hattempt : ∀ q, F.engine q ≠ e → (crash F s e).attempt q = s.attempt q := fun q hq => if_neg hq
  have hended : ∀ q, F.engine q = e → (crash F s e).attempt q = { phase := .ended } := fun q hq => if_pos hq
  have hplace : ∀ c, placeEngine F (s.place c) ≠ some e → (crash F s e).place c = s.place c := fun c hc => if_neg hc
  have hgone : ∀ c, placeEngine F (s.place c) = some e → (crash F s e).place c = .gone := fun c hc => if_pos hc
  constructor
  · intro q
    by_cases hq : F.engine q = e
    · rw [hended q hq]
      exact ⟨by simp, by simp, by simp, by simp⟩
    · rw [hattempt q hq]
      exact hs.sane q
  · intro q c
    by_cases hc : placeEngine F (s.place c) = some e
    · rw [hgone c hc]
      by_cases hq : F.engine q = e
      · simp [hended q hq]
      · rw [hattempt q hq, ← hs.lent q c]
        refine iff_of_false (by simp) fun h => hq ?_
        simpa [h, placeEngine] using hc
    · rw [hplace c hc]
      by_cases hq : F.engine q = e
      · refine iff_of_false (fun h => hc ?_) (by simp [hended q hq])
        simp [h, placeEngine, hq]
      · rw [hattempt q hq]
        exact hs.lent q c
  · exact hs.live
  · intro k c n hheld
    obtain ⟨hn, haccounted⟩ := hs.held k c n hheld
    refine ⟨hn, ?_⟩
    by_cases hc : placeEngine F (s.place c) = some e
    · exact .inl (hgone c hc)
    · unfold Accounted
      rw [hplace c hc]
      refine haccounted.imp_right ?_
      rintro ⟨q, hlent, hq⟩
      have hqe : F.engine q ≠ e := by
        intro hqe
        simp [hlent, placeEngine, hqe] at hc
      refine ⟨q, hlent, ?_⟩
      rw [hattempt q hqe]
      exact hq
  · intro q c hq hk hc
    by_cases hqe : F.engine q = e
    · simp [hended q hqe] at hq
    · rw [hattempt q hqe] at hq hk
      exact hs.keeps q c hq hk hc

end Sound

/-- Who committed the writes to the ARKs of one key, in order. -/
def writers (F : Fleet P E) (k : Int) (log : List (P × V)) : List P :=
  (log.filter fun x => F.key x.1 = k).map Prod.fst

structure Logged (F : Fleet P E) (s : Sys P B E V) : Prop where
  pending : ∀ b, ∀ x ∈ s.pending b, s.place b = .gone ∨ s.place b = .lent x.1
  wrote : ∀ x ∈ s.log, (s.attempt x.1).early = false
  inTurns : ∀ k, InTurns (writers F k s.log)
  latest : ∀ p b, (s.attempt p).backend = some b → (s.attempt p).keeps → s.alive b →
    p ∈ writers F (F.key p) s.log → (writers F (F.key p) s.log).getLast? = some p

/-- An attempt that has its lock after a step had it before, unless the step is the one by which it
got the lock. -/
structure Later (s t : Sys P B E V) (q : P) : Prop where
  early : (s.attempt q).early = false → (t.attempt q).early = false
  keeps : ∀ c, (t.attempt q).backend = some c → (t.attempt q).keeps → t.alive c →
    (s.attempt q).early = true ∨ (s.attempt q).backend = some c ∧ (s.attempt q).keeps ∧ s.alive c

section Logged

theorem later_same (hattempt : t.attempt q = s.attempt q) (halive : ∀ c, t.alive c → s.alive c) : Later s t q := by
  constructor
  · rw [hattempt]
    exact id
  · intro c hq hk hc
    rw [hattempt] at hq hk
    exact .inr ⟨hq, hk, halive c hc⟩

theorem writers_append (l m : List (P × V)) : writers F k (l ++ m) = writers F k l ++ writers F k m := by
  simp [writers]

theorem writers_own {l : List (P × V)} (h : ∀ x ∈ l, x.1 = p) :
    writers F k l = if F.key p = k then List.replicate l.length p else [] := by
  induction l with
  | nil => simp [writers]
  | cons x l ih =>
      obtain rfl := h x (List.mem_cons_self ..)
      have htail := ih fun y hy => h y (List.mem_cons_of_mem _ hy)
      unfold writers at htail ⊢
      by_cases hk : F.key x.1 = k
      · simpa [hk, List.replicate_succ] using htail
      · simpa [hk] using htail

theorem mem_writers {log : List (P × V)} : p ∈ writers F k log ↔ F.key p = k ∧ ∃ x ∈ log, x.1 = p := by
  unfold writers
  simp only [List.mem_map, List.mem_filter, decide_eq_true_eq]
  constructor
  · rintro ⟨x, ⟨hx, hk⟩, rfl⟩
    exact ⟨hk, x, hx, rfl⟩
  · rintro ⟨hk, x, hx, rfl⟩
    exact ⟨x, ⟨hx, hk⟩, rfl⟩

variable (hl : Logged F s)

include hl

theorem Logged.none_pending (hgone : s.place b ≠ .gone) (hlent : ∀ p, s.place b ≠ .lent p) : s.pending b = [] := by
  refine List.eq_nil_iff_forall_not_mem.mpr fun x hx => ?_
  rcases hl.pending b x hx with h | h
  · exact hgone h
  · exact hlent _ h

theorem Logged.own_pending (hs : Sound F s) (hb : (s.attempt p).backend = some b) : ∀ x ∈ s.pending b, x.1 = p := by
  intro x hx
  have hplace := (hs.lent p b).mpr hb
  rcases hl.pending b x hx with h | h
  · simp [hplace] at h
  · simpa [hplace] using h.symm

theorem logged_same (hpending : ∀ c, ∀ x ∈ t.pending c, t.place c = .gone ∨ t.place c = .lent x.1)
    (hlog : t.log = s.log) (hlater : ∀ q, Later s t q) : Logged F t := by
  constructor
  · exact hpending
  · intro x hx
    rw [hlog] at hx
    exact (hlater x.1).early (hl.wrote x hx)
  · rw [hlog]
    exact hl.inTurns
  · intro q c hq hk hc hmem
    rw [hlog] at hmem ⊢
    rcases (hlater q).keeps c hq hk hc with hfirst | ⟨hq, hk, hc⟩
    · obtain ⟨-, x, hx, rfl⟩ := mem_writers.mp hmem
      rw [hl.wrote x hx] at hfirst
      cases hfirst
    · exact hl.latest q c hq hk hc hmem

theorem logged_commit (hs : Sound F s) {log : List (P × V)} (hb : (s.attempt p).backend = some b)
    (hkept : (s.attempt p).keeps) (halive : s.alive b) (hown : ∀ x ∈ log, x.1 = p)
    (hpending : ∀ c, ∀ x ∈ t.pending c, t.place c = .gone ∨ t.place c = .lent x.1) (hlog : t.log = s.log ++ log)
    (hpast : (s.attempt p).early = false) (hlater : ∀ q, Later s t q) : Logged F t := by
  have hwriters : ∀ k, writers F k t.log =
      writers F k s.log ++ (if F.key p = k then List.replicate log.length p else []) := by
    intro k
    rw [hlog, writers_append, writers_own hown]
  have hwrote : ∀ x ∈ t.log, (s.attempt x.1).early = false := by
    intro x hx
    rw [hlog] at hx
    rcases List.mem_append.mp hx with hx | hx
    · exact hl.wrote x hx
    · rw [hown x hx]
      exact hpast
  constructor
  · exact hpending
  · intro x hx
    exact (hlater _).early (hwrote x hx)
  · intro k
    rw [hwriters]
    split
    · rename_i hk
      subst hk
      exact inTurns_append (hl.inTurns _) (hl.latest p b hb hkept halive) _
    · rw [List.append_nil]
      exact hl.inTurns k
  · intro q c hq hk hc hmem
    obtain ⟨hq, hk, hc⟩ : (s.attempt q).backend = some c ∧ (s.attempt q).keeps ∧ s.alive c := by
      refine ((hlater q).keeps c hq hk hc).resolve_left fun hfirst => ?_
      obtain ⟨-, x, hx, rfl⟩ := mem_writers.mp hmem
      rw [hwrote x hx] at hfirst
      cases hfirst
    rw [hwriters] at hmem ⊢
    by_cases hkey : F.key p = F.key q
    · have hlock := hs.keeps p b hb hkept halive
      rw [hkey, hs.keeps q c hq hk hc] at hlock
      obtain ⟨rfl, -⟩ := Prod.mk.inj (Option.some.inj hlock)
      obtain rfl := hs.owner_unique hq hb
      rw [if_pos rfl] at hmem ⊢
      cases hn : log.length with
      | zero =>
          rw [hn] at hmem
          simp only [List.replicate_zero, List.append_nil] at hmem ⊢
          exact hl.latest q c hq hk hc hmem
      | succ n => rw [List.replicate_succ', ← List.append_assoc, List.getLast?_concat]
    · rw [if_neg hkey, List.append_nil] at hmem ⊢
      exact hl.latest q c hq hk hc hmem

end Logged

section Reached

variable [DecidableEq P] [DecidableEq B] [DecidableEq E] {a : Act P B E V}

omit [DecidableEq P] [DecidableEq B] [DecidableEq E] in
theorem sound_start : Sound F (start : Sys P B E V) := by
  constructor
  · exact fun _ => ⟨by simp [start], by simp [start], by simp [start], by simp [start]⟩
  · simp [start]
  · simp [start, Table.empty]
  · simp [start, Table.empty]
  · simp [start, Attempt.keeps]

theorem sound_step (hs : Sound F s) (h : step F s a = some t) : Sound F t := by
  cases step_moves hs.sane h with
  | stays => exact hs
  | connects hphase hoffer => exact sound_connects hs hphase hoffer
  | refuses hphase => exact sound_refuses hs hphase
  | goes _ hx | aborts _ hx | writes _ _ _ hx | commits _ _ _ _ hx => exact sound_follow hs hx rfl rfl rfl rfl
  | locks hb hphase halive hlocks hbackend hkeeps _ hsane =>
      exact sound_locks hs hb hphase halive hlocks hbackend hkeeps hsane
  | unlocks hb hkeeps halive hlocks hbackend hgave _ hsane =>
      exact sound_unlocks hs hb hkeeps halive hlocks hbackend hgave hsane
  | closes hb hphase hplace => exact sound_closes hs hb hphase hplace
  | moves hgone hlent hplace => exact sound_moves hs hgone hlent hplace
  | terminates => exact sound_terminates hs
  | crashes => exact sound_crashes hs _

theorem reach_sound (h : Reach (step F) Free start s) : Sound F s :=
  h.invariant sound_start fun _ _ _ hs _ hstep => sound_step hs hstep

omit [DecidableEq B] [DecidableEq E] in
theorem later_set {u : Sys P B E V} {x : Attempt B} (hattempt : u.attempt = s.attempt) (halive : u.alive = s.alive)
    (hq : q = p → Later s (u.set p x) p) : Later s (u.set p x) q := by
  by_cases hqp : q = p
  · subst hqp
    exact hq rfl
  · refine later_same ?_ fun c hc => ?_
    · rw [set_other hqp, hattempt]
    · rw [← halive]
      exact hc

omit [DecidableEq B] [DecidableEq E] in
theorem later_follow {u : Sys P B E V} {x : Attempt B} (hx : (s.attempt p).Follows x) (hattempt : u.attempt = s.attempt)
    (halive : u.alive = s.alive) (q : P) : Later s (u.set p x) q := by
  refine later_set hattempt halive fun _ => ⟨fun hpast => ?_, fun c hq hk hc => ?_⟩
  · rw [set_attempt]
    by_contra hearly
    simp [hx.early (by simpa using hearly)] at hpast
  · rw [set_attempt] at hq hk
    change u.alive c at hc
    rw [halive] at hc
    exact .inr ⟨hx.backend ▸ hq, hx.keeps_back hk, hc⟩

omit [DecidableEq B] [DecidableEq E] in
theorem later_without {u : Sys P B E V} {x : Attempt B} (hattempt : u.attempt = s.attempt) (halive : u.alive = s.alive)
    (hearly : (s.attempt p).early = false → x.early = false) (hkeeps : x.keeps = false) (q : P) :
    Later s (u.set p x) q := by
  refine later_set hattempt halive fun _ => ⟨fun hpast => ?_, fun c hq hk hc => ?_⟩
  · rw [set_attempt]
    exact hearly hpast
  · rw [set_attempt, hkeeps] at hk
    cases hk

theorem later_step (hs : Sound F s) (h : step F s a = some t) (q : P) : Later s t q := by
  cases step_moves hs.sane h with
  | stays => exact later_same rfl fun _ => id
  | @connects p b hphase =>
      exact later_without (s := s) (p := p) (u := s.move b (.lent p))
        (x := { phase := .connected, backend := some b }) rfl rfl (by simp [Attempt.early, hphase]) rfl q
  | refuses => exact later_without rfl rfl (fun _ => rfl) rfl q
  | goes _ hx => exact later_follow hx rfl rfl q
  | aborts _ hx => exact later_follow (u := s.abort _) hx rfl rfl q
  | writes _ _ _ hx => exact later_follow (u := s.append _ _ _) hx rfl rfl q
  | commits _ _ _ _ hx => exact later_follow (u := s.commit _) hx rfl rfl q
  | @locks p b x locks hb hphase _ _ _ _ hearly =>
      refine later_set (u := { s with locks := locks }) rfl rfl fun _ => ⟨fun _ => ?_, fun _ _ _ _ => .inl ?_⟩
      · rw [set_attempt]
        exact hearly
      · simp [Attempt.early, hphase]
  | @unlocks p b x locks _ _ _ _ _ hgave hearly =>
      exact later_without (s := s) (p := p) (u := { s with locks := locks }) rfl rfl (fun _ => hearly) hgave q
  | @closes p b place =>
      exact later_without (s := s) (p := p) (u := (s.abort b).move b place) (x := { phase := .ended }) rfl rfl
        (fun _ => rfl) rfl q
  | moves => exact later_same rfl fun _ => id
  | @terminates b =>
      refine later_same rfl fun c hc => ?_
      have hcb : c ≠ b := by
        rintro rfl
        simp [terminate] at hc
      simpa [terminate, hcb] using hc
  | @crashes e =>
      by_cases hqe : F.engine q = e
      · have hended : (crash F s e).attempt q = { phase := .ended } := if_pos hqe
        refine ⟨fun _ => by rw [hended]; rfl, fun c hq => ?_⟩
        rw [hended] at hq
        cases hq
      · exact later_same (if_neg hqe) fun _ => id

omit [DecidableEq P] [DecidableEq E] in
theorem pending_update {pending : List (P × V)} (hl : Logged F s)
    (hp : ∀ x ∈ pending, s.place b = .gone ∨ s.place b = .lent x.1) :
    ∀ c, ∀ x ∈ Function.update s.pending b pending c, s.place c = .gone ∨ s.place c = .lent x.1 := by
  intro c x hx
  by_cases hc : c = b
  · subst hc
    rw [Function.update_self] at hx
    exact hp x hx
  · rw [Function.update_of_ne hc] at hx
    exact hl.pending c x hx

theorem logged_step (hs : Sound F s) (hl : Logged F s) (h : step F s a = some t) : Logged F t := by
  have hlater := later_step hs h
  cases step_moves hs.sane h with
  | stays => exact hl
  | @connects p b hphase hoffer =>
      refine logged_same hl ?_ rfl hlater
      intro c x hx
      by_cases hc : c = b
      · subst hc
        change x ∈ s.pending c at hx
        rw [hl.none_pending (offers_gone hoffer) (offers_lent hoffer)] at hx
        cases hx
      · rw [set_place, move_other hc]
        exact hl.pending c x hx
  | refuses | goes | locks | unlocks => exact logged_same hl hl.pending rfl hlater
  | aborts => exact logged_same hl (pending_update hl (by simp)) rfl hlater
  | @writes p b v _ hb _ _ hx =>
      refine logged_same hl (pending_update hl ?_) rfl hlater
      intro y hy
      rcases List.mem_append.mp hy with hy | hy
      · exact hl.pending b y hy
      · obtain rfl := List.mem_singleton.mp hy
        exact .inr ((hs.lent p b).mpr hb)
  | @commits p b _ hb hphase _ halive hx =>
      refine logged_commit hl hs hb (hs.keeps_holding hphase) halive (hl.own_pending hs hb)
        (pending_update hl (by simp)) rfl ?_ hlater
      simp [Attempt.early, hphase]
  | @closes p b place hb hphase _ =>
      refine logged_same hl ?_ rfl hlater
      intro c y hy
      by_cases hc : c = b
      · subst hc
        change y ∈ Function.update s.pending c [] c at hy
        simp at hy
      · change y ∈ Function.update s.pending b [] c at hy
        rw [Function.update_of_ne hc] at hy
        rw [set_place, move_other hc]
        exact hl.pending c y hy
  | @moves b place hgone hlent _ =>
      refine logged_same hl ?_ rfl hlater
      intro c y hy
      by_cases hc : c = b
      · subst hc
        change y ∈ s.pending c at hy
        rw [hl.none_pending hgone hlent] at hy
        cases hy
      · rw [move_other hc]
        exact hl.pending c y hy
  | @terminates b => exact logged_same hl (pending_update hl (by simp)) rfl hlater
  | @crashes e =>
      refine logged_same hl ?_ rfl hlater
      intro c y hy
      by_cases hc : placeEngine F (s.place c) = some e
      · exact .inl (if_pos hc)
      · rw [show (crash F s e).place c = s.place c from if_neg hc]
        exact hl.pending c y hy

theorem reach_logged (h : Reach (step F) Free start s) : Sound F s ∧ Logged F s := by
  have hstart : Logged F (start : Sys P B E V) :=
    ⟨by simp [start], by simp [start], fun _ => inTurns_nil, by simp [start]⟩
  refine h.invariant (I := fun s => Sound F s ∧ Logged F s) ⟨sound_start, hstart⟩ ?_
  exact fun s a t hi _ hstep => ⟨sound_step hi.1 hstep, logged_step hi.1 hi.2 hstep⟩

omit [DecidableEq P] [DecidableEq B] [DecidableEq E] in
theorem Sound.sole_keeper (hs : Sound F s) (hp : (s.attempt p).backend = some b) (hkp : (s.attempt p).keeps)
    (hb : s.alive b) (hq : (s.attempt q).backend = some c) (hkq : (s.attempt q).keeps) (hc : s.alive c)
    (hark : F.ark q = F.ark p) : q = p := by
  have hkey : F.key q = F.key p := by
    unfold Fleet.key
    rw [hark]
  have hother := hs.keeps q c hq hkq hc
  rw [hkey, hs.keeps p b hp hkp hb] at hother
  obtain ⟨rfl, -⟩ := Prod.mk.inj (Option.some.inj hother)
  exact hs.owner_unique hq hp

theorem log_step (hs : Sound F s) (hl : Logged F s) (h : step F s a = some t) :
    t.log = s.log ∨ ∃ p b, (s.attempt p).backend = some b ∧ (s.attempt p).phase = .holding ∧
      (s.attempt p).invalidated = false ∧ s.alive b ∧ t.log = s.log ++ s.pending b ∧ ∀ x ∈ s.pending b, x.1 = p := by
  cases step_moves hs.sane h with
  | @commits p b _ hb hphase hvalid halive _ =>
      exact .inr ⟨p, b, hb, hphase, hvalid, halive, rfl, hl.own_pending hs hb⟩
  | _ => exact .inl rfl

omit [DecidableEq P] [DecidableEq B] [DecidableEq E] in
theorem Attempt.keeps_late {x : Attempt B} (h : x.keeps) : x.early = false := by
  obtain ⟨-, hphase⟩ := Bool.and_eq_true_iff.mp h
  cases hx : x.phase <;> simp_all [Attempt.early, Phase.locked]

/-- A commit that takes effect is made on a connection that was never lost, whose backend runs and
has the lock of the ARK, it writes what its own attempt wrote, and no other attempt on the ARK has a
backend that runs and kept its lock. -/
theorem commit_owned (h : Reach (step F) Free start s) (hstep : step F s a = some t) (hlog : t.log ≠ s.log) :
    ∃ p b, (s.attempt p).phase = .holding ∧ (s.attempt p).backend = some b ∧
      (s.attempt p).invalidated = false ∧ s.alive b ∧ s.locks (F.key p) = some (b, 1) ∧
      t.log = s.log ++ s.pending b ∧ (∀ x ∈ s.pending b, x.1 = p) ∧
      ∀ q c, (s.attempt q).backend = some c → (s.attempt q).keeps → s.alive c → F.ark q = F.ark p → q = p := by
  obtain ⟨hs, hl⟩ := reach_logged h
  rcases log_step hs hl hstep with hsame | ⟨p, b, hb, hphase, hvalid, halive, hcommit, hown⟩
  · exact absurd hsame hlog
  · have hkept := hs.keeps_holding hphase
    refine ⟨p, b, hphase, hb, hvalid, halive, hs.keeps p b hb hkept halive, hcommit, hown, ?_⟩
    exact fun q c hq hk hc hark => hs.sole_keeper hb hkept halive hq hk hc hark

/-- While an attempt has its lock, all that is committed for its ARK is its own: what it read at the
start is what it finds changed by nobody else at the end. -/
theorem no_lost_update (h : Reach (step F) Free start s) (hrun : Reach (step F) Free s t)
    (hkept : (s.attempt p).keeps) (hc : (t.attempt p).backend = some c) (hstill : (t.attempt p).keeps)
    (hrunning : t.alive c) : ∃ news, t.log = s.log ++ news ∧ ∀ x ∈ news, F.ark x.1 = F.ark p → x.1 = p := by
  have hall : (t.attempt p).early = false ∧ ((t.attempt p).keeps → ∀ c, (t.attempt p).backend = some c → t.alive c →
      ∃ news, t.log = s.log ++ news ∧ ∀ x ∈ news, F.ark x.1 = F.ark p → x.1 = p) := by
    clear hc hstill hrunning
    induction hrun with
    | init => exact ⟨Attempt.keeps_late hkept, fun _ _ _ _ => ⟨[], (List.append_nil _).symm, by simp⟩⟩
    | @next u t a hrun _ hstep ih =>
        obtain ⟨hs, hl⟩ := reach_logged (h.trans hrun)
        obtain ⟨hlate, hnews⟩ := ih
        have hlater := later_step hs hstep p
        refine ⟨hlater.early hlate, fun hk c hc hrunning => ?_⟩
        obtain ⟨hcu, hku, hru⟩ := (hlater.keeps c hc hk hrunning).resolve_left (by simp [hlate])
        obtain ⟨news, hlog, hown⟩ := hnews hku c hcu hru
        rcases log_step hs hl hstep with hsame | ⟨q, d, hd, hphase, -, hrd, hcommit, hqown⟩
        · exact ⟨news, hsame.trans hlog, hown⟩
        · refine ⟨news ++ u.pending d, by rw [hcommit, hlog, List.append_assoc], fun x hx hark => ?_⟩
          rcases List.mem_append.mp hx with hx | hx
          · exact hown x hx hark
          · obtain rfl := hqown x hx
            exact hs.sole_keeper hcu hku hru hd (hs.keeps_holding hphase) hrd hark
  exact hall.2 hstill c hc hrunning

/-- The commits of two attempts on one ARK never interleave. -/
theorem commits_inTurns (h : Reach (step F) Free start s) {before mid after : List (P × V)} {x y : P × V}
    (hlog : s.log = before ++ x :: mid ++ y :: after) (hxy : x.1 = y.1) {z : P × V} (hz : z ∈ mid)
    (hark : F.ark z.1 = F.ark x.1) : z.1 = x.1 := by
  have hkey : F.key z.1 = F.key x.1 := by
    unfold Fleet.key
    rw [hark]
  have hturns := (reach_logged h).2.inTurns (F.key x.1)
  rw [hlog] at hturns
  refine hturns (writers F (F.key x.1) before) (writers F (F.key x.1) mid) (writers F (F.key x.1) after) x.1 ?_ z.1 ?_
  · simp [writers, ← hxy]
  · exact mem_writers.mpr ⟨hkey, z, hz, rfl⟩

/-- A connection goes back to the pool when no attempt has it any more, without a lock and without
an open write. -/
theorem pool_clean (h : Reach (step F) Free start s) {e : E} (hidle : s.place b = .idle e) :
    (∀ p, (s.attempt p).backend ≠ some b) ∧ (∀ k n, s.locks k ≠ some (b, n)) ∧ s.pending b = [] := by
  obtain ⟨hs, hl⟩ := reach_logged h
  have hgone : s.place b ≠ .gone := by simp [hidle]
  have hlent : ∀ p, s.place b ≠ .lent p := by simp [hidle]
  exact ⟨fun p hp => hlent p ((hs.lent p b).mpr hp), fun k n => hs.free hgone hlent, hl.none_pending hgone hlent⟩

/-- Once the backends of given up connections have ended, an ARK is locked only while an attempt on
it is between its lock and the end of its connection. -/
theorem lock_freed (h : Reach (step F) Free start s) (hgone : ∀ b, s.place b = .gone → s.alive b = false)
    (hdone : ∀ p, F.key p = k → (s.attempt p).keeps = false ∧ (s.attempt p).discards = false) :
    s.locks k = none := by
  have hs := reach_sound h
  refine Option.eq_none_iff_forall_not_mem.mpr ?_
  rintro ⟨b, n⟩ hheld
  have hlive := hs.live k b n hheld
  rcases (hs.held k b n hheld).2 with hplace | ⟨p, -, hkey, hp⟩
  · simp [hgone b hplace] at hlive
  · obtain ⟨hkeeps, hdiscards⟩ := hdone p hkey
    simp [hkeeps, hdiscards] at hp

/-- The lock is still there to be given back, whatever the connection went through. -/
theorem unlock_owned (h : Reach (step F) Free start s) (hphase : (s.attempt p).phase = .unlocking)
    (hb : (s.attempt p).backend = some b) (halive : s.alive b) : (s.locks.unlock (F.key p) b).isSome := by
  have hs := reach_sound h
  have hkept : (s.attempt p).keeps :=
    Bool.and_eq_true_iff.mpr ⟨(hs.sane p).holding (by simp [hphase]), by rw [hphase]; rfl⟩
  rw [unlock_once (hs.keeps p b hb hkept halive)]
  rfl

end Reached

section Sample

def twoWorkers : Fleet Bool Bool where
  engine p := p
  ark _ := ⟨"12345", "x1"⟩
  blake2b _ := [200, 1, 2, 3, 4, 5, 6, 7]

abbrev SampleAct := Act Bool Bool Bool Nat

def enter (p : Bool) : List SampleAct := [.connect p p, .tryLock p .ok, .commitLock p .ok]

def leaveKept (p : Bool) : List SampleAct :=
  [.leave p, .closeSession p (some .ok), .unlock p .ok, .commitUnlock p .ok, .closeConnection p true]

abbrev SampleSys := Sys Bool Bool Bool Nat

def sampleRun (acts : List SampleAct) : Option SampleSys := run (step twoWorkers) acts start

def twoVisits : List SampleAct :=
  enter false ++ [.write false 1 .ok, .commit false .ok, .connect true true, .tryLock true .ok, .commitLock true .ok,
    .write false 2 .ok, .commit false .ok, .write false 3 .ok, .commit false (.lost true)]

theorem commit_owned_sample :
    ∃ s t : SampleSys, Reach (step twoWorkers) Free start s ∧ step twoWorkers s (.commit false .ok) = some t ∧
      t.log ≠ s.log ∧ ∃ p b, (s.attempt p).phase = .holding ∧ (s.attempt p).backend = some b ∧
        (s.attempt p).invalidated = false ∧ s.alive b ∧ s.locks (twoWorkers.key p) = some (b, 1) ∧
        t.log = s.log ++ s.pending b ∧ (∀ x ∈ s.pending b, x.1 = p) ∧
        ∀ q c, (s.attempt q).backend = some c → (s.attempt q).keeps → s.alive c →
          twoWorkers.ark q = twoWorkers.ark p → q = p := by
  have hbefore : ((sampleRun (enter false ++ [.write false 1 .ok])).map fun s => s.log) = some [] := by decide +kernel
  have hafter : ((sampleRun ((enter false ++ [.write false 1 .ok]) ++ [.commit false .ok])).map fun t => t.log) =
      some [(false, 1)] := by decide +kernel
  obtain ⟨t, ht, hlogt⟩ := Option.map_eq_some_iff.mp hafter
  obtain ⟨s, hs, hstep⟩ := run_concat ht
  rw [sampleRun, hs] at hbefore
  have hlogs : s.log = [] := Option.some.inj hbefore
  have hlog : t.log ≠ s.log := by
    rw [hlogt, hlogs]
    simp
  exact ⟨s, t, run_reach hs, hstep, hlog, commit_owned (run_reach hs) hstep hlog⟩

/-- The second worker is refused while the first one commits. -/
theorem no_lost_update_sample :
    ∃ s t : SampleSys, Reach (step twoWorkers) Free start s ∧ Reach (step twoWorkers) Free s t ∧
      t.log = [(false, 1), (false, 2)] ∧
      ∃ news, t.log = s.log ++ news ∧ ∀ x ∈ news, twoWorkers.ark x.1 = twoWorkers.ark false → x.1 = false := by
  let look := fun s : SampleSys => ((s.attempt false).backend, (s.attempt false).keeps, s.alive false, s.log)
  have hbefore : (sampleRun (enter false)).map look = some (some false, true, true, []) := by decide +kernel
  have hafter : (sampleRun (enter false ++ ([.write false 1 .ok, .commit false .ok] ++ enter true ++
      [.write false 2 .ok, .commit false .ok]))).map look =
        some (some false, true, true, [(false, 1), (false, 2)]) := by decide +kernel
  obtain ⟨t, ht, hlookt⟩ := Option.map_eq_some_iff.mp hafter
  obtain ⟨s, hs, hrest⟩ := run_append ht
  rw [sampleRun, hs] at hbefore
  have hlooks : look s = (some false, true, true, []) := Option.some.inj hbefore
  simp only [look, Prod.mk.injEq] at hlooks hlookt
  obtain ⟨-, hkept, -⟩ := hlooks
  obtain ⟨hc, hstill, hrunning, hlog⟩ := hlookt
  have hreach : Reach (step twoWorkers) Free s t := run_reach hrest
  exact ⟨s, t, run_reach hs, hreach, hlog,
    no_lost_update (run_reach hs) hreach hkept hc hstill hrunning⟩

theorem commits_inTurns_sample :
    ∃ s : SampleSys, Reach (step twoWorkers) Free start s ∧
      s.log = [] ++ (false, 1) :: [(false, 2)] ++ (false, 3) :: [] ∧
      ((false, 2) : Bool × Nat).1 = false := by
  have hrun : ((sampleRun twoVisits).map fun s => s.log) = some [(false, 1), (false, 2), (false, 3)] := by
    decide +kernel
  obtain ⟨s, hs, hlog⟩ := Option.map_eq_some_iff.mp hrun
  have hlog : s.log = [] ++ (false, 1) :: [(false, 2)] ++ (false, 3) :: [] := hlog
  exact ⟨s, run_reach hs, hlog, commits_inTurns (run_reach hs) hlog rfl (List.mem_singleton.mpr rfl) rfl⟩

theorem pool_clean_sample :
    ∃ s : SampleSys, Reach (step twoWorkers) Free start s ∧ s.place false = .idle false ∧
      (∀ p, (s.attempt p).backend ≠ some false) ∧ (∀ k n, s.locks k ≠ some (false, n)) ∧
        s.pending false = [] := by
  have hrun : ((sampleRun (enter false ++ leaveKept false)).map fun s => s.place false) = some (.idle false) := by
    decide +kernel
  obtain ⟨s, hs, hidle⟩ := Option.map_eq_some_iff.mp hrun
  exact ⟨s, run_reach hs, hidle, pool_clean (run_reach hs) hidle⟩

/-- The lock of a worker whose connection was lost, and whose backend has ended. -/
theorem lock_freed_sample :
    ∃ s : SampleSys, Reach (step twoWorkers) Free start s ∧ s.place false = .gone ∧
      s.locks (twoWorkers.key true) = none := by
  have hrun : ((sampleRun (enter false ++ [.write false 1 (.lost true), .leave false, .closeSession false none,
      .closeConnection false true, .terminate false])).map fun s =>
        (s.place false, decide (∀ b, s.place b = .gone → s.alive b = false),
          decide (∀ p, (s.attempt p).keeps = false ∧ (s.attempt p).discards = false))) = some (.gone, true, true) := by
    decide +kernel
  obtain ⟨s, hs, hstate⟩ := Option.map_eq_some_iff.mp hrun
  obtain ⟨hplace, hrest⟩ := Prod.mk.inj hstate
  obtain ⟨hgone, hdone⟩ := Prod.mk.inj hrest
  refine ⟨s, run_reach hs, hplace, lock_freed (run_reach hs) (of_decide_eq_true hgone) fun p _ => ?_⟩
  exact of_decide_eq_true hdone p

theorem unlock_owned_sample :
    ∃ s : SampleSys, Reach (step twoWorkers) Free start s ∧ (s.attempt false).phase = .unlocking ∧
      (s.locks.unlock (twoWorkers.key false) false).isSome := by
  have hrun : ((sampleRun (enter false ++ [.leave false, .closeSession false none])).map fun s =>
      ((s.attempt false).phase, (s.attempt false).backend, s.alive false)) = some (.unlocking, some false, true) := by
    decide +kernel
  obtain ⟨s, hs, hstate⟩ := Option.map_eq_some_iff.mp hrun
  obtain ⟨hphase, hrest⟩ := Prod.mk.inj hstate
  obtain ⟨hb, halive⟩ := Prod.mk.inj hrest
  exact ⟨s, run_reach hs, hphase, unlock_owned (run_reach hs) hphase hb halive⟩

end Sample

end DarkMinter.ArkLocks
