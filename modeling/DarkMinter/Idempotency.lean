import DarkMinter.Reservations
import Mathlib.Data.List.Pairwise
import Mathlib.Data.List.Perm.Basic

namespace DarkMinter.Idempotency

open Lib Lib.Runs Processing Records Repository BatchReserve Reservations

section

variable {P : Type*} [DecidableEq P]

theorem conflicts_iff {row other : Row} : row.conflicts other = true ↔ row.key = other.key ∨
    ∃ authorityId naan cid, row.isActiveItem authorityId naan cid = true ∧
      other.isActiveItem authorityId naan cid = true := by
  simp only [Row.conflicts, decide_eq_true_eq, Option.any_eq_true]
  refine or_congr_right ⟨?_, ?_⟩
  · rintro ⟨hlive, cid, hcid, hother⟩
    exact ⟨_, _, cid, isActiveItem_iff.mpr ⟨rfl, rfl, hcid, hlive⟩, hother⟩
  · rintro ⟨authorityId, naan, cid, hrow, hother⟩
    obtain ⟨rfl, rfl, hcid, hlive⟩ := isActiveItem_iff.mp hrow
    exact ⟨hlive, cid, hcid, hother⟩

/-- The relation that the unique indexes keep off the tables. -/
def Clash (a b : Stored) : Prop := a.row.conflicts b.row = true

theorem clash_symm {a b : Stored} (h : Clash a b) : Clash b a := by
  rcases conflicts_iff.mp h with hkey | ⟨authorityId, naan, cid, ha, hb⟩
  · exact conflicts_iff.mpr (.inl hkey.symm)
  · exact conflicts_iff.mpr (.inr ⟨authorityId, naan, cid, hb, ha⟩)

/-- No two rows clash, whether committed or of open transactions, and a row that still has a client
item has the one that it was reserved for. -/
structure Unique (t : Tables P) : Prop where
  clashless : (allRows t).Pairwise fun a b => ¬Clash a b
  origin : ∀ st ∈ allRows t, ∀ cid, st.row.record.clientItemId = some cid → st.origin = some cid

variable {t u : Tables P} {p q : P} {st st' : Stored}

omit [DecidableEq P] in
theorem Unique.eq (h : Unique t) (hst : st ∈ allRows t) (hst' : st' ∈ allRows t) (hclash : Clash st st') :
    st = st' := by
  by_contra hne
  have hsymm : Std.Symm fun a b : Stored => ¬Clash a b := ⟨fun _ _ h h' => h (clash_symm h')⟩
  exact h.clashless.forall hst hst' hne hclash

omit [DecidableEq P] in
theorem Unique.of_perm (h : Unique t) (hperm : (allRows u).Perm (allRows t)) : Unique u := by
  refine ⟨?_, fun st hst => h.origin st (hperm.mem_iff.mp hst)⟩
  exact (hperm.pairwise_iff fun h h' => h (clash_symm h')).mpr h.clashless

omit [DecidableEq P] in
theorem Unique.of_sublist (h : Unique t) (hsub : (allRows u).Sublist (allRows t)) : Unique u :=
  ⟨h.clashless.sublist hsub, fun st hst => h.origin st (hsub.subset hst)⟩

omit [DecidableEq P] in
theorem Unique.of_append (h : Unique t) (hrows : (allRows u).Perm (allRows t ++ [st]))
    (hnew : ∀ st' ∈ allRows t, ¬Clash st st')
    (horigin : ∀ cid, st.row.record.clientItemId = some cid → st.origin = some cid) : Unique u := by
  constructor
  · refine (hrows.pairwise_iff fun h h' => h (clash_symm h')).mpr ?_
    refine List.pairwise_append.mpr ⟨h.clashless, List.pairwise_singleton .., ?_⟩
    intro a ha b hb
    obtain rfl := List.mem_singleton.mp hb
    exact fun hclash => hnew a ha (clash_symm hclash)
  · intro a ha
    rcases List.mem_append.mp (hrows.mem_iff.mp ha) with ha | ha
    · exact h.origin a ha
    · exact List.mem_singleton.mp ha ▸ horigin

theorem not_clash_of_clashes {rows : List Stored} (h : ¬Tables.clashes st rows = true) (hst' : st' ∈ rows) :
    ¬Clash st st' := by
  intro hclash
  exact h (List.any_eq_true.mpr ⟨st', hst', hclash⟩)

theorem insert_not_clash (hu : t.insert p st = some (.ok u)) (hst' : st' ∈ allRows t) : ¬Clash st st' := by
  unfold Tables.insert at hu
  split at hu
  · cases hu
  · rename_i hvisible
    split at hu
    · cases hu
    · rename_i hopen
      rcases List.mem_append.mp hst' with hst' | hst'
      · exact not_clash_of_clashes hvisible (List.mem_append_left _ hst')
      · exact not_clash_of_clashes hopen hst'

theorem unique_insert (h : Unique t) (horigin : ∀ cid, st.row.record.clientItemId = some cid → st.origin = some cid)
    (hu : t.insert p st = some (.ok u)) : Unique u := by
  refine h.of_append ?_ (fun st' hst' => insert_not_clash hu hst') horigin
  obtain rfl := insert_ok hu
  simp [allRows, openRows]

omit [DecidableEq P] in
theorem unique_import (h : Unique t) (hitem : st.row.record.clientItemId = none) (hu : importRow t st = some u) :
    Unique u := by
  unfold importRow at hu
  split at hu
  · cases hu
  · rename_i hclash
    obtain rfl := Option.some.inj hu
    refine h.of_append ?_ (fun st' hst' => not_clash_of_clashes hclash hst') (by simp [hitem])
    simp only [allRows, openRows, List.append_assoc]
    exact List.perm_append_comm.append_left _

theorem commit_rows : (allRows (t.commit p)).Perm (allRows t) := by
  have hopen : ((ownRows t p) ++ openRows (t.rollback p)).Perm (openRows t) := by
    have hsplit := List.filter_append_perm (fun e : P × Stored => decide (e.1 = p)) (openRows t)
    simpa [ownRows, openRows, Tables.rollback, Tables.others, List.filter_append] using hsplit
  have hrows : allRows (t.commit p) = t.committed ++ (ownRows t p ++ openRows (t.rollback p)).map (·.2) := by
    rw [allRows, commit_committed, List.append_assoc, List.map_append]
    rfl
  rw [hrows]
  exact (hopen.map _).append_left _

/-- A change of a record that gives it no client item, and no active one that it had not. -/
def Narrows (f : ARKRecord → ARKRecord) : Prop :=
  ∀ r cid, (f r).clientItemId = some cid → r.clientItemId = some cid ∧
    ((f r).state ≠ .tombstone → r.state ≠ .tombstone ∧ (f r).authorityId = r.authorityId)

variable {k : ArkId} {f : ARKRecord → ARKRecord}

theorem touch_active {authorityId naan cid : String} (hf : Narrows f)
    (h : (st.touch k f).row.isActiveItem authorityId naan cid = true) :
    st.row.isActiveItem authorityId naan cid = true := by
  unfold Stored.touch at h
  split at h
  · obtain ⟨hA, hnaan, hcid, hlive⟩ := isActiveItem_iff.mp h
    obtain ⟨hcid, hrest⟩ := hf _ cid hcid
    obtain ⟨hlive, hsame⟩ := hrest hlive
    exact isActiveItem_iff.mpr ⟨hsame.symm.trans hA, hnaan, hcid, hlive⟩
  · exact h

theorem touch_clash (hf : Narrows f) (h : Clash (st.touch k f) st') : Clash st st' := by
  rcases conflicts_iff.mp h with hkey | ⟨authorityId, naan, cid, hst, hst'⟩
  · exact conflicts_iff.mpr (.inl (touch_key.symm.trans hkey))
  · exact conflicts_iff.mpr (.inr ⟨authorityId, naan, cid, touch_active hf hst, hst'⟩)

omit [DecidableEq P] in
theorem unique_modify (h : Unique t) (hf : Narrows f) {ended : List ArkId} :
    Unique { t.modify k f with ended := ended } := by
  obtain ⟨hcommitted, hopen, hcross⟩ := List.pairwise_append.mp h.clashless
  constructor
  · refine List.pairwise_append.mpr ⟨?_, hopen, ?_⟩
    · refine List.pairwise_map.mpr (hcommitted.imp fun hclash hclash' => hclash ?_)
      exact clash_symm (touch_clash hf (clash_symm (touch_clash hf hclash')))
    · intro a ha b hb hclash
      obtain ⟨a', ha', rfl⟩ := List.mem_map.mp ha
      exact hcross a' ha' b hb (touch_clash hf hclash)
  · intro a ha cid hcid
    rcases List.mem_append.mp ha with ha | ha
    · obtain ⟨a', ha', rfl⟩ := List.mem_map.mp ha
      rw [touch_origin]
      refine h.origin a' (List.mem_append_left _ ha') cid ?_
      unfold Stored.touch at hcid
      split at hcid
      · exact (hf _ cid hcid).1
      · exact hcid
    · exact h.origin a (List.mem_append_right _ ha) cid hcid

theorem narrows_tombstoned {now : Time} : Narrows (tombstonedRecord now) :=
  fun _ _ hcid => ⟨hcid, fun hlive => absurd rfl hlive⟩

theorem narrows_reowned {A : String} {info : ARKInfo} {now : Time} : Narrows (reowned A info now) := by
  intro r cid hcid
  cases hcid

theorem narrows_advanced {state : ARKState} : Narrows (advanced state) := by
  intro r cid hcid
  unfold advanced at hcid ⊢
  split at hcid
  · exact ⟨hcid, fun hlive => ⟨by simpa [*] using hlive, by simp [*]⟩⟩
  · rename_i hstate
    exact ⟨hcid, fun _ => ⟨fun h => hstate (.inl h), by simp [*]⟩⟩

/-- The entry was read for the client item `cid` from a row of `rows`, and that row has been active
ever since, unless its ARK ended. -/
def Vouched (t : Tables P) (rows : List Stored) (r : Request) (cid : String) (e : Entry) : Prop :=
  e.row.record.clientItemId = some cid ∧ e.readAt ≤ t.ended.length ∧
    ∃ st ∈ rows, st.row.key = e.row.key ∧ st.origin = some cid ∧
      (st.row.isActiveItem r.authorityId r.naan cid = true ∨ e.row.key ∈ t.ended.drop e.readAt)

variable {rows rows' : List Stored} {r r' : Request} {cid : String} {e e' : Entry}

omit [DecidableEq P] in
theorem Vouched.mono (h : Vouched t rows r cid e) (hended : u.ended = t.ended) (hsub : rows ⊆ rows') :
    Vouched u rows' r cid e := by
  obtain ⟨hcid, hread, st, hst, hrest⟩ := h
  unfold Vouched
  rw [hended]
  exact ⟨hcid, hread, st, hsub hst, hrest⟩

omit [DecidableEq P] in
theorem Vouched.touch (h : Vouched t rows r cid e) {ended : List ArkId} (hended : u.ended = t.ended ++ ended)
    (hrows : ∀ st ∈ rows, st ∈ rows' ∨ st.touch k f ∈ rows')
    (hactive : k ∈ ended ∨ ∀ st : Stored, st.row.isActiveItem r.authorityId r.naan cid = true →
      (st.touch k f).row.isActiveItem r.authorityId r.naan cid = true) : Vouched u rows' r cid e := by
  obtain ⟨hcid, hread, st, hst, hkey, horigin, hlive⟩ := h
  have hdrop : u.ended.drop e.readAt = t.ended.drop e.readAt ++ ended := by
    rw [hended, List.drop_append_of_le_length hread]
  refine ⟨hcid, by rw [hended, List.length_append]; omega, ?_⟩
  rw [hdrop]
  rcases hrows st hst with hsame | htouched
  · exact ⟨st, hsame, hkey, horigin, hlive.imp_right fun h => List.mem_append_left _ h⟩
  · refine ⟨_, htouched, touch_key.trans hkey, touch_origin.trans horigin, ?_⟩
    rcases hlive with hlive | hgone
    · rcases hactive with hk | hkeeps
      · by_cases hne : st.row.key = k
        · exact .inr (List.mem_append_right _ (hkey ▸ hne ▸ hk))
        · exact .inl (by rw [touch_of_ne hne]; exact hlive)
      · exact .inl (hkeeps st hlive)
    · exact .inr (List.mem_append_left _ hgone)

omit [DecidableEq P] in
theorem agree_now (hu : Unique t) (h : Vouched t (allRows t) r cid e) (h' : Vouched t (allRows t) r' cid e')
    (hA : r.authorityId = r'.authorityId) (hnaan : r.naan = r'.naan) (hnow : e'.readAt = t.ended.length) :
    e.row.key = e'.row.key ∨ e.row.key ∈ (t.ended.take e'.readAt).drop e.readAt := by
  obtain ⟨-, -, st, hst, hkey, -, hlive⟩ := h
  obtain ⟨-, -, st', hst', hkey', -, hlive'⟩ := h'
  rw [hnow, List.take_length]
  rcases hlive with hlive | hgone
  · have hactive' : st'.row.isActiveItem r.authorityId r.naan cid = true := by
      rw [hA, hnaan]
      simpa [hnow] using hlive'
    have hsame := hu.eq hst hst' (conflicts_iff.mpr (.inr ⟨_, _, _, hlive, hactive'⟩))
    exact .inl (hkey.symm.trans (hsame ▸ hkey'))
  · exact .inr hgone

/-- The lists and the dictionary of a batch: each item that is done has one entry, and the entries
are those of the dictionary. -/
structure Listing (t : Tables P) (p : P) (x : Session) (items : List String) : Prop where
  yields : (x.progress.results.map (·.row.record.clientItemId) ++
    x.progress.errors.map (fun e => some e.clientItemId) ++
    x.progress.items.map some).Perm (items.map some)
  listed : ∀ e ∈ x.progress.results, ∃ cid, e.row.record.clientItemId = some cid ∧
    Dict.get x.progress.active cid = some e
  vouched : ∀ cid e, Dict.get x.progress.active cid = some e → Vouched t (t.visible p) x.request cid e

variable {x x' : Session} {items rest : List String}

theorem Listing.keep (h : Listing t p x items) (hprogress : x'.progress = x.progress)
    (hvouched : ∀ cid e, Vouched t (t.visible p) x.request cid e → Vouched u (u.visible p) x'.request cid e) :
    Listing u p x' items := by
  obtain ⟨hyields, hlisted, hold⟩ := h
  rw [← hprogress] at hyields hlisted hold
  exact ⟨hyields, hlisted, fun cid e he => hvouched cid e (hold cid e he)⟩

theorem listing_listed (h : Listing t p x items) (hitems : x.progress.items = cid :: rest)
    (he : Dict.get x.progress.active cid = some e) :
    Listing t p { x with progress := x.progress.listEntry e } items := by
  have hcid := (h.vouched cid e he).1
  refine ⟨?_, ?_, h.vouched⟩
  · refine List.Perm.trans ?_ h.yields
    simp only [Progress.listEntry, hitems, List.map_append, List.map_cons, List.map_nil, List.tail_cons, hcid,
      List.append_assoc, List.singleton_append]
    refine List.Perm.append_left _ ?_
    exact List.perm_middle.symm
  · intro e' he'
    rcases List.mem_append.mp he' with he' | he'
    · exact h.listed e' he'
    · obtain rfl := List.mem_singleton.mp he'
      exact ⟨cid, hcid, he⟩

theorem listing_failed (h : Listing t p x items) (hitems : x.progress.items = cid :: rest) {text : String}
    {phase : Phase} : Listing t p { x with phase := phase, progress := x.progress.fail cid text } items := by
  refine ⟨?_, h.listed, h.vouched⟩
  refine List.Perm.trans ?_ h.yields
  simp only [Progress.fail, hitems, List.map_append, List.map_cons, List.map_nil, List.tail_cons, List.append_assoc,
    List.singleton_append]
  exact List.Perm.refl _

theorem listing_saved (h : Listing t p x items) (hitems : x.progress.items = cid :: rest)
    (hnew : Dict.get x.progress.active cid = none) (he : Vouched t (t.visible p) x.request cid e) {phase : Phase} :
    Listing t p { x with phase := phase, progress := x.progress.save cid e } items := by
  refine ⟨?_, ?_, ?_⟩
  · refine List.Perm.trans ?_ h.yields
    simp only [Progress.save, Progress.listEntry, hitems, List.map_append, List.map_cons, List.map_nil, List.tail_cons,
      he.1, List.append_assoc, List.singleton_append]
    refine List.Perm.append_left _ ?_
    exact List.perm_middle.symm
  · intro e' he'
    rcases List.mem_append.mp he' with he' | he'
    · obtain ⟨cid', hcid', hget⟩ := h.listed e' he'
      have hne : cid ≠ cid' := by
        rintro rfl
        simp [hnew] at hget
      exact ⟨cid', hcid', by simp [Progress.save, hne, hget]⟩
    · obtain rfl := List.mem_singleton.mp he'
      exact ⟨cid, he.1, by simp [Progress.save]⟩
  · intro cid' e' hget
    simp only [Progress.save, Dict.get_set] at hget
    split at hget
    · rename_i hsame
      obtain rfl := Option.some.inj hget
      exact hsame ▸ he
    · exact h.vouched cid' e' hget

theorem visible_subset : t.visible p ⊆ allRows t := by
  refine List.Sublist.subset ((List.Sublist.refl _).append ?_)
  exact (List.filter_sublist.trans (List.sublist_append_left ..)).map _

theorem vouched_read (hu : Unique t) {row : Row} (hrow : row ∈ (t.visible p).map (·.row))
    (hactive : row.isActiveItem r.authorityId r.naan cid = true) :
    Vouched t (t.visible p) r cid ⟨row, t.ended.length⟩ := by
  obtain ⟨st, hst, rfl⟩ := List.mem_map.mp hrow
  have hcid := (isActiveItem_iff.mp hactive).2.2.1
  exact ⟨hcid, le_rfl, st, hst, rfl, hu.origin st (visible_subset hst) cid hcid, .inl hactive⟩

theorem prefetched_vouched (hu : Unique t) (h : Dict.get (prefetched t p r items) cid = some e) :
    Vouched t (t.visible p) r cid e ∧ e.readAt = t.ended.length := by
  have hmap := Dict.get_map (fun row => (⟨row, t.ended.length⟩ : Entry))
    (getActiveByClientItemIds (t.database p) r.authorityId r.naan items) cid
  obtain ⟨row, hget, rfl⟩ := Option.map_eq_some_iff.mp (hmap.symm.trans h)
  obtain ⟨hrow, hactive⟩ := getActive_spec (get_getActives hget)
  exact ⟨vouched_read hu hrow hactive, rfl⟩

/-- The phases in which the next item of a batch is being reserved. -/
def Phase.attempts : Phase → Bool
  | .ensure _ | .update _ | .savepoint .. | .insert .. | .release .. | .rollbackTo .. | .lookup .. => true
  | _ => false

/-- The phases that a request of its kind can be in. -/
def Phase.fits (job : Job) : Phase → Bool
  | .prefetch | .item | .lookup .. | .commit none => job ≠ .single
  | .collided _ | .undo _ | .refresh _ | .commit (some _) => job = .single
  | _ => true

structure Sound (t : Tables P) (p : P) (x : Session) : Prop where
  alive : x.aborted = false
  fits : Phase.fits x.request.job x.phase = true
  listing : ∀ items, x.request.job = .batch items → x.phase ≠ .prefetch → Listing t p x items
  fresh : x.phase = .prefetch → x.progress = {}
  attempt : ∀ items, x.request.job = .batch items → Phase.attempts x.phase = true →
    ∃ cid rest, x.progress.items = cid :: rest ∧ Dict.get x.progress.active cid = none
  release : ∀ k st, x.phase = .release k st → (p, st) ∈ t.tentative ∧ ∃ n fullArk, st = x.stored n fullArk
  finished : x.phase = .commit none → x.progress.items = []

structure Goes (t u : Tables P) (p : P) (x x' : Session) : Prop where
  sound : Sound u p x'
  request : x'.request = x.request
  entries : ∀ cid e, Dict.get x'.progress.active cid = some e →
    Dict.get x.progress.active cid = some e ∨ e.readAt = t.ended.length

theorem Sound.carry (h : Sound t p x)
    (hvouched : ∀ cid e, Vouched t (t.visible p) x.request cid e → Vouched u (u.visible p) x.request cid e)
    (htentative : ∀ st, (p, st) ∈ t.tentative → (p, st) ∈ u.tentative) : Sound u p x := by
  refine ⟨h.alive, h.fits, fun items hjob hphase => ?_, h.fresh, h.attempt, fun k st hphase => ?_, h.finished⟩
  · exact (h.listing items hjob hphase).keep rfl hvouched
  · obtain ⟨hmem, hstored⟩ := h.release k st hphase
    exact ⟨htentative st hmem, hstored⟩

structure Sees (t u : Tables P) (p : P) : Prop where
  visible : t.visible p ⊆ u.visible p
  ended : u.ended = t.ended

theorem Sees.vouched (h : Sees t u p) (hold : Vouched t (t.visible p) r cid e) : Vouched u (u.visible p) r cid e :=
  hold.mono h.ended h.visible

theorem goes_phase (h : Sound t p x) (hsees : Sees t u p) {phase : Phase} (hx : x.phase ≠ .prefetch)
    (hphase : phase ≠ .prefetch) (hfits : Phase.fits x.request.job phase = true)
    (hattempt : ∀ items, x.request.job = .batch items → Phase.attempts phase = true →
      ∃ cid rest, x.progress.items = cid :: rest ∧ Dict.get x.progress.active cid = none)
    (hrelease : ∀ k st, phase = .release k st → (p, st) ∈ u.tentative ∧ ∃ n fullArk, st = x.stored n fullArk)
    (hfinished : phase = .commit none → x.progress.items = []) : Goes t u p x { x with phase := phase } := by
  refine ⟨⟨h.alive, hfits, fun items hjob _ => ?_, fun h => absurd h hphase, hattempt, hrelease, hfinished⟩, rfl,
    fun cid e he => .inl he⟩
  exact (h.listing items hjob hx).keep rfl fun cid e => hsees.vouched

theorem goes_attempt (h : Sound t p x) (hsees : Sees t u p) (hx : Phase.attempts x.phase = true) {phase : Phase}
    (hphase : phase ≠ .prefetch) (hfits : Phase.fits x.request.job phase = true)
    (hrelease : ∀ k st, phase = .release k st → (p, st) ∈ u.tentative ∧ ∃ n fullArk, st = x.stored n fullArk)
    (hfinished : phase ≠ .commit none) : Goes t u p x { x with phase := phase } := by
  refine goes_phase h hsees ?_ hphase hfits (fun items hjob _ => h.attempt items hjob hx) hrelease
    fun hcommit => absurd hcommit hfinished
  intro hprefetch
  simp [hprefetch, Phase.attempts] at hx

variable {s s' : Sys P} {n k' : Nat}

theorem goes_itemFailed {error : DbError} (h : Sound t p x) (hsees : Sees t u p) (hjob : x.request.job = .batch items)
    (hx : Phase.attempts x.phase = true) : Goes t u p x (x.itemFailed error) := by
  obtain ⟨cid, rest, hitems, hnone⟩ := h.attempt items hjob hx
  have hcid : x.clientItemId.getD "" = cid := by
    simp [Session.clientItemId, hjob, hitems]
  have hx' : x.phase ≠ .prefetch := by
    intro hprefetch
    simp [hprefetch, Phase.attempts] at hx
  refine ⟨⟨h.alive, ?_, fun items' hjob' _ => ?_, ?_, ?_, ?_, ?_⟩, rfl, fun cid e he => .inl he⟩
  · simp [Session.itemFailed, Phase.fits, hjob]
  · obtain rfl : items = items' := by
      simpa [hjob, Session.itemFailed] using hjob'
    rw [Session.itemFailed, hcid]
    exact listing_failed ((h.listing items hjob hx').keep rfl fun cid e => hsees.vouched) hitems
  · rintro ⟨⟩
  · rintro _ _ ⟨⟩
  · rintro _ _ ⟨⟩
  · rintro ⟨⟩

theorem goes_saved (h : Sound t p x) (hsees : Sees t u p) (hx : Phase.attempts x.phase = true)
    (hnow : e.readAt = t.ended.length)
    (hentry : ∀ cid, x.clientItemId = some cid → Vouched u (u.visible p) x.request cid e) :
    Goes t u p x (x.saved e) := by
  unfold Session.saved
  cases hjob : x.request.job with
  | single => exact goes_attempt h hsees hx (by simp) (by simp [Phase.fits, hjob]) (by simp) (by simp)
  | batch items =>
      obtain ⟨cid, rest, hitems, hnone⟩ := h.attempt items hjob hx
      have hcid : x.clientItemId = some cid := by
        simp [Session.clientItemId, hjob, hitems]
      have hx' : x.phase ≠ .prefetch := by
        intro hprefetch
        simp [hprefetch, Phase.attempts] at hx
      have hlisting := (h.listing items hjob hx').keep rfl fun cid e => hsees.vouched
      simp only [hcid, Option.getD_some]
      refine ⟨⟨h.alive, ?_, fun items' hjob' _ => ?_, ?_, ?_, ?_, ?_⟩, rfl, fun cid' e' he' => ?_⟩
      · simp [Phase.fits, hjob]
      · obtain rfl : items = items' := by
          simpa [hjob] using hjob'
        exact listing_saved hlisting hitems hnone (hentry cid hcid)
      · rintro ⟨⟩
      · rintro _ _ ⟨⟩
      · rintro _ _ ⟨⟩
      · rintro ⟨⟩
      · simp only [Progress.save, Dict.get_set] at he'
        split at he'
        · exact .inr (Option.some.inj he' ▸ hnow)
        · exact .inl he'

/-- What a batch response lists: every item once, and one entry for a client item however often it is
asked for. -/
structure Answered (t : Tables P) (r : Request) (results : List Entry) (errors : List BatchError) : Prop where
  items : ∃ items, r.job = .batch items ∧
    (results.map (·.row.record.clientItemId) ++ errors.map fun e => some e.clientItemId).Perm (items.map some)
  vouched : ∀ e ∈ results, ∃ cid, Vouched t t.committed r cid e
  same : ∀ e ∈ results, ∀ e' ∈ results, e.row.record.clientItemId = e'.row.record.clientItemId → e = e'

theorem job_batch (h : x.request.job ≠ .single) : ∃ items, x.request.job = .batch items := by
  cases hjob : x.request.job with
  | single => exact absurd hjob h
  | batch items => exact ⟨items, rfl⟩

theorem answered (h : Sound t p x) (hphase : x.phase = .commit none) :
    Answered (t.commit p) x.request x.progress.results x.progress.errors ∧
      ∀ e ∈ x.progress.results, ∀ cid, e.row.record.clientItemId = some cid →
        Dict.get x.progress.active cid = some e := by
  obtain ⟨items, hjob⟩ := job_batch (by simpa [Phase.fits, hphase] using h.fits)
  obtain ⟨hyields, hlisted, hvouched⟩ := h.listing items hjob (by simp [hphase])
  have hentry : ∀ e ∈ x.progress.results, ∀ cid, e.row.record.clientItemId = some cid →
      Dict.get x.progress.active cid = some e := by
    intro e he cid hcid
    obtain ⟨cid', hcid', hget⟩ := hlisted e he
    obtain rfl := Option.some.inj (hcid.symm.trans hcid')
    exact hget
  refine ⟨⟨⟨items, hjob, ?_⟩, fun e he => ?_, fun e he e' he' hsame => ?_⟩, hentry⟩
  · simpa [h.finished hphase] using hyields
  · obtain ⟨cid, -, hget⟩ := hlisted e he
    exact ⟨cid, (hvouched cid e hget).mono rfl (List.subset_append_left ..)⟩
  · obtain ⟨cid, hcid, hget⟩ := hlisted e he
    exact Option.some.inj (hget.symm.trans (hentry e' he' cid (hsame ▸ hcid)))

inductive Outcome (p : P) (x : Session) (s : Sys P) : Sys P → Prop
  | goes {u : Tables P} {x' : Session} (h : Goes s.tables u p x x') : Outcome p x s ((s.setTables u).put p x')
  | replies {u : Tables P} {reply : Reply}
      (h : ∀ results errors, reply = .batch results errors → Answered (u.rollback p) x.request results errors ∧
        ∀ e ∈ results, ∀ cid, e.row.record.clientItemId = some cid → Dict.get x.progress.active cid = some e) :
      Outcome p x s ((s.setTables u).reply p x reply)

/-- The statements that are executed outside a savepoint, of those whose error the handler catches
and goes on from. -/
def Phase.outside : Phase → Bool
  | .ensure _ | .update _ | .savepoint .. | .rollbackTo .. => true
  | _ => false

theorem outcome_same (h : Goes s.tables s.tables p x x') : Outcome p x s (s.put p x') := .goes h

theorem outcome_quit {u : Tables P} {reply : Reply} (h : ∀ results errors, reply ≠ .batch results errors) :
    Outcome p x s ((s.setTables u).reply p x reply) :=
  .replies fun results errors hreply => absurd hreply (h results errors)

theorem Sees.refl : Sees t t p := ⟨fun _ h => h, rfl⟩

theorem sees_written (hu : Written p t u) : Sees t u p := by
  rcases hu with rfl | ⟨ns, v, rfl, -⟩ <;> exact ⟨fun _ h => h, rfl⟩

theorem sees_insert (hu : t.insert p st = some (.ok u)) : Sees t u p := by
  obtain rfl := insert_ok hu
  exact ⟨fun _ h => h, rfl⟩

theorem sees_release : Sees t (t.release p) p := by
  refine ⟨List.Subset.trans ?_ (List.Subset.refl _), rfl⟩
  refine ((List.Sublist.refl _).append (List.Sublist.map _ ?_)).subset
  exact (List.sublist_append_left ..).filter _

theorem sees_rollbackTo : Sees t (t.rollbackTo p) p := ⟨fun _ h => h, rfl⟩

theorem goes_prefetched (h : Sound t p x) (hu : Unique t) (hjob : x.request.job = .batch items) : Goes t t p x { x with
      phase := .item, progress := { items, active := prefetched t p x.request items } } := by
  refine ⟨⟨h.alive, by simp [Phase.fits, hjob], fun items' hjob' _ => ?_, ?_, ?_, ?_, ?_⟩, rfl, fun cid e he => ?_⟩
  · obtain rfl : items = items' := by
      simpa [hjob] using hjob'
    exact ⟨by simp, by simp, fun cid e he => (prefetched_vouched hu he).1⟩
  · rintro ⟨⟩
  · rintro _ _ ⟨⟩
  · rintro _ _ ⟨⟩
  · rintro ⟨⟩
  · exact .inr (prefetched_vouched hu he).2

theorem goes_listed (h : Sound t p x) (hphase : x.phase = .item) (hitems : x.progress.items = cid :: rest)
    (he : Dict.get x.progress.active cid = some e) :
    Goes t t p x { x with phase := .item, progress := x.progress.listEntry e } := by
  have hfits := h.fits
  rw [hphase] at hfits
  refine ⟨⟨h.alive, hfits, fun items hjob _ => ?_, ?_, ?_, ?_, ?_⟩, rfl, fun _ _ he => .inl he⟩
  · exact (listing_listed (h.listing items hjob (by simp [hphase])) hitems he).keep rfl fun _ _ hold => hold
  · rintro ⟨⟩
  · rintro _ _ ⟨⟩
  · rintro _ _ ⟨⟩
  · rintro ⟨⟩

theorem released_vouched {error : Nat} (h : Sound t p x) (hphase : x.phase = .release error st)
    (hcid : x.clientItemId = some cid) :
    Vouched (t.release p) ((t.release p).visible p) x.request cid ⟨st.row, t.ended.length⟩ := by
  obtain ⟨hmem, n, fullArk, rfl⟩ := h.release error st hphase
  have hvisible : x.stored n fullArk ∈ (t.release p).visible p := by
    refine List.mem_append_right _ (List.mem_map.mpr ⟨(p, x.stored n fullArk), ?_, rfl⟩)
    refine List.mem_filter.mpr ⟨List.mem_append_right _ ?_, by simp⟩
    exact List.mem_filter.mpr ⟨hmem, by simp⟩
  refine ⟨hcid, le_rfl, _, hvisible, rfl, hcid, .inl ?_⟩
  exact isActiveItem_iff.mpr ⟨rfl, rfl, hcid, by simp [Session.stored, Request.row, createReserved]⟩

omit [DecidableEq P] in
theorem fault_ok (h : x.aborted = false) : x.fault .ok = none := by
  simp [Session.fault, h]

/-- No statement outside a savepoint fails. The error of one that the handler does not catch ends the
request, and is allowed. -/
def Healthy (s : Sys P) : Act P → Prop
  | .statement p answer => ∀ x, s.sessions p = some x → Phase.outside x.phase = true → answer = .ok
  | _ => True

def Known (s : Sys P) (r : Request) (cid : String) (e : Entry) : Prop :=
  (∃ p x items, s.sessions p = some x ∧ x.request = r ∧ r.job = .batch items ∧
    Dict.get x.progress.active cid = some e) ∨
  ∃ results errors, (r, .batch results errors) ∈ s.replies ∧ e ∈ results ∧ e.row.record.clientItemId = some cid

structure Inv (s : Sys P) : Prop where
  unique : Unique s.tables
  sessions : ∀ p x, s.sessions p = some x → Sound s.tables p x
  replies : ∀ r results errors, (r, .batch results errors) ∈ s.replies → Answered s.tables r results errors
  agree : ∀ r r' cid e e', Known s r cid e → Known s r' cid e' → r.authorityId = r'.authorityId → r.naan = r'.naan →
    e.readAt ≤ e'.readAt → e.row.key = e'.row.key ∨ e.row.key ∈ (s.tables.ended.take e'.readAt).drop e.readAt

theorem known_vouched (hsessions : ∀ p x, s.sessions p = some x → Sound s.tables p x)
    (hreplies : ∀ r results errors, (r, .batch results errors) ∈ s.replies → Answered s.tables r results errors)
    (h : Known s r cid e) : Vouched s.tables (allRows s.tables) r cid e := by
  rcases h with ⟨p, x, items, hx, rfl, hjob, hget⟩ | ⟨results, errors, hreply, he, hcid⟩
  · have hsound := hsessions p x hx
    by_cases hphase : x.phase = .prefetch
    · rw [hsound.fresh hphase] at hget
      cases hget
    · exact ((hsound.listing items hjob hphase).vouched cid e hget).mono rfl visible_subset
  · obtain ⟨cid', hvouched⟩ := (hreplies r results errors hreply).vouched e he
    obtain rfl := Option.some.inj (hcid.symm.trans hvouched.1)
    exact hvouched.mono rfl (List.subset_append_left ..)

/-- A step keeps the entries in agreement, if all that it adds were read just now. -/
theorem Inv.next (hi : Inv s) (hunique : Unique s'.tables)
    (hsessions : ∀ p x, s'.sessions p = some x → Sound s'.tables p x)
    (hreplies : ∀ r results errors, (r, .batch results errors) ∈ s'.replies → Answered s'.tables r results errors)
    (hended : s.tables.ended <+: s'.tables.ended)
    (hknown : ∀ r cid e, Known s' r cid e → Known s r cid e ∨ e.readAt = s'.tables.ended.length) : Inv s' := by
  refine ⟨hunique, hsessions, hreplies, fun r r' cid e e' he he' hA hnaan hle => ?_⟩
  have hvouched := known_vouched hsessions hreplies he
  have hvouched' := known_vouched hsessions hreplies he'
  rcases hknown r' cid e' he' with hold' | hnow
  · rcases hknown r cid e he with hold | hnow
    · have hread := (known_vouched hi.sessions hi.replies hold').2.1
      obtain ⟨new, hnew⟩ := hended
      rw [← hnew, List.take_append_of_le_length hread]
      exact hi.agree r r' cid e e' hold hold' hA hnaan hle
    · exact agree_now hunique hvouched hvouched' hA hnaan (le_antisymm hvouched'.2.1 (hnow ▸ hle))
  · exact agree_now hunique hvouched hvouched' hA hnaan hnow

theorem mem_visible : st ∈ t.visible p ↔ st ∈ t.committed ∨ (p, st) ∈ t.pending := by
  simp [Tables.visible, Tables.own]

theorem mem_others {rows : List (P × Stored)} (hne : q ≠ p) (h : (q, st) ∈ rows) : (q, st) ∈ Tables.others p rows :=
  List.mem_filter.mpr ⟨h, by simp [hne]⟩

theorem sees_rollback (hne : q ≠ p) : Sees t (t.rollback p) q := by
  refine ⟨fun st hst => ?_, rfl⟩
  exact mem_visible.mpr ((mem_visible.mp hst).imp_right (mem_others hne))

theorem effect_others (hne : q ≠ p) (heffect : Effect p x t u) :
    Sees t u q ∧ ∀ st, (q, st) ∈ t.tentative → (q, st) ∈ u.tentative := by
  cases heffect with
  | same => exact ⟨.refl, fun _ h => h⟩
  | ensured hu =>
      rcases ensure_written hu with rfl | ⟨ns, v, rfl, -⟩ <;> exact ⟨⟨fun _ h => h, rfl⟩, fun _ h => h⟩
  | allocated hu =>
      rcases allocate_written hu with rfl | ⟨ns, v, rfl, -⟩ <;> exact ⟨⟨fun _ h => h, rfl⟩, fun _ h => h⟩
  | inserted hphase hu =>
      obtain rfl := insert_ok hu
      exact ⟨⟨fun _ h => h, rfl⟩, fun _ h => List.mem_append_left _ h⟩
  | released =>
      refine ⟨⟨fun st hst => ?_, rfl⟩, fun st => mem_others hne⟩
      exact mem_visible.mpr ((mem_visible.mp hst).imp_right fun h => List.mem_append_left _ h)
  | rolledBackTo => exact ⟨⟨fun _ h => h, rfl⟩, fun st => mem_others hne⟩
  | rolledBack => exact ⟨sees_rollback hne, fun st => mem_others hne⟩
  | committed =>
      refine ⟨⟨fun st hst => ?_, rfl⟩, fun st => mem_others hne⟩
      refine mem_visible.mpr ((mem_visible.mp hst).imp (fun h => ?_) (mem_others hne))
      exact List.mem_append_left _ (List.mem_append_left _ h)

theorem effect_committed (heffect : Effect p x t u) : t.committed ⊆ u.committed ∧ u.ended = t.ended := by
  cases heffect with
  | same | released | rolledBackTo | rolledBack => exact ⟨fun _ h => h, rfl⟩
  | ensured hu => rcases ensure_written hu with rfl | ⟨ns, v, rfl, -⟩ <;> exact ⟨fun _ h => h, rfl⟩
  | allocated hu => rcases allocate_written hu with rfl | ⟨ns, v, rfl, -⟩ <;> exact ⟨fun _ h => h, rfl⟩
  | inserted hphase hu =>
      obtain rfl := insert_ok hu
      exact ⟨fun _ h => h, rfl⟩
  | committed => exact ⟨fun _ h => List.mem_append_left _ (List.mem_append_left _ h), rfl⟩

theorem effect_unique (h : Unique t) (heffect : Effect p x t u) : Unique u := by
  cases heffect with
  | same => exact h
  | ensured hu => exact h.of_perm (written_rows (ensure_written hu) ▸ .refl _)
  | allocated hu => exact h.of_perm (written_rows (allocate_written hu) ▸ .refl _)
  | inserted hphase hu => exact unique_insert h (fun _ hcid => hcid) hu
  | released => exact h.of_perm ((release_rows.map _).append_left _)
  | rolledBackTo =>
      exact h.of_sublist ((List.Sublist.refl _).append (((List.Sublist.refl _).append List.filter_sublist).map _))
  | rolledBack =>
      exact h.of_sublist ((List.Sublist.refl _).append ((List.filter_sublist.append List.filter_sublist).map _))
  | committed => exact h.of_perm commit_rows

omit [DecidableEq P] in
theorem Answered.carry {results : List Entry} {errors : List BatchError} (h : Answered t r results errors)
    (hvouched : ∀ cid e, Vouched t t.committed r cid e → Vouched u u.committed r cid e) :
    Answered u r results errors := by
  refine ⟨h.items, fun e he => ?_, h.same⟩
  obtain ⟨cid, hold⟩ := h.vouched e he
  exact ⟨cid, hvouched cid e hold⟩

variable [Text.PyLower] {answer : Answer} {a : Act P}

theorem goes_raise {error : DbError} (h : Sound t p x) (hsees : Sees t u p) (hx : Phase.attempts x.phase = true) :
    Goes t u p x (x.raise k' error) := by
  unfold Session.raise
  cases hjob : x.request.job with
  | single =>
      simp only
      split
      · split
        · exact goes_attempt h hsees hx (by simp) (by simp [Phase.fits, hjob]) (by simp) (by simp)
        · exact goes_attempt h hsees hx (by simp) (by simp [Phase.fits, hjob]) (by simp) (by simp)
      · exact goes_attempt h hsees hx (by simp) (by simp [Phase.fits, hjob]) (by simp) (by simp)
  | batch items =>
      simp only
      split
      · exact goes_attempt h hsees hx (by simp) (by simp [Phase.fits, hjob]) (by simp) (by simp)
      · exact goes_itemFailed h hsees hjob hx

theorem goes_retry {error : DbError} (h : Sound t p x) (hsees : Sees t u p) (hjob : x.request.job = .batch items)
    (hx : Phase.attempts x.phase = true) : Goes t u p x (x.retry k' error) := by
  unfold Session.retry
  split
  · exact goes_attempt h hsees hx (by simp) rfl (by simp) (by simp)
  · exact goes_itemFailed h hsees hjob hx

theorem statement_outcome (hx : Sound s.tables p x) (hu : Unique s.tables)
    (hanswer : Phase.outside x.phase = true → answer = .ok) (h : statement s p x answer = some s') :
    Outcome p x s s' := by
  have hfits := hx.fits
  have hnofault : ∀ e, Phase.outside x.phase = true → x.fault answer ≠ some e := by
    intro e houtside hfault
    rw [hanswer houtside, fault_ok hx.alive] at hfault
    cases hfault
  cases statement_executes h with
  | prefetched hphase hjob => exact outcome_same (goes_prefetched hx hu hjob)
  | done hphase hitems =>
      obtain ⟨items, hjob⟩ := job_batch (by simpa [Phase.fits, hphase] using hfits)
      exact outcome_same (goes_phase hx .refl (by simp [hphase]) (by simp) (by simp [Phase.fits, hjob])
        (by simp [Phase.attempts]) (by simp) fun _ => hitems)
  | listed hphase hitems he =>
      have hgoes := goes_listed hx hphase hitems he
      rw [← hphase] at hgoes
      exact outcome_same hgoes
  | unlisted hphase hitems hnone =>
      exact outcome_same (goes_phase hx .refl (by simp [hphase]) (by simp) rfl
        (fun _ _ _ => ⟨_, _, hitems, hnone⟩) (by simp) (by simp))
  | ensureFailed hphase hfault => exact absurd hfault (hnofault _ (by simp [hphase, Phase.outside]))
  | ensured hphase ht =>
      exact .goes (goes_attempt hx (sees_written (ensure_written ht)) (by simp [hphase, Phase.attempts]) (by simp) rfl
        (by simp) (by simp))
  | updateFailed hphase hfault => exact absurd hfault (hnofault _ (by simp [hphase, Phase.outside]))
  | allocated hphase ht =>
      have hsees := sees_written (allocate_written ht)
      have hattempts : Phase.attempts x.phase = true := by
        simp [hphase, Phase.attempts]
      refine .goes ?_
      unfold Session.allocated
      split
      · split
        · exact goes_attempt hx hsees hattempts (by simp) rfl (by simp) (by simp)
        · exact goes_raise hx hsees hattempts
      · exact goes_raise hx hsees hattempts
  | savepointFailed hphase hfault => exact absurd hfault (hnofault _ (by simp [hphase, Phase.outside]))
  | nested hphase =>
      exact outcome_same (goes_attempt hx .refl (by simp [hphase, Phase.attempts]) (by simp) rfl (by simp) (by simp))
  | insertFailed hphase =>
      exact outcome_same (goes_attempt hx .refl (by simp [hphase, Phase.attempts]) (by simp) rfl (by simp) (by simp))
  | inserted hphase ht =>
      refine .goes (goes_attempt hx (sees_insert ht) (by simp [hphase, Phase.attempts]) (by simp) rfl ?_ (by simp))
      rintro k' st ⟨⟩
      exact ⟨insert_ok ht ▸ List.mem_append_right _ (List.mem_singleton_self _), _, _, rfl⟩
  | releaseFailed hphase =>
      exact outcome_same (goes_attempt hx .refl (by simp [hphase, Phase.attempts]) (by simp) rfl (by simp) (by simp))
  | released hphase =>
      exact .goes (goes_saved hx sees_release (by simp [hphase, Phase.attempts]) rfl
        fun cid hcid => released_vouched hx hphase hcid)
  | rollbackFailed hphase hfault => exact absurd hfault (hnofault _ (by simp [hphase, Phase.outside]))
  | rolledBackTo hphase => exact .goes (goes_raise hx sees_rollbackTo (by simp [hphase, Phase.attempts]))
  | found hphase hrow =>
      refine outcome_same (goes_saved hx .refl (by simp [hphase, Phase.attempts]) rfl fun cid hcid => ?_)
      simp only [hcid, Option.getD_some] at hrow
      obtain ⟨hmem, hactive⟩ := getActive_spec hrow
      exact vouched_read hu hmem hactive
  | unfound hphase =>
      obtain ⟨items, hjob⟩ := job_batch (by simpa [Phase.fits, hphase] using hfits)
      exact outcome_same (goes_retry hx .refl hjob (by simp [hphase, Phase.attempts]))
  | again hphase =>
      have hjob : x.request.job = .single := by
        simpa [Phase.fits, hphase] using hfits
      refine .goes ⟨⟨rfl, rfl, ?_, ?_, ?_, ?_, ?_⟩, rfl, fun _ _ he => .inl he⟩
      all_goals simp [hjob]
  | reserved hphase =>
      have hjob : x.request.job = .single := by
        simpa [Phase.fits, hphase] using hfits
      refine .goes ⟨⟨rfl, by simp [Phase.fits, hjob], ?_, ?_, ?_, ?_, ?_⟩, rfl, fun _ _ he => .inl he⟩
      all_goals simp [hjob]
  | answered hphase =>
      refine .replies ?_
      rintro _ _ ⟨⟩
      rw [endTransaction_rollback, endTransaction, hx.alive]
      exact answered hx hphase
  | quit hr => exact outcome_quit (u := s.tables) hr
  | ended hr => exact outcome_quit hr

/-- A row that other transactions change stays as the entries have it, or its ARK has ended. -/
structure Carries (t u : Tables P) : Prop where
  sessions : ∀ p r cid e, Vouched t (t.visible p) r cid e → Vouched u (u.visible p) r cid e
  replies : ∀ r cid e, Vouched t t.committed r cid e → Vouched u u.committed r cid e
  tentative : u.tentative = t.tentative
  ended : t.ended <+: u.ended

omit [Text.PyLower] in
theorem carries_modify {ended : List ArkId} (hactive : k ∈ ended ∨ ∀ (st : Stored) (A naan cid : String),
    st.row.isActiveItem A naan cid = true → (st.touch k f).row.isActiveItem A naan cid = true) :
    Carries t { t.modify k f with ended := t.ended ++ ended } := by
  have hactive' : ∀ r : Request, ∀ cid, k ∈ ended ∨ ∀ st : Stored,
      st.row.isActiveItem r.authorityId r.naan cid = true →
        (st.touch k f).row.isActiveItem r.authorityId r.naan cid = true :=
    fun r cid => hactive.imp_right fun h st => h st r.authorityId r.naan cid
  refine ⟨fun p r cid e h => h.touch rfl (fun st hst => ?_) (hactive' r cid),
    fun r cid e h => h.touch rfl (fun st hst => .inr ?_) (hactive' r cid), rfl, List.prefix_append ..⟩
  · rcases List.mem_append.mp hst with hst | hst
    · exact .inr (List.mem_append_left _ (List.mem_map_of_mem hst))
    · exact .inl (List.mem_append_right _ hst)
  · exact List.mem_map_of_mem hst

omit [Text.PyLower] in
theorem carries_endArk {g : ARKRecord → Bool} (hu : t.endArk k g f = some u) : Carries t u := by
  unfold Tables.endArk at hu
  split at hu
  · exact Option.some.inj hu ▸ carries_modify (.inl (List.mem_singleton_self k))
  · cases hu

omit [DecidableEq P] [Text.PyLower] in
theorem unique_endArk {g : ARKRecord → Bool} (h : Unique t) (hf : Narrows f) (hu : t.endArk k g f = some u) :
    Unique u := by
  unfold Tables.endArk at hu
  split at hu
  · exact Option.some.inj hu ▸ unique_modify h hf
  · cases hu

omit [Text.PyLower] in
theorem carries_import (hu : importRow t st = some u) : Carries t u := by
  unfold importRow at hu
  split at hu
  · cases hu
  · obtain rfl := Option.some.inj hu
    refine ⟨fun p r cid e h => h.mono rfl fun st hst => ?_,
      fun r cid e h => h.mono rfl (List.subset_append_left ..), rfl,
      List.prefix_rfl⟩
    exact mem_visible.mpr ((mem_visible.mp hst).imp_left (List.mem_append_left _))

omit [Text.PyLower] in
theorem carries_advance {state : ARKState} : Carries t (t.modify k (advanced state)) := by
  have hcarries : Carries t { t.modify k (advanced state) with ended := t.ended ++ [] } := carries_modify (.inr ?_)
  · simpa [Tables.modify] using hcarries
  · intro st A naan cid hst
    obtain ⟨hA, hnaan, hcid, hlive⟩ := isActiveItem_iff.mp hst
    unfold Stored.touch
    split
    · refine isActiveItem_iff.mpr ?_
      simp only [advanced]
      split
      · exact ⟨hA, hnaan, hcid, hlive⟩
      · rename_i hstate
        exact ⟨hA, hnaan, hcid, fun h => hstate (.inr h)⟩
    · exact hst

omit [Text.PyLower] in
theorem Carries.inv (hc : Carries s.tables u) (hi : Inv s) (hunique : Unique u) : Inv (s.setTables u) := by
  refine hi.next hunique (fun p x hx => ?_) (fun r results errors h => ?_) hc.ended fun r cid e h => .inl h
  · exact (hi.sessions p x hx).carry (hc.sessions p x.request) (fun st hst => hc.tentative ▸ hst)
  · exact (hi.replies r results errors h).carry (hc.replies r)

omit [Text.PyLower] in
theorem inv_outcome (hi : Inv s) (hx : s.sessions p = some x) (heffect : Effect p x s.tables s'.tables)
    (h : Outcome p x s s') : Inv s' := by
  have hunique := effect_unique hi.unique heffect
  obtain ⟨hcommitted, hended⟩ := effect_committed heffect
  have hothers : ∀ q y, q ≠ p → s.sessions q = some y → Sound s'.tables q y := by
    intro q y hne hy
    obtain ⟨hsees, htentative⟩ := effect_others hne heffect
    exact (hi.sessions q y hy).carry (fun cid e => hsees.vouched) htentative
  have hold : ∀ r results errors, (r, .batch results errors) ∈ s.replies → Answered s'.tables r results errors :=
    fun r results errors hmem =>
      (hi.replies r results errors hmem).carry fun cid e hvouched => hvouched.mono hended hcommitted
  cases h with
  | @goes u x' hgoes =>
      refine hi.next hunique (fun q y hy => ?_) hold (hended ▸ List.prefix_rfl) fun r cid e hknown => ?_
      · by_cases hq : q = p
        · subst hq
          obtain rfl : x' = y := by
            simpa [Sys.put, Sys.setTables] using hy
          exact hgoes.sound
        · exact hothers q y hq ((Function.update_of_ne hq ..).symm.trans hy)
      · rcases hknown with ⟨q, y, items, hy, rfl, hjob, hget⟩ | hreply
        · by_cases hq : q = p
          · subst hq
            obtain rfl : x' = y := by
              simpa [Sys.put, Sys.setTables] using hy
            rcases hgoes.entries cid e hget with hget | hnow
            · exact .inl (.inl ⟨q, x, items, hx, hgoes.request.symm, hjob, hget⟩)
            · exact .inr (hnow.trans (congrArg List.length hended.symm))
          · exact .inl (.inl ⟨q, y, items, (Function.update_of_ne hq ..).symm.trans hy, rfl, hjob, hget⟩)
        · exact .inl (.inr hreply)
  | @replies u reply hreply =>
      have hsessions : ∀ q y, ((s.setTables u).reply p x reply).sessions q = some y →
          q ≠ p ∧ s.sessions q = some y := by
        intro q y hy
        have hq : q ≠ p := by
          rintro rfl
          simp [Sys.reply, Sys.setTables] at hy
        exact ⟨hq, (Function.update_of_ne hq ..).symm.trans hy⟩
      refine hi.next hunique (fun q y hy => ?_) (fun r results errors hmem => ?_) (hended ▸ List.prefix_rfl)
        fun r cid e hknown => .inl ?_
      · exact hothers q y (hsessions q y hy).1 (hsessions q y hy).2
      · rcases List.mem_append.mp hmem with hmem | hmem
        · exact hold r results errors hmem
        · obtain ⟨rfl, hbatch⟩ := Prod.mk.inj (List.mem_singleton.mp hmem)
          exact (hreply results errors hbatch.symm).1
      · rcases hknown with ⟨q, y, items, hy, hrest⟩ | ⟨results, errors, hmem, he, hcid⟩
        · exact .inl ⟨q, y, items, (hsessions q y hy).2, hrest⟩
        · rcases List.mem_append.mp hmem with hmem | hmem
          · exact .inr ⟨results, errors, hmem, he, hcid⟩
          · obtain ⟨rfl, hbatch⟩ := Prod.mk.inj (List.mem_singleton.mp hmem)
            obtain ⟨hanswered, hlisted⟩ := hreply results errors hbatch.symm
            obtain ⟨items, hjob, -⟩ := hanswered.items
            exact .inl ⟨p, x, items, hx, rfl, hjob, hlisted e he cid hcid⟩

omit [Text.PyLower] in
theorem sound_openSession {request : Request} : Sound t p (openSession request) := by
  cases hjob : request.job with
  | single =>
      simp only [openSession, hjob, if_true]
      refine ⟨rfl, rfl, fun items hbatch => ?_, fun _ => rfl, fun items hbatch => ?_, ?_, ?_⟩
      · cases hjob.symm.trans hbatch
      · cases hjob.symm.trans hbatch
      · rintro _ _ ⟨⟩
      · rintro ⟨⟩
  | batch items =>
      simp only [openSession, hjob, reduceCtorEq, if_false]
      refine ⟨rfl, by simp [Phase.fits, hjob], fun _ _ hphase => absurd rfl hphase, fun _ => rfl, ?_, ?_, ?_⟩
      · rintro _ _ ⟨⟩
      · rintro _ _ ⟨⟩
      · rintro ⟨⟩

theorem inv_step (hi : Inv s) (hg : Healthy s a) (h : step s a = some s') : Inv s' := by
  cases a with
  | arrive p request =>
      simp only [step] at h
      split at h
      · obtain rfl := Option.some.inj h
        refine hi.next hi.unique (fun q y hy => ?_) hi.replies List.prefix_rfl fun r cid e hknown => .inl ?_
        · by_cases hq : q = p
          · subst hq
            obtain rfl : openSession request = y := by
              simpa [Sys.put] using hy
            exact sound_openSession
          · exact hi.sessions q y ((Function.update_of_ne hq ..).symm.trans hy)
        · rcases hknown with ⟨q, y, items, hy, hrest⟩ | hreply
          · by_cases hq : q = p
            · subst hq
              obtain rfl : openSession request = y := by
                simpa [Sys.put] using hy
              cases hrest.2.2
            · exact .inl ⟨q, y, items, (Function.update_of_ne hq ..).symm.trans hy, hrest⟩
          · exact .inr hreply
      · cases h
  | statement p answer =>
      obtain ⟨x, hx, hrun⟩ := Option.bind_eq_some_iff.mp h
      exact inv_outcome hi hx (statement_moved hrun).effect
        (statement_outcome (hi.sessions p x hx) hi.unique (hg x hx) hrun)
  | vanish p =>
      obtain rfl := Option.some.inj h
      have hsessions : ∀ q y, Function.update s.sessions p none q = some y → q ≠ p ∧ s.sessions q = some y := by
        intro q y hy
        have hq : q ≠ p := by
          rintro rfl
          simp at hy
        exact ⟨hq, (Function.update_of_ne hq ..).symm.trans hy⟩
      have heffect : ∀ x, Effect p x s.tables (s.tables.rollback p) := fun x => .rolledBack
      refine hi.next ?_ (fun q y hy => ?_) (fun r results errors hmem => ?_) List.prefix_rfl
        fun r cid e hknown => .inl ?_
      · exact hi.unique.of_sublist
          ((List.Sublist.refl _).append ((List.filter_sublist.append List.filter_sublist).map _))
      · obtain ⟨hq, hy⟩ := hsessions q y hy
        exact (hi.sessions q y hy).carry (fun cid e => (sees_rollback hq).vouched) fun st => mem_others hq
      · exact (hi.replies r results errors hmem).carry fun cid e hvouched => hvouched.mono rfl fun st h => h
      · rcases hknown with ⟨q, y, items, hy, hrest⟩ | hreply
        · exact .inl ⟨q, y, items, (hsessions q y hy).2, hrest⟩
        · exact .inr hreply
  | importPublished k authorityId target now =>
      obtain ⟨u, hu, rfl⟩ := Option.map_eq_some_iff.mp h
      exact (carries_import hu).inv hi (unique_import hi.unique rfl hu)
  | tombstone k now =>
      obtain ⟨u, hu, rfl⟩ := Option.map_eq_some_iff.mp h
      exact (carries_endArk hu).inv hi (unique_endArk hi.unique narrows_tombstoned hu)
  | reown k authorityId info now =>
      obtain ⟨u, hu, rfl⟩ := Option.map_eq_some_iff.mp h
      exact (carries_endArk hu).inv hi (unique_endArk hi.unique narrows_reowned hu)
  | advance k state =>
      obtain rfl := Option.some.inj h
      exact carries_advance.inv hi (unique_modify hi.unique narrows_advanced)

theorem reach_inv (h : Reach step Healthy ({} : Sys P) s) : Inv s := by
  refine h.invariant ⟨⟨List.Pairwise.nil, by simp [allRows, openRows]⟩, by simp, by simp, ?_⟩
    fun _ _ _ hi hg hs => inv_step hi hg hs
  rintro r r' cid e e' (⟨p, x, items, hx, -⟩ | ⟨results, errors, hmem, -⟩)
  · cases hx
  · cases hmem

omit [Text.PyLower] [DecidableEq P] in
theorem answered_key {results : List Entry} {errors : List BatchError} (hu : Unique t)
    (h : Answered t r results errors) (he : e ∈ results) (he' : e' ∈ results) :
    e.row.record.clientItemId = e'.row.record.clientItemId ↔ e.row.key = e'.row.key := by
  constructor
  · intro hcid
    exact h.same e he e' he' hcid ▸ rfl
  · intro hkey
    obtain ⟨cid, hcid, -, st, hst, hst_key, horigin, -⟩ := h.vouched e he
    obtain ⟨cid', hcid', -, st', hst', hst_key', horigin', -⟩ := h.vouched e' he'
    have hsame : st = st' := by
      refine hu.eq (List.mem_append_left _ hst) (List.mem_append_left _ hst') (conflicts_iff.mpr (.inl ?_))
      rw [hst_key, hst_key', hkey]
    rw [hcid, hcid', ← horigin, ← horigin', hsame]

omit [Text.PyLower] [DecidableEq P] in
theorem active_unique (hu : Unique t) (A naan cid : String) :
    (t.committed.filter fun st => st.row.isActiveItem A naan cid).length ≤ 1 := by
  have hpairwise : (t.committed.filter fun st => st.row.isActiveItem A naan cid).Pairwise fun a b => ¬Clash a b :=
    (hu.clashless.sublist (List.sublist_append_left ..)).sublist List.filter_sublist
  have hactive : ∀ a ∈ t.committed.filter (fun st => st.row.isActiveItem A naan cid),
      a.row.isActiveItem A naan cid = true := by
    intro a ha
    have hfilter := List.mem_filter.mp ha
    exact hfilter.2
  generalize (t.committed.filter fun st => st.row.isActiveItem A naan cid) = rows at hpairwise hactive ⊢
  match rows with
  | [] => exact Nat.zero_le 1
  | [st] => exact le_rfl
  | st :: st' :: rows =>
      have hst := hactive st (List.mem_cons_self ..)
      have hst' := hactive st' (List.mem_cons_of_mem _ (List.mem_cons_self ..))
      exact absurd (conflicts_iff.mpr (.inr ⟨A, naan, cid, hst, hst'⟩))
        (List.rel_of_pairwise_cons hpairwise (List.mem_cons_self ..))

/-- Batches are idempotent: a response lists every item once, with one ARK for each client item; two
responses that list a client item have one ARK for it, unless that ARK ended between the moments at
which they read it; and no client item has two active rows. -/
theorem batches_idempotent (h : Reach step Healthy ({} : Sys P) s) :
    (∀ r results errors, (r, .batch results errors) ∈ s.replies →
      (∃ items, r.job = .batch items ∧
        (results.map (·.row.record.clientItemId) ++ errors.map fun e => some e.clientItemId).Perm (items.map some)) ∧
      ∀ e ∈ results, ∀ e' ∈ results,
        (e.row.record.clientItemId = e'.row.record.clientItemId ↔ e.row.key = e'.row.key)) ∧
    (∀ r results errors r' results' errors', (r, .batch results errors) ∈ s.replies →
      (r', .batch results' errors') ∈ s.replies → r.authorityId = r'.authorityId → r.naan = r'.naan →
      ∀ e ∈ results, ∀ e' ∈ results', e.row.record.clientItemId = e'.row.record.clientItemId → e.readAt ≤ e'.readAt →
        e.row.key = e'.row.key ∨ e.row.key ∈ (s.tables.ended.take e'.readAt).drop e.readAt) ∧
    ∀ A naan cid, (s.tables.committed.filter fun st => st.row.isActiveItem A naan cid).length ≤ 1 := by
  have hi := reach_inv h
  refine ⟨fun r results errors hmem => ?_, ?_, active_unique hi.unique⟩
  · have hanswered := hi.replies r results errors hmem
    exact ⟨hanswered.items, fun e he e' he' => answered_key hi.unique hanswered he he'⟩
  · intro r results errors r' results' errors' hmem hmem' hA hnaan e he e' he' hsame hle
    obtain ⟨cid, hvouched⟩ := (hi.replies r results errors hmem).vouched e he
    have hknown : Known s r cid e := .inr ⟨results, errors, hmem, he, hvouched.1⟩
    have hknown' : Known s r' cid e' := .inr ⟨results', errors', hmem', he', hsame ▸ hvouched.1⟩
    exact hi.agree r r' cid e e' hknown hknown' hA hnaan hle

end

section Sample

attribute [local instance] Text.asciiText

def request : Request := ⟨"A", "12345", .batch ["item"], 0, "200", 2, false⟩

def oks (p n : Nat) : List (Act Nat) := List.replicate n (.statement p .ok)

/-- Two requests prefetch nothing, the second finds the row of the first after a collision, and a
third mints anew after that ARK was tombstoned. -/
def race : List (Act Nat) :=
  [.arrive 0 request, .arrive 1 request] ++ oks 0 1 ++ oks 1 1 ++ oks 0 8 ++ oks 1 9 ++
    [.tombstone ⟨"12345", "20000"⟩ 0, .arrive 2 request] ++ oks 2 9

def listed : Reply → List (String × Nat)
  | .batch results _ => results.map fun e => (e.row.key.name, e.readAt)
  | _ => []

theorem race_healthy (s : Sys Nat) : ∀ a ∈ race, Healthy s a := by
  simp only [race, oks, List.mem_append, List.mem_cons, List.mem_replicate, List.not_mem_nil, or_false]
  rintro a (((((((rfl | rfl) | ⟨-, rfl⟩) | ⟨-, rfl⟩) | ⟨-, rfl⟩) | ⟨-, rfl⟩) | (rfl | rfl)) | ⟨-, rfl⟩)
  all_goals simp [Healthy]

theorem batches_idempotent_race :
    ∃ s, Reach step Healthy ({} : Sys Nat) s ∧
      s.replies.map (fun r => listed r.2) = [[("20000", 0)], [("20000", 0)], [("20002", 1)]] ∧
      (s.tables.committed.filter fun st => st.row.isActiveItem "A" "12345" "item").length ≤ 1 := by
  have hrun : ((run step race ({} : Sys Nat)).map fun s => s.replies.map fun r => listed r.2) =
      some [[("20000", 0)], [("20000", 0)], [("20002", 1)]] := by decide +kernel
  obtain ⟨s, hs, hlisted⟩ := Option.map_eq_some_iff.mp hrun
  obtain ⟨hreach, -⟩ := run_guarded (fun _ => True) hs trivial (fun s a ha _ => race_healthy s a ha)
    fun _ _ _ _ _ _ => trivial
  exact ⟨s, hreach, hlisted, (batches_idempotent hreach).2.2 "A" "12345" "item"⟩

end Sample

end DarkMinter.Idempotency
