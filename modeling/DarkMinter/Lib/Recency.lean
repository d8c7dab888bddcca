import DarkMinter.Lib.Dict
import Mathlib.Data.Finset.Card
import Mathlib.Data.List.Nodup

namespace DarkMinter.Lib.Recency

open Dict (erase)

variable {κ α : Type*} {m : ℕ} {d : List (κ × α)} {j k : κ} {u v : α}

def keys (d : List (κ × α)) : List κ := d.map Prod.fst

/-- The first entry goes when there is no place for one more. -/
def makeRoom (m : ℕ) (d : List (κ × α)) : List (κ × α) := if m ≤ d.length then d.tail else d

@[simp] theorem keys_append (d e : List (κ × α)) : keys (d ++ e) = keys d ++ keys e := List.map_append ..

@[simp] theorem keys_cons (e : κ × α) (d : List (κ × α)) : keys (e :: d) = e.1 :: keys d := rfl

theorem length_makeRoom (hm : 1 ≤ m) (h : d.length ≤ m) : (makeRoom m d).length + 1 ≤ m := by
  rw [makeRoom]
  split
  · rw [List.length_tail]
    omega
  · omega

theorem makeRoom_sublist (m : ℕ) (d : List (κ × α)) : (makeRoom m d).Sublist d := by
  rw [makeRoom]
  split
  · exact List.tail_sublist d
  · exact List.Sublist.refl d

theorem nodup_makeRoom (h : (keys d).Nodup) : (keys (makeRoom m d)).Nodup :=
  h.sublist ((makeRoom_sublist m d).map Prod.fst)

theorem nodup_concat (h : (keys d).Nodup) (hk : k ∉ keys d) (v : α) : (keys (d ++ [(k, v)])).Nodup := by
  rw [keys_append, List.nodup_append]
  refine ⟨h, List.nodup_singleton k, ?_⟩
  intro a ha b hb hab
  rw [hab, List.mem_singleton.mp hb] at ha
  exact hk ha

variable [DecidableEq κ]

/-- A bounded dictionary whose assignment makes room first, and leaves a key that is there in its
place. -/
def put (m : ℕ) (d : List (κ × α)) (k : κ) (v : α) : List (κ × α) := Dict.set (makeRoom m d) k v

/-- A bounded dictionary in the order of the last assignments. -/
def refresh (m : ℕ) (d : List (κ × α)) (k : κ) (v : α) : List (κ × α) := makeRoom m (erase d k) ++ [(k, v)]

/-- A key that is there is assigned again only where it stands first in a full dictionary, or last
in one that is not full. -/
def Orderly (m : ℕ) (d : List (κ × α)) (k : κ) : Prop :=
  k ∈ keys d → (if m ≤ d.length then (keys d).head? else (keys d).getLast?) = some k

instance : Decidable (Orderly m d k) := inferInstanceAs (Decidable (_ → _))

@[simp] theorem keys_erase (d : List (κ × α)) (k : κ) : keys (erase d k) = (keys d).filter (· ≠ k) := by
  rw [keys, keys, erase, List.filter_map]
  rfl

theorem erase_of_notMem (h : k ∉ keys d) : erase d k = d := by
  apply List.filter_eq_self.mpr
  intro e he
  rw [decide_eq_true_iff]
  rintro rfl
  exact h (List.mem_map_of_mem he)

theorem erase_append (d e : List (κ × α)) (k : κ) : erase (d ++ e) k = erase d k ++ erase e k := List.filter_append ..

theorem erase_cons_of_ne (h : j ≠ k) : erase ((j, u) :: d) k = (j, u) :: erase d k := by
  simp [erase, h]

@[simp] theorem erase_cons_self : erase ((k, u) :: d) k = erase d k := by
  simp [erase]

theorem set_of_notMem (h : k ∉ keys d) : Dict.set d k v = d ++ [(k, v)] := by
  induction d with
  | nil => rfl
  | cons e d ih =>
      obtain ⟨hne, hd⟩ := not_or.mp (mt List.mem_cons.mpr h)
      rw [Dict.set, if_neg (Ne.symm hne), ih hd, List.cons_append]

theorem set_append (h : k ∉ keys d) (e : List (κ × α)) : Dict.set (d ++ e) k v = d ++ Dict.set e k v := by
  induction d with
  | nil => rfl
  | cons f d ih =>
      obtain ⟨hne, hd⟩ := not_or.mp (mt List.mem_cons.mpr h)
      rw [List.cons_append, Dict.set, if_neg (Ne.symm hne), ih hd, List.cons_append]

theorem keys_set_of_mem (h : k ∈ keys d) : keys (Dict.set d k v) = keys d := by
  induction d with
  | nil => cases h
  | cons e d ih =>
      rw [Dict.set]
      split
      · rename_i heq
        rw [keys_cons, keys_cons, heq]
      · rename_i hne
        rw [keys_cons, keys_cons, ih ((List.mem_cons.mp h).resolve_left (Ne.symm hne))]

theorem get_append_of_notMem (h : k ∉ keys d) (e : List (κ × α)) : Dict.get (d ++ e) k = Dict.get e k := by
  induction d with
  | nil => rfl
  | cons f d ih =>
      obtain ⟨hne, hd⟩ := not_or.mp (mt List.mem_cons.mpr h)
      rw [List.cons_append, Dict.get, if_neg (Ne.symm hne), ih hd]

theorem length_set_le (d : List (κ × α)) (k : κ) (v : α) : (Dict.set d k v).length ≤ d.length + 1 := by
  by_cases h : k ∈ keys d
  · have hlen : (Dict.set d k v).length = d.length := by
      simpa [keys] using congrArg List.length (keys_set_of_mem (v := v) h)
    omega
  · rw [set_of_notMem h, List.length_append, List.length_singleton]

theorem length_put_le (hm : 1 ≤ m) (h : d.length ≤ m) : (put m d k v).length ≤ m :=
  (length_set_le _ k v).trans (length_makeRoom hm h)

theorem nodup_erase (h : (keys d).Nodup) (k : κ) : (keys (erase d k)).Nodup := by
  rw [keys_erase]
  exact h.filter _

theorem nodup_put (h : (keys d).Nodup) : (keys (put m d k v)).Nodup := by
  have hroom : (keys (makeRoom m d)).Nodup := nodup_makeRoom h
  by_cases hk : k ∈ keys (makeRoom m d)
  · rwa [put, keys_set_of_mem hk]
  · rw [put, set_of_notMem hk]
    exact nodup_concat hroom hk v

theorem nodup_refresh (h : (keys d).Nodup) : (keys (refresh m d k v)).Nodup := by
  apply nodup_concat (nodup_makeRoom (nodup_erase h k))
  intro hk
  have hmem : k ∈ keys (erase d k) := ((makeRoom_sublist m (erase d k)).map Prod.fst).subset hk
  simp at hmem

theorem put_of_notMem (h : k ∉ keys d) : put m d k v = refresh m d k v := by
  have hroom : k ∉ keys (makeRoom m d) := fun hk => h (((makeRoom_sublist m d).map Prod.fst).subset hk)
  rw [put, refresh, set_of_notMem hroom, erase_of_notMem h]

theorem refresh_of_mem (hlen : d.length ≤ m) (h : k ∈ keys d) : refresh m d k v = erase d k ++ [(k, v)] := by
  have hshort : (erase d k).length < d.length := by
    apply List.length_filter_lt_length_iff_exists.mpr
    obtain ⟨e, he, hek⟩ := List.mem_map.mp h
    exact ⟨e, he, by simpa using hek⟩
  rw [refresh, makeRoom, if_neg (by omega)]

theorem put_full_iff (hnodup : (keys d).Nodup) (hfull : m ≤ d.length) (hk : k ∈ keys d) :
    put m d k v = erase d k ++ [(k, v)] ↔ (keys d).head? = some k := by
  cases d with
  | nil => cases hk
  | cons e d =>
      obtain ⟨i, u⟩ := e
      obtain ⟨hi, -⟩ := List.nodup_cons.mp hnodup
      have hroom : makeRoom m ((i, u) :: d) = d := if_pos hfull
      rw [put, hroom, keys_cons, List.head?_cons, Option.some_inj]
      constructor
      · intro heq
        by_contra hne
        have hmem : k ∈ keys d := (List.mem_cons.mp hk).resolve_left (Ne.symm hne)
        have hkeys := congrArg keys heq
        rw [keys_set_of_mem hmem, erase_cons_of_ne hne, List.cons_append, keys_cons] at hkeys
        apply hi
        change i ∈ keys d
        rw [hkeys]
        exact List.mem_cons_self
      · rintro rfl
        rw [set_of_notMem hi, erase_cons_self, erase_of_notMem hi]

theorem put_spare_iff (hnodup : (keys d).Nodup) (hspare : d.length < m) (hk : k ∈ keys d) :
    put m d k v = erase d k ++ [(k, v)] ↔ (keys d).getLast? = some k := by
  have hroom : makeRoom m d = d := if_neg (by omega)
  rw [put, hroom]
  constructor
  · intro heq
    have hkeys := congrArg keys heq
    rw [keys_set_of_mem hk, keys_append] at hkeys
    rw [hkeys, keys_cons, List.getLast?_append]
    rfl
  · intro hlast
    obtain ⟨init, hinit⟩ := List.getLast?_eq_some_iff.mp hlast
    obtain ⟨before, last, rfl, rfl, hk'⟩ := List.map_eq_append_iff.mp hinit
    obtain ⟨⟨i, u⟩, rfl, rfl⟩ := List.map_eq_singleton_iff.mp hk'
    have hi : i ∉ keys before := by
      rw [keys_append, List.nodup_append] at hnodup
      exact fun hmem => hnodup.2.2 i hmem i (List.mem_singleton_self i) rfl
    rw [set_append hi, erase_append, erase_of_notMem hi]
    simp [Dict.set, erase]

theorem put_eq_refresh_iff (hnodup : (keys d).Nodup) (hlen : d.length ≤ m) :
    put m d k v = refresh m d k v ↔ Orderly m d k := by
  by_cases hk : k ∈ keys d
  · rw [refresh_of_mem hlen hk, Orderly, forall_prop_of_true hk]
    split
    · exact put_full_iff hnodup ‹_› hk
    · exact put_spare_iff hnodup (by omega) hk
  · exact iff_of_true (put_of_notMem hk) (fun h => absurd h hk)

/-- The entry of a key, with what was assigned after it behind it. -/
structure Held (since : Finset κ) (k : κ) (v : α) (d : List (κ × α)) : Prop where
  nodup : (keys d).Nodup
  place : ∃ before after, d = before ++ (k, v) :: after ∧ ∀ j ∈ keys after, j ∈ since

theorem Held.get {since : Finset κ} (h : Held since k v d) : Dict.get d k = some v := by
  obtain ⟨before, after, rfl, -⟩ := h.place
  have hk : k ∉ keys before := by
    have hnodup := h.nodup
    rw [keys_append, List.nodup_append] at hnodup
    exact fun hmem => hnodup.2.2 k hmem k (List.mem_cons_self ..) rfl
  rw [get_append_of_notMem hk, Dict.get, if_pos rfl]

theorem held_refresh (h : (keys d).Nodup) : Held ∅ k v (refresh m d k v) :=
  ⟨nodup_refresh h, makeRoom m (erase d k), [], rfl, by simp [keys]⟩

theorem Held.erase {since : Finset κ} (h : Held since k v d) (hne : k ≠ j) : Held since k v (erase d j) := by
  obtain ⟨before, after, rfl, hafter⟩ := h.place
  refine ⟨nodup_erase h.nodup j, Dict.erase before j, Dict.erase after j, ?_, ?_⟩
  · rw [erase_append, erase_cons_of_ne hne]
  · intro i hi
    rw [keys_erase] at hi
    exact hafter i (List.mem_of_mem_filter hi)

theorem Held.refresh {since : Finset κ} (h : Held since k v d) (hne : k ≠ j) (hcard : (insert j since).card < m) :
    Held (insert j since) k v (refresh m d j u) := by
  obtain ⟨before, after, hsplit, hafter⟩ := (h.erase hne).place
  have hnodup : (keys (Dict.erase d j)).Nodup := nodup_erase h.nodup j
  have hj : j ∉ keys (Dict.erase d j) := by simp
  refine ⟨nodup_refresh h.nodup, ?_⟩
  have hbehind : ∀ i ∈ keys (after ++ [(j, u)]), i ∈ insert j since := by
    intro i hi
    rw [keys_append, List.mem_append] at hi
    rcases hi with hi | hi
    · exact Finset.mem_insert_of_mem (hafter i hi)
    · exact Finset.mem_insert.mpr (.inl (List.mem_singleton.mp hi))
  rw [Recency.refresh, makeRoom]
  split
  · rename_i hfull
    cases before with
    | nil =>
        rw [hsplit] at hnodup hj hfull
        have hcount : (keys (after ++ [(j, u)])).toFinset.card = after.length + 1 := by
          rw [List.toFinset_card_of_nodup]
          · simp [keys]
          · exact nodup_concat (List.nodup_cons.mp hnodup).2 (fun hmem => hj (List.mem_cons_of_mem _ hmem)) u
        have hle : (keys (after ++ [(j, u)])).toFinset.card ≤ (insert j since).card :=
          Finset.card_le_card fun i hi => hbehind i (List.mem_toFinset.mp hi)
        rw [List.nil_append, List.length_cons] at hfull
        omega
    | cons e before => exact ⟨before, after ++ [(j, u)], by rw [hsplit]; simp, hbehind⟩
  · exact ⟨before, after ++ [(j, u)], by rw [hsplit]; simp, hbehind⟩

end DarkMinter.Lib.Recency
