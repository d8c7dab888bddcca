import DarkMinter.Lib.Recency
import DarkMinter.Lib.Runs
import DarkMinter.Processing
import DarkMinter.Text

namespace DarkMinter.AuthCache

open Text Processing Lib Lib.Runs

abbrev Key := String × String

/-- The answers with the times they were stored, in the order of insertion of the keys. -/
abbrev Cache := List (Key × (Bool × Time))

def get (ttl : Int) (cache : Cache) (authorityId naan : String) (now : Time) : (Bool × Bool) × Cache :=
  match Dict.get cache (authorityId, naan) with
  | some (result, timestamp) =>
      if now - timestamp < seconds ttl then ((true, result), cache)
      else ((false, false), Dict.erase cache (authorityId, naan))
  | none => ((false, false), cache)

def stopIteration : Exc := ⟨.other, ""⟩

def set (maxsize : Int) (cache : Cache) (authorityId naan : String) (isAuthorized : Bool) (now : Time) :
    Except Exc Cache :=
  if maxsize ≤ cache.length then
    match cache with
    | [] => .error stopIteration
    | (oldestKey, _) :: _ => .ok (Dict.set (Dict.erase cache oldestKey) (authorityId, naan) (isAuthorized, now))
  else .ok (Dict.set cache (authorityId, naan) (isAuthorized, now))

inductive Op
  | get (authorityId naan : String) (now : Time)
  | set (authorityId naan : String) (isAuthorized : Bool) (now : Time)
  | clear
  deriving DecidableEq

def step (ttl maxsize : Int) (cache : Cache) : Op → Option Cache
  | .get authorityId naan now => some (get ttl cache authorityId naan now).2
  | .set authorityId naan isAuthorized now => (set maxsize cache authorityId naan isAuthorized now).toOption
  | .clear => some []

def assigned : Op → Finset Key
  | .set authorityId naan _ _ => {(authorityId, naan)}
  | .get .. | .clear => ∅

def assignedIn : List Op → Finset Key
  | [] => ∅
  | op :: ops => assigned op ∪ assignedIn ops

/-- A key that is there is set again only where it is first in a full cache or last in one that has
places left. -/
def Orderly (m : ℕ) (cache : Cache) : Op → Prop
  | .set authorityId naan _ _ => Recency.Orderly m cache (authorityId, naan)
  | .get .. | .clear => True

/-- Every answer is found again within its time, as long as it was not set again, the cache was not
cleared and fewer other keys were set than there are places. -/
def Retains (ttl : Int) (m : ℕ) (ops : List Op) : Prop :=
  ∀ earlier later authorityId naan isAuthorized stored now,
    ops = earlier ++ .set authorityId naan isAuthorized stored :: later →
    (authorityId, naan) ∉ assignedIn later → .clear ∉ later → (assignedIn later).card < m →
    (∀ looked, .get authorityId naan looked ∈ later → looked - stored < seconds ttl) → now - stored < seconds ttl →
    ∃ cache, run (step ttl m) ops [] = some cache ∧
      (get ttl cache authorityId naan now).1 = (true, isAuthorized)

structure Bounded (m : ℕ) (cache : Cache) : Prop where
  nodup : (Recency.keys cache).Nodup
  size : cache.length ≤ m

section

variable {m : ℕ} {cache : Cache} {authorityId naan : String} {isAuthorized : Bool} {now stored : Time}

theorem set_eq_put (hm : 1 ≤ m) (h : (Recency.keys cache).Nodup) : set m cache authorityId naan isAuthorized now =
    .ok (Recency.put m cache (authorityId, naan) (isAuthorized, now)) := by
  cases cache with
  | nil => rw [set.eq_def, if_neg (by simp; omega), Recency.put, Recency.makeRoom, if_neg (by simp; omega)]
  | cons e rest =>
      obtain ⟨hfirst, -⟩ := List.nodup_cons.mp h
      rw [set.eq_def, Recency.put, Recency.makeRoom]
      by_cases hfull : m ≤ (e :: rest).length
      · rw [if_pos (by exact_mod_cast hfull), if_pos hfull, List.tail_cons]
        exact congrArg (fun d => Except.ok (Dict.set d _ _))
          (Recency.erase_cons_self.trans (Recency.erase_of_notMem hfirst))
      · rw [if_neg (by exact_mod_cast hfull), if_neg hfull]

theorem step_get_kept (ttl : Int) (cache : Cache) (authorityId naan : String) (now : Time) :
    (get ttl cache authorityId naan now).2 = cache ∨
      (get ttl cache authorityId naan now).2 = Dict.erase cache (authorityId, naan) := by
  rw [get]
  split
  · split
    · exact .inl rfl
    · exact .inr rfl
  · exact .inl rfl

theorem Bounded.erase (h : Bounded m cache) (key : Key) : Bounded m (Dict.erase cache key) :=
  ⟨Recency.nodup_erase h.nodup key, (List.length_filter_le ..).trans h.size⟩

theorem bounded_step (ttl : Int) (hm : 1 ≤ m) (h : Bounded m cache) (op : Op) :
    ∃ next, step ttl m cache op = some next ∧ Bounded m next := by
  cases op with
  | get authorityId naan now =>
      refine ⟨_, rfl, ?_⟩
      rcases step_get_kept ttl cache authorityId naan now with heq | heq
      · rwa [heq]
      · rw [heq]
        exact h.erase _
  | set authorityId naan isAuthorized now =>
      refine ⟨_, by rw [step, set_eq_put hm h.nodup]; rfl, ?_, ?_⟩
      · exact Recency.nodup_put h.nodup
      · exact Recency.length_put_le hm h.size
  | clear => exact ⟨[], rfl, List.nodup_nil, Nat.zero_le m⟩

theorem bounded_run (ttl : Int) (hm : 1 ≤ m) (h : Bounded m cache) (ops : List Op) :
    ∃ last, run (step ttl m) ops cache = some last ∧ Bounded m last := by
  induction ops generalizing cache with
  | nil => exact ⟨cache, rfl, h⟩
  | cons op ops ih =>
      obtain ⟨next, hnext, hbounded⟩ := bounded_step ttl hm h op
      obtain ⟨last, hlast, h⟩ := ih hbounded
      exact ⟨last, by rw [run, hnext]; exact hlast, h⟩

theorem held_step {ttl : Int} {op : Op} {since : Finset Key} {key : Key} {next : Cache} (hm : 1 ≤ m)
    (h : Recency.Held since key (isAuthorized, stored) cache) (hsize : cache.length ≤ m)
    (hs : step ttl m cache op = some next) (horderly : Orderly m cache op) (hset : key ∉ assigned op)
    (hclear : op ≠ .clear) (hcard : (assigned op ∪ since).card < m)
    (hfresh : ∀ looked, op = .get key.1 key.2 looked → looked - stored < seconds ttl) :
    Recency.Held (assigned op ∪ since) key (isAuthorized, stored) next := by
  cases op with
  | get authorityId naan now =>
      obtain rfl : (get ttl cache authorityId naan now).2 = next := Option.some.inj hs
      rw [assigned, Finset.empty_union]
      by_cases hkey : key = (authorityId, naan)
      · obtain rfl := hkey
        rw [get, h.get]
        simpa only [if_pos (hfresh now rfl)] using h
      · rcases step_get_kept ttl cache authorityId naan now with heq | heq
        · rwa [heq]
        · rw [heq]
          exact h.erase hkey
  | set authorityId naan authorized now =>
      rw [step, set_eq_put hm h.nodup] at hs
      obtain rfl : Recency.put m cache (authorityId, naan) (authorized, now) = next := Option.some.inj hs
      rw [(Recency.put_eq_refresh_iff h.nodup hsize).mpr horderly]
      exact h.refresh (mt Finset.mem_singleton.mpr hset) hcard
  | clear => exact absurd rfl hclear

theorem held_run {ttl : Int} {ops : List Op} {since : Finset Key} {key : Key} {last : Cache} (hm : 1 ≤ m)
    (h : Recency.Held since key (isAuthorized, stored) cache) (hsize : cache.length ≤ m)
    (hrun : run (step ttl m) ops cache = some last) (horderly : Along (step ttl m) (Orderly m) ops cache)
    (hset : key ∉ assignedIn ops) (hclear : .clear ∉ ops) (hcard : (assignedIn ops ∪ since).card < m)
    (hfresh : ∀ looked, .get key.1 key.2 looked ∈ ops → looked - stored < seconds ttl) :
    Recency.Held (assignedIn ops ∪ since) key (isAuthorized, stored) last := by
  induction ops generalizing cache since with
  | nil =>
      obtain rfl := Option.some.inj hrun
      rwa [assignedIn, Finset.empty_union]
  | cons op ops ih =>
      obtain ⟨next, hnext, hrest⟩ := Option.bind_eq_some_iff.mp hrun
      rw [assignedIn, Finset.mem_union, not_or] at hset
      have hkeys : assignedIn (op :: ops) ∪ since = assignedIn ops ∪ (assigned op ∪ since) := by
        rw [assignedIn, Finset.union_comm (assigned op), Finset.union_assoc]
      rw [hkeys] at hcard ⊢
      have hfew : (assigned op ∪ since).card < m := (Finset.card_le_card Finset.subset_union_right).trans_lt hcard
      have hheld := held_step hm h hsize hnext horderly.1 hset.1 (fun heq => hclear (heq ▸ List.mem_cons_self))
        hfew fun looked heq => hfresh looked (heq ▸ List.mem_cons_self)
      obtain ⟨_, hsome, hbounded⟩ := bounded_step ttl hm ⟨h.nodup, hsize⟩ op
      obtain rfl := Option.some.inj (hsome.symm.trans hnext)
      exact ih hheld hbounded.size hrest (horderly.2 _ hnext) hset.2 (fun hmem => hclear (List.mem_cons_of_mem _ hmem))
        hcard fun looked hmem => hfresh looked (List.mem_cons_of_mem _ hmem)

/-- The cache never outgrows its size, and in a run whose assignments are orderly it keeps every
answer that fewer others than there are places came after. -/
theorem cache_retains (ttl : Int) (hm : 1 ≤ m) (ops : List Op) :
    (∃ last, run (step ttl m) ops [] = some last ∧ last.length ≤ m) ∧
      (Along (step ttl m) (Orderly m) ops [] → Retains ttl m ops) := by
  have hempty : Bounded m [] := ⟨List.nodup_nil, Nat.zero_le m⟩
  obtain ⟨last, hrun, hlast⟩ := bounded_run ttl hm hempty ops
  refine ⟨⟨last, hrun, hlast.size⟩, ?_⟩
  rintro horderly earlier later authorityId naan isAuthorized stored now rfl hset hclear hcard hfresh hnow
  refine ⟨last, hrun, ?_⟩
  obtain ⟨before, hbefore, hrest⟩ := run_append hrun
  obtain ⟨next, hnext, hlater⟩ := Option.bind_eq_some_iff.mp hrest
  have hbounded : Bounded m before := by
    obtain ⟨_, hsome, hbounded⟩ := bounded_run ttl hm hempty earlier
    exact Option.some.inj (hsome.symm.trans hbefore) ▸ hbounded
  have halong := horderly.append hbefore
  have hheld : Recency.Held ∅ (authorityId, naan) (isAuthorized, stored) next := by
    rw [step, set_eq_put hm hbounded.nodup] at hnext
    obtain rfl := Option.some.inj hnext
    rw [(Recency.put_eq_refresh_iff hbounded.nodup hbounded.size).mpr halong.1]
    exact Recency.held_refresh hbounded.nodup
  have hsize : next.length ≤ m := by
    obtain ⟨_, hsome, hbounded⟩ := bounded_step ttl hm hbounded (.set authorityId naan isAuthorized stored)
    exact Option.some.inj (hsome.symm.trans hnext) ▸ hbounded.size
  have hkept := held_run hm hheld hsize hlater (halong.2 _ hnext) hset hclear (by rwa [Finset.union_empty]) hfresh
  rw [get, hkept.get]
  simp only [if_pos hnow]

end

theorem cache_retains_sample : ∃ last,
    run (step 60 2) [.set "A" "12345" true 0, .set "B" "12345" true 1, .set "A" "12345" true 2] [] = some last ∧
      (get 60 last "B" "12345" 3).1 = (true, true) := by
  have hempty : Recency.Orderly 2 ([] : Cache) ("A", "12345") := by decide
  have hsecond : Recency.Orderly 2 [(("A", "12345"), (true, (0 : Time)))] ("B", "12345") := by decide
  have hfull : Recency.Orderly 2 [(("A", "12345"), (true, (0 : Time))), (("B", "12345"), (true, 1))]
      ("A", "12345") := by decide
  have horderly : Along (step 60 2) (Orderly 2)
      [.set "A" "12345" true 0, .set "B" "12345" true 1, .set "A" "12345" true 2] [] := by
    refine ⟨hempty, fun first hfirst => ?_⟩
    obtain rfl := Option.some.inj hfirst
    refine ⟨hsecond, fun next hnext => ?_⟩
    obtain rfl := Option.some.inj hnext
    exact ⟨hfull, fun _ _ => trivial⟩
  exact (cache_retains 60 (by decide) _).2 horderly [.set "A" "12345" true 0] [.set "A" "12345" true 2] "B" "12345" true
    1 3 rfl (by decide) (by decide) (by decide) (by simp) (by decide)

/-- To set a key again in a full cache costs another key its place. -/
theorem answer_lost : ¬∀ (ttl : Int) (m : ℕ), 1 ≤ m → ∀ ops, Retains ttl m ops := by
  intro hall
  obtain ⟨last, hrun, hget⟩ := hall 60 2 (by decide)
    [.set "A" "12345" true 0, .set "B" "12345" true 1, .set "B" "12345" true 2] []
    [.set "B" "12345" true 1, .set "B" "12345" true 2] "A" "12345" true 0 3 rfl (by decide) (by decide) (by decide)
    (by simp) (by decide)
  obtain rfl : [(("B", "12345"), (true, 2))] = last := Option.some.inj hrun
  have hmiss : (get 60 [(("B", "12345"), (true, 2))] "A" "12345" 3).1 = (false, false) := by decide
  cases hmiss.symm.trans hget

structure Call where
  authorityId : String
  naan : String
  getAt : Time
  setAt : Time
  isAuthorizedForNaan : Except Exc Bool

def Call.key (call : Call) : Key := (strip call.authorityId, strip call.naan)

structure Checked where
  /-- The answer, or the text of `AuthorizationCheckUnavailable`. -/
  result : Except String Bool
  /-- Whether the chain was read. -/
  read : Bool
  cache : Cache

def unavailable (authorityId naan : String) : String :=
  "Authorization check unavailable for authority " ++ authorityId ++ " and NAAN " ++ naan

/-- The answer is stored within the `try` of the chain read. -/
def checkAuthorizationCached (ttl maxsize : Int) (cache : Cache) (call : Call) : Checked :=
  let authorityId := strip call.authorityId
  let naan := strip call.naan
  let looked := get ttl cache authorityId naan call.getAt
  if looked.1.1 then ⟨.ok looked.1.2, false, looked.2⟩
  else
    match call.isAuthorizedForNaan with
    | .ok true =>
        match set maxsize looked.2 authorityId naan true call.setAt with
        | .ok stored => ⟨.ok true, true, stored⟩
        | .error _ => ⟨.error (unavailable authorityId naan), true, looked.2⟩
    | .ok false => ⟨.ok false, true, looked.2⟩
    | .error _ => ⟨.error (unavailable authorityId naan), true, looked.2⟩

def cacheAfter (ttl maxsize : Int) (calls : List Call) : Cache :=
  calls.foldl (fun cache call => (checkAuthorizationCached ttl maxsize cache call).cache) []

structure StoredBy (ttl maxsize : Int) (earlier : List Call) (call : Call) : Prop where
  read : (checkAuthorizationCached ttl maxsize (cacheAfter ttl maxsize earlier) call).read = true
  answer : call.isAuthorizedForNaan = .ok true
  stored : Dict.get (cacheAfter ttl maxsize (earlier ++ [call])) call.key = some (true, call.setAt)

structure Faithful (ttl maxsize : Int) (earlier : List Call) (call : Call) (checked : Checked) : Prop where
  unavailable : ∀ text, checked.result = .error text → checked.read = true ∧ ∃ e, call.isAuthorizedForNaan = .error e
  positive : checked.result = .ok true → (checked.read = true ∧ call.isAuthorizedForNaan = .ok true) ∨
    ∃ before past between, earlier = before ++ past :: between ∧ StoredBy ttl maxsize before past ∧
      past.key = call.key ∧ call.getAt - past.setAt < seconds ttl
  negative : checked.result = .ok false → checked.read = true ∧ call.isAuthorizedForNaan = .ok false

def Transparent (ttl maxsize : Int) (calls : List Call) : Prop :=
  ∀ earlier call later, calls = earlier ++ call :: later →
    Faithful ttl maxsize earlier call (checkAuthorizationCached ttl maxsize (cacheAfter ttl maxsize earlier) call)

section

variable {ttl maxsize : Int} {cache : Cache} {call : Call} {calls earlier : List Call}

theorem cacheAfter_concat (ttl maxsize : Int) (calls : List Call) (call : Call) :
    cacheAfter ttl maxsize (calls ++ [call]) =
      (checkAuthorizationCached ttl maxsize (cacheAfter ttl maxsize calls) call).cache := by
  rw [cacheAfter, List.foldl_append]
  rfl

theorem get_hit {authorityId naan : String} {now : Time} (h : (get ttl cache authorityId naan now).1.1 = true) :
    ∃ stamp, Dict.get cache (authorityId, naan) = some ((get ttl cache authorityId naan now).1.2, stamp) ∧
      now - stamp < seconds ttl := by
  rw [get] at h ⊢
  split at h
  · rename_i result stamp hentry
    split at h
    · rename_i hfresh
      exact ⟨stamp, by rw [hentry, if_pos hfresh], hfresh⟩
    · cases h
  · cases h

theorem get_sub (ttl : Int) (cache : Cache) (authorityId naan : String) (now : Time) {key : Key} {entry : Bool × Time}
    (h : Dict.get (get ttl cache authorityId naan now).2 key = some entry) : Dict.get cache key = some entry := by
  rcases step_get_kept ttl cache authorityId naan now with heq | heq
  · rwa [heq] at h
  · rw [heq, Dict.get_erase] at h
    split at h
    · cases h
    · exact h

theorem set_error {authorityId naan : String} {isAuthorized : Bool} {now : Time} :
    (∃ e, set maxsize cache authorityId naan isAuthorized now = .error e) ↔ maxsize ≤ 0 ∧ cache = [] := by
  cases cache with
  | nil =>
      rw [set.eq_def]
      split <;> simp_all
  | cons e rest =>
      rw [set.eq_def]
      split <;> simp

theorem set_get {authorityId naan : String} {isAuthorized : Bool} {now : Time} {stored : Cache} {key : Key}
    {entry : Bool × Time} (h : set maxsize cache authorityId naan isAuthorized now = .ok stored)
    (hget : Dict.get stored key = some entry) :
    Dict.get cache key = some entry ∨ key = (authorityId, naan) ∧ entry = (isAuthorized, now) := by
  rw [set.eq_def] at h
  split at h
  · cases cache with
    | nil => cases h
    | cons e rest =>
        obtain rfl := Except.ok.inj h
        rw [Dict.get_set, Dict.get_erase] at hget
        split at hget
        · exact .inr ⟨Eq.symm ‹_›, (Option.some.inj hget).symm⟩
        · split at hget
          · cases hget
          · exact .inl hget
  · obtain rfl := Except.ok.inj h
    rw [Dict.get_set] at hget
    split at hget
    · exact .inr ⟨Eq.symm ‹_›, (Option.some.inj hget).symm⟩
    · exact .inl hget

inductive Outcome (ttl maxsize : Int) (cache : Cache) (call : Call) : Checked → Prop
  | hit {isAuthorized : Bool} {stamp : Time} (hentry : Dict.get cache call.key = some (isAuthorized, stamp))
      (hfresh : call.getAt - stamp < seconds ttl) :
      Outcome ttl maxsize cache call ⟨.ok isAuthorized, false, (get ttl cache call.key.1 call.key.2 call.getAt).2⟩
  | stored {stored : Cache} (hanswer : call.isAuthorizedForNaan = .ok true)
      (hset : set maxsize (get ttl cache call.key.1 call.key.2 call.getAt).2 call.key.1 call.key.2 true call.setAt =
        .ok stored) : Outcome ttl maxsize cache call ⟨.ok true, true, stored⟩
  | unstored {e : Exc} (hanswer : call.isAuthorizedForNaan = .ok true)
      (hset : set maxsize (get ttl cache call.key.1 call.key.2 call.getAt).2 call.key.1 call.key.2 true call.setAt =
        .error e) : Outcome ttl maxsize cache call ⟨.error (unavailable call.key.1 call.key.2), true,
          (get ttl cache call.key.1 call.key.2 call.getAt).2⟩
  | denied (hanswer : call.isAuthorizedForNaan = .ok false) :
      Outcome ttl maxsize cache call ⟨.ok false, true, (get ttl cache call.key.1 call.key.2 call.getAt).2⟩
  | unread {e : Exc} (hanswer : call.isAuthorizedForNaan = .error e) :
      Outcome ttl maxsize cache call ⟨.error (unavailable call.key.1 call.key.2), true,
        (get ttl cache call.key.1 call.key.2 call.getAt).2⟩

theorem checked_outcome (ttl maxsize : Int) (cache : Cache) (call : Call) :
    Outcome ttl maxsize cache call (checkAuthorizationCached ttl maxsize cache call) := by
  by_cases hhit : (get ttl cache (strip call.authorityId) (strip call.naan) call.getAt).1.1 = true
  · obtain ⟨stamp, hentry, hfresh⟩ := get_hit hhit
    simp only [checkAuthorizationCached, if_pos hhit]
    exact .hit hentry hfresh
  · simp only [checkAuthorizationCached, if_neg hhit]
    split
    · rename_i hanswer
      split
      · exact .stored hanswer ‹_›
      · exact .unstored hanswer ‹_›
    · exact .denied ‹_›
    · exact .unread ‹_›

theorem checked_entry {key : Key} {entry : Bool × Time}
    (h : Dict.get (checkAuthorizationCached ttl maxsize cache call).cache key = some entry) :
    Dict.get cache key = some entry ∨ key = call.key ∧ entry = (true, call.setAt) ∧
      (checkAuthorizationCached ttl maxsize cache call).read = true ∧ call.isAuthorizedForNaan = .ok true := by
  have houtcome := checked_outcome ttl maxsize cache call
  generalize checkAuthorizationCached ttl maxsize cache call = checked at h houtcome ⊢
  cases houtcome with
  | hit | unstored | denied | unread => exact .inl (get_sub _ _ _ _ _ h)
  | stored hanswer hset =>
      rcases set_get hset h with hold | ⟨hkey, hentry⟩
      · exact .inl (get_sub _ _ _ _ _ hold)
      · exact .inr ⟨hkey, hentry, rfl, hanswer⟩

theorem entry_stored {key : Key} {entry : Bool × Time}
    (h : Dict.get (cacheAfter ttl maxsize earlier) key = some entry) :
    ∃ before past between, earlier = before ++ past :: between ∧ StoredBy ttl maxsize before past ∧ past.key = key ∧
      entry = (true, past.setAt) := by
  induction earlier using List.reverseRecOn with
  | nil => cases h
  | append_singleton earlier call ih =>
      rw [cacheAfter_concat] at h
      rcases checked_entry h with hold | ⟨rfl, rfl, hread, hanswer⟩
      · obtain ⟨before, past, between, rfl, hrest⟩ := ih hold
        exact ⟨before, past, between ++ [call], by simp, hrest⟩
      · exact ⟨earlier, call, [], rfl, ⟨hread, hanswer, by rwa [cacheAfter_concat]⟩, rfl, rfl⟩

theorem cacheAfter_nil (h : maxsize ≤ 0) (calls : List Call) : cacheAfter ttl maxsize calls = [] := by
  induction calls using List.reverseRecOn with
  | nil => rfl
  | append_singleton calls call ih =>
      rw [cacheAfter_concat, ih]
      have houtcome := checked_outcome ttl maxsize [] call
      generalize checkAuthorizationCached ttl maxsize [] call = checked at houtcome ⊢
      cases houtcome with
      | hit | unstored | denied | unread => rfl
      | stored _ hset =>
          obtain ⟨e, he⟩ := set_error.mpr ⟨h, rfl⟩
          cases he.symm.trans hset

theorem faithful_of_stores (h : call.isAuthorizedForNaan = .ok true → 1 ≤ maxsize) :
    Faithful ttl maxsize earlier call (checkAuthorizationCached ttl maxsize (cacheAfter ttl maxsize earlier) call) := by
  have houtcome := checked_outcome ttl maxsize (cacheAfter ttl maxsize earlier) call
  generalize checkAuthorizationCached ttl maxsize (cacheAfter ttl maxsize earlier) call = checked at houtcome ⊢
  cases houtcome with
  | hit hentry hfresh =>
      obtain ⟨before, past, between, hearlier, hstored, hkey, hvalue⟩ := entry_stored hentry
      obtain ⟨rfl, rfl⟩ := Prod.mk.inj hvalue
      exact ⟨nofun, fun _ => .inr ⟨before, past, between, hearlier, hstored, hkey, hfresh⟩, nofun⟩
  | stored hanswer _ => exact ⟨nofun, fun _ => .inl ⟨rfl, hanswer⟩, nofun⟩
  | unstored hanswer hset =>
      have hnone := (set_error.mp ⟨_, hset⟩).1
      have hsome := h hanswer
      omega
  | denied hanswer => exact ⟨nofun, nofun, fun _ => ⟨rfl, hanswer⟩⟩
  | unread hanswer => exact ⟨fun _ _ => ⟨rfl, _, hanswer⟩, nofun, nofun⟩

/-- The cache changes no answer exactly where it has a place to store one, or none is to be
stored. -/
theorem transparent_iff (ttl maxsize : Int) (calls : List Call) :
    Transparent ttl maxsize calls ↔ 1 ≤ maxsize ∨ ∀ call ∈ calls, call.isAuthorizedForNaan ≠ .ok true := by
  constructor
  · intro h
    by_contra! hnone
    obtain ⟨hsize, call, hcall, hanswer⟩ := hnone
    have hnoplace : maxsize ≤ 0 := by omega
    obtain ⟨earlier, later, hsplit⟩ := List.append_of_mem hcall
    have hfaithful := h earlier call later hsplit
    have houtcome := checked_outcome ttl maxsize (cacheAfter ttl maxsize earlier) call
    rw [cacheAfter_nil hnoplace] at hfaithful houtcome
    generalize checkAuthorizationCached ttl maxsize [] call = checked at hfaithful houtcome
    cases houtcome with
    | hit hentry => cases hentry
    | stored _ hset =>
        obtain ⟨e, he⟩ := set_error.mpr ⟨hnoplace, rfl⟩
        cases he.symm.trans hset
    | unstored =>
        obtain ⟨-, e, he⟩ := hfaithful.unavailable _ rfl
        cases he.symm.trans hanswer
    | denied hdenied => cases hdenied.symm.trans hanswer
    | unread hunread => cases hunread.symm.trans hanswer
  · rintro h earlier call later rfl
    refine faithful_of_stores fun hanswer => ?_
    exact h.resolve_right fun hnone => hnone call (by simp) hanswer

end

theorem answer_unavailable : ¬∀ (ttl maxsize : Int) (calls : List Call), Transparent ttl maxsize calls := by
  intro hall
  have hfaithful := hall 60 0 [⟨"A", "12345", 0, 0, .ok true⟩] [] ⟨"A", "12345", 0, 0, .ok true⟩ [] rfl
  obtain ⟨-, e, he⟩ := hfaithful.unavailable "Authorization check unavailable for authority A and NAAN 12345"
    (by decide +kernel)
  cases he

end DarkMinter.AuthCache
