import DarkMinter.Monitoring

namespace DarkMinter.RetryRequests

open Text Processing Records Authority Retry Deployment Monitoring Lib.Runs

structure RetryRequest where
  arks : List String
  reason : String
  arks_length : 1 ≤ arks.length ∧ arks.length ≤ 1000
  reason_length : 1 ≤ reason.length ∧ reason.length ≤ 500

/-- Whether the lock of an ARK is to be had, the rest of its round, and how the lock is given back. -/
structure Round where
  lock : Except Exc Bool
  env : RetryEnv
  release : Except Exc Unit := .ok ()

structure RetryReply where
  requested : Nat
  reason : String
  items : List (ArkId × RetryStatus)

section

variable [PyLower]

def retryArk (identity : Identity) (R : Round) (c : Cell) : Except Raised RetryStatus × Cell :=
  let outcome := match R.lock with
    | .error e => (.error (.exc e), c)
    | .ok false => (.ok .locked, c)
    | .ok true => retryFailedArk identity R.env c
  match R.release with
  | .error e => (.error (.exc e), outcome.2)
  | .ok () => outcome

def retryAll (identity : Identity) (rounds : ArkId → Round) :
    List ArkId → (ArkId → Cell) → Except Raised (List (ArkId × RetryStatus)) × (ArkId → Cell)
  | [], cells => (.ok [], cells)
  | k :: ks, cells =>
      let answer := retryArk identity (rounds k) (cells k)
      let after := Function.update cells k answer.2
      match answer.1 with
      | .error x => (.error x, after)
      | .ok status =>
          let rest := retryAll identity rounds ks after
          (rest.1.map ((k, status) :: ·), rest.2)

def retryFailedArks (parse : String → Option ArkId) (identity : Identity) (request : RetryRequest)
    (rounds : ArkId → Round) (cells : ArkId → Cell) : Except Raised RetryReply × (ArkId → Cell) :=
  match request.arks.mapM parse with
  | none => (.error (.http 400 "Invalid ARK format"), cells)
  | some ids =>
      let outcome := retryAll identity rounds ids.eraseDups cells
      (outcome.1.map fun items => ⟨request.arks.length, request.reason, items⟩, outcome.2)

variable {parse : String → Option ArkId} {identity : Identity} {request : RetryRequest} {rounds : ArkId → Round}
  {R : Round} {cells : ArkId → Cell} {c : Cell} {k : ArkId} {ks : List ArkId} {x : Raised}

/-- The record had failed, and is ready again, in its stage. -/
def Retried (identity : Identity) (E : RetryEnv) (c c' : Cell) : Prop :=
  ∃ r, c.record = some r ∧ r.authorityId = identity.authorityId ∧ r.state ≠ .reserved ∧ r.state ≠ .tombstone ∧
    r.processingStatus = .failed ∧ (∃ current, requireCurrentOwner E.owner (r.state = .draft) = .ok current) ∧
    c' = { c with record := some (retriedRecord E.now r) }

/-- What a round can come to. It raises with its change made only where its lock is not given back. -/
inductive Answers (identity : Identity) (R : Round) (c : Cell) : Except Raised RetryStatus × Cell → Prop
  | kept {status : RetryStatus} (hstatus : status ≠ .accepted) : Answers identity R c (.ok status, c)
  | raised {x : Raised} : Answers identity R c (.error x, c)
  | unreleased {x : Raised} {c' : Cell} (hrelease : R.release ≠ .ok ()) (h : Retried identity R.env c c') :
      Answers identity R c (.error x, c')
  | accepted {c' : Cell} (h : Retried identity R.env c c') : Answers identity R c (.ok .accepted, c')

theorem retryFailedArk_answers (identity : Identity) (R : Round) (c : Cell) :
    Answers identity R c (retryFailedArk identity R.env c) := by
  unfold retryFailedArk
  cases hr : c.record with
  | none => exact .kept (by simp)
  | some r =>
      by_cases hA : r.authorityId = identity.authorityId
      · by_cases hstate : r.state ∈ [.reserved, .tombstone]
        · simp only [hA, hstate, ne_eq, not_true, if_false, if_true]
          exact .kept (by simp)
        · by_cases hfailed : r.processingStatus = .failed
          · simp only [hA, hstate, hfailed, ne_eq, not_true, if_false]
            cases howner : requireCurrentOwner R.env.owner (r.state = .draft) with
            | error x =>
                cases x with
                | http => exact .kept (by simp)
                | exc => exact .raised
            | ok current =>
                cases R.env.commit with
                | error e => exact .raised
                | ok =>
                    have hlive : r.state ≠ .reserved ∧ r.state ≠ .tombstone := by simpa using hstate
                    exact .accepted ⟨r, hr, hA, hlive.1, hlive.2, hfailed, ⟨current, howner⟩, rfl⟩
          · simp only [hA, hstate, hfailed, ne_eq, not_true, not_false_iff, if_false, if_true]
            exact .kept (by simp)
      · simp only [hA, ne_eq, not_false_iff, if_true]
        exact .kept (by simp)

theorem Answers.released {outcome : Except Raised RetryStatus × Cell} {e : Exc} (h : Answers identity R c outcome)
    (hrelease : R.release = .error e) : Answers identity R c (.error (.exc e), outcome.2) := by
  cases h with
  | kept | raised => exact .raised
  | unreleased hnot hretried => exact .unreleased hnot hretried
  | accepted hretried => exact .unreleased (by simp [hrelease]) hretried

theorem retryArk_answers (identity : Identity) (R : Round) (c : Cell) :
    Answers identity R c (retryArk identity R c) := by
  have houtcome : Answers identity R c (match R.lock with
      | .error e => (.error (.exc e), c)
      | .ok false => (.ok .locked, c)
      | .ok true => retryFailedArk identity R.env c) := by
    cases R.lock with
    | error e => exact .raised
    | ok free =>
        cases free with
        | false => exact .kept (by simp)
        | true => exact retryFailedArk_answers ..
  unfold retryArk
  cases hrelease : R.release with
  | error e => exact houtcome.released hrelease
  | ok => exact houtcome

theorem retryArk_ok {status : RetryStatus} (h : (retryArk identity R c).1 = .ok status) :
    status = .accepted ∧ Retried identity R.env c (retryArk identity R c).2 ∨
      status ≠ .accepted ∧ (retryArk identity R c).2 = c := by
  have hanswers := retryArk_answers identity R c
  generalize retryArk identity R c = answer at h hanswers
  cases hanswers with
  | kept hstatus =>
      obtain rfl := Except.ok.inj h
      exact .inr ⟨hstatus, rfl⟩
  | raised | unreleased => cases h
  | accepted hretried =>
      obtain rfl := Except.ok.inj h
      exact .inl ⟨rfl, hretried⟩

theorem retryArk_error (h : (retryArk identity R c).1 = .error x) :
    (retryArk identity R c).2 = c ∨
      R.release ≠ .ok () ∧ Retried identity R.env c (retryArk identity R c).2 := by
  have hanswers := retryArk_answers identity R c
  generalize retryArk identity R c = answer at h hanswers
  cases hanswers with
  | kept | accepted => cases h
  | raised => exact .inl rfl
  | unreleased hrelease hretried => exact .inr ⟨hrelease, hretried⟩

inductive Went (identity : Identity) (rounds : ArkId → Round) (cells : ArkId → Cell) :
    List ArkId → List ArkId → Except Raised (List (ArkId × RetryStatus)) → Prop
  | all {ks : List ArkId} {items : List (ArkId × RetryStatus)} (hitems : items.map Prod.fst = ks)
      (hstatus : ∀ e ∈ items, (retryArk identity (rounds e.1) (cells e.1)).1 = .ok e.2) :
      Went identity rounds cells ks ks (.ok items)
  | cut {done rest : List ArkId} {k : ArkId} {x : Raised}
      (hdone : ∀ j ∈ done, ∃ status, (retryArk identity (rounds j) (cells j)).1 = .ok status)
      (hraised : (retryArk identity (rounds k) (cells k)).1 = .error x) :
      Went identity rounds cells (done ++ k :: rest) (done ++ [k]) (.error x)

theorem Went.cons {made : List ArkId} {status : RetryStatus} {res : Except Raised (List (ArkId × RetryStatus))}
    (hk : k ∉ ks) (hstatus : (retryArk identity (rounds k) (cells k)).1 = .ok status)
    (h : Went identity rounds (Function.update cells k c) ks made res) :
    Went identity rounds cells (k :: ks) (k :: made) (res.map ((k, status) :: ·)) := by
  cases h with
  | @all _ items hitems hanswers =>
      refine .all (by rw [List.map_cons, hitems]) fun e he => ?_
      rcases List.mem_cons.mp he with rfl | he
      · exact hstatus
      · have hne : e.1 ≠ k := fun hek => hk (hek ▸ hitems ▸ List.mem_map_of_mem he)
        have hanswer := hanswers e he
        rw [Function.update_of_ne hne] at hanswer
        exact hanswer
  | @cut done rest j x hdone hraised =>
      have hne : ∀ i ∈ done ++ j :: rest, i ≠ k := fun i hi hik => hk (hik ▸ hi)
      rw [Function.update_of_ne (hne j (by simp))] at hraised
      refine @Went.cut _ identity rounds cells (k :: done) rest j x (fun i hi => ?_) hraised
      rcases List.mem_cons.mp hi with rfl | hi
      · exact ⟨status, hstatus⟩
      · have hanswer := hdone i hi
        rw [Function.update_of_ne (hne i (List.mem_append_left _ hi))] at hanswer
        exact hanswer

theorem retryAll_went (hks : ks.Nodup) : ∃ made, (∀ k ∈ made, k ∈ ks) ∧
    Went identity rounds cells ks made (retryAll identity rounds ks cells).1 ∧
    ∀ k, (retryAll identity rounds ks cells).2 k =
      if k ∈ made then (retryArk identity (rounds k) (cells k)).2 else cells k := by
  induction ks generalizing cells with
  | nil => exact ⟨[], by simp, .all rfl (by simp), fun k => by simp [retryAll]⟩
  | cons k ks ih =>
      obtain ⟨hk, hks⟩ := List.nodup_cons.mp hks
      cases hanswer : (retryArk identity (rounds k) (cells k)).1 with
      | error x =>
          refine ⟨[k], by simp, ?_, fun j => ?_⟩
          · simp only [retryAll, hanswer]
            exact @Went.cut _ identity rounds cells [] ks k x (by simp) hanswer
          · by_cases hjk : j = k
            · subst hjk
              simp [retryAll, hanswer]
            · simp [retryAll, hanswer, hjk]
      | ok status =>
          obtain ⟨made, hmade, hwent, hcells⟩ :=
            @ih (Function.update cells k (retryArk identity (rounds k) (cells k)).2) hks
          refine ⟨k :: made, ?_, ?_, fun j => ?_⟩
          · intro j hj
            rcases List.mem_cons.mp hj with rfl | hj
            · exact List.mem_cons_self ..
            · exact List.mem_cons_of_mem _ (hmade j hj)
          · simp only [retryAll, hanswer]
            exact hwent.cons hk hanswer
          · simp only [retryAll, hanswer, hcells j]
            by_cases hjk : j = k
            · subst hjk
              simp [show j ∉ made from fun hj => hk (hmade j hj)]
            · simp [hjk]

omit [PyLower] in
theorem mapM_none {arks : List String} {ark : String} (hark : ark ∈ arks) (hnone : parse ark = none) :
    arks.mapM parse = none := by
  induction arks with
  | nil => cases hark
  | cons first arks ih =>
      rw [List.mapM_cons]
      rcases List.mem_cons.mp hark with rfl | hark
      · rw [hnone]
        rfl
      · cases parse first with
        | none => rfl
        | some k =>
            simp only [bind, Option.bind, ih hark]

omit [PyLower] in
theorem nodup_eraseDups (ids : List ArkId) : ids.eraseDups.Nodup := by
  induction hlength : ids.length using Nat.strong_induction_on generalizing ids with
  | _ n ih =>
      cases ids with
      | nil => exact List.nodup_nil
      | cons k ids =>
          rw [List.eraseDups_cons, List.nodup_cons]
          have hlt : (ids.filter fun j => !j == k).length < n :=
            Nat.lt_of_le_of_lt (List.length_filter_le _ _) (by rw [← hlength]; exact Nat.lt_succ_self _)
          exact ⟨by simp, ih _ hlt _ rfl⟩

theorem retryAll_ok {items : List (ArkId × RetryStatus)} (hks : ks.Nodup)
    (h : (retryAll identity rounds ks cells).1 = .ok items) : items.map Prod.fst = ks ∧ ∀ k,
      (k, RetryStatus.accepted) ∈ items ∧
        Retried identity (rounds k).env (cells k) ((retryAll identity rounds ks cells).2 k) ∨
      (k, RetryStatus.accepted) ∉ items ∧ (retryAll identity rounds ks cells).2 k = cells k := by
  obtain ⟨made, -, hwent, hcells⟩ := @retryAll_went _ identity rounds cells ks hks
  rw [h] at hwent
  cases hwent with
  | all hitems hstatus =>
      refine ⟨hitems, fun k => ?_⟩
      by_cases hk : k ∈ ks
      · rw [hcells k, if_pos hk]
        obtain ⟨⟨_, status⟩, he, rfl⟩ := List.mem_map.mp (hitems ▸ hk)
        rcases retryArk_ok (hstatus _ he) with ⟨rfl, hretried⟩ | ⟨hne, hkept⟩
        · exact .inl ⟨he, hretried⟩
        · refine .inr ⟨fun haccepted => hne ?_, hkept⟩
          exact Except.ok.inj ((hstatus _ he).symm.trans (hstatus _ haccepted))
      · rw [hcells k, if_neg hk]
        exact .inr ⟨fun haccepted => hk (hitems ▸ List.mem_map_of_mem haccepted), rfl⟩

/-- The rounds before the one that raised have done what they answered, that one has changed its ARK only
where its lock was not given back after the change, and none was made after it. -/
structure CutShort (identity : Identity) (rounds : ArkId → Round) (cells after : ArkId → Cell) (x : Raised)
    (done : List ArkId) (k : ArkId) : Prop where
  raised : (retryArk identity (rounds k) (cells k)).1 = .error x
  kept : ∀ j ∈ done, ∃ status, (retryArk identity (rounds j) (cells j)).1 = .ok status ∧
    (status = .accepted ∧ Retried identity (rounds j).env (cells j) (after j) ∨
      status ≠ .accepted ∧ after j = cells j)
  last : after k = cells k ∨ (rounds k).release ≠ .ok () ∧ Retried identity (rounds k).env (cells k) (after k)
  others : ∀ j, j ∉ done → j ≠ k → after j = cells j

theorem retryAll_error (hks : ks.Nodup) (h : (retryAll identity rounds ks cells).1 = .error x) :
    ∃ done k rest, ks = done ++ k :: rest ∧
      CutShort identity rounds cells (retryAll identity rounds ks cells).2 x done k := by
  obtain ⟨made, -, hwent, hcells⟩ := @retryAll_went _ identity rounds cells ks hks
  rw [h] at hwent
  cases hwent with
  | @cut done rest k x hdone hraised =>
      refine ⟨done, k, rest, rfl, hraised, fun j hj => ?_, ?_, fun j hj hjk => ?_⟩
      · obtain ⟨status, hstatus⟩ := hdone j hj
        rw [hcells j, if_pos (List.mem_append_left _ hj)]
        exact ⟨status, hstatus, retryArk_ok hstatus⟩
      · rw [hcells k, if_pos (by simp)]
        exact retryArk_error hraised
      · rw [hcells j, if_neg (by simp [hj, hjk])]

theorem retryFailedArks_ok {ids : List ArkId} {reply : RetryReply} (hparse : request.arks.mapM parse = some ids)
    (hreply : (retryFailedArks parse identity request rounds cells).1 = .ok reply) :
    reply.items.map Prod.fst = ids.eraseDups ∧
      ∀ k, (k, RetryStatus.accepted) ∈ reply.items ∧
          Retried identity (rounds k).env (cells k) ((retryFailedArks parse identity request rounds cells).2 k) ∨
        (k, RetryStatus.accepted) ∉ reply.items ∧
          (retryFailedArks parse identity request rounds cells).2 k = cells k := by
  simp only [retryFailedArks, hparse] at hreply ⊢
  cases houtcome : (retryAll identity rounds ids.eraseDups cells).1 with
  | error x =>
      rw [houtcome] at hreply
      cases hreply
  | ok items =>
      rw [houtcome] at hreply
      obtain rfl := Except.ok.inj hreply
      exact retryAll_ok (nodup_eraseDups ids) houtcome

/-- A request with an ARK that is none changes nothing. Otherwise it answers for each of its ARKs once, in
the order in which it names them first, and has changed those that it reports as accepted, which had failed
and are the authority's own. Where a round raises, its exception is the answer, and the rounds before it
keep their effect. -/
theorem reply_tells (parse : String → Option ArkId) (identity : Identity) (request : RetryRequest)
    (rounds : ArkId → Round) (cells : ArkId → Cell) :
    ((∃ ark ∈ request.arks, parse ark = none) →
      retryFailedArks parse identity request rounds cells = (.error (.http 400 "Invalid ARK format"), cells)) ∧
    (∀ ids reply, request.arks.mapM parse = some ids →
      (retryFailedArks parse identity request rounds cells).1 = .ok reply →
        reply.items.map Prod.fst = ids.eraseDups ∧
        ∀ k, (k, RetryStatus.accepted) ∈ reply.items ∧
            Retried identity (rounds k).env (cells k) ((retryFailedArks parse identity request rounds cells).2 k) ∨
          (k, RetryStatus.accepted) ∉ reply.items ∧
            (retryFailedArks parse identity request rounds cells).2 k = cells k) ∧
    ∀ ids x, request.arks.mapM parse = some ids →
      (retryFailedArks parse identity request rounds cells).1 = .error x →
        ∃ done k rest, ids.eraseDups = done ++ k :: rest ∧
          CutShort identity rounds cells (retryFailedArks parse identity request rounds cells).2 x done k := by
  refine ⟨?_, fun _ _ => retryFailedArks_ok, ?_⟩
  · rintro ⟨ark, hark, hnone⟩
    simp only [retryFailedArks, mapM_none hark hnone]
  · intro ids x hparse hraised
    simp only [retryFailedArks, hparse] at hraised ⊢
    cases houtcome : (retryAll identity rounds ids.eraseDups cells).1 with
    | ok items =>
        rw [houtcome] at hraised
        cases hraised
    | error y =>
        rw [houtcome] at hraised
        obtain rfl := Except.error.inj hraised
        exact retryAll_error (nodup_eraseDups ids) houtcome

theorem retryArk_cell : (retryArk identity R c).2 =
    if R.lock = .ok true then (retryFailedArk identity R.env c).2 else c := by
  unfold retryArk
  cases R.release <;> cases R.lock with
  | error e => simp
  | ok free => cases free <;> simp

theorem round_reaches {cfg : Config} {s : Sys} (hlock : (rounds k).lock = .ok true → s.control.locks k = none) :
    ∃ t, Reach (step cfg) Free s t ∧ t.control = s.control ∧
      t.cells = Function.update s.cells k (retryArk identity (rounds k) (s.cells k)).2 := by
  rw [retryArk_cell]
  split
  · rename_i hlocked
    refine ⟨_, .next (a := .mutate k (.retry identity (rounds k).env)) .init trivial rfl, rfl, ?_⟩
    funext j
    by_cases hj : j = k
    · subst hj
      simp [cellsAfter, opOf, hlock hlocked, Op.run, Mutation.run]
    · simp [cellsAfter, opOf, hj, Ne.symm hj]
  · exact ⟨s, .init, rfl, by rw [Function.update_eq_self]⟩

theorem retryAll_reaches {cfg : Config} {s : Sys} (ks : List ArkId)
    (hlocks : ∀ k, (rounds k).lock = .ok true → s.control.locks k = none) :
    ∃ t, Reach (step cfg) Free s t ∧ t.control = s.control ∧ t.cells = (retryAll identity rounds ks s.cells).2 := by
  induction ks generalizing s with
  | nil => exact ⟨s, .init, rfl, rfl⟩
  | cons k ks ih =>
      obtain ⟨u, hu, hcontrol, hcells⟩ := @round_reaches _ identity rounds k cfg s (hlocks k)
      cases hanswer : (retryArk identity (rounds k) (s.cells k)).1 with
      | error x => exact ⟨u, hu, hcontrol, by simp only [retryAll, hanswer, hcells]⟩
      | ok status =>
          obtain ⟨t, ht, hcontrol', hcells'⟩ := ih (s := u) fun k hk => by rw [hcontrol]; exact hlocks k hk
          refine ⟨t, hu.trans ht, hcontrol'.trans hcontrol, ?_⟩
          rw [hcells', hcells]
          simp only [retryAll, hanswer]

theorem request_reaches {cfg : Config} {s : Sys} (parse : String → Option ArkId) (request : RetryRequest)
    (hlocks : ∀ k, (rounds k).lock = .ok true → s.control.locks k = none) :
    ∃ t, Reach (step cfg) Free s t ∧ t.control = s.control ∧
      t.cells = (retryFailedArks parse identity request rounds s.cells).2 := by
  unfold retryFailedArks
  cases request.arks.mapM parse with
  | none => exact ⟨s, .init, rfl, rfl⟩
  | some ids => exact retryAll_reaches ids.eraseDups hlocks

theorem listing_loses {reply : RetryReply} (keys : List (Nat × ArkId)) (q : ErrorsQuery)
    (h : (retryFailedArks parse identity request rounds cells).1 = .ok reply) :
    (tableOf (retryFailedArks parse identity request rounds cells).2 keys).filter q.takes =
      (tableOf cells keys).filter fun r => q.takes r && decide ((r.ark, RetryStatus.accepted) ∉ reply.items) := by
  obtain ⟨ids, hparse⟩ : ∃ ids, request.arks.mapM parse = some ids := by
    cases hparse : request.arks.mapM parse with
    | none =>
        simp only [retryFailedArks, hparse] at h
        cases h
    | some ids => exact ⟨ids, rfl⟩
  obtain ⟨-, hcells⟩ := retryFailedArks_ok hparse h
  generalize (retryFailedArks parse identity request rounds cells).2 = cells' at hcells ⊢
  induction keys with
  | nil => rfl
  | cons e keys ih =>
      have hcons : ∀ table : ArkId → Cell, tableOf table (e :: keys) =
          ((table e.2).record.map fun record => ⟨e.1, e.2, record, (table e.2).metadata⟩).toList ++
            tableOf table keys := by
        intro table
        rw [tableOf, List.filterMap_cons]
        cases (table e.2).record <;> rfl
      rw [hcons, hcons, List.filter_append, List.filter_append, ih]
      congr 1
      rcases hcells e.2 with ⟨hmem, r, hr, -, -, -, -, -, hcell⟩ | ⟨hmem, hcell⟩
      · simp [hcell, hr, hmem, ErrorsQuery.takes, hasFailed, retriedRecord]
      · rw [hcell]
        cases (cells e.2).record <;> simp [List.filter_cons, hmem]

/-- From any reachable state a request leads to another one, in which every listing of failures has lost
the ARKs that the reply reports as accepted, and no others. -/
theorem retry_delists {cfg : Config} {s : Sys} {reply : RetryReply} (hs : Reach (step cfg) Free {} s)
    (hlocks : ∀ k, (rounds k).lock = .ok true → s.control.locks k = none)
    (h : (retryFailedArks parse identity request rounds s.cells).1 = .ok reply) :
    ∃ t, Reach (step cfg) Free {} t ∧ t.control = s.control ∧
      t.cells = (retryFailedArks parse identity request rounds s.cells).2 ∧
      ∀ keys (q : ErrorsQuery), (tableOf t.cells keys).filter q.takes =
        (tableOf s.cells keys).filter fun r => q.takes r && decide ((r.ark, RetryStatus.accepted) ∉ reply.items) := by
  obtain ⟨t, ht, hcontrol, hcells⟩ := @request_reaches _ identity rounds cfg s parse request hlocks
  refine ⟨t, hs.trans ht, hcontrol, hcells, fun keys q => ?_⟩
  rw [hcells]
  exact listing_loses keys q h

end

section Sample

attribute [local instance] asciiText

open Deployment.Sample

def marked : List Act := toChain ++ [.select 1 4 [ark], .readMetadata 1, .plan 1, .markUnassigned 1 10]

theorem checked_length : 1 ≤ "checked".length ∧ "checked".length ≤ 500 := by decide

def twice : RetryRequest :=
  ⟨["ark:1/a", "ark:/1/a"], "checked", ⟨Nat.le_succ 1, Nat.le_add_left 2 998⟩, checked_length⟩

def answered (k : ArkId) : Round := { lock := .ok (k = ark), env := { now := 11, owner := ownReads } }

theorem retry_delists_sample : ∃ s t, Reach (step config) Free {} s ∧ Reach (step config) Free {} t ∧
    (errorsSummary (tableOf s.cells [(1, ark)])).total = 1 ∧
    (tableOf t.cells [(1, ark)]).filter (codeQuery .authorityNotFound).takes = [] := by
  have hrun : ((run (step config) marked {}).map fun s => ((errorsSummary (tableOf s.cells [(1, ark)])).total,
      (s.control.locks ark).isNone, (retryFailedArks (fun _ => some ark) owner twice answered s.cells).1.toOption.map
        (·.items))) = some (1, true, some [(ark, .accepted)]) := by decide
  obtain ⟨s, hs, hrow⟩ := Option.map_eq_some_iff.mp hrun
  simp only [Prod.mk.injEq, Option.map_eq_some_iff] at hrow
  obtain ⟨htotal, hfree, reply, hreply, hitems⟩ := hrow
  have hlocks : ∀ k, (answered k).lock = .ok true → s.control.locks k = none := by
    intro k hk
    obtain rfl : k = ark := of_decide_eq_true (Except.ok.inj hk)
    exact Option.isNone_iff_eq_none.mp hfree
  have hanswer : (retryFailedArks (fun _ => some ark) owner twice answered s.cells).1 = .ok reply := by
    cases hres : (retryFailedArks (fun _ => some ark) owner twice answered s.cells).1 with
    | error x =>
        rw [hres] at hreply
        cases hreply
    | ok other =>
        rw [hres] at hreply
        exact congrArg _ (Option.some.inj hreply)
  obtain ⟨t, ht, -, -, hlisted⟩ := retry_delists (run_reach hs) hlocks hanswer
  refine ⟨s, t, run_reach hs, ht, htotal, ?_⟩
  rw [hlisted [(1, ark)], List.filter_eq_nil_iff]
  intro r hr
  have hark : r.ark = ark := by
    obtain ⟨e, he, hrow⟩ := List.mem_filterMap.mp hr
    obtain rfl := List.mem_singleton.mp he
    obtain ⟨_, -, rfl⟩ := Option.map_eq_some_iff.mp hrow
    rfl
  simp [hark, hitems]

end Sample

end DarkMinter.RetryRequests
