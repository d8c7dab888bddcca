import DarkMinter.ChainCycle
import DarkMinter.ChainPacing
import DarkMinter.Statistics
import DarkMinter.Uncertainty
import Mathlib.Algebra.Order.BigOperators.Group.List
import Mathlib.Algebra.Order.Group.Nat
import Mathlib.Algebra.GroupWithZero.Nat

namespace DarkMinter.CycleAccounting

open Text Processing Records Repository Persistence Publication ChainCycle Attempts Marks Statistics
open Uncertainty (DeferredTo)

/-- What `get_chain_pending_publish` returned, with the metadata rows as the loop over it reads them. -/
structure Page where
  pageSize : Nat
  rows : List (ArkId × ARKRecord)
  cells : ArkId → Cell
  limit : rows.length ≤ pageSize
  distinct : (rows.map (·.1)).Nodup
  live : ∀ row ∈ rows, row.2.state = .draft ∨ row.2.state = .update

def Page.items (page : Page) : List PipelineItem := page.rows.filterMap fun row => itemOf row.1 row.2 (page.cells row.1)

/-- The lock of an ARK is free, or another process holds it. Under the lock the cycle finds the rows as
others left them. -/
structure Visit where
  free : Bool
  cell : Cell
  reads : ResultEnv

structure CycleEnv where
  assigned : String → Bool
  rpcBatchSize : Nat
  rpcBatchSize_pos : 1 ≤ rpcBatchSize
  /-- What the calls of `publish_ark_operations` return, in their order. -/
  answer : Nat → Answer
  visit : ArkId → Visit

section Grouping

variable {item : PipelineItem} {items : List PipelineItem} {groups : List (String × List PipelineItem)}
  {authorityId : String}

def ofAuthority (authorityId : String) (groups : List (String × List PipelineItem)) : List PipelineItem :=
  groups.flatMap fun g => if g.1 = authorityId then g.2 else []

theorem ofAuthority_absent (h : authorityId ∉ groups.map (·.1)) : ofAuthority authorityId groups = [] := by
  rw [ofAuthority, List.flatMap_eq_nil_iff]
  intro g hg
  rw [if_neg]
  rintro rfl
  exact h (List.mem_map_of_mem hg)

theorem ofAuthority_eq {g : String × List PipelineItem} (hkeys : (groups.map (·.1)).Nodup) (hg : g ∈ groups) :
    ofAuthority g.1 groups = g.2 := by
  induction groups with
  | nil => cases hg
  | cons g' groups ih =>
      obtain ⟨hnew, hkeys⟩ := List.nodup_cons.mp hkeys
      rcases List.mem_cons.mp hg with rfl | hg
      · have hrest := ofAuthority_absent hnew
        rw [ofAuthority] at hrest
        rw [ofAuthority, List.flatMap_cons, if_pos rfl, hrest, List.append_nil]
      · have hne : g'.1 ≠ g.1 := fun heq => hnew (List.mem_map.mpr ⟨g, hg, heq.symm⟩)
        have hrest := ih hkeys hg
        rw [ofAuthority] at hrest
        rw [ofAuthority, List.flatMap_cons, if_neg hne, hrest, List.nil_append]

theorem addToGroup_keys : (addToGroup item groups).map (·.1) =
    if item.authorityId ∈ groups.map (·.1) then groups.map (·.1) else groups.map (·.1) ++ [item.authorityId] := by
  induction groups with
  | nil => rfl
  | cons g groups ih =>
      obtain ⟨key, group⟩ := g
      rw [addToGroup]
      by_cases hkey : key = item.authorityId
      · simp [hkey]
      · have hkey' : item.authorityId ≠ key := fun heq => hkey heq.symm
        rw [if_neg hkey, List.map_cons, ih]
        by_cases hmem : item.authorityId ∈ groups.map (·.1)
        · rw [if_pos hmem, List.map_cons, if_pos (List.mem_cons_of_mem _ hmem)]
        · rw [if_neg hmem, List.map_cons, if_neg]
          · rfl
          · rw [List.mem_cons, not_or]
            exact ⟨hkey', hmem⟩

theorem addToGroup_nodup (h : (groups.map (·.1)).Nodup) : ((addToGroup item groups).map (·.1)).Nodup := by
  rw [addToGroup_keys]
  split
  · exact h
  · rename_i hnew
    rw [List.nodup_append_comm]
    exact List.nodup_cons.mpr ⟨hnew, h⟩

theorem ofAuthority_addToGroup (h : (groups.map (·.1)).Nodup) : ofAuthority authorityId (addToGroup item groups) =
    ofAuthority authorityId groups ++ if item.authorityId = authorityId then [item] else [] := by
  induction groups with
  | nil => simp [addToGroup, ofAuthority]
  | cons g groups ih =>
      obtain ⟨key, group⟩ := g
      obtain ⟨hnew, hkeys⟩ := List.nodup_cons.mp h
      have hrest := ih hkeys
      rw [ofAuthority] at hrest
      rw [addToGroup]
      split
      · rename_i hkey
        subst hkey
        rw [ofAuthority, ofAuthority, List.flatMap_cons, List.flatMap_cons]
        by_cases hsame : item.authorityId = authorityId
        · subst hsame
          have hnone := ofAuthority_absent hnew
          rw [ofAuthority] at hnone
          simp [hnone]
        · simp [hsame]
      · rw [ofAuthority, List.flatMap_cons, hrest, ofAuthority, ofAuthority, List.flatMap_cons, List.append_assoc]

theorem grouped_spec (items : List PipelineItem) : ((grouped items).map (·.1)).Nodup ∧
    ∀ authorityId, ofAuthority authorityId (grouped items) = items.filter (·.authorityId = authorityId) := by
  have hfrom : ∀ (items : List PipelineItem) (groups : List (String × List PipelineItem)),
      (groups.map (·.1)).Nodup →
      ((items.foldl (fun groups item => addToGroup item groups) groups).map (·.1)).Nodup ∧
      ∀ authorityId, ofAuthority authorityId (items.foldl (fun groups item => addToGroup item groups) groups) =
        ofAuthority authorityId groups ++ items.filter (·.authorityId = authorityId) := by
    intro items
    induction items with
    | nil => exact fun groups h => ⟨h, fun _ => (List.append_nil _).symm⟩
    | cons item items ih =>
        intro groups h
        obtain ⟨hkeys, hmembers⟩ := ih (addToGroup item groups) (addToGroup_nodup h)
        refine ⟨hkeys, fun authorityId => ?_⟩
        rw [List.foldl_cons, hmembers, ofAuthority_addToGroup h, List.filter_cons, List.append_assoc]
        by_cases hsame : item.authorityId = authorityId
        · simp [hsame]
        · simp [hsame]
  obtain ⟨hkeys, hmembers⟩ := hfrom items [] List.nodup_nil
  exact ⟨hkeys, fun authorityId => hmembers authorityId⟩

theorem chunk_spec {α : Type} {size : Nat} {l chunk : List α} (hsize : 0 < size) (h : chunk ∈ chunks size l) :
    chunk ≠ [] ∧ chunk.length ≤ size ∧ chunk.Sublist l := by
  rw [chunks, List.mem_map] at h
  obtain ⟨i, hi, rfl⟩ := h
  rw [List.mem_range] at hi
  refine ⟨?_, List.length_take_le _ _, (List.take_sublist _ _).trans (List.drop_sublist _ _)⟩
  have hstart : i * size < l.length := by
    have hmul : (i + 1) * size ≤ l.length + size - 1 := (Nat.le_div_iff_mul_le hsize).mp hi
    rw [Nat.succ_mul] at hmul
    omega
  rw [ne_eq, List.take_eq_nil_iff, List.drop_eq_nil_iff]
  omega

def callsOf (tasks : List Task) : List (String × List PipelineItem) := tasks.filterMap fun
  | .submit authorityId items => some (authorityId, items)
  | _ => none

variable {assigned : String → Bool} {rpcBatchSize : Nat}

theorem callsOf_plan : callsOf (plan assigned rpcBatchSize items) =
    (grouped items).flatMap fun g => if assigned g.1 then (chunks rpcBatchSize g.2).map (Prod.mk g.1) else [] := by
  rw [callsOf, plan, List.filterMap_flatMap]
  congr 1
  funext g
  by_cases hassigned : assigned g.1 = true
  · simp only [hassigned, if_true, List.filterMap_map]
    exact congrFun List.filterMap_eq_map _
  · simp only [hassigned, Bool.false_eq_true, if_false, List.filterMap_map, List.filterMap_eq_nil_iff]
    exact fun _ _ => rfl

theorem call_spec (hsize : 0 < rpcBatchSize) {call : String × List PipelineItem}
    (h : call ∈ callsOf (plan assigned rpcBatchSize items)) : call.2 ≠ [] ∧ call.2.length ≤ rpcBatchSize ∧
      (∀ item ∈ call.2, item.authorityId = call.1) ∧ call.2.Sublist items := by
  rw [callsOf_plan, List.mem_flatMap] at h
  obtain ⟨g, hg, h⟩ := h
  split at h
  · obtain ⟨chunk, hchunk, rfl⟩ := List.mem_map.mp h
    obtain ⟨hne, hlen, hsub⟩ := chunk_spec hsize hchunk
    obtain ⟨hkeys, hmembers⟩ := grouped_spec items
    have hgroup : g.2 = items.filter (·.authorityId = g.1) := (ofAuthority_eq hkeys hg).symm.trans (hmembers g.1)
    refine ⟨hne, hlen, fun item hitem => grouped_authority items g hg item (hsub.subset hitem), ?_⟩
    exact hsub.trans (hgroup ▸ List.filter_sublist)
  · cases h

theorem calls_authority (hsize : 0 < rpcBatchSize) (authorityId : String) :
    ((callsOf (plan assigned rpcBatchSize items)).filter (·.1 = authorityId)).flatMap (·.2) =
      if assigned authorityId then items.filter (·.authorityId = authorityId) else [] := by
  have hgroup : ∀ g : String × List PipelineItem,
      ((if assigned g.1 then (chunks rpcBatchSize g.2).map (Prod.mk g.1) else []).filter
        (·.1 = authorityId)).flatMap (·.2) =
        if g.1 = authorityId then if assigned authorityId then g.2 else [] else [] := by
    intro g
    by_cases hsame : g.1 = authorityId
    · by_cases hassigned : assigned authorityId = true
      · simp only [hsame, hassigned, if_true, List.filter_map, List.flatMap_map, Function.comp_def, decide_true,
          List.filter_true, List.flatMap_id']
        exact chunks_flatten hsize g.2
      · simp [hsame, hassigned]
    · split <;> simp [hsame, List.filter_map, Function.comp_def]
  rw [callsOf_plan, List.filter_flatMap, List.flatMap_assoc]
  simp only [hgroup]
  by_cases hassigned : assigned authorityId = true
  · simp only [hassigned, if_true]
    exact (grouped_spec items).2 authorityId
  · simp [hassigned]

theorem calls_perm (hsize : 0 < rpcBatchSize) : ((callsOf (plan assigned rpcBatchSize items)).flatMap (·.2)).Perm
    (items.filter fun item => assigned item.authorityId) := by
  have hgroup : ∀ g ∈ grouped items, (if assigned g.1 then (chunks rpcBatchSize g.2).map (Prod.mk g.1) else []).flatMap
      (·.2) = g.2.filter fun item => assigned item.authorityId := by
    intro g hg
    have hsame := grouped_authority items g hg
    split
    · rename_i hassigned
      rw [List.filter_eq_self.mpr fun item hitem => by rw [hsame item hitem, hassigned], List.flatMap_map]
      exact List.flatMap_id'.trans (chunks_flatten hsize g.2)
    · rename_i hrefused
      exact (List.filter_eq_nil_iff.mpr fun item hitem => by rwa [hsame item hitem]).symm
  refine List.Perm.trans (.of_eq ?_) ((grouped_perm items).filter _)
  rw [callsOf_plan, List.flatMap_assoc, List.filter_flatMap]
  exact List.flatMap_congr hgroup

end Grouping

def Page.select (now : Time) (selected cells : ArkId → Cell) (arks : List ArkId) (pageSize : Nat)
    (hpage : isPage now selected arks = true) (hlimit : arks.length ≤ pageSize) : Page where
  pageSize
  rows := selectedRows selected arks
  cells
  limit := (List.length_filterMap_le _ _).trans hlimit
  distinct := by
    have hnodup : arks.Nodup := by
      simp only [isPage, Bool.and_eq_true, decide_eq_true_eq] at hpage
      exact hpage.1
    exact (selectedRows_sublist selected arks).nodup hnodup
  live _ hrow := (mem_selectedRows hpage hrow).2.1

section Cycle

variable [PyLower] {catalogue : ErrorCatalogue} {env : CycleEnv} {page : Page}

def applyResult (catalogue : ErrorCatalogue) (item : PipelineItem) (result : ARKPublishResult) (visit : Visit) :
    Except Exc Handled :=
  if visit.free then handlePipelineResult catalogue item result visit.reads visit.cell
  else .ok { value := false, cell := visit.cell }

structure Done (catalogue : ErrorCatalogue) (env : CycleEnv) where
  item : PipelineItem
  result : ARKPublishResult
  handled : Handled
  applied : applyResult catalogue item result (env.visit item.ark) = .ok handled

/-- The calls with their items, the items processed so far, and the rows that were found and left
under the locks of the items of authorities that are not assigned. -/
structure Progress (catalogue : ErrorCatalogue) (env : CycleEnv) where
  calls : List (String × List PipelineItem) := []
  done : List (Done catalogue env) := []
  refused : List (Cell × Cell) := []
  stats : Stats := {}

def count (stats : Stats) (handled : Handled) : Stats where
  processed := stats.processed + 1
  succeeded := stats.succeeded + if handled.value then 1 else 0
  failed := stats.failed + if handled.value then 0 else 1
  deferred := stats.deferred + handled.stats.deferred
  permanentFailures := stats.permanentFailures + handled.stats.permanentFailures

def Progress.settle (p : Progress catalogue env) (item : PipelineItem) (result : ARKPublishResult) :
    Except Exc (Progress catalogue env) :=
  match h : applyResult catalogue item result (env.visit item.ark) with
  | .ok handled => .ok { p with done := p.done ++ [⟨item, result, handled, h⟩], stats := count p.stats handled }
  | .error e => .error e

def Progress.refuse (p : Progress catalogue env) (item : PipelineItem) : Except Exc (Progress catalogue env) :=
  let visit := env.visit item.ark
  if visit.free then
    (markUnassigned catalogue item.ark item.authorityId visit.reads.now visit.cell).map fun cell =>
      { p with refused := p.refused ++ [(visit.cell, cell)] }
  else .ok p

def runTask (p : Progress catalogue env) : Task → Except Exc (Progress catalogue env)
  | .fail item => p.refuse item
  | .submit authorityId items =>
      let answer := env.answer p.calls.length
      items.foldlM (fun p item => p.settle item (resultFor answer item))
        { p with calls := p.calls ++ [(authorityId, items)] }
  | .apply item result => p.settle item result

def runPublishCycle (catalogue : ErrorCatalogue) (env : CycleEnv) (page : Page) :
    Except Exc (Progress catalogue env) :=
  (plan env.assigned env.rpcBatchSize page.items).foldlM runTask {}

def becamePublished (before after : Cell) : Bool :=
  !before.record.any (·.state = .published) && after.record.any (·.state = .published)

def Progress.visits (p : Progress catalogue env) : List (Cell × Cell) :=
  p.done.map (fun d => ((env.visit d.item.ark).cell, d.handled.cell)) ++ p.refused

/-- The item was put off since the chain or the check of its identity was not available. -/
def Done.Deferred (d : Done catalogue env) : Prop :=
  let visit := env.visit d.item.ark
  visit.free = true ∧ isCurrent d.item visit.cell = true ∧
    ∃ r, visit.cell.record = some r ∧ DeferredTo visit.reads.now r visit.cell d.handled.cell

def Progress.outcome (p : Progress catalogue env) : ChainPacing.Outcome :=
  ⟨p.stats.processed, p.stats.failed, p.stats.deferred⟩

theorem settle_ok {p q : Progress catalogue env} {item : PipelineItem} {result : ARKPublishResult}
    (h : p.settle item result = .ok q) : ∃ d : Done catalogue env, d.item = item ∧
      q = { p with done := p.done ++ [d], stats := count p.stats d.handled } := by
  unfold Progress.settle at h
  split at h
  · rename_i handled happlied
    exact ⟨⟨item, result, handled, happlied⟩, rfl, (Except.ok.inj h).symm⟩
  · cases h

theorem settle_all {p q : Progress catalogue env} {answer : Answer} {items : List PipelineItem}
    (h : items.foldlM (fun p item => p.settle item (resultFor answer item)) p = .ok q) :
    ∃ ds : List (Done catalogue env), ds.map (·.item) = items ∧
      q = { p with done := p.done ++ ds, stats := ds.foldl (fun stats d => count stats d.handled) p.stats } := by
  induction items generalizing p with
  | nil =>
      obtain rfl : p = q := Except.ok.inj h
      exact ⟨[], rfl, by simp⟩
  | cons item items ih =>
      rw [List.foldlM_cons] at h
      cases hone : p.settle item (resultFor answer item) with
      | error e =>
          rw [hone] at h
          cases h
      | ok mid =>
          rw [hone] at h
          obtain ⟨d, hitem, rfl⟩ := settle_ok hone
          obtain ⟨ds, hitems, rfl⟩ := ih h
          exact ⟨d :: ds, by rw [List.map_cons, hitem, hitems], by simp⟩

omit [PyLower] in
theorem noted_unpublished {before after : Cell} (h : Noted before after) : becamePublished before after = false := by
  obtain ⟨r, r', hr, hr', hstate, -⟩ := h.keeps
  simp [becamePublished, hr, hr', hstate]

theorem refuse_ok {p q : Progress catalogue env} {item : PipelineItem} (h : p.refuse item = .ok q) :
    ∃ rs : List (Cell × Cell), (∀ w ∈ rs, becamePublished w.1 w.2 = false) ∧
      q = { p with refused := p.refused ++ rs } := by
  unfold Progress.refuse at h
  simp only at h
  split at h
  · cases hmark : markUnassigned catalogue item.ark item.authorityId (env.visit item.ark).reads.now
        (env.visit item.ark).cell with
    | error e =>
        rw [hmark] at h
        cases h
    | ok cell =>
        rw [hmark] at h
        refine ⟨[((env.visit item.ark).cell, cell)], ?_, (Except.ok.inj h).symm⟩
        rw [List.forall_mem_singleton]
        unfold markUnassigned at hmark
        split at hmark
        · split at hmark
          · exact noted_unpublished (markProcessingFailed_noted hmark)
          · simp [becamePublished, Except.ok.inj hmark]
        · simp [becamePublished, Except.ok.inj hmark]
  · exact ⟨[], by simp, by simp [Except.ok.inj h]⟩

theorem run_ok {p q : Progress catalogue env} {tasks : List Task}
    (happly : ∀ item result, Task.apply item result ∉ tasks)
    (h : tasks.foldlM runTask p = .ok q) : ∃ (ds : List (Done catalogue env)) (rs : List (Cell × Cell)),
      ds.map (·.item) = (callsOf tasks).flatMap (·.2) ∧ (∀ w ∈ rs, becamePublished w.1 w.2 = false) ∧
      q = { calls := p.calls ++ callsOf tasks, done := p.done ++ ds, refused := p.refused ++ rs,
            stats := ds.foldl (fun stats d => count stats d.handled) p.stats } := by
  induction tasks generalizing p with
  | nil =>
      obtain rfl : p = q := Except.ok.inj h
      exact ⟨[], [], rfl, by simp, by simp [callsOf]⟩
  | cons task tasks ih =>
      rw [List.foldlM_cons] at h
      cases hone : runTask p task with
      | error e =>
          rw [hone] at h
          cases h
      | ok mid =>
          rw [hone] at h
          obtain ⟨ds, rs, hitems, hrs, rfl⟩ :=
            ih (fun item result hmem => happly item result (List.mem_cons_of_mem _ hmem)) h
          cases task with
          | fail item =>
              obtain ⟨rs', hrs', rfl⟩ := refuse_ok hone
              refine ⟨ds, rs' ++ rs, hitems, ?_, by simp [callsOf]⟩
              rw [List.forall_mem_append]
              exact ⟨hrs', hrs⟩
          | submit authorityId items =>
              obtain ⟨ds', hitems', rfl⟩ := settle_all hone
              refine ⟨ds' ++ ds, rs, ?_, hrs, by simp [callsOf]⟩
              rw [List.map_append, hitems', hitems]
              simp [callsOf]
          | apply item result => exact absurd List.mem_cons_self (happly item result)

theorem count_all (ds : List (Done catalogue env)) (stats : Stats) :
    let total := ds.foldl (fun stats d => count stats d.handled) stats
    total.processed = stats.processed + ds.length ∧
      total.succeeded = stats.succeeded + ds.countP (·.handled.value) ∧
      total.failed = stats.failed + ds.countP (!·.handled.value) ∧
      total.deferred = stats.deferred + (ds.map (·.handled.stats.deferred)).sum := by
  induction ds generalizing stats with
  | nil => simp
  | cons d ds ih =>
      obtain ⟨hprocessed, hsucceeded, hfailed, hdeferred⟩ := ih (count stats d.handled)
      have hvalue : (if d.handled.value then 0 else 1) = if (!d.handled.value) = true then 1 else 0 := by
        cases d.handled.value <;> rfl
      refine ⟨hprocessed.trans ?_, hsucceeded.trans ?_, hfailed.trans ?_, hdeferred.trans ?_⟩
      · simp only [count, List.length_cons]
        omega
      · simp only [count, List.countP_cons]
        omega
      · simp only [count, List.countP_cons, ← hvalue]
        omega
      · simp only [count, List.map_cons, List.sum_cons]
        omega

theorem Done.settled (d : Done catalogue env) :
    (d.handled = { value := false, cell := (env.visit d.item.ark).cell } ∧
      ¬((env.visit d.item.ark).free = true ∧ isCurrent d.item (env.visit d.item.ark).cell = true)) ∨
    ((env.visit d.item.ark).free = true ∧ isCurrent d.item (env.visit d.item.ark).cell = true ∧
      ∃ r, (env.visit d.item.ark).cell.record = some r ∧
        Settled catalogue (env.visit d.item.ark).reads.now r (env.visit d.item.ark).cell d.handled) := by
  have happlied := d.applied
  rw [applyResult] at happlied
  split at happlied
  · rename_i hfree
    rcases handlePipelineResult_settled happlied with ⟨hobsolete, hhandled⟩ | ⟨hcurrent, hsettled⟩
    · refine Or.inl ⟨hhandled, fun h => ?_⟩
      rw [hobsolete] at h
      cases h.2
    · exact Or.inr ⟨hfree, hcurrent, hsettled⟩
  · rename_i hbusy
    exact Or.inl ⟨(Except.ok.inj happlied).symm, fun h => hbusy h.1⟩

omit [PyLower] in
theorem settled_spec {now : Time} {r : ARKRecord} {c : Cell} {handled : Handled} (hr : c.record = some r)
    (hlive : r.state = .draft ∨ r.state = .update) (h : Settled catalogue now r c handled) :
    handled.value = becamePublished c handled.cell ∧ handled.stats.deferred ≤ 1 ∧
      (handled.stats.deferred = 1 ↔ DeferredTo now r c handled.cell) ∧
      (handled.stats.deferred = 1 → handled.value = false) := by
  have hnot : r.state ≠ .published := by
    rcases hlive with h | h <;> simp [h]
  have hrecord : ∀ {r' : ARKRecord}, DeferredTo now r c { c with record := some r' } →
      r'.state = r.state ∧ r'.processingAttemptCount = r.processingAttemptCount := by
    rintro r' ⟨message, heq⟩
    obtain rfl := Option.some.inj (congrArg Cell.record heq)
    exact ⟨rfl, rfl⟩
  cases h with
  | published =>
      refine ⟨?_, Nat.zero_le _, ?_, fun h => absurd h Nat.zero_ne_one⟩
      · simp [becamePublished, hr, hnot, publishedRecord]
      · exact iff_of_false Nat.zero_ne_one fun h => hnot (hrecord h).1.symm
  | recorded h =>
      cases h with
      | failed hcode =>
          refine ⟨?_, Nat.zero_le _, ?_, fun _ => rfl⟩
          · simp [becamePublished, hr, hnot, failedRecord]
          · exact iff_of_false Nat.zero_ne_one fun h => Nat.succ_ne_self _ (hrecord h).2
      | deferred =>
          refine ⟨?_, le_rfl, iff_of_true rfl ⟨_, rfl⟩, fun _ => rfl⟩
          simp [becamePublished, hr, hnot, deferredRecord]

theorem Done.spec (d : Done catalogue env) (hlive : d.item.state = .draft ∨ d.item.state = .update) :
    d.handled.value = becamePublished (env.visit d.item.ark).cell d.handled.cell ∧ d.handled.stats.deferred ≤ 1 ∧
      (d.handled.stats.deferred = 1 ↔ d.Deferred) ∧ (d.handled.stats.deferred = 1 → d.handled.value = false) := by
  rcases d.settled with ⟨hhandled, hidle⟩ | ⟨hfree, hcurrent, r, hr, hsettled⟩
  · rw [hhandled]
    refine ⟨by simp [becamePublished], Nat.zero_le _, ?_, fun _ => rfl⟩
    exact iff_of_false Nat.zero_ne_one fun h => hidle ⟨h.1, h.2.1⟩
  · have hstate : r.state = d.item.state := by
      obtain ⟨r', -, hr', -, -, hstate, -⟩ := isCurrent_iff.mp hcurrent
      obtain rfl := Option.some.inj (hr.symm.trans hr')
      exact hstate
    obtain ⟨hvalue, hle, hdeferred, hdeclined⟩ := settled_spec hr (hstate ▸ hlive) hsettled
    refine ⟨hvalue, hle, hdeferred.trans ?_, hdeclined⟩
    constructor
    · exact fun h => ⟨hfree, hcurrent, r, hr, h⟩
    · rintro ⟨-, -, r', hr', h⟩
      obtain rfl := Option.some.inj (hr.symm.trans hr')
      exact h

/-- No attempt counter is at the end of its column, where recording a failure raises. -/
def HasRoom (env : CycleEnv) : Prop :=
  ∀ k r, (env.visit k).cell.record = some r → r.processingAttemptCount < smallintMax

theorem settle_returns (h : HasRoom env) (p : Progress catalogue env) (item : PipelineItem)
    (result : ARKPublishResult) : ∃ q, p.settle item result = .ok q := by
  have happlied : ∃ handled, applyResult catalogue item result (env.visit item.ark) = .ok handled := by
    rw [applyResult]
    split
    · rw [handlePipelineResult]
      split
      · rename_i hcurrent
        obtain ⟨r, -, hr, -⟩ := isCurrent_iff.mp hcurrent
        obtain ⟨handled, hhandled, -⟩ :=
          settleResult_returns catalogue item fun _ => ⟨r, hr, fun _ => h item.ark r hr⟩
        exact ⟨handled, hhandled⟩
      · exact ⟨_, rfl⟩
    · exact ⟨_, rfl⟩
  obtain ⟨handled, hhandled⟩ := happlied
  unfold Progress.settle
  split
  · exact ⟨_, rfl⟩
  · rename_i hraised
    cases hhandled.symm.trans hraised

omit [PyLower] in
theorem foldlM_returns {α β : Type} {f : β → α → Except Exc β} (h : ∀ b a, ∃ b', f b a = .ok b') (xs : List α) (b : β) :
    ∃ b', xs.foldlM f b = .ok b' := by
  induction xs generalizing b with
  | nil => exact ⟨b, rfl⟩
  | cons x xs ih =>
      obtain ⟨mid, hmid⟩ := h b x
      obtain ⟨b', hb'⟩ := ih mid
      exact ⟨b', by rw [List.foldlM_cons, hmid]; exact hb'⟩

theorem run_returns (h : HasRoom env) (page : Page) : ∃ p, runPublishCycle catalogue env page = .ok p := by
  refine foldlM_returns (fun p task => ?_) _ _
  cases task with
  | fail item =>
      rw [runTask, Progress.refuse]
      split
      · have hroom : ∀ r, (env.visit item.ark).cell.record = some r → Room r (r.authorityId = item.authorityId) :=
          fun r hr _ => h item.ark r hr
        obtain ⟨cell, hcell⟩ : ∃ cell, markUnassigned catalogue item.ark item.authorityId
          (env.visit item.ark).reads.now (env.visit item.ark).cell = .ok cell := markUnassigned_returns hroom
        exact ⟨_, by rw [hcell]; rfl⟩
      · exact ⟨p, rfl⟩
  | submit authorityId items => exact foldlM_returns (fun p item => settle_returns h p item _) items _
  | apply item result => exact settle_returns h p item result

omit [PyLower] in
theorem items_live (page : Page) : ∀ item ∈ page.items, item.state = .draft ∨ item.state = .update := by
  intro item hitem
  obtain ⟨row, hrow, hitem⟩ := List.mem_filterMap.mp hitem
  obtain ⟨m, -, -, hshape⟩ := itemOf_spec hitem
  rw [hshape]
  exact page.live row hrow

omit [PyLower] in
theorem items_nodup (page : Page) : page.items.Nodup := by
  refine List.Pairwise.filterMap _ ?_ (List.pairwise_map.mp page.distinct)
  intro row row' hne item hitem item' hitem' heq
  exact hne ((itemOf_ark hitem).symm.trans (heq ▸ itemOf_ark hitem'))

structure Accounts (env : CycleEnv) (page : Page) (p : Progress catalogue env) : Prop where
  /-- The calls for an authority hold its items, each once and in the order of the selection. -/
  submitted : ∀ authorityId, (p.calls.filter (·.1 = authorityId)).flatMap (·.2) =
    if env.assigned authorityId then page.items.filter (·.authorityId = authorityId) else []
  once : (p.calls.flatMap (·.2)).Nodup
  call : ∀ call ∈ p.calls, call.2 ≠ [] ∧ call.2.length ≤ env.rpcBatchSize ∧
    (∀ item ∈ call.2, item.authorityId = call.1) ∧ call.2.Sublist page.items
  processed : p.stats.processed = (page.items.filter fun item => env.assigned item.authorityId).length
  balanced : p.stats.processed = p.stats.succeeded + p.stats.failed
  succeeded : p.stats.succeeded = p.visits.countP fun visit => becamePublished visit.1 visit.2
  done : (p.done.map (·.item)).Perm (page.items.filter fun item => env.assigned item.authorityId)
  saturated : ChainPacing.saturated page.pageSize p.outcome = true ↔
    p.done.length = page.pageSize ∧ ∀ d ∈ p.done, d.Deferred

omit [PyLower] in
theorem ones_of_sum {xs : List Nat} (hle : ∀ x ∈ xs, x ≤ 1) (h : xs.length ≤ xs.sum) : ∀ x ∈ xs, x = 1 := by
  induction xs with
  | nil => simp
  | cons x xs ih =>
      obtain ⟨hx, hxs⟩ := List.forall_mem_cons.mp hle
      have hrest : xs.sum ≤ xs.length := by
        simpa using List.sum_le_card_nsmul xs 1 hxs
      rw [List.length_cons, List.sum_cons] at h
      exact List.forall_mem_cons.mpr ⟨by omega, ih hxs (by omega)⟩

theorem saturated_iff {size : Nat} {ds : List (Done catalogue env)} (hlen : ds.length ≤ size)
    (hlive : ∀ d ∈ ds, d.item.state = .draft ∨ d.item.state = .update) :
    (size ≤ ds.length ∧ size ≤ ds.countP (!·.handled.value) ∧ size ≤ (ds.map (·.handled.stats.deferred)).sum) ↔
      ds.length = size ∧ ∀ d ∈ ds, d.Deferred := by
  constructor
  · rintro ⟨hfull, -, hdeferred⟩
    have hone : ∀ x ∈ ds.map (·.handled.stats.deferred), x = 1 := by
      refine ones_of_sum ?_ (by rw [List.length_map]; omega)
      rw [List.forall_mem_map]
      exact fun d hd => (d.spec (hlive d hd)).2.1
    rw [List.forall_mem_map] at hone
    exact ⟨by omega, fun d hd => (d.spec (hlive d hd)).2.2.1.mp (hone d hd)⟩
  · rintro ⟨rfl, hall⟩
    have hone : ∀ d ∈ ds, d.handled.stats.deferred = 1 := fun d hd => (d.spec (hlive d hd)).2.2.1.mpr (hall d hd)
    have hdeclined : ∀ d ∈ ds, (!d.handled.value) = true := by
      intro d hd
      rw [(d.spec (hlive d hd)).2.2.2 (hone d hd)]
      rfl
    have hsum : (ds.map (·.handled.stats.deferred)).sum = ds.length := by
      rw [List.map_congr_left hone]
      simp
    exact ⟨le_rfl, (List.countP_eq_length.mpr hdeclined).ge, hsum.ge⟩

theorem cycle_ok {p : Progress catalogue env} (h : runPublishCycle catalogue env page = .ok p) :
    p.calls = callsOf (plan env.assigned env.rpcBatchSize page.items) ∧
      p.done.map (·.item) = p.calls.flatMap (·.2) ∧ (∀ w ∈ p.refused, becamePublished w.1 w.2 = false) ∧
      p.stats = p.done.foldl (fun stats d => count stats d.handled) {} := by
  obtain ⟨ds, rs, hitems, hrefused, rfl⟩ := run_ok (fun _ _ => apply_notMem_plan) h
  exact ⟨rfl, hitems, hrefused, rfl⟩

/-- A cycle that no database error ends submits every item of an assigned authority once, and accounts
for each of them once. -/
theorem cycle_accounts (catalogue : ErrorCatalogue) (env : CycleEnv) (page : Page) :
    (HasRoom env → ∃ p, runPublishCycle catalogue env page = .ok p) ∧
      ∀ p, runPublishCycle catalogue env page = .ok p → Accounts env page p := by
  refine ⟨fun h => run_returns h page, fun p h => ?_⟩
  obtain ⟨hcalls, hitems, hrefused, hstats⟩ := cycle_ok h
  have hperm : (p.calls.flatMap (·.2)).Perm (page.items.filter fun item => env.assigned item.authorityId) :=
    hcalls ▸ calls_perm env.rpcBatchSize_pos
  have hdone : (p.done.map (·.item)).Perm (page.items.filter fun item => env.assigned item.authorityId) :=
    hitems ▸ hperm
  have hcount : p.done.length = (page.items.filter fun item => env.assigned item.authorityId).length := by
    rw [← hdone.length_eq, List.length_map]
  have hlen : p.done.length ≤ page.pageSize := by
    rw [hcount]
    exact (List.length_filter_le _ _).trans ((List.length_filterMap_le _ _).trans page.limit)
  have hlive : ∀ d ∈ p.done, d.item.state = .draft ∨ d.item.state = .update := by
    intro d hd
    have hmem := hdone.subset (List.mem_map_of_mem hd)
    exact items_live page d.item (List.mem_of_mem_filter hmem)
  obtain ⟨hprocessed, hsucceeded, hfailed, hdeferred⟩ := count_all p.done {}
  rw [← hstats] at hprocessed hsucceeded hfailed hdeferred
  simp only [Nat.zero_add] at hprocessed hsucceeded hfailed hdeferred
  constructor
  · exact hcalls ▸ calls_authority env.rpcBatchSize_pos
  · exact hperm.nodup_iff.mpr ((items_nodup page).filter _)
  · exact fun call hcall => call_spec env.rpcBatchSize_pos (hcalls ▸ hcall)
  · exact hprocessed.trans hcount
  · rw [hprocessed, hsucceeded, hfailed]
    simpa using p.done.length_eq_countP_add_countP fun d => d.handled.value
  · have hnone : p.refused.countP (fun visit => becamePublished visit.1 visit.2) = 0 := by
      rw [List.countP_eq_zero]
      intro visit hvisit
      rw [hrefused visit hvisit]
      exact Bool.false_ne_true
    rw [hsucceeded, Progress.visits, List.countP_append, hnone, List.countP_map]
    refine List.countP_congr fun d hd => ?_
    rw [(d.spec (hlive d hd)).1]
    rfl
  · exact hdone
  · rw [← saturated_iff hlen hlive, ← hprocessed, ← hfailed, ← hdeferred]
    simp [ChainPacing.saturated, Progress.outcome, and_assoc]

end Cycle

section Sample

attribute [local instance] asciiText

open Uncertainty (record cellAfter unreadable)

def threeArks : List ArkId := [⟨"12345", "a"⟩, ⟨"12345", "b"⟩, ⟨"12345", "c"⟩]

def recordOf (k : ArkId) : ARKRecord := { record 0 with authorityId := if k.name = "b" then "B" else "A" }

def cellOf (k : ArkId) : Cell := { cellAfter 0 with record := some (recordOf k) }

def threeRows : Page where
  pageSize := 3
  rows := threeArks.map fun k => (k, recordOf k)
  cells := cellOf
  limit := by decide
  distinct := by decide
  live := by decide

def outage : CycleEnv where
  assigned _ := true
  rpcBatchSize := 1
  rpcBatchSize_pos := Nat.one_pos
  answer n := if n = 1 then .ok [⟨⟨"12345", "c"⟩, "confirmed", none⟩] else .error ⟨.timeout, "timed out"⟩
  visit k := ⟨true, cellOf k, unreadable true⟩

theorem cycle_accounts_outage : ∃ p, runPublishCycle seededCatalogue outage threeRows = .ok p ∧
    p.calls.map (·.1) = ["A", "A", "B"] ∧ p.stats.succeeded = 1 ∧ p.stats.processed = 3 ∧
      p.stats.processed = p.stats.succeeded + p.stats.failed := by
  obtain ⟨hreturns, haccounts⟩ := cycle_accounts seededCatalogue outage threeRows
  have hroom : HasRoom outage := by
    intro k r hr
    obtain rfl : recordOf k = r := Option.some.inj hr
    exact show 0 < smallintMax by decide
  obtain ⟨p, hp⟩ := hreturns hroom
  have hrun : ((runPublishCycle seededCatalogue outage threeRows).toOption.map fun p =>
      (p.calls.map (·.1), p.stats.succeeded)) = some (["A", "A", "B"], 1) := by decide +kernel
  rw [hp] at hrun
  obtain ⟨hcalls, hsucceeded⟩ := Prod.mk.inj (Option.some.inj hrun)
  exact ⟨p, hp, hcalls, hsucceeded, (haccounts p hp).processed, (haccounts p hp).balanced⟩

end Sample

end DarkMinter.CycleAccounting
