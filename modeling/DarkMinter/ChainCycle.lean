import DarkMinter.Publication

namespace DarkMinter.ChainCycle

open Processing Records Repository Publication

inductive Task
  | fail (item : PipelineItem)
  | submit (authorityId : String) (items : List PipelineItem)
  | apply (item : PipelineItem) (result : ARKPublishResult)

/-- Where one process stands in `ChainPublisherWorker.run_publish_cycle`. -/
inductive Phase
  | idle
  | reading (rows : List (ArkId × ARKRecord)) (items : List PipelineItem)
  | working (tasks : List Task)
  | holding (item : PipelineItem) (result : ARKPublishResult) (checked : Bool) (tasks : List Task)

/-- A page that `get_chain_pending_publish` can return. -/
def isPage (now : Time) (cells : ArkId → Cell) (page : List ArkId) : Bool :=
  decide page.Nodup && page.all fun k => chainPendingPublish now (cells k)

def selectedRows (cells : ArkId → Cell) (page : List ArkId) : List (ArkId × ARKRecord) :=
  page.filterMap fun k => (cells k).record.map fun r => (k, r)

/-- The item of a selected row, with the metadata row as it is when the loop
gets to it. -/
def itemOf (k : ArkId) (r : ARKRecord) (c : Cell) : Option PipelineItem :=
  match c.metadata with
  | some m => match m.level1Cid, m.originalCid with
    | some cid, some _ =>
        some { ark := k, authorityId := r.authorityId, state := r.state, target := r.target, cid }
    | _, _ => none
  | none => none

def addToGroup (item : PipelineItem) :
    List (String × List PipelineItem) → List (String × List PipelineItem)
  | [] => [(item.authorityId, [item])]
  | (authorityId, group) :: groups =>
      if authorityId = item.authorityId then (authorityId, group ++ [item]) :: groups
      else (authorityId, group) :: addToGroup item groups

def grouped (items : List PipelineItem) : List (String × List PipelineItem) :=
  items.foldl (fun groups item => addToGroup item groups) []

def chunks {α : Type} (size : Nat) (l : List α) : List (List α) :=
  (List.range ((l.length + size - 1) / size)).map fun i => (l.drop (i * size)).take size

def plan (assigned : String → Bool) (rpcBatchSize : Nat) (items : List PipelineItem) : List Task :=
  (grouped items).flatMap fun (authorityId, group) =>
    if assigned authorityId then (chunks rpcBatchSize group).map (Task.submit authorityId)
    else group.map Task.fail

abbrev Answer := Except Exc (List ARKPublishResult)

/-- The result that the cycle applies to an item. Of two results under one
reference the dict keeps the last. -/
def resultFor (answer : Answer) (item : PipelineItem) : ARKPublishResult :=
  match answer with
  | .error e => { ref := item.ark, status := "failed", error := some e.text }
  | .ok results => (results.reverse.find? (·.ref = item.ark)).getD
      { ref := item.ark, status := "ambiguous",
        error := some "Missing pipeline result from core-lib" }

def Task.arks : Task → List ArkId
  | .fail item => [item.ark]
  | .submit _ items => items.map (·.ark)
  | .apply item _ => [item.ark]

def Phase.tasks : Phase → List Task
  | .working tasks => tasks
  | .holding item result _ tasks => .apply item result :: tasks
  | _ => []

def Phase.arks : Phase → List ArkId
  | .reading rows items => rows.map (·.1) ++ items.map (·.ark)
  | phase => phase.tasks.flatMap Task.arks

theorem mem_selectedRows {cells : ArkId → Cell} {now : Time} {page : List ArkId} {row : ArkId × ARKRecord}
    (hpage : isPage now cells page = true) (h : row ∈ selectedRows cells page) :
    (cells row.1).record = some row.2 ∧ (row.2.state = .draft ∨ row.2.state = .update) ∧
      row.2.processingStage = .chain ∧ ∃ m, (cells row.1).metadata = some m := by
  simp only [selectedRows, List.mem_filterMap, Option.map_eq_some_iff] at h
  obtain ⟨k, hk, r, hr, rfl⟩ := h
  simp only [isPage, Bool.and_eq_true, List.all_eq_true] at hpage
  have hpending := hpage.2 k hk
  unfold chainPendingPublish at hpending
  cases hm : (cells k).metadata with
  | none => simp [hr, hm] at hpending
  | some m =>
      simp only [hr, hm, List.mem_cons, List.not_mem_nil, or_false, Bool.decide_or, Bool.and_eq_true,
        Bool.or_eq_true, decide_eq_true_eq] at hpending
      obtain ⟨⟨⟨⟨hstate, hstage⟩, -⟩, -⟩, -⟩ := hpending
      exact ⟨hr, hstate, hstage, m, rfl⟩

theorem selectedRows_sublist (cells : ArkId → Cell) (page : List ArkId) :
    ((selectedRows cells page).map (·.1)).Sublist page := by
  induction page with
  | nil => simp [selectedRows]
  | cons k page ih =>
      unfold selectedRows at ih ⊢
      cases hr : (cells k).record with
      | none =>
          simp only [List.filterMap_cons, hr, Option.map_none]
          exact ih.cons k
      | some r =>
          simp only [List.filterMap_cons, hr, Option.map_some, List.map_cons]
          exact ih.cons_cons k

theorem itemOf_spec {k : ArkId} {r : ARKRecord} {c : Cell} {item : PipelineItem} (h : itemOf k r c = some item) :
    ∃ m, c.metadata = some m ∧ m.level1Cid = some item.cid ∧
      item = ⟨k, r.authorityId, r.state, r.target, item.cid⟩ := by
  unfold itemOf at h
  split at h
  · rename_i m hm
    split at h
    · rename_i cid _ hcid _
      obtain rfl := Option.some.inj h
      exact ⟨m, hm, hcid, rfl⟩
    · cases h
  · cases h

theorem itemOf_ark {k : ArkId} {r : ARKRecord} {c : Cell} {item : PipelineItem} (h : itemOf k r c = some item) :
    item.ark = k := by
  obtain ⟨-, -, -, hitem⟩ := itemOf_spec h
  rw [hitem]

theorem addToGroup_perm (item : PipelineItem) (groups : List (String × List PipelineItem)) :
    ((addToGroup item groups).flatMap (·.2)).Perm (item :: groups.flatMap (·.2)) := by
  induction groups with
  | nil => simp [addToGroup]
  | cons g groups ih =>
      obtain ⟨authorityId, group⟩ := g
      unfold addToGroup
      split
      · simp
      · simp only [List.flatMap_cons]
        exact (ih.append_left _).trans List.perm_middle

theorem grouped_perm (items : List PipelineItem) : ((grouped items).flatMap (·.2)).Perm items := by
  have h : ∀ (items : List PipelineItem) (groups : List (String × List PipelineItem)),
      ((items.foldl (fun groups item => addToGroup item groups) groups).flatMap (·.2)).Perm
        (groups.flatMap (·.2) ++ items) := by
    intro items
    induction items with
    | nil => simp
    | cons item items ih =>
        intro groups
        refine (ih _).trans ?_
        exact ((addToGroup_perm item groups).append_right items).trans List.perm_middle.symm
  simpa [grouped] using h items []

theorem chunks_flatten {α : Type} {size : Nat} (hsize : 0 < size) (l : List α) :
    (chunks size l).flatten = l := by
  have h : ∀ n, ((List.range n).map fun i => (l.drop (i * size)).take size).flatten =
      l.take (n * size) := by
    intro n
    induction n with
    | zero => simp
    | succ n ih =>
        rw [List.range_succ, List.map_append, List.flatten_append, ih, Nat.succ_mul, List.take_add]
        simp
  have hlen : l.length ≤ (l.length + size - 1) / size * size := by
    have h1 := Nat.div_add_mod (l.length + size - 1) size
    have h2 := Nat.mod_lt (l.length + size - 1) hsize
    rw [Nat.mul_comm] at h1
    omega
  rw [chunks, h, List.take_of_length_le hlen]

theorem chunks_arks {size : Nat} (hsize : 0 < size) (authorityId : String)
    (group : List PipelineItem) :
    ((chunks size group).map (Task.submit authorityId)).flatMap Task.arks = group.map (·.ark) := by
  rw [List.flatMap_map]
  conv_rhs => rw [← chunks_flatten hsize group]
  simp [List.flatMap, Task.arks, List.map_flatten]

theorem plan_arks {assigned : String → Bool} {rpcBatchSize : Nat} (hsize : 0 < rpcBatchSize)
    (items : List PipelineItem) :
    ((plan assigned rpcBatchSize items).flatMap Task.arks).Perm (items.map (·.ark)) := by
  have h : (plan assigned rpcBatchSize items).flatMap Task.arks =
      ((grouped items).flatMap (·.2)).map (·.ark) := by
    simp only [plan, List.flatMap_assoc, List.map_flatMap]
    congr 1
    funext g
    obtain ⟨authorityId, group⟩ := g
    split
    · exact chunks_arks hsize authorityId group
    · simp only [List.flatMap_map, Task.arks]
      exact List.map_eq_flatMap.symm
  rw [h]
  exact (grouped_perm items).map _

theorem addToGroup_authority {item : PipelineItem} {groups : List (String × List PipelineItem)}
    (h : ∀ g ∈ groups, ∀ i ∈ g.2, i.authorityId = g.1) :
    ∀ g ∈ addToGroup item groups, ∀ i ∈ g.2, i.authorityId = g.1 := by
  induction groups with
  | nil => simp [addToGroup]
  | cons g groups ih =>
      obtain ⟨authorityId, group⟩ := g
      rw [List.forall_mem_cons] at h
      unfold addToGroup
      split
      · rw [List.forall_mem_cons]
        refine ⟨?_, h.2⟩
        simp only [List.mem_append, List.mem_singleton]
        rintro i (hi | rfl)
        · exact h.1 i hi
        · exact Eq.symm ‹_›
      · rw [List.forall_mem_cons]
        exact ⟨h.1, ih h.2⟩

theorem grouped_authority (items : List PipelineItem) :
    ∀ g ∈ grouped items, ∀ i ∈ g.2, i.authorityId = g.1 := by
  have h : ∀ (items : List PipelineItem) (groups : List (String × List PipelineItem)),
      (∀ g ∈ groups, ∀ i ∈ g.2, i.authorityId = g.1) →
        ∀ g ∈ items.foldl (fun groups item => addToGroup item groups) groups,
          ∀ i ∈ g.2, i.authorityId = g.1 := by
    intro items
    induction items with
    | nil => exact fun _ h => h
    | cons item items ih => exact fun groups h => ih _ (addToGroup_authority h)
  exact h items [] (by simp)

theorem mem_plan_submit {assigned : String → Bool} {rpcBatchSize : Nat} (hsize : 0 < rpcBatchSize)
    {items group : List PipelineItem} {authorityId : String}
    (h : Task.submit authorityId group ∈ plan assigned rpcBatchSize items) :
    ∀ item ∈ group, item ∈ items ∧ item.authorityId = authorityId := by
  simp only [plan, List.mem_flatMap] at h
  obtain ⟨⟨authorityId', g⟩, hg, h⟩ := h
  split at h
  · simp only [List.mem_map, Task.submit.injEq] at h
    obtain ⟨_, hchunk, rfl, rfl⟩ := h
    intro item hitem
    have hmem : item ∈ g := by
      rw [← chunks_flatten hsize g]
      exact List.mem_flatten.mpr ⟨_, hchunk, hitem⟩
    exact ⟨(grouped_perm items).subset (List.mem_flatMap.mpr ⟨_, hg, hmem⟩),
      grouped_authority items _ hg item hmem⟩
  · simp at h

theorem mem_plan_fail {assigned : String → Bool} {rpcBatchSize : Nat} {items : List PipelineItem}
    {item : PipelineItem} (h : Task.fail item ∈ plan assigned rpcBatchSize items) : item ∈ items := by
  simp only [plan, List.mem_flatMap] at h
  obtain ⟨⟨authorityId, g⟩, hg, h⟩ := h
  split at h
  · simp at h
  · simp only [List.mem_map, Task.fail.injEq, exists_eq_right] at h
    exact (grouped_perm items).subset (List.mem_flatMap.mpr ⟨_, hg, h⟩)

theorem apply_notMem_plan {assigned : String → Bool} {rpcBatchSize : Nat}
    {items : List PipelineItem} {item : PipelineItem} {result : ARKPublishResult} :
    Task.apply item result ∉ plan assigned rpcBatchSize items := by
  intro h
  simp only [plan, List.mem_flatMap] at h
  obtain ⟨g, -, h⟩ := h
  split at h <;> simp at h

end DarkMinter.ChainCycle
