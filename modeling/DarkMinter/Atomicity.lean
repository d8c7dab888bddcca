import DarkMinter.Deployment
import DarkMinter.Requests

namespace DarkMinter.Atomicity

open Text Processing Records Repository Authority ArkApi Requests

abbrev Tables : Type := ArkId → Cell

/-- A request to change an ARK, as its dependencies see it: the path, the verdict of
`require_authority_identity`, the read of the authority, and the answer to the lock. -/
structure Arrival where
  path : String
  identity : Except Raised Identity
  authority : Except Exc AuthorityInfo
  acquired : Except Exc Bool

def getLockedArkDb (parse : String → Option ArkId) (arrival : Arrival) : Except Raised ArkId :=
  match parse arrival.path with
  | none => .error (.http 400 "Invalid ARK format")
  | some k => match arrival.acquired with
    | .error e => .error (.exc e)
    | .ok false => .error (.http 409 "ARK is being processed; retry later")
    | .ok true => .ok k

def dependencies (parse : String → Option ArkId) (isPut : Bool) (assigned : String → Bool)
    (arrival : Arrival) : Except Raised (Identity × ArkId) := do
  let identity ← arrival.identity
  requireMutationIdentity isPut assigned identity arrival.authority
  let k ← getLockedArkDb parse arrival
  return (identity, k)

def onArk {α : Type} (k : ArkId) (handler : Cell → Except Raised α × Cell) (tables : Tables) :
    Except Raised α × Tables :=
  ((handler (tables k)).1, Function.update tables k (handler (tables k)).2)

section

variable [PyLower]

def putRequest (parse : String → Option ArkId) (assigned : String → Bool) (arrival : Arrival)
    (request : UpdateARKMetadataRequest) (E : PutEnv) (tables : Tables) :
    Except Raised ARKResponse × Tables :=
  match dependencies parse true assigned arrival with
  | .error e => (.error e, tables)
  | .ok (identity, k) => onArk k (put identity k request E) tables

def deleteRequest (parse : String → Option ArkId) (assigned : String → Bool) (arrival : Arrival)
    (E : DeleteEnv) (tables : Tables) : Except Raised Unit × Tables :=
  match dependencies parse false assigned arrival with
  | .error e => (.error e, tables)
  | .ok (identity, k) => onArk k (delete identity k E) tables

/-- The rows are those before the request, but for the row of the reservation that has won the
race against the import. -/
inductive Untouched (raced : Option Reservation) (tables : Tables) : Tables → Prop
  | same : Untouched raced tables tables
  | raced {k : ArkId} {row : Reservation} (h : (tables k).record = none) (hr : raced = some row) :
      Untouched raced tables
        (Function.update tables k { tables k with record := some row.record })

variable {parse : String → Option ArkId} {assigned : String → Bool} {arrival : Arrival} {tables tables' : Tables}

omit [PyLower] in
theorem untouched_of_seen {E : PutEnv} {k : ArkId} {c' : Cell} (h : Seen E (tables k) c') :
    Untouched E.raced tables (Function.update tables k c') := by
  cases h with
  | same =>
      rw [Function.update_eq_self]
      exact .same
  | raced h hr => exact .raced h hr

theorem put_untouched {request : UpdateARKMetadataRequest} {E : PutEnv} {e : Raised}
    (hrefresh : E.fails .refresh = none)
    (h : putRequest parse assigned arrival request E tables = (.error e, tables')) :
    Untouched E.raced tables tables' := by
  unfold putRequest at h
  split at h
  · obtain ⟨-, rfl⟩ := Prod.mk.inj h
    exact .same
  · rename_i identity k _
    obtain ⟨hres, rfl⟩ := Prod.mk.inj h
    have hput : put identity k request E (tables k) =
        (.error e, (put identity k request E (tables k)).2) := by
      rw [← hres]
    rcases put_cases hput with ⟨response, hok, -⟩ | ⟨-, -, hseen | ⟨hfails, -⟩⟩
    · cases hok
    · exact untouched_of_seen hseen
    · exact absurd hrefresh hfails

theorem delete_untouched {E : DeleteEnv} {e : Raised}
    (h : deleteRequest parse assigned arrival E tables = (.error e, tables')) : tables' = tables := by
  unfold deleteRequest at h
  split at h
  · exact (Prod.mk.inj h).2.symm
  · rename_i identity k _
    obtain ⟨hres, rfl⟩ := Prod.mk.inj h
    have hdelete : delete identity k E (tables k) =
        (.error e, (delete identity k E (tables k)).2) := by
      rw [← hres]
    rcases delete_cases hdelete with ⟨hok, -⟩ | ⟨-, hsame⟩
    · cases hok
    · rw [hsame, Function.update_eq_self]

/-- PUT and DELETE are atomic: a request that is answered by an error, and not because of the
refresh that follows the commit, leaves every row as it was. -/
theorem mutations_atomic (parse : String → Option ArkId) (assigned : String → Bool) (arrival : Arrival)
    (tables : Tables) :
    (∀ request E e tables', E.fails .refresh = none →
      putRequest parse assigned arrival request E tables = (.error e, tables') →
        Untouched E.raced tables tables') ∧
    ∀ E e tables', deleteRequest parse assigned arrival E tables = (.error e, tables') → tables' = tables :=
  ⟨fun _ _ _ _ hrefresh h => put_untouched hrefresh h, fun _ _ _ h => delete_untouched h⟩

end

section Sample

attribute [local instance] asciiText

open Deployment.Sample

def foreignRows : Tables := fun _ =>
  { record := some { createPublishedImport "B" (some "u") 0 with processingStage := .complete }
    metadata := some { level1Json := none, originalContent := none, originalSchema := "s",
                       level1Cid := some cid1, originalCid := some cid2, createdAt := 0, updatedAt := 0 } }

def arrival : Arrival := ⟨"ark:1/a", .ok owner, .ok ⟨"w", true⟩, .ok true⟩

theorem mutations_atomic_reclaimed :
    ∃ tables, putRequest (fun _ => some ark) (fun _ => true) arrival { request with target := "" }
        { putEnv with owner := ownReads } foreignRows =
      (.error (.http 409 "Target URL is required"), tables) ∧ Untouched none foreignRows tables := by
  have h : putRequest (fun _ => some ark) (fun _ => true) arrival { request with target := "" }
      { putEnv with owner := ownReads } foreignRows =
        (.error (.http 409 "Target URL is required"), (putRequest (fun _ => some ark) (fun _ => true) arrival
          { request with target := "" } { putEnv with owner := ownReads } foreignRows).2) := by
    rfl
  exact ⟨_, h, (mutations_atomic _ _ _ _).1 _ _ _ _ rfl h⟩

end Sample

end DarkMinter.Atomicity
