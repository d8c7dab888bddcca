import DarkMinter.Authority

namespace DarkMinter.Retry

open Text Processing Records Authority

inductive RetryStatus
  | locked
  | notFound
  | forbidden
  | notRetryableState
  | notFailed
  | refused (status : Nat) (detail : String)
  | accepted
  deriving DecidableEq

def RetryStatus.text : RetryStatus → String
  | .locked => "locked"
  | .notFound => "not_found"
  | .forbidden => "forbidden"
  | .notRetryableState => "not_retryable_state"
  | .notFailed => "not_failed"
  | .refused status _ => if status = 403 then "forbidden" else "verification_unavailable"
  | .accepted => "accepted"

structure RetryEnv where
  now : Time
  owner : OwnerReads
  commit : Except Exc Unit := .ok ()

def retriedRecord (now : Time) (r : ARKRecord) : ARKRecord :=
  { r with
    processingStatus := .ready
    nextActionAt := none
    processingWaitReason := .none
    processingAttemptCount := 0
    updatedAt := now }

variable [PyLower]

/-- One round of the loop of `retry_failed_arks`, once it holds the lock of the ARK. -/
def retryFailedArk (identity : Identity) (E : RetryEnv) (c : Cell) : Except Raised RetryStatus × Cell :=
  match c.record with
  | none => (.ok .notFound, c)
  | some r =>
      if r.authorityId ≠ identity.authorityId then (.ok .forbidden, c)
      else if r.state ∈ [.reserved, .tombstone] then (.ok .notRetryableState, c)
      else if r.processingStatus ≠ .failed then (.ok .notFailed, c)
      else match requireCurrentOwner E.owner (r.state = .draft) with
        | .error (.http status detail) => (.ok (.refused status detail), c)
        | .error (.exc e) => (.error (.exc e), c)
        | .ok _ => match E.commit with
          | .error e => (.error (.exc e), c)
          | .ok () => (.ok .accepted, { c with record := some (retriedRecord E.now r) })

theorem retryFailedArk_cases {identity : Identity} {E : RetryEnv} {c c' : Cell}
    {res : Except Raised RetryStatus} (h : retryFailedArk identity E c = (res, c')) :
    c' = c ∨ ∃ r, c.record = some r ∧ r.authorityId = identity.authorityId ∧
      r.state ≠ .reserved ∧ r.state ≠ .tombstone ∧ r.processingStatus = .failed ∧
      c' = { c with record := some (retriedRecord E.now r) } := by
  unfold retryFailedArk at h
  cases hr : c.record with
  | none =>
      simp only [hr, Prod.mk.injEq] at h
      exact .inl h.2.symm
  | some r =>
      simp only [hr] at h
      split at h; · exact .inl (Prod.mk.inj h).2.symm
      split at h; · exact .inl (Prod.mk.inj h).2.symm
      split at h; · exact .inl (Prod.mk.inj h).2.symm
      split at h; · exact .inl (Prod.mk.inj h).2.symm
      · exact .inl (Prod.mk.inj h).2.symm
      · split at h; · exact .inl (Prod.mk.inj h).2.symm
        obtain ⟨rfl, rfl⟩ := Prod.mk.inj h
        simp_all

end DarkMinter.Retry
