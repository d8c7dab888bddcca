import DarkMinter.Records

namespace DarkMinter.Authority

open Text Processing Records

/-- How a request handler leaves by an exception: an `HTTPException`, or
another one, which the server answers with 500. -/
inductive Raised
  | http (status : Nat) (detail : String)
  | exc (e : Exc)
  deriving DecidableEq

@[ext]
structure Identity where
  authorityId : String
  stripped : strip authorityId = authorityId
  nonempty : authorityId ≠ ""

instance : DecidableEq Identity := fun _ _ => decidable_of_iff _ Identity.ext_iff.symm

def cleanAuthorityId (value : String) : Option String :=
  let cleaned := strip value
  if cleaned = "" then none else some cleaned

def enforceAuthorityMatch (identity : Identity) (authorityId : String) : Except Raised String :=
  let requested := cleanAuthorityId authorityId
  if requested = some identity.authorityId then .ok identity.authorityId
  else .error (.http 403 ("Authenticated authority '" ++ identity.authorityId ++
    "' does not match requested authority '" ++ requested.getD "None" ++ "'"))

/-- `require_mutation_identity`. PUT leaves the check of the signer to the contract. -/
def requireMutationIdentity (isPut : Bool) (assigned : String → Bool) (identity : Identity)
    (authority : Except Exc AuthorityInfo) : Except Raised Unit :=
  if assigned identity.authorityId then
    if isPut then .ok ()
    else match authority with
      | .error _ => .error (.http 503 "AUTHORITY_STATUS_UNAVAILABLE")
      | .ok info => if info.active then .ok () else .error (.http 403 "AUTHORITY_INACTIVE")
  else .error (.http 403 "AUTHORITY_NOT_ASSIGNED_TO_MINTER")

theorem enforceAuthorityMatch_ok {identity : Identity} {authorityId A : String}
    (h : enforceAuthorityMatch identity authorityId = .ok A) : A = identity.authorityId := by
  simp only [enforceAuthorityMatch] at h
  split at h
  · simpa using h.symm
  · simp at h

variable [PyLower]

def requireCurrentOwner (reads : OwnerReads) (allowMissing : Bool) : Except Raised (Option ARKInfo) :=
  match reads.authority with
  | .error _ => .error (.http 503 "OWNERSHIP_CHECK_UNAVAILABLE")
  | .ok authority =>
      if authority.active then
        match reads.ark with
        | .error e =>
            if e.cls = .arkNotFound then
              if allowMissing then .ok none else .error (.http 409 "CHAIN_RECORD_MISSING")
            else .error (.http 503 "OWNERSHIP_CHECK_UNAVAILABLE")
        | .ok current =>
            if lower current.owner = lower authority.walletAddress then
              match reads.authorized with
              | .error _ => .error (.http 503 "OWNERSHIP_CHECK_UNAVAILABLE")
              | .ok true => .ok (some current)
              | .ok false => .error (.http 403 "NAAN_PERMISSION_REVOKED")
            else .error (.http 403 "CHAIN_OWNER_CHANGED")
      else .error (.http 403 "AUTHORITY_INACTIVE")

def OwnerConfirmed (reads : OwnerReads) (current : ARKInfo) : Prop :=
  ∃ authority, reads.authority = .ok authority ∧ authority.active = true ∧ reads.ark = .ok current ∧
    lower current.owner = lower authority.walletAddress ∧ reads.authorized = .ok true

theorem requireCurrentOwner_some {reads : OwnerReads} {allowMissing : Bool} {current : ARKInfo} :
    requireCurrentOwner reads allowMissing = .ok (some current) ↔ OwnerConfirmed reads current := by
  obtain ⟨authority, ark, authorized⟩ := reads
  unfold requireCurrentOwner OwnerConfirmed
  rcases authority with e | authority
  · simp
  · rcases ark with e | info
    · by_cases hactive : authority.active <;> by_cases he : e.cls = .arkNotFound <;>
        cases allowMissing <;> simp [hactive, he]
    · by_cases hactive : authority.active <;>
        by_cases howner : lower info.owner = lower authority.walletAddress <;>
        rcases authorized with e | _ | _ <;> simp [hactive, howner] <;> grind

end DarkMinter.Authority
