import DarkMinter.Authority
import DarkMinter.Encoding
import DarkMinter.Lib.Dict
import DarkMinter.Lib.Runs
import Mathlib.Algebra.Order.Group.Unbundled.Int

namespace DarkMinter.SignedAuth

open Text Processing Authority Encoding Lib.Runs

/-- `hashlib`, Ed25519 and `dark_core_lib.request_signing`. -/
structure Crypto where
  sha256 : Bytes → String
  keyId : Bytes → String
  canonicalRequest : (method path authority fingerprint timestamp nonce digest : String) → Bytes
  verify : (key signature message : Bytes) → Bool

structure Settings where
  maxSkewSeconds : Nat
  keyCacheIdleTtlSeconds : Nat
  maxSkewSeconds_pos : 0 < maxSkewSeconds
  keyCacheIdleTtlSeconds_pos : 0 < keyCacheIdleTtlSeconds

/-- An HTTP request. The server has lowered the names of the headers. -/
structure Request where
  method : String
  headers : List (String × String)
  urlPath : String
  rawPath : Option Bytes
  queryString : Bytes := []
  body : Bytes

structure AuthError where
  status : Nat
  code : String
  deriving DecidableEq

def require {α : Type} (e : AuthError) : Option α → Except AuthError α
  | some a => .ok a
  | none => .error e

/-- A header: present once, and on one line. -/
def readHeader (r : Request) (name : String) : Except AuthError String :=
  match r.headers.lookup name with
  | none => .error ⟨401, "SIGNED_AUTH_HEADERS_REQUIRED"⟩
  | some value =>
      let chars := value.toList
      if chars = [] ∨ 512 < chars.length ∨ '\n' ∈ chars ∨ '\r' ∈ chars then
        .error ⟨401, "SIGNED_AUTH_HEADERS_REQUIRED"⟩
      else if (r.headers.filter (·.1 = name)).length ≠ 1 then
        .error ⟨401, "SIGNED_AUTH_HEADERS_INVALID"⟩
      else .ok value

structure Signed where
  identity : Identity
  fingerprint : String
  timestamp : String
  seconds : Int
  nonce : String
  digest : String
  signature : Bytes
  deriving DecidableEq

def identityOf (authority : String) : Option Identity :=
  if h : strip authority = authority ∧ authority ≠ "" ∧ authority.toList.length ≤ 255 then
    some ⟨authority, h.1, h.2.1⟩
  else none

/-- From here on, an integer is too large for the subtraction from a float. -/
def floatOverflow : Int := 2 ^ 1024 - 2 ^ 970

def checkHeaders (S : Settings) (now : Time) (r : Request) : Except AuthError Signed := do
  let authority ← readHeader r "x-dark-authority-id"
  let fingerprint ← readHeader r "x-dark-key-id"
  let timestamp ← readHeader r "x-dark-timestamp"
  let nonce ← readHeader r "x-dark-nonce"
  let digest ← readHeader r "x-dark-content-sha256"
  let signature ← readHeader r "x-dark-signature"
  let identity ← require ⟨401, "SIGNED_AUTH_IDENTITY_INVALID"⟩ (identityOf authority)
  let _ ← require ⟨401, "SIGNED_AUTH_HEADERS_INVALID"⟩ (if isCanonicalUuid nonce then some () else none)
  let secs ← require ⟨401, "SIGNED_AUTH_HEADERS_INVALID"⟩
    ((canonicalInt timestamp).filter fun n => n.natAbs < floatOverflow)
  let _ ← require ⟨401, "SIGNED_AUTH_TIMESTAMP_EXPIRED"⟩
    (if |now - seconds secs| ≤ seconds S.maxSkewSeconds then some () else none)
  let decoded ← require ⟨401, "SIGNED_AUTH_HEADERS_INVALID"⟩
    ((b64decode signature).filter fun b => b.length = 64)
  return ⟨identity, fingerprint, timestamp, secs, nonce, digest, decoded⟩

def requestPath (r : Request) : Option String := do
  let path ← match r.rawPath with
    | some raw => decodeAscii raw
    | none => (encodeAscii r.urlPath).bind decodeAscii
  let query ← decodeAscii r.queryString
  return if query = "" then path else path ++ "?" ++ query

/-- The path that is signed, once the body has been read and has its digest. -/
def checkBody (C : Crypto) (r : Request) (q : Signed) : Except AuthError String :=
  if C.sha256 r.body ≠ q.digest then .error ⟨401, "SIGNED_AUTH_BODY_MISMATCH"⟩
  else require ⟨401, "SIGNED_AUTH_PATH_INVALID"⟩ (requestPath r)

structure Entry where
  key : Bytes
  active : Bool
  stamp : Time
  deriving DecidableEq

def getAuthorityAuth (registered : Option (Bytes × Bool)) (available : Bool) :
    Except AuthError (Bytes × Bool) :=
  if available then require ⟨401, "AUTHORITY_NOT_FOUND"⟩ registered
  else .error ⟨503, "AUTH_REGISTRY_UNAVAILABLE"⟩

def lookup (C : Crypto) (S : Settings) (cache : List (String × Entry)) (now : Time) (q : Signed)
    (registry : Except AuthError (Bytes × Bool)) : Except AuthError (Bytes × Bool) :=
  match Lib.Dict.get cache q.identity.authorityId with
  | some e =>
      if now - e.stamp < seconds S.keyCacheIdleTtlSeconds ∧ C.keyId e.key = q.fingerprint then
        .ok (e.key, e.active)
      else registry
  | none => registry

structure AuthorityRequestNonce where
  authorityId : String
  nonce : String
  expiresAt : Time
  deriving DecidableEq

def Signed.row (S : Settings) (q : Signed) : AuthorityRequestNonce :=
  ⟨q.identity.authorityId, q.nonce, Processing.seconds (q.seconds + S.maxSkewSeconds)⟩

def isDatetime (secs : Int) : Bool := -62135596800 ≤ secs && secs ≤ 253402300799

def checkKey (C : Crypto) (S : Settings) (r : Request) (q : Signed) (path : String) (key : Bytes)
    (active : Bool) : Except AuthError Unit :=
  if !active ∨ key.length ≠ 32 ∨ key.all (· = 0) ∨ C.keyId key ≠ q.fingerprint then
    .error ⟨401, "SIGNED_AUTH_KEY_INVALID"⟩
  else if !C.verify key q.signature (C.canonicalRequest r.method path q.identity.authorityId
      q.fingerprint q.timestamp q.nonce q.digest) then
    .error ⟨401, "SIGNED_AUTH_SIGNATURE_INVALID"⟩
  else if !isDatetime (q.seconds + S.maxSkewSeconds) then .error ⟨500, "Internal Server Error"⟩
  else .ok ()

/-- How the database answers a transaction that meets no other row of its key:
it commits, it fails, or it commits and the answer is lost. -/
inductive Outcome
  | committed
  | failed
  | unknown
  deriving DecidableEq

/-- The `delete` of `_claim_nonce`, when one is due. -/
def cleanup (nonces : List AuthorityRequestNonce) (due : Bool) (cutoff : Time) :
    List AuthorityRequestNonce :=
  if due then nonces.filter fun row => cutoff ≤ row.expiresAt else nonces

/-- The transaction of `_claim_nonce`. -/
def claimNonce (nonces : List AuthorityRequestNonce) (due : Bool) (cutoff : Time)
    (row : AuthorityRequestNonce) (outcome : Outcome) :
    Except AuthError Unit × List AuthorityRequestNonce :=
  let kept := cleanup nonces due cutoff
  if ∃ r ∈ kept, r.authorityId = row.authorityId ∧ r.nonce = row.nonce then
    (.error ⟨409, "SIGNED_REQUEST_REPLAY"⟩, nonces)
  else match outcome with
    | .committed => (.ok (), kept ++ [row])
    | .failed => (.error ⟨503, "AUTH_NONCE_STORE_UNAVAILABLE"⟩, nonces)
    | .unknown => (.error ⟨503, "AUTH_NONCE_STORE_UNAVAILABLE"⟩, kept ++ [row])

/-- What an accepted request does to `_cache`. -/
def storeKey (cache : List (String × Entry)) (authority : String) (e : Entry) :
    List (String × Entry) :=
  if 10000 ≤ cache.length ∧ Lib.Dict.get cache authority = none then
    Lib.Dict.set (Lib.Dict.evict Entry.stamp cache) authority e
  else Lib.Dict.set cache authority e

structure Verified where
  signed : Signed
  key : Bytes
  active : Bool
  deriving DecidableEq

/-- How far a call of `authenticate` is. A claimed nonce and an accepted
request come with the time of the claim. -/
inductive Phase
  | received
  | checked (q : Signed)
  | read (q : Signed) (path : String)
  | verified (v : Verified)
  | claimed (v : Verified) (claimedAt : Time)
  | accepted (v : Verified) (claimedAt : Time)
  | refused (e : AuthError)
  | dropped
  deriving DecidableEq

structure Call where
  process : Nat
  request : Request
  phase : Phase

structure Process where
  cache : List (String × Entry) := []
  lastCleanup : Time := 0

structure World where
  wall : Time
  monotonic : Nat → Time
  registry : String → Option (Bytes × Bool)
  nonces : List AuthorityRequestNonce := []
  processes : Nat → Process := fun _ => {}
  calls : Nat → Option Call := fun _ => none

def World.setPhase (w : World) (id : Nat) (c : Call) (phase : Phase) : World :=
  { w with calls := Function.update w.calls id (some { c with phase := phase }) }

def World.setProcess (w : World) (p : Nat) (s : Process) : World :=
  { w with processes := Function.update w.processes p s }

def settle {α : Type} (f : α → Phase) : Except AuthError α → Phase
  | .ok a => f a
  | .error e => .refused e

def Phase.lost : Phase → Phase
  | .accepted v t => .accepted v t
  | .refused e => .refused e
  | _ => .dropped

/-- A step of the clocks, of the registry, of the call `id`, or of the server.
Each of the three readings of a clock is its own step. -/
inductive Act
  | tick (dt : Nat)
  | tickMonotonic (p : Nat) (dt : Nat)
  | register (authority : String) (registered : Option (Bytes × Bool))
  | begin (id : Nat) (p : Nat) (r : Request)
  | check (id : Nat)
  | read (id : Nat)
  | lookup (id : Nat) (available : Bool)
  | claim (id : Nat) (cutoff : Time) (outcome : Outcome)
  | store (id : Nat)
  | restart (p : Nat)

section

variable {w : World} {id j p : Nat} {c : Call} {phase : Phase} {s : Process}

@[simp] theorem World.setPhase_calls : (w.setPhase id c phase).calls j =
    if j = id then some { c with phase := phase } else w.calls j := by
  simp [World.setPhase, Function.update_apply]

@[simp] theorem World.setPhase_wall : (w.setPhase id c phase).wall = w.wall := rfl

@[simp] theorem World.setPhase_registry : (w.setPhase id c phase).registry = w.registry := rfl

@[simp] theorem World.setPhase_nonces : (w.setPhase id c phase).nonces = w.nonces := rfl

@[simp] theorem World.setPhase_processes : (w.setPhase id c phase).processes = w.processes := rfl

@[simp] theorem World.setProcess_processes : (w.setProcess p s).processes j =
    if j = p then s else w.processes j := by
  simp [World.setProcess, Function.update_apply]

@[simp] theorem World.setProcess_wall : (w.setProcess p s).wall = w.wall := rfl

@[simp] theorem World.setProcess_registry : (w.setProcess p s).registry = w.registry := rfl

@[simp] theorem World.setProcess_nonces : (w.setProcess p s).nonces = w.nonces := rfl

@[simp] theorem World.setProcess_calls : (w.setProcess p s).calls = w.calls := rfl

end

variable (C : Crypto) (S : Settings)

def verifyCall (w : World) (c : Call) (q : Signed) (path : String) (available : Bool) :
    Except AuthError Verified := do
  let registry := getAuthorityAuth (w.registry q.identity.authorityId) available
  let (key, active) ← lookup C S (w.processes c.process).cache (w.monotonic c.process) q registry
  checkKey C S c.request q path key active
  return ⟨q, key, active⟩

def cleanupDue (w : World) (p : Nat) : Bool :=
  seconds 60 ≤ w.monotonic p - (w.processes p).lastCleanup

/-- `_claim_nonce` by the call `id`. -/
def claimCall (w : World) (id : Nat) (c : Call) (v : Verified) (cutoff : Time)
    (outcome : Outcome) : World :=
  let due := cleanupDue w c.process
  let claim := claimNonce w.nonces due cutoff (v.signed.row S) outcome
  let w' := { w with nonces := claim.2 }
  match claim.1 with
  | .ok () =>
      let s := w.processes c.process
      let w' := if due then w'.setProcess c.process { s with lastCleanup := w.monotonic c.process } else w'
      w'.setPhase id c (.claimed v w.wall)
  | .error e => w'.setPhase id c (.refused e)

/-- The call `id` renews the cached key and returns. -/
def storeCall (w : World) (id : Nat) (c : Call) (v : Verified) (t : Time) : World :=
  let s := w.processes c.process
  let e : Entry := ⟨v.key, v.active, w.monotonic c.process⟩
  (w.setProcess c.process { s with cache := storeKey s.cache v.signed.identity.authorityId e }).setPhase
    id c (.accepted v t)

def step (w : World) : Act → Option World
  | .tick dt => some { w with wall := w.wall + dt }
  | .tickMonotonic p dt =>
      some { w with monotonic := Function.update w.monotonic p (w.monotonic p + dt) }
  | .register authority registered =>
      some { w with registry := Function.update w.registry authority registered }
  | .begin id p r =>
      match w.calls id with
      | none => some (w.setPhase id ⟨p, r, .received⟩ .received)
      | some _ => none
  | .check id =>
      match w.calls id with
      | some ⟨p, r, .received⟩ =>
          some (w.setPhase id ⟨p, r, .received⟩ (settle .checked (checkHeaders S w.wall r)))
      | _ => none
  | .read id =>
      match w.calls id with
      | some ⟨p, r, .checked q⟩ =>
          some (w.setPhase id ⟨p, r, .checked q⟩ (settle (.read q) (checkBody C r q)))
      | _ => none
  | .lookup id available =>
      match w.calls id with
      | some ⟨p, r, .read q path⟩ =>
          let c : Call := ⟨p, r, .read q path⟩
          some (w.setPhase id c (settle .verified (verifyCall C S w c q path available)))
      | _ => none
  | .claim id cutoff outcome =>
      match w.calls id with
      | some ⟨p, r, .verified v⟩ =>
          if cutoff ≤ w.wall then some (claimCall S w id ⟨p, r, .verified v⟩ v cutoff outcome)
          else none
      | _ => none
  | .store id =>
      match w.calls id with
      | some ⟨p, r, .claimed v t⟩ => some (storeCall w id ⟨p, r, .claimed v t⟩ v t)
      | _ => none
  | .restart p => some { w.setProcess p {} with
      calls := fun id => (w.calls id).map fun c =>
        if c.process = p then { c with phase := c.phase.lost } else c }

theorem claimNonce_ok {nonces : List AuthorityRequestNonce} {due : Bool} {cutoff : Time}
    {row : AuthorityRequestNonce} {outcome : Outcome}
    (h : (claimNonce nonces due cutoff row outcome).1 = .ok ()) :
    (¬∃ r ∈ cleanup nonces due cutoff, r.authorityId = row.authorityId ∧ r.nonce = row.nonce) ∧
      (claimNonce nonces due cutoff row outcome).2 = cleanup nonces due cutoff ++ [row] := by
  by_cases hreplay : ∃ r ∈ cleanup nonces due cutoff, r.authorityId = row.authorityId ∧ r.nonce = row.nonce
  · simp only [claimNonce, if_pos hreplay, reduceCtorEq] at h
  · cases outcome with
    | committed => exact ⟨hreplay, by simp only [claimNonce, if_neg hreplay]⟩
    | failed => simp only [claimNonce, if_neg hreplay, reduceCtorEq] at h
    | unknown => simp only [claimNonce, if_neg hreplay, reduceCtorEq] at h

theorem mem_cleanup {nonces : List AuthorityRequestNonce} (due : Bool) (cutoff : Time)
    {r : AuthorityRequestNonce} (h : r ∈ nonces) :
    r ∈ cleanup nonces due cutoff ∨ r.expiresAt < cutoff := by
  cases due with
  | false => exact .inl h
  | true =>
      by_cases hr : cutoff ≤ r.expiresAt
      · exact .inl (List.mem_filter.mpr ⟨h, decide_eq_true hr⟩)
      · exact .inr (not_le.mp hr)

theorem claimNonce_keeps {nonces : List AuthorityRequestNonce} {due : Bool} {cutoff : Time}
    {r : AuthorityRequestNonce} (row : AuthorityRequestNonce) (outcome : Outcome) (h : r ∈ nonces) :
    r ∈ (claimNonce nonces due cutoff row outcome).2 ∨ r.expiresAt < cutoff := by
  have hkept : r ∈ cleanup nonces due cutoff ++ [row] ∨ r.expiresAt < cutoff :=
    (mem_cleanup due cutoff h).imp_left (List.mem_append_left _)
  by_cases hreplay : ∃ r ∈ cleanup nonces due cutoff, r.authorityId = row.authorityId ∧ r.nonce = row.nonce
  · simp only [claimNonce, if_pos hreplay]
    exact .inl h
  · cases outcome with
    | failed =>
        simp only [claimNonce, if_neg hreplay]
        exact .inl h
    | committed | unknown =>
        simp only [claimNonce, if_neg hreplay]
        exact hkept

namespace Sample

def settings : Settings := ⟨300, 60, by decide, by decide⟩

def authority : String := "11111111-1111-4111-8111-111111111111"

def emptyDigest : String := "e3b0c44298fc1c149afbf4c8996fb92427ae41e4649b934ca495991b7852b855"

def decode (s : String) : Bytes := (b64decode s).getD []

def key₁ : Bytes := decode "11qYAYKxCrfVS/7TyWQHOg7hcvPapiMlrwIaaPcHURo="

def key₂ : Bytes := decode "PUAXw+hDiVqStwqnTRt+vJyYLM8uxJaMwM1V8Sr0Zgw="

def fingerprint₁ : String := "21fe31dfa154a261626bf854046fd2271b7bed4b6abe45aa58877ef47f9721b9"

def fingerprint₂ : String := "39f713d0a644253f04529421b9f51b9b08979d08295959c4f3990ee617f5139f"

def ascii (s : String) : Bytes := s.toList.map fun c => UInt8.ofNat c.toNat

def canonicalRequest (method path authority fingerprint timestamp nonce digest : String) : Bytes :=
  List.intercalate [10] <|
    ["DARK2", method, path, authority, fingerprint, timestamp, nonce, digest].map ascii

structure Message where
  fingerprint : String
  timestamp : String
  nonce : String
  signature : String

def first : Message where
  fingerprint := fingerprint₁
  timestamp := "1700000000"
  nonce := "00000000-0000-4000-8000-000000000001"
  signature := "Li1y5QQlkwwZfdXl+Gyy44wCnqGIgMnKP+UpULVgZTl4BVTBcnCsLTI/dPZz31PHphI5ucoVgCZnJNbKscIFAQ=="

def repeated : Message where
  fingerprint := fingerprint₁
  timestamp := "1700000400"
  nonce := "00000000-0000-4000-8000-000000000001"
  signature := "1QPR2kxCkpf6M5jx7ntSjUBOs67A01a5YouM70YiaFDb7NaniO2236DTiTVV15X09hqKfLlvZwCt85gxqbWpCg=="

def rotated : Message where
  fingerprint := fingerprint₂
  timestamp := "1700000000"
  nonce := "00000000-0000-4000-8000-000000000002"
  signature := "rahfjhEfoCL6MRMrs5KoIeNbU+a1UtCblPcepKJApgZeKk8dCul1Tu9J6qcb/aruTyHwjMVVECAbJClYrke4Cw=="

def stale : Message where
  fingerprint := fingerprint₁
  timestamp := "1700000000"
  nonce := "00000000-0000-4000-8000-000000000003"
  signature := "xRi2s5X6HFzU3oWbPYAnYyfujTwCKLuYr1kqRaJTveUfJ397ZUig84eKII/+hKd0sp/wLM1bmYgLPrvX2kdhAg=="

/-- The keys, and the signatures that they verify on the requests of these messages. -/
def crypto : Crypto where
  sha256 body := if body = [] then emptyDigest else ""
  keyId key := if key = key₁ then fingerprint₁ else if key = key₂ then fingerprint₂ else ""
  canonicalRequest := canonicalRequest
  verify key signature _ := [(key₁, first), (key₁, repeated), (key₂, rotated), (key₁, stale)].any
    fun (k, m) => key = k && signature = decode m.signature

def Message.request (m : Message) : Request where
  method := "POST"
  headers := [("x-dark-authority-id", authority), ("x-dark-key-id", m.fingerprint),
    ("x-dark-timestamp", m.timestamp), ("x-dark-nonce", m.nonce),
    ("x-dark-content-sha256", emptyDigest), ("x-dark-signature", m.signature)]
  urlPath := "/api/v1/arks"
  rawPath := encodeAscii "/api/v1/arks"
  body := []

def start : World where
  wall := seconds 1700000000
  monotonic := fun _ => seconds 100
  registry := fun a => if a = authority then some (key₁, true) else none

/-- The call `id` up to the answer of the registry. -/
def arrive (id : Nat) (m : Message) : List Act :=
  [.begin id 0 m.request, .check id, .read id, .lookup id true]

def finish (id : Nat) (cutoff : Time) : List Act := [.claim id cutoff .committed, .store id]

end Sample

end DarkMinter.SignedAuth
