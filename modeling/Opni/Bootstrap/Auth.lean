/-
  Opni.Bootstrap.Auth

  `ServerV2.Auth` (`pkg/bootstrap/server_v2.go`), which registers a new agent:
  the whole call (`auth`), and the same call as a process that takes one
  storage operation at a time (`AuthState.next`), so that calls can be
  interleaved.
-/

import Opni.Bootstrap.Ecdh
import Opni.Lib.Interleave
import Opni.Rbac.Objects

namespace Opni.Bootstrap

open Lib Auth Rbac

/-! ## Requests -/

structure BootstrapAuthRequest where
  clientId : String
  clientPubKey : Bytes
  friendlyName : Option String

/-- `ValidateLabelValue`: `[a-zA-Z0-9][a-zA-Z0-9-_.]{0,63}`. -/
def validateLabelValue (value : String) : Bool :=
  match value.toList with
  | [] => false
  | c :: cs =>
    c.isAlphanum && cs.all (fun d => d.isAlphanum || d ∈ ['-', '_', '.']) && cs.length ≤ 63

def nameConstraint : String :=
  "can only contain alphanumeric characters, '-', '_', and '.', must start with an alphanumeric character"

def lengthConstraint (i : Nat) : String :=
  "must be between 1-" ++ toString i ++ " characters in length"

def errInvalidID : String := "ids " ++ nameConstraint ++ ", and " ++ lengthConstraint 128

def errInvalidName : String := "names " ++ nameConstraint ++ ", and " ++ lengthConstraint 64

def BootstrapAuthRequest.validate (h : BootstrapAuthRequest) : Except String Unit :=
  if h.clientId = "" then .error "missing required field: ClientID"
  else if !validateID h.clientId then .error errInvalidID
  else if h.clientPubKey.length = 0 then .error "missing required field: ClientPubKey"
  else match h.friendlyName with
    | none => .ok ()
    | some name => if validateLabelValue name then .ok () else .error errInvalidName

/-- `Token`.  The secret is not looked at. -/
structure Token where
  id : Bytes

/-- `HexID`, which is also the id of `Reference`. -/
def Token.hexID (t : Token) : String := hexEncode t.id

/-- The key exchange, `jws.Verify` for the public key of the gateway, and
    `tokens.ParseJSON`. -/
structure BootstrapLib extends EcdhLib where
  verify : String → Option Bytes
  parseJSON : Bytes → Option Token

/-- A call of `Auth`: the `Authorization` values of the incoming metadata, if there
    is any, the request, and the key pair that is drawn if the call gets there. -/
structure AuthCall (lib : BootstrapLib) where
  authorization : Option (List String)
  req : BootstrapAuthRequest
  ekp : EphemeralKeyPair lib.toEcdhLib

/-- How `Auth` ends without a response. -/
inductive AuthFailure where
  | status (err : Status)
  | panicked (msg : String)
deriving DecidableEq

/-- `status.Error`. -/
def failWith {α : Type} (code : Code) (msg : String) : Except AuthFailure α :=
  .error (.status ⟨code, msg⟩)

namespace AuthCall

variable {lib : BootstrapLib} (call : AuthCall lib)

def token : Except AuthFailure Token :=
  match call.authorization with
  | none | some [] => failWith .unauthenticated "Unauthenticated"
  | some (v :: _) =>
    if trimSpace v = "" then failWith .unauthenticated "Unauthenticated"
    else match lib.verify (trimSpace (trimPrefix (trimSpace v) "Bearer")) with
      | none => failWith .permissionDenied "PermissionDenied"
      | some payload =>
        match lib.parseJSON payload with
        | none => .error (.panicked "bug: jws.Verify returned a malformed token")
        | some token => .ok token

def keyring : Except String Keyring :=
  (deriveSharedSecret call.ekp ⟨call.req.clientPubKey, .client⟩).map fun sharedSecret =>
    Keyring.new [.sharedKeys (newSharedKeys lib.toEcdhLib sharedSecret)]

end AuthCall

/-! ## Storage -/

/-- An error of the storage backend: whether it is `ErrNotFound`, and its text. -/
structure StorageErr where
  notFound : Bool
  text : String

def errNotFound : StorageErr := ⟨true, "not found"⟩

def errAlreadyExists : StorageErr := ⟨false, "already exists"⟩

/-- `BootstrapToken`, as far as `Auth` reads and writes it. -/
structure BootstrapToken where
  labels : GoMap String String
  usageCount : Int

/-- The storage backend.  The keyrings are those of the store `gateway`. -/
structure Storage where
  tokens : GoMap String BootstrapToken
  clusters : GoMap String Cluster
  keyrings : GoMap String Keyring

namespace Storage

variable (s : Storage)

def getToken (ref : String) : Except StorageErr BootstrapToken :=
  match s.tokens.lookup ref with
  | none => .error errNotFound
  | some token => .ok token

def getCluster (ref : String) : Except StorageErr Cluster :=
  match s.clusters.lookup ref with
  | none => .error errNotFound
  | some cluster => .ok cluster

def createCluster (cluster : Cluster) : Except StorageErr Storage :=
  if cluster.id ∈ s.clusters then .error errAlreadyExists
  else .ok { s with clusters := s.clusters.insert cluster.id cluster }

variable {s s' : Storage} {cluster : Cluster} {err : StorageErr} {ref : String}
  {mutator : BootstrapToken → BootstrapToken}

theorem createCluster_eq_ok (h : s.createCluster cluster = .ok s') :
    cluster.id ∉ s.clusters ∧ s' = { s with clusters := s.clusters.insert cluster.id cluster } := by
  unfold createCluster at h
  split at h
  · cases h
  next hnot => exact ⟨hnot, (Except.ok.inj h).symm⟩

theorem mem_of_createCluster_eq_error
    (h : s.createCluster cluster = .error err) : cluster.id ∈ s.clusters := by
  unfold createCluster at h
  split at h
  next hmem => exact hmem
  · cases h

def updateToken (s : Storage) (ref : String) (mutator : BootstrapToken → BootstrapToken) :
    Except StorageErr Storage :=
  match s.tokens.lookup ref with
  | none => .error errNotFound
  | some token => .ok { s with tokens := s.tokens.insert ref (mutator token) }

theorem updateToken_eq_ok (h : s.updateToken ref mutator = .ok s') :
    s'.clusters = s.clusters ∧ s'.keyrings = s.keyrings := by
  unfold updateToken at h
  split at h
  · cases h
  · obtain rfl := Except.ok.inj h
    exact ⟨rfl, rfl⟩

theorem not_mem_of_updateToken_eq_error
    (h : s.updateToken ref mutator = .error err) : ref ∉ s.tokens := by
  unfold updateToken at h
  split at h
  next hnone => exact AList.lookup_eq_none.mp hnone
  · cases h

/-- `Put` of the keyring store for a cluster. -/
def putKeyring (s : Storage) (ref : String) (kr : Keyring) : Storage :=
  { s with keyrings := s.keyrings.insert ref kr }

end Storage

/-- What becomes of a storage operation: it is carried out, it fails without effect,
    or an error is reported although it has taken effect. -/
inductive Fault where
  | ok
  | lost (err : StorageErr)
  | unacked (err : StorageErr)

namespace Fault

def read {α : Type} (r : Except StorageErr α) : Fault → Except StorageErr α
  | ok => r
  | lost err | unacked err => .error err

def write (s : Storage) (r : Except StorageErr Storage) : Fault → Storage × Except StorageErr Unit
  | lost err => (s, .error err)
  | ok =>
    match r with
    | .ok s' => (s', .ok ())
    | .error err => (s, .error err)
  | unacked err =>
    match r with
    | .ok s' => (s', .error err)
    | .error _ => (s, .error err)

def TakesEffect : Fault → Prop
  | lost _ => False
  | ok | unacked _ => True

instance (f : Fault) : Decidable f.TakesEffect :=
  match f with
  | lost _ => inferInstanceAs (Decidable False)
  | ok | unacked _ => inferInstanceAs (Decidable True)

theorem write_cases (s : Storage) (r : Except StorageErr Storage) (f : Fault) :
    (∃ s', r = .ok s' ∧ f = ok ∧ f.write s r = (s', .ok ())) ∨
      (∃ err, ((∃ e, r = .error e) ∨ ¬f.TakesEffect) ∧ f.write s r = (s, .error err)) ∨
      ∃ s' err, r = .ok s' ∧ f.TakesEffect ∧ f ≠ ok ∧ f.write s r = (s', .error err) := by
  cases f with
  | ok =>
    cases r with
    | ok s' => exact .inl ⟨s', rfl, rfl, rfl⟩
    | error err => exact .inr (.inl ⟨err, .inl ⟨err, rfl⟩, rfl⟩)
  | lost err => exact .inr (.inl ⟨err, .inr id, rfl⟩)
  | unacked err =>
    cases r with
    | ok s' => exact .inr (.inr ⟨s', err, rfl, trivial, by simp, rfl⟩)
    | error e => exact .inr (.inl ⟨err, .inl ⟨e, rfl⟩, rfl⟩)

end Fault

/-! ## The call -/

def nameLabel : String := "opni.io/name"

def agentVersion : String := "opni.io/agent-version"

def version2 : String := "v2"

def newClusterLabels (tokenLabels : GoMap String String) (friendlyName : Option String) :
    GoMap String String :=
  let labels := (tokenLabels.erase nameLabel).insert agentVersion version2
  match friendlyName with
  | none => labels
  | some name => labels.insert nameLabel name

/-- `NewIncrementUsageCountMutator`. -/
def incrementUsageCount (token : BootstrapToken) : BootstrapToken :=
  { token with usageCount := token.usageCount + 1 }

/-- How far a call of `Auth` has come, with what it still needs. -/
inductive AuthState where
  | started
  /-- `GetToken` has succeeded and the request is valid. -/
  | authorized (token : Token) (bootstrapToken : BootstrapToken)
  /-- `GetCluster` has found nothing, and the keyring has been derived. -/
  | absent (token : Token) (bootstrapToken : BootstrapToken) (kr : Keyring)
  /-- `CreateCluster` has succeeded. -/
  | created (token : Token) (kr : Keyring)
  /-- `UpdateToken` has succeeded. -/
  | counted (kr : Keyring)
  | returned (result : Except AuthFailure Bytes)

section Auth

variable {lib : BootstrapLib} (call : AuthCall lib) (token : Token)

/-- From the token that the call presents to the answer of `GetToken`. -/
def authorize : Except StorageErr BootstrapToken → AuthState
  | .error err =>
    if err.notFound then .returned (failWith .permissionDenied "PermissionDenied")
    else .returned (failWith .unavailable "Unavailable")
  | .ok bootstrapToken =>
    -- only after this point are the errors useful ones
    match call.req.validate with
    | .error msg => .returned (failWith .invalidArgument msg)
    | .ok () => .authorized token bootstrapToken

variable (bootstrapToken : BootstrapToken)

/-- From the answer of `GetCluster`. -/
def deriveKeys :
    Except StorageErr Cluster → AuthState
  | .ok cluster =>
    .returned (failWith .alreadyExists ("cluster " ++ cluster.id ++ " already exists"))
  | .error err =>
    if err.notFound then
      match call.keyring with
      | .error msg => .returned (failWith .invalidArgument msg)
      | .ok kr => .absent token bootstrapToken kr
    else .returned (failWith .unavailable err.text)

def newCluster : Cluster where
  id := call.req.clientId
  data := newClusterLabels bootstrapToken.labels call.req.friendlyName

/-- From the answer of `CreateCluster`. -/
def afterCreate (kr : Keyring) : Except StorageErr Unit → AuthState
  | .error err => .returned (failWith .internal ("error creating cluster: " ++ err.text))
  | .ok () => .created token kr

/-- From the answer of `UpdateToken`. -/
def afterCount (kr : Keyring) : Except StorageErr Unit → AuthState
  | .error err => .returned (failWith .internal ("error incrementing usage count: " ++ err.text))
  | .ok () => .counted kr

def afterPut : Except StorageErr Unit → AuthState
  | .error err => .returned (failWith .internal ("error storing keyring: " ++ err.text))
  | .ok () => .returned (.ok call.ekp.publicKey)

/-- The next storage operation of a call, and what the call makes of its answer. -/
def AuthState.next (f : Fault) (s : Storage) : AuthState → Storage × AuthState
  | started =>
    match call.token with
    | .error err => (s, returned (.error err))
    | .ok token => (s, authorize call token (f.read (s.getToken token.hexID)))
  | authorized token bootstrapToken =>
    (s, deriveKeys call token bootstrapToken (f.read (s.getCluster call.req.clientId)))
  | absent token bootstrapToken kr =>
    (f.write s (s.createCluster (newCluster call bootstrapToken))).map id (afterCreate token kr)
  | created token kr =>
    (f.write s (s.updateToken token.hexID incrementUsageCount)).map id (afterCount kr)
  | counted kr => (f.write s (.ok (s.putKeyring call.req.clientId kr))).map id (afterPut call)
  | returned result => (s, returned result)

structure AuthFaults where
  getToken : Fault := .ok
  getCluster : Fault := .ok
  createCluster : Fault := .ok
  updateToken : Fault := .ok
  putKeyring : Fault := .ok

/-- `Auth`, when nothing else happens on the storage during the call. -/
def auth (faults : AuthFaults) (s : Storage) : Storage × Except AuthFailure Bytes :=
  match call.token with
  | .error err => (s, .error err)
  | .ok token =>
    match faults.getToken.read (s.getToken token.hexID) with
    | .error err =>
      if err.notFound then (s, failWith .permissionDenied "PermissionDenied")
      else (s, failWith .unavailable "Unavailable")
    | .ok bootstrapToken =>
      match call.req.validate with
      | .error msg => (s, failWith .invalidArgument msg)
      | .ok () =>
        match faults.getCluster.read (s.getCluster call.req.clientId) with
        | .ok cluster =>
          (s, failWith .alreadyExists ("cluster " ++ cluster.id ++ " already exists"))
        | .error err =>
          if err.notFound then
            match call.keyring with
            | .error msg => (s, failWith .invalidArgument msg)
            | .ok kr => register faults token bootstrapToken kr s
          else (s, failWith .unavailable err.text)
where
  /-- The writes. -/
  register (faults : AuthFaults) (token : Token) (bootstrapToken : BootstrapToken) (kr : Keyring)
      (s : Storage) : Storage × Except AuthFailure Bytes :=
    match faults.createCluster.write s (s.createCluster (newCluster call bootstrapToken)) with
    | (s, .error err) => (s, failWith .internal ("error creating cluster: " ++ err.text))
    | (s, .ok ()) =>
      match faults.updateToken.write s (s.updateToken token.hexID incrementUsageCount) with
      | (s, .error err) => (s, failWith .internal ("error incrementing usage count: " ++ err.text))
      | (s, .ok ()) =>
        match faults.putKeyring.write s (.ok (s.putKeyring call.req.clientId kr)) with
        | (s, .error err) => (s, failWith .internal ("error storing keyring: " ++ err.text))
        | (s, .ok ()) => (s, .ok call.ekp.publicKey)

end Auth

end Opni.Bootstrap
