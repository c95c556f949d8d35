/-
  Opni.Storage.Tokens

  The token stores: `CreateToken`, `DeleteToken`, `GetToken` and `ListTokens`
  of the etcd, the JetStream and the CRD backend
  (`pkg/storage/*/token_store.go`).

  Times and times to live are in nanoseconds; JetStream and the CRD store
  count in whole seconds.  How long etcd keeps a lease, and what it says is
  left of it, is the server's affair (`LeaseServer`).
-/

import Opni.Storage.Updates

namespace Opni.Storage

open Lib Lib.OptimisticUpdate

/-! ## Tokens -/

structure TokenFields (δ : Type) where
  tokenID : String
  rest : δ

abbrev Token (δ : Type) := BootstrapToken (TokenFields δ)

/-- An id that `NewToken` has drawn. -/
abbrev TokenId := { id : String // IsHex id }

/-- The errors of the token stores.  `errors.Is(err, storage.ErrNotFound)` holds of `notFound`
    alone. -/
inductive TokenErr where
  | notFound
  | other (msg : String)
deriving DecidableEq

variable {δ : Type} {now : Int} {t : StampedToken δ}

/-- `Time.Unix`, of a time in nanoseconds. -/
def unix (t : Int) : Int := t / 1000000000

/-- `int64(ttl.Seconds())`. -/
def seconds (ttl : Int) : Int := ttl.tdiv 1000000000

/-- The token that the JetStream and the CRD store create. -/
def newToken (id : String) (ttl : Int) (rest : δ) : Token δ :=
  { data := ⟨id, rest⟩, leaseID := -1, ttl := seconds ttl }

def StampedToken.expiry (t : StampedToken δ) : Int := t.created + t.token.ttl

theorem ttl_patchTTL_pos : 0 < (patchTTL now t).ttl ↔ now < t.expiry := by
  unfold patchTTL StampedToken.expiry
  dsimp only
  split <;> omega

theorem ttl_patchTTL_of_pos (h : 0 < (patchTTL now t).ttl) :
    (patchTTL now t).ttl = t.expiry - now := by
  unfold patchTTL StampedToken.expiry at *
  dsimp only at h ⊢
  split at h <;> omega

/-! ## Tables of tokens -/

/-- How a backend lays out its tokens: the keys that it makes, the ids for which they differ, and
    the token that an entry is about. -/
structure TokenLayout (κ ε δ : Type) where
  key : String → κ
  OwnKey : String → Prop
  key_inj : ∀ {id id'}, OwnKey id → OwnKey id' → key id = key id' → id = id'
  fields : ε → TokenFields δ

/-- Entries under the keys of their tokens: a bucket, the resources of a namespace, or the keys
    of etcd. -/
structure TokenTable {κ ε δ : Type} [DecidableEq κ] (L : TokenLayout κ ε δ) where
  kv : GoMap κ ε
  named : ∀ k v, kv.lookup k = some v →
    L.OwnKey (L.fields v).tokenID ∧ k = L.key (L.fields v).tokenID

namespace TokenTable

variable {κ ε : Type} [DecidableEq κ] {L : TokenLayout κ ε δ}

def empty : TokenTable L := ⟨∅, fun _ _ h => absurd h (by simp)⟩

def insert (s : TokenTable L) (v : ε) (hv : L.OwnKey (L.fields v).tokenID) : TokenTable L where
  kv := s.kv.insert (L.key (L.fields v).tokenID) v
  named k v' h := by
    rcases GoMap.lookup_insert_eq_some.mp h with ⟨rfl, rfl⟩ | ⟨-, h⟩
    · exact ⟨hv, rfl⟩
    · exact s.named k v' h

def erase (s : TokenTable L) (id : String) : TokenTable L where
  kv := s.kv.erase (L.key id)
  named k v h := s.named k v (GoMap.lookup_erase_eq_some.mp h).2

end TokenTable

abbrev StampedEntry (δ : Type) := Versioned (StampedToken (TokenFields δ))

/-- Tokens with the times they were stored, under their ids. -/
def stampedLayout (δ : Type) : TokenLayout String (StampedEntry δ) δ where
  key id := id
  OwnKey _ := True
  key_inj _ _ h := h
  fields v := v.value.token.data

abbrev StampedTokens (δ : Type) := TokenTable (stampedLayout δ)

/-- `garbageCollectToken`: the token is removed some time after a call has found it expired. -/
def StampedTokens.collect (now : Int) (id : String) (s : StampedTokens δ) : StampedTokens δ :=
  match s.kv.lookup id with
  | none => s
  | some v => if (patchTTL (unix now) v.value).ttl ≤ 0 then s.erase id else s

/-! ## JetStream -/

namespace JetStreamTokens

/-- What `GetToken` makes of the entry of a token. -/
def readEntry (now : Int) (entry : Option (Versioned (StampedToken δ))) :
    Except TokenErr (BootstrapToken δ) :=
  match entry with
  | none => .error .notFound
  | some v =>
    let token := patchTTL now v.value
    if token.ttl ≤ 0 then .error .notFound
    else .ok { token with resourceVersion := toString v.rev }

variable (keyValid : String → Bool)

/-- `CreateToken`; the entry gets the revision `rev`. -/
def createToken (now : Int) (rev : Nat) (id : String) (ttl : Int) (rest : δ)
    (s : StampedTokens δ) : Except TokenErr (StampedTokens δ) :=
  if !keyValid id then .error (.other "failed to create token: nats: invalid key")
  else if id ∈ s.kv then .error (.other "failed to create token: nats: key exists")
  else .ok (s.insert ⟨⟨newToken id ttl rest, unix now⟩, rev⟩ trivial)

def getToken (now : Int) (id : String) (s : StampedTokens δ) : Except TokenErr (Token δ) :=
  if !keyValid id then .error (.other "failed to get token: nats: invalid key")
  else readEntry (unix now) (s.kv.lookup id)

def deleteToken (now : Int) (id : String) (s : StampedTokens δ) :
    Except TokenErr (StampedTokens δ) :=
  match getToken keyValid now id s with
  | .error err => .error err
  | .ok _ => .ok (s.erase id)

/-- `ListTokens`; a token is never nil. -/
def listTokens (order : Scheduler String) (now : Int) (s : StampedTokens δ) :
    List (Option (Token δ)) :=
  ((order.order s.kv.keys).filterMap s.kv.lookup).filterMap fun v =>
    let token := patchTTL (unix now) v.value
    if token.ttl ≤ 0 then none
    else some (some { token with resourceVersion := toString v.rev })

end JetStreamTokens

/-! ## Custom resources -/

namespace CRDTokens

variable (nameError : String → Option String)

/-- `CreateToken`; the API server sets the creation timestamp and the resource version. -/
def createToken (now : Int) (rev : Nat) (id : String) (ttl : Int) (rest : δ)
    (s : StampedTokens δ) : Except TokenErr (StampedTokens δ) :=
  match nameError id with
  | some err => .error (.other err)
  | none =>
    if id ∈ s.kv then
      .error (.other ("bootstraptokens.core.opni.io \"" ++ id ++ "\" already exists"))
    else .ok (s.insert ⟨⟨newToken id ttl rest, unix now⟩, rev⟩ trivial)

/-- `DeleteToken`.  Whether the token has expired is not looked at. -/
def deleteToken (id : String) (s : StampedTokens δ) : Except TokenErr (StampedTokens δ) :=
  match nameError id with
  | some err => .error (.other err)
  | none => if id ∈ s.kv then .ok (s.erase id) else .error .notFound

def getToken (now : Int) (id : String) (s : StampedTokens δ) : Except TokenErr (Token δ) :=
  match nameError id with
  | some err => .error (.other err)
  | none =>
    match s.kv.lookup id with
    | none => .error .notFound
    | some v =>
      let token := patchTTL (unix now) v.value
      if token.ttl ≤ 0 then
        -- a status error of the API machinery, not `storage.ErrNotFound`
        .error (.other ("BootstrapToken.monitoring.opni.io \"" ++ id ++ "\" not found"))
      else .ok { token with resourceVersion := toString v.rev }

/-- `ListTokens`.  The list has a place for every resource. -/
def listTokens (order : Scheduler String) (now : Int) (s : StampedTokens δ) :
    List (Option (Token δ)) :=
  ((order.order s.kv.keys).filterMap s.kv.lookup).map fun v =>
    let token := patchTTL (unix now) v.value
    -- the place of an expired token is left as `make` has made it
    if token.ttl ≤ 0 then none else some token

end CRDTokens

/-! ## etcd -/

def tokensKey : String := "tokens"

def etcdTokenKey (keyPrefix id : String) : Path := joinPath [keyPrefix, tokensKey, id]

/-- What the etcd server does with its leases: when a lease runs out, and with it the keys that
    were put with it, and what `TimeToLive` says is left of it. -/
structure LeaseServer where
  runsOut : Int → Int
  timeToLive : Int → Int → Int

theorem plainName_tokensKey : PlainName tokensKey := by decide

theorem eq_of_etcdTokenKey {keyPrefix id id' : String} (hid : PlainName id) (hid' : PlainName id')
    (h : etcdTokenKey keyPrefix id = etcdTokenKey keyPrefix id') : id = id' := by
  rw [etcdTokenKey, etcdTokenKey, joinPath_plain plainName_tokensKey hid,
    joinPath_plain plainName_tokensKey hid'] at h
  simpa using h

abbrev EtcdToken (δ : Type) := LeasedToken (TokenFields δ)

def etcdLayout (keyPrefix : String) (δ : Type) : TokenLayout Path (EtcdToken δ) δ where
  key := etcdTokenKey keyPrefix
  OwnKey := PlainName
  key_inj := eq_of_etcdTokenKey
  fields t := t.token.data

abbrev EtcdTokens (keyPrefix : String) (δ : Type) := TokenTable (etcdLayout keyPrefix δ)

namespace EtcdTokens

variable {keyPrefix : String}

/-- `CreateToken`: a lease is granted, and the token put with it. -/
def createToken (lease : Nat) (id : TokenId) (rest : δ) (e : EtcdTokens keyPrefix δ) :
    EtcdTokens keyPrefix δ :=
  e.insert ⟨{ data := ⟨id.1, rest⟩, leaseID := lease, ttl := 0 }, lease⟩ id.2.plainName

variable (server : LeaseServer) (now : Int)

/-- What is under a key; when the lease has run out there is nothing. -/
def present (e : EtcdTokens keyPrefix δ) (p : Path) : Option (EtcdToken δ) :=
  (e.kv.lookup p).filter fun t => decide (now < server.runsOut t.lease)

/-- The token of a key, with what `TimeToLive` says about its lease. -/
def readToken (t : EtcdToken δ) : Token δ :=
  addLeaseMetadata t (server.timeToLive t.lease now)

def getToken (id : String) (e : EtcdTokens keyPrefix δ) : Except TokenErr (Token δ) :=
  match e.present server now (etcdTokenKey keyPrefix id) with
  | none => .error .notFound
  | some t => .ok (readToken server now t)

/-- `DeleteToken`: the lease goes with the key. -/
def deleteToken (id : String) (e : EtcdTokens keyPrefix δ) :
    Except TokenErr (EtcdTokens keyPrefix δ) :=
  match e.getToken server now id with
  | .error err => .error err
  | .ok _ => .ok (e.erase id)

def listTokens (order : Scheduler Path) (e : EtcdTokens keyPrefix δ) :
    List (Option (Token δ)) :=
  (((order.order e.kv.keys).filter fun p => hasPrefix p.text
    (joinPath [keyPrefix, tokensKey]).text).filterMap (e.present server now)).map
      fun t => some (readToken server now t)

end EtcdTokens

end Opni.Storage
