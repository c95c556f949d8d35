/-
  Opni.Auth.Cluster

  Stream authentication of agents (`pkg/auth/cluster/cluster.go`): the client
  answers the challenge of the server with a MAC header, and `VerifyKeyring`
  looks for the key it was made with.

  Cluster ids are byte strings.  A keyring store is a function from ids to
  keyrings, `none` where `Get` fails.
-/

import Opni.Auth.Header
import Opni.Auth.Keyring

namespace Opni.Auth

open Lib

structure AuthLibs where
  uuid : UuidLib
  hash : KeyedHash

/-- The stores of `ClusterMiddleware`. -/
structure ClusterMiddleware where
  keyringStore : Bytes → Option Keyring
  fakeKeyring : Option Keyring

section Functions

variable (lib : AuthLibs)

/-- The callback that `VerifyKeyring` runs on the shared keys.  Being authorized
    is having found keys, so the flag of the source is left out. -/
def checkKeys (mac clusterID : Bytes) (expectedNonce : UUID) (msgBody : Bytes)
    (found : Option SharedKeys) (shared : SharedKeys) : Option SharedKeys :=
  match verify lib.hash mac clusterID expectedNonce msgBody shared.clientKey with
  -- keys that verify replace those found before
  | .ok () => some shared
  | .error _ => found

def verifyKeyring (m : ClusterMiddleware) (authHeader : String) (expectedNonce : UUID)
    (msgBody : Bytes) : Except Status (Bytes × SharedKeys) :=
  match decodeAuthHeader lib.uuid authHeader with
  | .error _ => .error ⟨.invalidArgument, "InvalidArgument"⟩
  | .ok (clusterID, headerNonce, mac) =>
    -- a header for another challenge is refused before any key is looked at
    if headerNonce ≠ expectedNonce then .error ⟨.unauthenticated, "Unauthenticated"⟩
    else match m.keyringStore clusterID with
      | some kr =>
        match kr.tryShared (checkKeys lib mac clusterID expectedNonce msgBody) none with
        | (false, _) => .error ⟨.internal, "Internal"⟩
        | (true, none) => .error ⟨.unauthenticated, "Unauthenticated"⟩
        | (true, some sharedKeys) => .ok (clusterID, sharedKeys)
      | none =>
        -- the work on the fake keyring only takes the same time
        match m.fakeKeyring with
        | none => .error ⟨.internal, "Internal"⟩
        | some _ => .error ⟨.unauthenticated, "Unauthenticated"⟩

/-- The authorization that `NewClientStreamInterceptor` sends, given the values
    of the challenge header. -/
def clientAuthorization (id : Bytes) (sharedKeys : SharedKeys) (challenge : List String)
    (method : Bytes) : Except Status String :=
  match challenge with
  | [challenge] =>
    match lib.uuid.parse challenge with
    | .error _ => .error ⟨.internal, "server sent an invalid challenge header"⟩
    | .ok nonce =>
      match new512 lib.hash id nonce method sharedKeys.clientKey with
      | .error err => .error ⟨.unknown, err⟩
      | .ok mac =>
        match encodeAuthHeader lib.uuid id nonce mac with
        | .error err => .error ⟨.unknown, err⟩
        | .ok authHeader => .ok authHeader
  | _ => .error ⟨.internal, "server did not send a challenge header"⟩

end Functions

/-! ## What is accepted -/

section Accepted

variable {lib : AuthLibs} {m : ClusterMiddleware} {nonce : UUID} {method : Bytes} {id : Bytes}
  {keys : SharedKeys} {header : String}

theorem foldl_checkKeys (mac id : Bytes) (keys : List SharedKeys) :
    keys.foldl (checkKeys lib mac id nonce method) none =
      (keys.filter fun k => new512 lib.hash id nonce method k.clientKey = .ok mac).getLast? := by
  induction keys using List.reverseRec with
  | nil => rfl
  | append_singleton keys k ih =>
    -- the last keys decide if they verify, the ones before them otherwise
    rw [List.foldl_append, List.foldl_cons, List.foldl_nil, ih, checkKeys, List.filter_append]
    cases hverify : verify lib.hash mac id nonce method k.clientKey with
    | ok =>
      have hmac := verify_eq_ok_iff.mp hverify
      simp [hmac]
    | error err =>
      have hmac : new512 lib.hash id nonce method k.clientKey ≠ .ok mac := by
        rw [Ne, ← verify_eq_ok_iff, hverify]
        simp
      simp [hmac]

theorem verifyKeyring_eq_ok_iff :
    verifyKeyring lib m header nonce method = .ok (id, keys) ↔
      ∃ mac kr, decodeAuthHeader lib.uuid header = .ok (id, nonce, mac) ∧
        m.keyringStore id = some kr ∧
        (kr.sharedKeys.filter fun k =>
          new512 lib.hash id nonce method k.clientKey = .ok mac).getLast? = some keys := by
  constructor
  · fun_cases verifyKeyring lib m header nonce method with
    | case5 clusterID headerNonce mac hdecode hnonce kr hstore sharedKeys htry =>
      rintro ⟨⟩
      obtain rfl := not_not.mp hnonce
      rw [Keyring.tryShared_eq, foldl_checkKeys] at htry
      exact ⟨mac, kr, hdecode, hstore, (Prod.mk.inj htry).2⟩
    | _ => exact nofun
  · rintro ⟨mac, kr, hdecode, hstore, hlast⟩
    unfold verifyKeyring
    -- `Try` reports that there are shared keys
    have hne : kr.sharedKeys ≠ [] := by
      rintro hnil
      rw [hnil] at hlast
      cases hlast
    simp only [hdecode, hstore, Keyring.tryShared_eq, foldl_checkKeys, hlast]
    simp [hne]

theorem clientAuthorization_eq_ok (hid : id ≠ []) (hnonce : nonce.IsV4)
    (h : clientAuthorization lib id keys [lib.uuid.text nonce] method = .ok header) :
    ∃ mac, new512 lib.hash id nonce method keys.clientKey = .ok mac ∧
      decodeAuthHeader lib.uuid header = .ok (id, nonce, mac) := by
  simp only [clientAuthorization, lib.uuid.parse_text] at h
  cases hmac : new512 lib.hash id nonce method keys.clientKey with
  | error err => simp [hmac] at h
  | ok mac =>
    have hne : mac ≠ [] := by
      unfold new512 at hmac
      split at hmac
      · cases hmac
      · obtain rfl := Except.ok.inj hmac
        exact lib.hash.sum_ne_nil _ _
    obtain ⟨header', hencode, hdecode⟩ := decodeAuthHeader_encodeAuthHeader lib.uuid hid hnonce hne
    simp only [hmac, hencode] at h
    cases h
    exact ⟨mac, rfl, hdecode⟩

theorem exists_clientAuthorization_iff (hnonce : nonce.IsV4) :
    (∃ header, clientAuthorization lib id keys [lib.uuid.text nonce] method = .ok header) ↔
      keys.clientKey.length ≤ 64 := by
  simp only [clientAuthorization, lib.uuid.parse_text, new512, encodeAuthHeader]
  by_cases hlen : keys.clientKey.length > 64
  · simp [hlen]
  · simp [hlen, hnonce, Nat.not_lt.mp hlen]

end Accepted

/-- Stream authentication is sound and complete.  For a challenge with a v4 nonce,
    the header of a client with an id and keys is accepted exactly when the
    keyring of the id has shared keys with the same client key, and the last of
    them are returned.  Any header that is accepted carries the returned id, the
    nonce of the server, and the MAC under the client key of the returned keys,
    which are in the keyring of the id. -/
theorem stream_authentication (lib : AuthLibs) (m : ClusterMiddleware) (method : Bytes)
    (nonce : { u : UUID // u.IsV4 }) :
    (∀ (id : { b : Bytes // b ≠ [] }) (keys : SharedKeys),
      ((∃ header, clientAuthorization lib id keys [lib.uuid.text nonce] method = .ok header) ↔
        keys.clientKey.length ≤ 64) ∧
      ∀ header, clientAuthorization lib id keys [lib.uuid.text nonce] method = .ok header →
        ∀ id' keys', verifyKeyring lib m header nonce method = .ok (id', keys') ↔
          id' = id ∧ ∃ kr, m.keyringStore id = some kr ∧
            (kr.sharedKeys.filter (·.clientKey = keys.clientKey)).getLast? = some keys') ∧
    ∀ header id keys, verifyKeyring lib m header nonce method = .ok (id, keys) →
      ∃ mac kr, decodeAuthHeader lib.uuid header = .ok (id, nonce, mac) ∧
        new512 lib.hash id nonce method keys.clientKey = .ok mac ∧
        m.keyringStore id = some kr ∧ keys ∈ kr.sharedKeys := by
  refine ⟨fun id keys => ⟨exists_clientAuthorization_iff nonce.2, ?_⟩, ?_⟩
  · intro header hheader id' keys'
    obtain ⟨mac, hmac, hdecode⟩ := clientAuthorization_eq_ok id.2 nonce.2 hheader
    -- a stored key makes the same MAC only if it is the client's key
    have hfilter : ∀ l : List SharedKeys,
        (l.filter fun k => new512 lib.hash id nonce method k.clientKey = .ok mac) =
          l.filter (·.clientKey = keys.clientKey) := by
      intro l
      refine List.filter_congr fun k _ => decide_eq_decide.mpr ?_
      rw [← verify_eq_ok_iff, verify_new512_iff hmac]
    rw [verifyKeyring_eq_ok_iff]
    constructor
    · rintro ⟨mac', kr, hdecode', hstore, hlast⟩
      obtain ⟨rfl, hrest⟩ := Prod.mk.inj (Except.ok.inj (hdecode'.symm.trans hdecode))
      obtain rfl := (Prod.mk.inj hrest).2
      exact ⟨rfl, kr, hstore, hfilter _ ▸ hlast⟩
    · rintro ⟨rfl, kr, hstore, hlast⟩
      exact ⟨mac, kr, hdecode, hstore, (hfilter _).symm ▸ hlast⟩
  · intro header id keys haccepted
    obtain ⟨mac, kr, hdecode, hstore, hlast⟩ := verifyKeyring_eq_ok_iff.mp haccepted
    have hmem := List.mem_of_getLast? hlast
    obtain ⟨hkeys, hmac⟩ := List.mem_filter.mp hmem
    exact ⟨mac, kr, hdecode, of_decide_eq_true hmac, hstore, hkeys⟩

/-! ## Keys that share the client key -/

noncomputable def hexUuid : UuidLib where
  text u := hexEncode u.toList
  parse s := @dite _ (∃ u : UUID, hexEncode u.toList = s) (Classical.propDecidable _)
    (fun h => .ok h.choose) fun _ => .error "invalid UUID"
  parse_text u := by
    have h : ∃ u' : UUID, hexEncode u'.toList = hexEncode u.toList := ⟨u, rfl⟩
    have heq : h.choose = u := Vector.toList_inj.mp (hexEncode_injective h.choose_spec)
    rw [dif_pos h, heq]
  text_chars u c hc := by
    have hne : u.toList ≠ [] := by
      intro hnil
      have hlen := congrArg List.length hnil
      simp at hlen
    have hdash : "0123456789abcdef-".toList = "0123456789abcdef".toList ++ ['-'] := by decide
    rw [hdash]
    exact List.mem_append_left _ ((isHex_hexEncode hne).2 c hc)

/-- A function that is injective in both arguments: the length of the key, the
    key and the message. -/
def framedHash : KeyedHash where
  sum key msg := List.replicate key.length 1 ++ 0 :: (key ++ msg)
  sum_ne_nil key msg := by simp
  injective := by
    -- the zero byte ends the length, which says where the key ends
    have hlength : ∀ {n n' : Nat} {r r' : Bytes},
        List.replicate n 1 ++ 0 :: r = List.replicate n' 1 ++ 0 :: r' → n = n' ∧ r = r' := by
      intro n
      induction n with
      | zero =>
        intro n' r r' h
        cases n' with
        | zero => exact ⟨rfl, by simpa using h⟩
        | succ n' => exact absurd h (by simp [List.replicate_succ])
      | succ n ih =>
        intro n' r r' h
        cases n' with
        | zero => exact absurd h (by simp [List.replicate_succ])
        | succ n' =>
          obtain ⟨rfl, rfl⟩ := ih (List.cons.inj h).2
          exact ⟨rfl, rfl⟩
    intro key msg key' msg' h
    obtain ⟨hlen, hrest⟩ := hlength h
    exact List.append_inj hrest hlen

noncomputable def sampleLibs : AuthLibs := ⟨hexUuid, framedHash⟩

def sampleNonce : { u : UUID // u.IsV4 } :=
  ⟨#v[0, 0, 0, 0, 0, 0, 0x40, 0, 0x80, 0, 0, 0, 0, 0, 0, 0], by decide⟩

def sampleKeys (serverKey : Bytes) : SharedKeys := ⟨[1], serverKey⟩

/-- A store whose keyring for every id is merged from two keyrings that share the
    client key. -/
def mergedStore : ClusterMiddleware where
  keyringStore _ := some (Keyring.merge (Scheduler.inOrder _) (Scheduler.inOrder _)
    (Keyring.new [.sharedKeys (sampleKeys [2])]) (Keyring.new [.sharedKeys (sampleKeys [3])]))
  fakeKeyring := none

/-- A client whose keys are stored is accepted, but the keys that are returned are
    others, with the same client key. -/
theorem merged_keyring_returns_other_keys :
    ∃ header kr, clientAuthorization sampleLibs [7] (sampleKeys [2])
        [sampleLibs.uuid.text sampleNonce] [] = .ok header ∧
      mergedStore.keyringStore [7] = some kr ∧ sampleKeys [2] ∈ kr.sharedKeys ∧
      verifyKeyring sampleLibs mergedStore header sampleNonce [] = .ok ([7], sampleKeys [3]) ∧
      sampleKeys [3] ≠ sampleKeys [2] := by
  have hsent : ∃ header, clientAuthorization sampleLibs [7] (sampleKeys [2])
      [sampleLibs.uuid.text sampleNonce] [] = .ok header :=
    (exists_clientAuthorization_iff sampleNonce.2).mpr (by decide)
  obtain ⟨header, hheader⟩ := hsent
  obtain ⟨mac, hmac, hdecode⟩ := clientAuthorization_eq_ok (by decide) sampleNonce.2 hheader
  have hkeys : ∀ kr, mergedStore.keyringStore [7] = some kr →
      kr.sharedKeys = [sampleKeys [2], sampleKeys [3]] := by
    intro kr hkr
    cases hkr
    rfl
  refine ⟨header, _, hheader, rfl, by rw [hkeys _ rfl]; simp, ?_, by decide⟩
  refine verifyKeyring_eq_ok_iff.mpr ⟨mac, _, hdecode, rfl, ?_⟩
  have hboth : ∀ serverKey, new512 sampleLibs.hash [7] sampleNonce []
      (sampleKeys serverKey).clientKey = .ok mac := fun _ => hmac
  rw [hkeys _ rfl]
  simp [hboth]

end Opni.Auth
