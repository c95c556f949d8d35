/-
  Opni.Auth.Keyring

  Keyrings (`pkg/keyring/keyring.go`): keys filed by their type, in the order
  in which they were added.

  A keyring is only built by `New`, which files a key under its own type and
  never leaves a type without keys; the structure carries this.
-/

import Mathlib.Data.Nat.Digits.Defs
import Mathlib.Logic.Equiv.List
import Mathlib.Tactic.DeriveEncodable
import Opni.Lib.GoData

namespace Opni.Auth

open Lib

/-! ## Keys -/

structure SharedKeys where
  clientKey : Bytes
  serverKey : Bytes
deriving DecidableEq

structure PublicKeyPin where
  algorithm : String
  fingerprint : Bytes
deriving DecidableEq

structure EphemeralKey where
  usage : String
  secret : Bytes
  labels : GoMap String String

/-- The types of keys, `allowedKeyTypes`. -/
inductive KeyType where
  | sharedKeys | pkpKey | caCertsKey | ephemeralKey
deriving DecidableEq

inductive Key where
  | sharedKeys (keys : SharedKeys)
  | pkpKey (pinnedKeys : List PublicKeyPin)
  | caCertsKey (caCerts : List Bytes)
  | ephemeralKey (key : EphemeralKey)

namespace Key

/-- `reflect.TypeOf`. -/
def type : Key → KeyType
  | .sharedKeys _ => .sharedKeys
  | .pkpKey _ => .pkpKey
  | .caCertsKey _ => .caCertsKey
  | .ephemeralKey _ => .ephemeralKey

def asShared : Key → Option SharedKeys
  | .sharedKeys keys => some keys
  | _ => none

def asPkp : Key → Option (List PublicKeyPin)
  | .pkpKey pinnedKeys => some pinnedKeys
  | _ => none

def asCaCerts : Key → Option (List Bytes)
  | .caCertsKey caCerts => some caCerts
  | _ => none

end Key

/-! ## Keyrings -/

structure Keyring where
  keys : GoMap KeyType (List Key)
  wellTyped : ∀ t ks, keys.lookup t = some ks → ks ≠ [] ∧ ∀ key ∈ ks, key.type = t

def addKey (m : GoMap KeyType (List Key)) (key : Key) : GoMap KeyType (List Key) :=
  m.insert key.type ((m.lookup key.type).getD [] ++ [key])

theorem lookup_foldl_addKey (keys : List Key) (t : KeyType) :
    (keys.foldl addKey ∅).lookup t =
      if keys.filter (·.type = t) = [] then none else some (keys.filter (·.type = t)) := by
  induction keys using List.reverseRec with
  | nil => simp
  | append_singleton keys key ih =>
    rw [List.foldl_append, List.foldl_cons, List.foldl_nil, addKey, List.filter_append]
    by_cases ht : key.type = t
    · -- the key is appended to the keys of its type
      subst ht
      rw [AList.lookup_insert, ih]
      split
      next hnil => simp [hnil]
      next => simp
    · rw [AList.lookup_insert_ne (Ne.symm ht), ih]
      simp [ht]

namespace Keyring

variable (keys : List Key)

def new : Keyring where
  keys := keys.foldl addKey ∅
  wellTyped t ks h := by
    rw [lookup_foldl_addKey] at h
    split at h
    · exact absurd h (by simp)
    next hne =>
      obtain rfl := Option.some.inj h
      exact ⟨hne, fun key hkey => by simpa using List.of_mem_filter hkey⟩

variable (kr : Keyring)

def ofType (t : KeyType) : List Key := (kr.keys.lookup t).getD []

variable (order : Scheduler KeyType)

/-- The keys that `ForEach` visits, in the order in which the types are met. -/
def forEach (kr : Keyring) : List Key :=
  (order.order kr.keys.keys).flatMap kr.ofType

variable (order order' : Scheduler KeyType)

def merge (kr other : Keyring) : Keyring :=
  new (kr.forEach order ++ other.forEach order')

/-- `Try` with a function of shared keys: whether there are any, and what the
    calls have computed. -/
def tryShared {σ : Type} (fn : σ → SharedKeys → σ) (s : σ) (kr : Keyring) : Bool × σ :=
  match kr.keys.lookup .sharedKeys with
  | none => (false, s)
  -- the callback runs on every key; a success does not end the loop
  | some ks => (true, (ks.filterMap Key.asShared).foldl fn s)

def sharedKeys (kr : Keyring) : List SharedKeys := (kr.ofType .sharedKeys).filterMap Key.asShared

theorem ofType_new (t : KeyType) : (new keys).ofType t = keys.filter (·.type = t) := by
  rw [ofType, new, lookup_foldl_addKey]
  split
  next hnil => rw [hnil, Option.getD_none]
  next => rw [Option.getD_some]

theorem type_of_mem_ofType {kr : Keyring} {t : KeyType} {key : Key} (h : key ∈ kr.ofType t) :
    key.type = t := by
  unfold ofType at h
  cases hlookup : kr.keys.lookup t with
  | none => simp [hlookup] at h
  | some ks =>
    rw [hlookup, Option.getD_some] at h
    exact (kr.wellTyped t ks hlookup).2 key h

theorem filter_ofType (t t' : KeyType) :
    (kr.ofType t').filter (·.type = t) = if t' = t then kr.ofType t' else [] := by
  split
  next ht =>
    refine List.filter_eq_self.mpr fun key hkey => ?_
    simpa [ht] using type_of_mem_ofType hkey
  next ht =>
    refine List.filter_eq_nil_iff.mpr fun key hkey => ?_
    simpa [type_of_mem_ofType hkey] using ht

/-- `ForEach` visits the keys of a type in their order, whenever it comes to the
    type. -/
theorem filter_forEach (kr : Keyring) (t : KeyType) :
    (kr.forEach order).filter (·.type = t) = kr.ofType t := by
  -- each type is met once, and only its own turn contributes
  have hturns : ∀ types : List KeyType, types.Nodup →
      (types.flatMap kr.ofType).filter (·.type = t) = if t ∈ types then kr.ofType t else [] := by
    intro types hnodup
    induction types with
    | nil => rfl
    | cons t' types ih =>
      rw [List.nodup_cons] at hnodup
      rw [List.flatMap_cons, List.filter_append, ih hnodup.2, filter_ofType]
      by_cases ht : t' = t
      · subst ht
        simp [hnodup.1]
      · simp [ht, Ne.symm ht]
  rw [forEach, hturns _ ((order.perm _).nodup_iff.mpr kr.keys.keys_nodup)]
  split
  · rfl
  next hno =>
    -- a type that is not met has no keys
    rw [(order.perm _).mem_iff, ← AList.mem_keys] at hno
    rw [ofType, AList.lookup_eq_none.mpr hno, Option.getD_none]

theorem tryShared_eq {σ : Type} (fn : σ → SharedKeys → σ) (s : σ) (kr : Keyring) :
    kr.tryShared fn s = (decide (kr.sharedKeys ≠ []), kr.sharedKeys.foldl fn s) := by
  rw [tryShared, sharedKeys, ofType]
  cases hlookup : kr.keys.lookup .sharedKeys with
  | none => rfl
  | some ks =>
    -- the list of a type is not empty and has shared keys only
    obtain ⟨hne, htype⟩ := kr.wellTyped _ ks hlookup
    obtain ⟨key, ks, rfl⟩ := List.exists_cons_of_ne_nil hne
    have hkey := htype key (by simp)
    cases key with
    | sharedKeys keys => simp [Key.asShared]
    | pkpKey | caCertsKey | ephemeralKey => simp [Key.type] at hkey

/-! ## Persistence -/

/-- `completeKeyring`, without the ephemeral keys, which are not coded. -/
structure CompleteKeyring where
  sharedKeys : List SharedKeys
  pkpKey : List (List PublicKeyPin)
  caCertsKey : List (List Bytes)

/-- `json.Marshal` and `json.Unmarshal` of a `completeKeyring`. -/
structure KeyringJson where
  marshal : CompleteKeyring → Bytes
  unmarshal : Bytes → Except String CompleteKeyring
  unmarshal_marshal : ∀ complete, unmarshal (marshal complete) = .ok complete

def complete : CompleteKeyring where
  sharedKeys := kr.sharedKeys
  pkpKey := (kr.ofType .pkpKey).filterMap Key.asPkp
  caCertsKey := (kr.ofType .caCertsKey).filterMap Key.asCaCerts

def marshal (json : KeyringJson) (kr : Keyring) : Bytes := json.marshal kr.complete

def unmarshal (json : KeyringJson) (data : Bytes) : Except String Keyring :=
  (json.unmarshal data).map fun complete =>
    new (complete.sharedKeys.map .sharedKeys ++ complete.pkpKey.map .pkpKey ++
      complete.caCertsKey.map .caCertsKey)

/-- The keys of a type are those that are read as keys of the type. -/
theorem map_filterMap_ofType {β : Type} {kr : Keyring} {t : KeyType} {make : β → Key}
    {read : Key → Option β} (h : ∀ key, key.type = t → (read key).map make = some key) :
    ((kr.ofType t).filterMap read).map make = kr.ofType t := by
  rw [List.map_filterMap, List.filterMap_congr fun key hkey => h key (type_of_mem_ofType hkey),
    List.filterMap_some]

variable (json : KeyringJson) (kr : Keyring)

theorem ofType_unmarshal_marshal :
    ∃ kr', unmarshal json (kr.marshal json) = .ok kr' ∧
      ∀ t, kr'.ofType t = if t = .ephemeralKey then [] else kr.ofType t := by
  refine ⟨_, by rw [unmarshal, marshal, json.unmarshal_marshal]; rfl, fun t => ?_⟩
  have hshared : kr.complete.sharedKeys.map .sharedKeys = kr.ofType .sharedKeys :=
    map_filterMap_ofType fun key h => by cases key <;> first | rfl | cases h
  have hpkp : kr.complete.pkpKey.map .pkpKey = kr.ofType .pkpKey :=
    map_filterMap_ofType fun key h => by cases key <;> first | rfl | cases h
  have hca : kr.complete.caCertsKey.map .caCertsKey = kr.ofType .caCertsKey :=
    map_filterMap_ofType fun key h => by cases key <;> first | rfl | cases h
  rw [ofType_new, hshared, hpkp, hca, List.filter_append, List.filter_append, filter_ofType,
    filter_ofType, filter_ofType]
  cases t with
  | sharedKeys | pkpKey | caCertsKey | ephemeralKey => simp

/-- A keyring that is stored and loaded has the keys it had, without the ephemeral ones, on which
    the bytes do not depend.  `Merge` has for each type the keys of the one and then those of the
    other, in whatever order it visits the types, and it is associative. -/
theorem keyring_persists_and_merges :
    (∃ kr', unmarshal json (kr.marshal json) = .ok kr' ∧
      ∀ t, kr'.ofType t = if t = .ephemeralKey then [] else kr.ofType t) ∧
    (∀ other : Keyring, (∀ t ≠ .ephemeralKey, other.ofType t = kr.ofType t) →
      other.marshal json = kr.marshal json) ∧
    ∀ (o₁ o₂ o₃ o₄ o₅ o₆ o₇ o₈ : Scheduler KeyType) (b c : Keyring) (t : KeyType),
      (merge o₁ o₂ kr b).ofType t = kr.ofType t ++ b.ofType t ∧
      (merge o₃ o₄ (merge o₁ o₂ kr b) c).ofType t =
        (merge o₅ o₆ kr (merge o₇ o₈ b c)).ofType t := by
  refine ⟨ofType_unmarshal_marshal json kr, fun other h => ?_, fun _ _ _ _ _ _ _ _ b c t => ?_⟩
  · rw [marshal, marshal, complete, complete, sharedKeys, sharedKeys, h _ (by decide),
      h _ (by decide), h _ (by decide)]
  · simp only [merge, ofType_new, List.filter_append, filter_forEach, List.append_assoc, and_self]

end Keyring

/-! ## A codec -/

instance encodableUInt8 : Encodable UInt8 :=
  .ofEquiv (Fin 256) ⟨UInt8.toFin, UInt8.ofFin, fun _ => rfl, fun _ => rfl⟩

instance encodableChar : Encodable Char :=
  .ofLeftInjection Char.toNat (fun n => some (Char.ofNat n)) fun c => by simp

instance encodableString : Encodable String :=
  .ofEquiv (List Char) ⟨String.toList, String.ofList, fun s => by simp, fun s => by simp⟩

deriving instance Encodable for SharedKeys, PublicKeyPin, Keyring.CompleteKeyring

theorem ofDigits_toNat_ofNat_digits (n : Nat) :
    Nat.ofDigits 256 (((Nat.digits 256 n).map UInt8.ofNat).map UInt8.toNat) = n := by
  have hdigits : ((Nat.digits 256 n).map UInt8.ofNat).map UInt8.toNat = Nat.digits 256 n := by
    rw [List.map_map]
    refine (List.map_congr_left fun d hd => ?_).trans (List.map_id _)
    simpa using Nat.mod_eq_of_lt (Nat.digits_lt_base (by decide) hd)
  rw [hdigits, Nat.ofDigits_digits]

/-- A codec: keyrings are numbered, and the text is the number in bytes. -/
def numberJson : Keyring.KeyringJson where
  marshal complete := (Nat.digits 256 (Encodable.encode complete)).map UInt8.ofNat
  unmarshal data :=
    match Encodable.decode (Nat.ofDigits 256 (data.map UInt8.toNat)) with
    | some complete => .ok complete
    | none => .error "invalid character"
  unmarshal_marshal complete := by
    rw [ofDigits_toNat_ofNat_digits, Encodable.encodek]

/-- The keyring of a bootstrapped agent that also has an ephemeral key. -/
def agentKeyring : Keyring :=
  .new [.ephemeralKey ⟨"usage", [9], ∅⟩, .sharedKeys ⟨[1], [2]⟩, .pkpKey [⟨"sha256", [3]⟩],
    .caCertsKey [[4], [5]], .sharedKeys ⟨[6], [7]⟩]

theorem agentKeyring_persists :
    (agentKeyring.ofType .ephemeralKey).length = 1 ∧
    ∃ kr', Keyring.unmarshal numberJson (agentKeyring.marshal numberJson) = .ok kr' ∧
      kr'.ofType .ephemeralKey = [] ∧
      kr'.ofType .sharedKeys = [.sharedKeys ⟨[1], [2]⟩, .sharedKeys ⟨[6], [7]⟩] ∧
      kr'.ofType .pkpKey = [.pkpKey [⟨"sha256", [3]⟩]] ∧
      kr'.ofType .caCertsKey = [.caCertsKey [[4], [5]]] := by
  obtain ⟨⟨kr', hload, hkeys⟩, -⟩ :=
    Keyring.keyring_persists_and_merges numberJson agentKeyring
  exact ⟨rfl, kr', hload, hkeys _, hkeys _, hkeys _, hkeys _⟩

end Opni.Auth
