/-
  Opni.Storage.KeyValue

  The key-value stores of the plugins: the etcd store
  (`pkg/storage/etcd/kv_store.go`), the JetStream store
  (`pkg/storage/jetstream/kv_store.go`), and the store with a prefix over
  either of them (`pkg/storage/kvutil.go`).
-/

import Opni.Lib.Base64
import Opni.Lib.GoStrings

namespace Opni.Storage

open Lib

/-- The errors of the key-value stores: `storage.ErrNotFound`, that of `validateKey`,
    `nats.ErrInvalidKey`, and a value that is not Base64. -/
inductive KeyValueErr where
  | notFound | emptyKey | invalidKey | corruptInput
deriving DecidableEq

/-- `storage.KeyValueStoreT`, over the state of a backend. -/
structure KeyValueStore (σ T : Type) where
  put : String → T → σ → Except KeyValueErr σ
  get : String → σ → Except KeyValueErr T
  delete : String → σ → Except KeyValueErr σ
  listKeys : String → σ → Except KeyValueErr (List String)

/-! ## etcd -/

/-- The keys and the values of etcd, as far as the key-value stores have written them. -/
structure EtcdKeyValues where
  kv : GoMap String String
  encoded : ∀ x text, kv.lookup x = some text → ∃ value, text = Base64.stdEncodeToString value

namespace EtcdKeyValues

def empty : EtcdKeyValues := ⟨∅, fun _ _ h => absurd h (by simp)⟩

def insert (e : EtcdKeyValues) (x : String) (value : Bytes) : EtcdKeyValues where
  kv := e.kv.insert x (Base64.stdEncodeToString value)
  encoded y text h := by
    rcases GoMap.lookup_insert_eq_some.mp h with ⟨-, rfl⟩ | ⟨-, h⟩
    · exact ⟨value, rfl⟩
    · exact e.encoded y text h

def erase (e : EtcdKeyValues) (x : String) : EtcdKeyValues where
  kv := e.kv.erase x
  encoded y text h := e.encoded y text (GoMap.lookup_erase_eq_some.mp h).2

def look (e : EtcdKeyValues) (x : String) : Option Bytes :=
  (e.kv.lookup x).bind Base64.stdDecodeString

end EtcdKeyValues

/-- `path.Join` of the prefix of a store and a key. -/
def etcdKey (keyPrefix key : String) : String := (joinPath [keyPrefix, key]).text

variable (order : Scheduler String)

/-- `genericKeyValueStore`, with the order in which etcd returns keys.  The first test of
    `Put`, `Get` and `Delete` is `validateKey`. -/
def genericKeyValueStore (keyPrefix : String) :
    KeyValueStore EtcdKeyValues Bytes where
  put key value e :=
    if key = "" then .error .emptyKey else .ok (e.insert (etcdKey keyPrefix key) value)
  get key e :=
    if key = "" then .error .emptyKey
    else match e.kv.lookup (etcdKey keyPrefix key) with
      | none => .error .notFound
      | some text =>
        match Base64.stdDecodeString text with
        | none => .error .corruptInput
        | some value => .ok value
  delete key e :=
    if key = "" then .error .emptyKey
    else if etcdKey keyPrefix key ∈ e.kv then .ok (e.erase (etcdKey keyPrefix key))
    else .error .notFound
  listKeys start e := .ok
    (((order.order e.kv.keys).filter (hasPrefix · (etcdKey keyPrefix start))).map
      (trimPrefix · (keyPrefix ++ "/")))

variable (storePrefix ns : String)

/-- The prefix of the store that `EtcdStore.KeyValueStore` returns. -/
def etcdStorePrefix : String :=
  etcdKey (if ns ≠ "" then ns else storePrefix) "kv"

/-- `EtcdStore.KeyValueStore`. -/
def etcdKeyValueStore :
    KeyValueStore EtcdKeyValues Bytes :=
  genericKeyValueStore order (etcdStorePrefix storePrefix ns)

/-! ## JetStream -/

abbrev Buckets := String → GoMap String Bytes

/-- The name of the bucket for a namespace, as `KeyValueStore` and `upsertBucket` make it. -/
def dynamicBucket (bucketPrefix ns : String) : String :=
  bucketPrefix ++ "-" ++ ("dynamic" ++ "-" ++ replaceAll (replaceAll ns '/' '-') '.' '_')

variable (keyValid : String → Bool)

/-- `jetstreamKeyValueStore`, with the order in which `Keys` lists the bucket. -/
def jetStreamKeyValueStore (order : Scheduler String)
    (bucket : String) : KeyValueStore Buckets Bytes where
  put key value b :=
    if !keyValid key then .error .invalidKey
    else .ok (Function.update b bucket ((b bucket).insert key value))
  get key b :=
    if !keyValid key then .error .invalidKey
    else match (b bucket).lookup key with
      | none => .error .notFound
      | some value => .ok value
  delete key b :=
    if !keyValid key then .error .invalidKey
    else if key ∈ b bucket then .ok (Function.update b bucket ((b bucket).erase key))
    else .error .notFound
  -- a bucket without keys is an error of `Keys`, which is an empty list here
  listKeys start b := .ok ((order.order (b bucket).keys).filter (hasPrefix · start))

/-! ## A prefix -/

def newKeyValueStoreWithPrefix {σ T : Type} (base : KeyValueStore σ T) (start : String) :
    KeyValueStore σ T where
  put key := base.put (start ++ key)
  get key := base.get (start ++ key)
  delete key := base.delete (start ++ key)
  listKeys p := base.listKeys (start ++ p)

/-- A namespace, and the prefix of a store over that of the namespace. -/
structure StoreName where
  ns : String
  start : String
deriving DecidableEq

def etcdStores (storePrefix : String) (i : StoreName) :
    KeyValueStore EtcdKeyValues Bytes :=
  newKeyValueStoreWithPrefix (etcdKeyValueStore order storePrefix i.ns) i.start

def jetStreamStores (order : Scheduler String) (bucketPrefix : String)
    (i : StoreName) : KeyValueStore Buckets Bytes :=
  newKeyValueStoreWithPrefix
    (jetStreamKeyValueStore keyValid order (dynamicBucket bucketPrefix i.ns)) i.start

/-! ## Operations -/

inductive KeyValueWrite (T : Type) where
  | put (key : String) (value : T)
  | delete (key : String)

def KeyValueWrite.key {T : Type} : KeyValueWrite T → String
  | .put key _ => key
  | .delete key => key

/-- The state after a write, which stays as it is if the write fails. -/
def KeyValueStore.write {σ T : Type} (s : KeyValueStore σ T) (op : KeyValueWrite T) (st : σ) : σ :=
  let result := match op with
    | .put key value => s.put key value st
    | .delete key => s.delete key st
  match result with
  | .error _ => st
  | .ok st' => st'

/-- The state after writes to several stores of a backend. -/
def writeAll {ι σ T : Type} (stores : ι → KeyValueStore σ T) (st : σ)
    (ops : List (ι × KeyValueWrite T)) : σ :=
  ops.foldl (fun st op => (stores op.1).write op.2 st) st

end Opni.Storage
