/-
  Opni.Storage.Watch

  The watches of clusters: `WatchClusters` of the etcd store, and
  `WatchClusters` and `WatchCluster` of the JetStream store
  (`cluster_store.go` of both).
-/

import Opni.Storage.Updates

namespace Opni.Storage

open Lib Lib.OptimisticUpdate

/-! ## Events -/

inductive WatchEventType where
  | create | update | delete
deriving DecidableEq

structure WatchEvent (δ : Type) where
  eventType : WatchEventType
  current : Option (Cluster δ) := none
  previous : Option (Cluster δ) := none
deriving DecidableEq

variable {δ : Type}

/-- An event has the clusters that its type calls for, and no others. -/
def WatchEvent.WellFormed (e : WatchEvent δ) : Prop :=
  match e.eventType with
  | .create => e.current.isSome ∧ e.previous = none
  | .update => ∃ c p, e.current = some c ∧ e.previous = some p ∧ c.id = p.id
  | .delete => e.previous.isSome ∧ e.current = none

variable (knownClusters : List (Cluster δ))

def knownClusterMap : GoMap String (Cluster δ) :=
  GoMap.ofList Cluster.id id knownClusters

/-! ## The etcd watch -/

structure EtcdKV (δ : Type) where
  value : Cluster δ
  createRevision : Nat
  modRevision : Nat

def withVersion (c : Cluster δ) (rev : Nat) : Cluster δ :=
  { c with resourceVersion := toString rev }

def EtcdKV.cluster (kv : EtcdKV δ) : Cluster δ := withVersion kv.value kv.modRevision

/-- What is sent for a cluster in the store, given the known cluster of its id. -/
def initialEvent (known : Option (Cluster δ)) (cluster : Cluster δ) : Option (WatchEvent δ) :=
  match known with
  | none => some { eventType := .create, current := some cluster }
  | some knownCluster =>
    if knownCluster.resourceVersion ≠ cluster.resourceVersion then
      some { eventType := .update, current := some cluster, previous := some knownCluster }
    else none

variable (kvs : List (EtcdKV δ))

/-- The initial events of `EtcdStore.WatchClusters`. -/
def etcdInitialEvents :
    List (WatchEvent δ) :=
  kvs.filterMap fun kv =>
    initialEvent ((knownClusterMap knownClusters).lookup kv.value.id) kv.cluster

/-- An event of etcd: a put with the new and the previous value, or a delete with the
    previous one.  `PrevKv` is set whenever there was a value. -/
inductive EtcdEvent (δ : Type) where
  | put (kv : EtcdKV δ) (prevKv : Option (EtcdKV δ))
  | delete (prevKv : EtcdKV δ)

/-- `IsCreate` of a put. -/
def EtcdKV.isCreate (kv : EtcdKV δ) : Bool := kv.createRevision = kv.modRevision

/-- What `EtcdStore.WatchClusters` makes of an event. -/
def etcdWatchEvent : EtcdEvent δ → WatchEvent δ
  | .put kv prevKv =>
    if kv.isCreate then
      { eventType := .create, current := some (withVersion kv.value kv.createRevision) }
    else
      { eventType := .update, current := some kv.cluster, previous := prevKv.map EtcdKV.cluster }
  | .delete prevKv => { eventType := .delete, previous := some prevKv.cluster }

/-- `EtcdStore.WatchClusters`: the keys that are listed, then the events. -/
def etcdWatchClusters (events : List (EtcdEvent δ)) : List (WatchEvent δ) :=
  etcdInitialEvents knownClusters kvs ++ events.map etcdWatchEvent

/-! ## The JetStream watches -/

inductive KeyValueOp (δ : Type) where
  | put (value : Cluster δ)
  | delete
  | purge

structure KeyValueEntry (δ : Type) where
  key : String
  revision : Nat
  op : KeyValueOp δ

def translateClusterWatchEvent [Inhabited δ] (update : KeyValueEntry δ) : WatchEvent δ :=
  match update.op with
  | .put cluster => { eventType := .update, current := some (withVersion cluster update.revision) }
  | .delete | .purge =>
    { eventType := .delete, previous := some { id := update.key, data := default } }

inductive NilDereference where
  | nilDereference
deriving DecidableEq

/-- The known clusters and the initial events while `WatchClusters` reads the initial
    entries. -/
abbrev InitialState (δ : Type) := GoMap String (Cluster δ) × List (WatchEvent δ)

/-- One entry of the initial loop of `WatchClusters`. -/
def initialStep [Inhabited δ] (s : InitialState δ) (update : KeyValueEntry δ) :
    Except NilDereference (InitialState δ) :=
  match update.op with
  | .delete => .ok s
  | .put _ | .purge =>
    match (translateClusterWatchEvent update).current with
    -- a purge marker is not skipped, and has no current cluster
    | none => .error .nilDereference
    | some current =>
      match initialEvent (s.1.lookup current.id) current with
      | none => .ok s
      | some event => .ok (s.1.insert current.id current, s.2 ++ [event])

/-- One entry after that: the known clusters, and the event that is sent. -/
def watchStep [Inhabited δ] (known : GoMap String (Cluster δ)) (update : KeyValueEntry δ) :
    Except NilDereference (GoMap String (Cluster δ) × WatchEvent δ) :=
  let e := translateClusterWatchEvent update
  match e.eventType, e.current, e.previous with
  | .update, some current, _ =>
    match known.lookup current.id with
    | none => .ok (known.insert current.id current, { e with eventType := .create })
    | some prev => .ok (known.insert current.id current, { e with previous := some prev })
  | .delete, _, some deleted =>
    match known.lookup deleted.id with
    -- `e.Previous` becomes nil, and its id is read to delete the known cluster
    | none => .error .nilDereference
    | some prev => .ok (known.erase prev.id, { e with previous := some prev })
  | _, _, _ => .ok (known, e)

/-- The events that are sent for entries, and how it ends. -/
def watchFrom [Inhabited δ] (known : GoMap String (Cluster δ)) :
    List (KeyValueEntry δ) → List (WatchEvent δ) × Except NilDereference (GoMap String (Cluster δ))
  | [] => ([], .ok known)
  | update :: updates =>
    match watchStep known update with
    | .error err => ([], .error err)
    | .ok (known, e) =>
      let rest := watchFrom known updates
      (e :: rest.1, rest.2)

/-- `JetStreamStore.WatchClusters`: the initial entries, then the further ones. -/
def watchClusters [Inhabited δ] (knownClusters : List (Cluster δ))
    (initial later : List (KeyValueEntry δ)) :
    List (WatchEvent δ) × Except NilDereference (GoMap String (Cluster δ)) :=
  match initial.foldlM initialStep (knownClusterMap knownClusters, []) with
  | .error err => ([], .error err)
  | .ok (known, initialEvents) =>
    let rest := watchFrom known later
    (initialEvents ++ rest.1, rest.2)

/-- `GetResourceVersion`, also of a nil cluster. -/
def getResourceVersion : Option (Cluster δ) → String
  | some c => c.resourceVersion
  | none => ""

/-- One entry of the initial loop of `WatchCluster`: the current cluster, and the
    events so far. -/
def watchClusterInitialStep [Inhabited δ] (cluster : Cluster δ)
    (s : Option (Cluster δ) × List (WatchEvent δ)) (update : KeyValueEntry δ) :
    Option (Cluster δ) × List (WatchEvent δ) :=
  let e := translateClusterWatchEvent update
  -- for a delete marker the current cluster is nil, and still it is an update
  if getResourceVersion e.current ≠ cluster.resourceVersion then
    (e.current, s.2 ++ [{ eventType := .update, current := e.current, previous := some cluster }])
  else s

def watchClusterStep [Inhabited δ] (s : Option (Cluster δ) × List (WatchEvent δ))
    (update : KeyValueEntry δ) : Option (Cluster δ) × List (WatchEvent δ) :=
  let e := translateClusterWatchEvent update
  match e.eventType with
  -- unlike in `WatchClusters`, without a previous cluster it does not become a create
  | .update => (e.current, s.2 ++ [{ e with previous := s.1 }])
  | .delete => (none, s.2 ++ [{ e with previous := s.1 }])
  | .create => (s.1, s.2 ++ [e])

def watchCluster [Inhabited δ] (cluster : Cluster δ) (initial later : List (KeyValueEntry δ)) :
    List (WatchEvent δ) :=
  (later.foldl watchClusterStep
    (initial.foldl (watchClusterInitialStep cluster) (some cluster, []))).2

end Opni.Storage
