/-
  Opni.Alerting.RemoteSyncers

  How the router configurations get to the Alertmanager replicas
  (`plugins/alerting/pkg/alerting/ops/reconcile.go`): every replica has a
  syncer connected with `ConnectRemoteSyncer`, which is first sent what is
  stored and then takes sync requests from a channel; the periodic sync, the
  forced sync and `SendManualSyncRequest` put them there, one at a time.
-/

import Opni.Lib.GoData
import Opni.Lib.Goroutines

namespace Opni.Alerting.RemoteSync

open Lib Lib.Goroutines Function

variable {ι ρ γ : Type}

/-! ## The ops node -/

/-- A router in the store, with the number of the write that put it there. -/
structure Stored (ρ : Type) where
  stamp : Nat
  router : ρ

/-- `PutConfigRequest`: a configuration for a router key, as new as the router it was built
    from. -/
structure Item (γ : Type) where
  key : String
  stamp : Nat
  config : γ
deriving DecidableEq

/-- Where a push is: one of the goroutines of `runPeriodicSync`, or `SendManualSyncRequest`. -/
inductive PushPc (γ : Type) where
  | idle
  /-- It holds `syncMu`. -/
  | locked
  /-- It is in `constructSyncRequest`, with the keys that are left. -/
  | building (keys : List String) (items : List (Item γ))
  /-- It waits for a syncer to take its request. -/
  | pushing (items : List (Item γ))
  | returned
deriving DecidableEq

/-- Where a call of `ConnectRemoteSyncer` is. -/
inductive SyncerPc (γ : Type) where
  | idle
  /-- It is in `constructSyncRequest` for the initial sync. -/
  | reading (keys : List String) (items : List (Item γ))
  /-- It waits in its loop. -/
  | waiting
  /-- It has taken a request, and is to send it. -/
  | sending (items : List (Item γ))
  | returned
deriving DecidableEq

/-- `AlertingOpsNode`, with what has been sent to the syncers and the configuration of each key
    that was pushed last.  Pushes and syncers are named by `ι`. -/
structure OpsNode (ι ρ γ : Type) where
  routers : GoMap String (Stored ρ) := ∅
  writes : Nat := 0
  syncMu : Option ι := none
  pushes : ι → PushPc γ := fun _ => .idle
  syncers : ι → SyncerPc γ := fun _ => .idle
  sent : ι → List (Item γ) := fun _ => []
  lastPush : String → Option (Item γ) := fun _ => none

inductive SyncEvent (ι ρ : Type) where
  /-- A router is stored. -/
  | write (key : String) (router : ρ)
  /-- A push takes `syncMu`. -/
  | lock (n : ι)
  /-- It has the keys: those that `Sync` reports, all keys, or those of the request. -/
  | keys (n : ι) (routerKeys : List String)
  /-- It has nothing to push, or has failed, and releases `syncMu`. -/
  | skip (n : ι)
  /-- It reads the next router. -/
  | read (n : ι)
  /-- It offers its request. -/
  | offer (n : ι)
  /-- A syncer takes the request of a push, which then releases `syncMu`. -/
  | deliver (n m : ι)
  /-- A syncer sends the request it has taken. -/
  | send (m : ι)
  /-- A syncer connects, and lists the keys. -/
  | connect (m : ι)
  /-- It reads the next router of the initial sync. -/
  | readInitial (m : ι)
  /-- It sends the initial sync, and enters its loop. -/
  | sendInitial (m : ι)
  /-- The stream of a syncer ends. -/
  | disconnect (m : ι)

def SyncerPc.Connected : SyncerPc γ → Prop
  | .idle | .returned => False
  | .reading _ _ | .waiting | .sending _ => True

instance : DecidablePred (@SyncerPc.Connected γ)
  | .idle | .returned => isFalse id
  | .reading _ _ | .waiting | .sending _ => isTrue trivial

def SyncerPc.isSending : SyncerPc γ → Bool
  | .sending _ => true
  | .idle | .reading _ _ | .waiting | .returned => false

/-- What the syncer has read for its initial sync, or has taken, and not sent. -/
def SyncerPc.pending : SyncerPc γ → List (Item γ)
  | .reading _ items | .sending items => items
  | .idle | .waiting | .returned => []

/-- The keys that the initial sync has not read yet. -/
def SyncerPc.unread : SyncerPc γ → List String
  | .reading keys _ => keys
  | .idle | .waiting | .sending _ | .returned => []

/-- What the push is going to offer, as far as it has come. -/
def PushPc.items : PushPc γ → List (Item γ)
  | .building _ items | .pushing items => items
  | .idle | .locked | .returned => []

namespace OpsNode

variable [DecidableEq ι] (build : ρ → Option γ) (s : OpsNode ι ρ γ)

/-- One step of `constructSyncRequest`: a router that is missing, or that no configuration can be
    built from, is skipped. -/
def readItem (key : String) : List (Item γ) :=
  match s.routers.lookup key with
  | none => []
  | some stored =>
    match build stored.router with
    | none => []
    | some config => [⟨key, stored.stamp, config⟩]

def recordPush (lastPush : String → Option (Item γ)) (items : List (Item γ)) :
    String → Option (Item γ) :=
  items.foldl (fun last item => update last item.key (some item)) lastPush

def step : SyncEvent ι ρ → Option (OpsNode ι ρ γ)
  | .write key router => some { s with
      routers := s.routers.insert key ⟨s.writes, router⟩
      writes := s.writes + 1 }
  | .lock n =>
    match s.pushes n, s.syncMu with
    | .idle, none => some { s with
        pushes := update s.pushes n .locked
        syncMu := some n }
    | _, _ => none
  | .keys n routerKeys =>
    match s.pushes n with
    | .locked => some { s with pushes := update s.pushes n (.building routerKeys []) }
    | _ => none
  | .skip n =>
    match s.pushes n with
    | .locked => some { s with
        pushes := update s.pushes n .returned
        syncMu := none }
    | _ => none
  | .read n =>
    match s.pushes n with
    | .building (key :: keys) items => some { s with
        pushes := update s.pushes n (.building keys (items ++ s.readItem build key)) }
    | _ => none
  | .offer n =>
    match s.pushes n with
    | .building [] items => some { s with
        pushes := update s.pushes n (.pushing items) }
    | _ => none
  | .deliver n m =>
    match s.pushes n, s.syncers m with
    | .pushing items, .waiting => some { s with
        pushes := update s.pushes n .returned
        syncMu := none
        syncers := update s.syncers m (.sending items)
        lastPush := recordPush s.lastPush items }
    | _, _ => none
  | .send m =>
    match s.syncers m with
    | .sending items => some { s with
        syncers := update s.syncers m .waiting
        sent := update s.sent m (s.sent m ++ items) }
    | _ => none
  | .connect m =>
    match s.syncers m with
    | .idle => some { s with
        syncers := update s.syncers m (.reading s.routers.keys []) }
    | _ => none
  | .readInitial m =>
    match s.syncers m with
    | .reading (key :: keys) items => some { s with
        syncers := update s.syncers m (.reading keys (items ++ s.readItem build key)) }
    | _ => none
  | .sendInitial m =>
    match s.syncers m with
    | .reading [] items => some { s with
        syncers := update s.syncers m .waiting
        sent := update s.sent m (s.sent m ++ items) }
    | _ => none
  | .disconnect m =>
    if (s.syncers m).Connected then some { s with
      syncers := update s.syncers m .returned }
    else none

end OpsNode

end Opni.Alerting.RemoteSync
