/-
  Opni.Storage.WatchCluster

  `EtcdStore.WatchCluster`, the watch of a single cluster
  (`cluster_store.go`).  It looks at the previous value of every event, and a
  put that creates the key has none.
-/

import Opni.Storage.WatchClusters

namespace Opni.Storage

open Lib

variable {δ : Type}

/-- What `WatchCluster` makes of an event; it never is a create. -/
def etcdWatchClusterEvent : EtcdEvent δ → Except NilDereference (WatchEvent δ)
  | .put kv (some prevKv) =>
    .ok { eventType := .update, current := some kv.cluster, previous := some prevKv.cluster }
  | .put _ none => .error .nilDereference
  | .delete prevKv => .ok { eventType := .delete, previous := some prevKv.cluster }

/-- The loop over the events: what is sent, and how it ends. -/
def sendClusterEvents : List (EtcdEvent δ) → List (WatchEvent δ) × Except NilDereference Unit
  | [] => ([], .ok ())
  | ev :: events =>
    match etcdWatchClusterEvent ev with
    | .error err => ([], .error err)
    | .ok e =>
      let rest := sendClusterEvents events
      (e :: rest.1, rest.2)

def ClusterChange.id : ClusterChange δ → String
  | .put cluster _ => cluster.id
  | .delete id _ => id

/-- The events of a key that come after a revision. -/
def EtcdClusters.eventsAfter (id : String) (version : Nat) :
    EtcdClusters δ → List (ClusterChange δ) → List (EtcdEvent δ)
  | _, [] => []
  | s, c :: changes =>
    (if c.id = id ∧ version < (s.change c).1.revision then (s.change c).2.toList else []) ++
      eventsAfter id version (s.change c).1 changes

variable (cluster : Cluster δ)

/-- The events that etcd sends for a key from a start revision on.  What it does with one that is
    not positive is left to it. -/
def EtcdClusters.eventsFrom (other : Int → List (EtcdEvent δ)) (id : String) (s : EtcdClusters δ)
    (changes : List (ClusterChange δ)) : Int → List (EtcdEvent δ)
  | .ofNat (version + 1) => s.eventsAfter id version changes
  | rev => other rev

variable (other : Int → List (EtcdEvent δ))

/-- `EtcdStore.WatchCluster`, while the changes are made to a store. -/
def etcdWatchCluster (s : EtcdClusters δ) (changes : List (ClusterChange δ)) :
    Except String (List (WatchEvent δ) × Except NilDereference Unit) :=
  match parseInt cluster.resourceVersion with
  | .error err =>
    .error ("failed to parse resource version: " ++ err.text "ParseInt" cluster.resourceVersion)
  | .ok version =>
    -- `WithRev(version+1)`, an `int64`
    .ok (sendClusterEvents
      (s.eventsFrom other cluster.id changes ((version + 1).bmod (2 ^ 64))))

/-! ## Histories -/

/-- The event that is right: a put of a key without a previous value creates it. -/
def EtcdEvent.eventType : EtcdEvent δ → WatchEventType
  | .put _ none => .create
  | .put _ (some _) => .update
  | .delete _ => .delete

/-- The watch starts, does not crash, and sends an event of the right type for each one. -/
def WatchTranslates (version : Nat) (s : EtcdClusters δ)
    (changes : List (ClusterChange δ)) : Prop :=
  ∃ sent, etcdWatchCluster (withVersion cluster version) other s changes = .ok (sent, .ok ()) ∧
    sent.map (·.eventType) =
      (s.eventsAfter cluster.id version changes).map EtcdEvent.eventType

/-- After the revision the key is never created: each put of it finds it in the store. -/
def NeverCreated (id : String) (version : Nat) :
    EtcdClusters δ → List (ClusterChange δ) → Prop
  | _, [] => True
  | s, c :: changes =>
    (∀ cluster bump, c = .put cluster bump → cluster.id = id →
        version < s.revision + bump + 1 → (s.kvs.lookup id).isSome) ∧
      NeverCreated id version (s.change c).1 changes

theorem sendClusterEvents_spec (events : List (EtcdEvent δ)) :
    ((sendClusterEvents events).2 = .ok () ↔ ∀ kv, .put kv none ∉ events) ∧
      ((sendClusterEvents events).2 = .ok () →
        (sendClusterEvents events).1.map (·.eventType) = events.map EtcdEvent.eventType) := by
  induction events with
  | nil => exact ⟨iff_of_true rfl (by simp), fun _ => rfl⟩
  | cons ev events ih =>
    -- an event with a previous value is sent, and the loop goes on
    have hsent : ∀ e, etcdWatchClusterEvent ev = .ok e → e.eventType = ev.eventType →
        (∀ kv, EtcdEvent.put kv none ≠ ev) →
        ((sendClusterEvents (ev :: events)).2 = .ok () ↔ ∀ kv, .put kv none ∉ ev :: events) ∧
          ((sendClusterEvents (ev :: events)).2 = .ok () →
            (sendClusterEvents (ev :: events)).1.map (·.eventType) =
              (ev :: events).map EtcdEvent.eventType) := by
      intro e he htype hput
      simp only [sendClusterEvents, he, List.mem_cons, not_or, List.map_cons, htype]
      refine ⟨ih.1.trans (forall_congr' fun kv => (and_iff_right (hput kv)).symm), fun hok => ?_⟩
      rw [ih.2 hok]
    cases ev with
    | delete prevKv => exact hsent _ rfl rfl (by simp)
    | put kv prevKv =>
      cases prevKv with
      | some prevKv => exact hsent _ rfl rfl (by simp)
      | none =>
        refine ⟨iff_of_false (by simp [sendClusterEvents, etcdWatchClusterEvent]) ?_, ?_⟩
        · exact fun hnone => hnone kv List.mem_cons_self
        · intro hok
          simp [sendClusterEvents, etcdWatchClusterEvent] at hok

theorem put_none_mem_change {s : EtcdClusters δ} {c : ClusterChange δ} :
    (∃ kv, EtcdEvent.put kv none ∈ (s.change c).2.toList) ↔
      ∃ cluster bump, c = .put cluster bump ∧ s.kvs.lookup cluster.id = none := by
  cases c with
  | put cluster bump => simp [EtcdClusters.change, eq_comm]
  | delete id bump =>
    cases hlookup : s.kvs.lookup id <;> simp [EtcdClusters.change, hlookup]

theorem neverCreated_iff (id : String) (version : Nat) (s : EtcdClusters δ)
    (changes : List (ClusterChange δ)) :
    (∀ kv, EtcdEvent.put kv none ∉ s.eventsAfter id version changes) ↔
      NeverCreated id version s changes := by
  induction changes generalizing s with
  | nil => simp [EtcdClusters.eventsAfter, NeverCreated]
  | cons c changes ih =>
    simp only [EtcdClusters.eventsAfter, NeverCreated, List.mem_append, not_or, forall_and, ih]
    apply and_congr_left'
    by_cases hwatched : c.id = id ∧ version < (s.change c).1.revision
    · rw [if_pos hwatched, ← not_exists, put_none_mem_change]
      constructor
      · intro hnone cluster bump hput hid _
        rw [← hid, Option.isSome_iff_ne_none]
        exact fun habsent => hnone ⟨cluster, bump, hput, habsent⟩
      · rintro hsome ⟨cluster, bump, rfl, habsent⟩
        have hpresent := hsome cluster bump rfl hwatched.1 hwatched.2
        rw [← hwatched.1] at hpresent
        exact absurd habsent (Option.isSome_iff_ne_none.mp hpresent)
    · rw [if_neg hwatched]
      refine iff_of_true (by simp) ?_
      rintro cluster bump rfl hid hversion
      exact absurd ⟨hid, hversion⟩ hwatched

theorem etcdWatchCluster_eq {version : Nat} (hversion : version + 1 < 2 ^ 63)
    (s : EtcdClusters δ) (changes : List (ClusterChange δ)) :
    etcdWatchCluster (withVersion cluster version) other s changes =
      .ok (sendClusterEvents (s.eventsAfter cluster.id version changes)) := by
  have hparse : parseInt (withVersion cluster version).resourceVersion = .ok (version : Int) :=
    (parseInt_toString version).trans (if_pos (by omega))
  have hrev : ((version : Int) + 1).bmod (2 ^ 64) = .ofNat (version + 1) :=
    Int.bmod_eq_of_le (by omega) (by omega)
  unfold etcdWatchCluster
  simp only [hparse, hrev]
  rfl

/-- The watch of a cluster, from any revision of etcd and during any changes to the store, neither
    crashes nor gives a wrong type exactly if the cluster is not created after that revision.
    Revisions are `int64`s, and so is the one after them. -/
theorem etcdWatchCluster_translates_iff (version : Nat) (hversion : version + 1 < 2 ^ 63)
    (s : EtcdClusters δ) (changes : List (ClusterChange δ)) :
    WatchTranslates cluster other version s changes ↔
      NeverCreated cluster.id version s changes := by
  obtain ⟨hok, htypes⟩ := sendClusterEvents_spec (s.eventsAfter cluster.id version changes)
  rw [← neverCreated_iff, ← hok, WatchTranslates, etcdWatchCluster_eq cluster other hversion]
  constructor
  · rintro ⟨sent, hsent, -⟩
    rw [Except.ok.inj hsent]
  · intro h
    exact ⟨_, congrArg Except.ok (Prod.ext rfl h), htypes h⟩

/-- A cluster is created, and watched from then on while it is updated, another one is created, and
    it is deleted. -/
theorem etcdWatchCluster_translates_update :
    let cluster : Cluster Unit := ⟨"a", (), "1"⟩
    WatchTranslates cluster (fun _ => []) 1 ⟨∅, 0, nofun⟩
      [.put cluster 0, .put cluster 0, .put ⟨"b", (), ""⟩ 3, .delete "a" 0] := by
  refine (etcdWatchCluster_translates_iff _ _ 1 (by decide) _ _).mpr ⟨?_, ?_, ?_, ?_, trivial⟩
  · rintro cluster bump ⟨⟩ - hlater
    exact absurd hlater (by decide)
  · rintro cluster bump ⟨⟩ - -
    rfl
  · rintro cluster bump ⟨⟩ hid
    exact absurd hid (by decide)
  · intro cluster bump hput
    cases hput

/-- A cluster is created, deleted and created again, and watched since it was first created:
    the delete is sent, and then the watch crashes. -/
theorem etcdWatchCluster_recreate :
    let cluster : Cluster Unit := ⟨"a", (), "1"⟩
    etcdWatchCluster cluster (fun _ => []) ⟨∅, 0, nofun⟩
        [.put cluster 0, .delete "a" 0, .put cluster 0] =
      .ok ([{ eventType := .delete, previous := some cluster }], .error .nilDereference) := by
  rfl

end Opni.Storage
