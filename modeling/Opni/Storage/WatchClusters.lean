/-
  Opni.Storage.WatchClusters

  Whether the events of a watch, applied to the clusters that were known
  before, give the clusters in the store.
-/

import Opni.Storage.Watch

namespace Opni.Storage

open Lib Function

variable {δ : Type}

/-! ## Applying events -/

abbrev View (δ : Type) := String → Option (Cluster δ)

/-- `Create` adds, `Update` replaces, `Delete` removes. -/
def applyEvent (view : View δ) (e : WatchEvent δ) : View δ :=
  match e.eventType, e.current, e.previous with
  | .create, some c, _ | .update, some c, _ => update view c.id (some c)
  | .delete, _, some c => update view c.id none
  | _, _, _ => view

def applyEvents (view : View δ) (events : List (WatchEvent δ)) : View δ :=
  events.foldl applyEvent view

theorem applyEvents_append (view : View δ) (events events' : List (WatchEvent δ)) :
    applyEvents view (events ++ events') = applyEvents (applyEvents view events) events' :=
  List.foldl_append

variable (m : GoMap String (Cluster δ))

def mapView : View δ := fun id => m.lookup id

@[simp] theorem mapView_insert (id : String) (c : Cluster δ) :
    mapView (m.insert id c) = update (mapView m) id (some c) := by
  funext id'
  rw [update_apply]
  exact GoMap.lookup_insert_eq ..

@[simp] theorem mapView_erase (id : String) :
    mapView (m.erase id) = update (mapView m) id none := by
  funext id'
  rw [update_apply]
  exact GoMap.lookup_erase_eq ..

variable (knownClusters : List (Cluster δ))

def knownView : View δ := mapView (knownClusterMap knownClusters)

/-- What the known clusters have to be: each is still in the store, and one with the
    resource version of the stored cluster is that cluster. -/
structure KnownOk (known store : View δ) : Prop where
  present : ∀ id k, known id = some k → (store id).isSome
  genuine : ∀ id k c, known id = some k → store id = some c →
    k.resourceVersion = c.resourceVersion → k = c

/-! ## The initial events -/

/-- The cluster that is seen after the initial event, if any. -/
def seen (known : Option (Cluster δ)) (c : Cluster δ) : Cluster δ :=
  match known with
  | none => c
  | some k => if k.resourceVersion ≠ c.resourceVersion then c else k

def see (view : View δ) (c : Cluster δ) : View δ :=
  update view c.id (some (seen (view c.id) c))

theorem apply_initialEvent (view : View δ) (c : Cluster δ) :
    (initialEvent (view c.id) c).elim view (applyEvent view) = see view c := by
  unfold initialEvent see seen
  cases hknown : view c.id with
  | none => rfl
  | some k =>
    simp only
    split
    · rfl
    · -- nothing is sent, and the known cluster stays
      rw [← hknown, update_eq_self]
      rfl

variable {cs : List (Cluster δ)} {store : View δ} {c : Cluster δ} {id : String} {known : View δ}

theorem initialEvent_wellFormed {known : Option (Cluster δ)} {event : WatchEvent δ}
    (hknown : ∀ k, known = some k → k.id = c.id) (h : initialEvent known c = some event) :
    event.WellFormed := by
  unfold initialEvent at h
  split at h
  · obtain rfl := Option.some.inj h
    exact ⟨rfl, rfl⟩
  next k =>
    split at h
    · obtain rfl := Option.some.inj h
      exact ⟨c, k, rfl, rfl, (hknown k rfl).symm⟩
    · cases h

theorem foldl_see_of_ne (h : ∀ c ∈ cs, c.id ≠ id)
    (view : View δ) : cs.foldl see view id = view id := by
  induction cs generalizing view with
  | nil => rfl
  | cons c cs ih =>
    obtain ⟨hc, hcs⟩ := List.forall_mem_cons.mp h
    rw [List.foldl_cons, ih hcs, see, update_of_ne hc.symm]

theorem foldl_see_of_mem (hnodup : (cs.map (·.id)).Nodup)
    (hc : c ∈ cs) (view : View δ) : cs.foldl see view c.id = some (seen (view c.id) c) := by
  induction cs generalizing view with
  | nil => cases hc
  | cons c' cs ih =>
    rw [List.map_cons, List.nodup_cons] at hnodup
    rw [List.foldl_cons]
    rcases List.mem_cons.mp hc with rfl | hc
    · rw [foldl_see_of_ne, see, update_self]
      intro c' hc' heq
      exact hnodup.1 (heq ▸ List.mem_map_of_mem hc')
    · have hne : c.id ≠ c'.id := fun heq => hnodup.1 (heq ▸ List.mem_map_of_mem hc)
      rw [ih hnodup.2 hc, see, update_of_ne hne]

structure Lists (cs : List (Cluster δ)) (store : View δ) : Prop where
  nodup : (cs.map (·.id)).Nodup
  mem_iff : ∀ id c, store id = some c ↔ c ∈ cs ∧ c.id = id

theorem Lists.ne_of_none (h : Lists cs store) (hnone : store id = none) : ∀ c ∈ cs, c.id ≠ id := by
  intro c hc hid
  rw [(h.mem_iff id c).mpr ⟨hc, hid⟩] at hnone
  cases hnone

/-- The initial events give the store exactly if the known clusters are right. -/
theorem foldl_see_eq_iff (h : Lists cs store) :
    cs.foldl see known = store ↔ KnownOk known store := by
  apply Iff.intro
  · intro heq
    have hseen : ∀ id c, store id = some c → seen (known id) c = c := by
      intro id c hc
      obtain ⟨hmem, rfl⟩ := (h.mem_iff id c).mp hc
      have := foldl_see_of_mem h.nodup hmem known
      rw [heq, hc] at this
      exact (Option.some.inj this).symm
    refine ⟨?_, ?_⟩
    · intro id k hk
      cases hstore : store id with
      | some c => rfl
      | none =>
        -- a cluster that is not listed stays as it was known
        have hkept := foldl_see_of_ne (h.ne_of_none hstore) known
        rw [heq, hstore, hk] at hkept
        cases hkept
    · intro id k c hk hc hversion
      have hsame := hseen id c hc
      rw [hk, seen, if_neg (by simp [hversion])] at hsame
      exact hsame
  · intro hok
    funext id
    cases hstore : store id with
    | none =>
      rw [foldl_see_of_ne (h.ne_of_none hstore)]
      cases hknown : known id with
      | none => rfl
      | some k => exact absurd (hok.present id k hknown) (by simp [hstore])
    | some c =>
      obtain ⟨hmem, rfl⟩ := (h.mem_iff id c).mp hstore
      rw [foldl_see_of_mem h.nodup hmem]
      cases hknown : known c.id with
      | none => rfl
      | some k =>
        unfold seen
        simp only
        split
        · rfl
        next hversion => rw [hok.genuine _ k c hknown hstore (not_not.mp hversion)]

theorem Lists.put (h : Lists cs store) (c : Cluster δ) :
    Lists (cs.filter (·.id ≠ c.id) ++ [c]) (update store c.id (some c)) := by
  refine ⟨?_, ?_⟩
  · rw [List.map_append, List.nodup_append']
    refine ⟨h.nodup.sublist (List.filter_sublist.map _), by simp, ?_⟩
    simp
  · intro id c'
    rw [update_apply]
    split <;> grind [h.mem_iff]

theorem Lists.delete (h : Lists cs store) (id : String) :
    Lists (cs.filter (·.id ≠ id)) (update store id none) := by
  refine ⟨h.nodup.sublist (List.filter_sublist.map _), ?_⟩
  intro id' c
  rw [update_apply]
  split <;> grind [h.mem_iff]

/-! ## etcd -/

/-- The clusters in etcd, each under its id, and the revision of the store. -/
structure EtcdClusters (δ : Type) where
  kvs : GoMap String (EtcdKV δ)
  revision : Nat
  valid : ∀ id kv, kvs.lookup id = some kv → kv.value.id = id ∧ kv.createRevision ≤ revision

/-- A write to the store: a cluster is created or updated, or an id is deleted, at a
    later revision. -/
inductive ClusterChange (δ : Type) where
  | put (cluster : Cluster δ) (bump : Nat)
  | delete (id : String) (bump : Nat)

namespace EtcdClusters

variable (s : EtcdClusters δ)

def view : View δ := fun id => (s.kvs.lookup id).map EtcdKV.cluster

def values : List (EtcdKV δ) := s.kvs.entries.map (·.2)

variable (cluster : Cluster δ)

def putKV (rev : Nat) : EtcdKV δ where
  value := cluster
  createRevision :=
    match s.kvs.lookup cluster.id with
    | some prevKv => prevKv.createRevision
    | none => rev
  modRevision := rev

def put (bump : Nat) : EtcdClusters δ where
  kvs := s.kvs.insert cluster.id (s.putKV cluster (s.revision + bump + 1))
  revision := s.revision + bump + 1
  valid := by
    intro id kv hlookup
    rcases GoMap.lookup_insert_eq_some.mp hlookup with ⟨rfl, rfl⟩ | ⟨-, hlookup⟩
    · refine ⟨rfl, ?_⟩
      simp only [putKV]
      split
      next prevKv hprev =>
        have := (s.valid _ prevKv hprev).2
        omega
      · exact le_rfl
    · obtain ⟨hkeyed, hcreated⟩ := s.valid id kv hlookup
      exact ⟨hkeyed, by omega⟩

def delete (id : String) (bump : Nat) : EtcdClusters δ where
  kvs := s.kvs.erase id
  revision := s.revision + bump + 1
  valid := by
    intro id' kv hlookup
    obtain ⟨hkeyed, hcreated⟩ := s.valid id' kv (GoMap.lookup_erase_eq_some.mp hlookup).2
    exact ⟨hkeyed, by omega⟩

/-- A write, and the event that etcd sends for it.  Nothing happens when a key is
    deleted that is not there. -/
def change : ClusterChange δ → EtcdClusters δ × Option (EtcdEvent δ)
  | .put cluster bump =>
    (s.put cluster bump,
      some (.put (s.putKV cluster (s.revision + bump + 1)) (s.kvs.lookup cluster.id)))
  | .delete id bump =>
    match s.kvs.lookup id with
    | none => (s, none)
    | some prevKv => (s.delete id bump, some (.delete prevKv))

def run (changes : List (ClusterChange δ)) : EtcdClusters δ :=
  changes.foldl (fun s c => (s.change c).1) s

def events : EtcdClusters δ → List (ClusterChange δ) → List (EtcdEvent δ)
  | _, [] => []
  | s, c :: changes => (s.change c).2.toList ++ events (s.change c).1 changes

end EtcdClusters

theorem apply_etcdWatchEvent_put (view : View δ) (kv : EtcdKV δ) (prevKv : Option (EtcdKV δ)) :
    applyEvent view (etcdWatchEvent (.put kv prevKv)) =
      update view kv.value.id (some kv.cluster) := by
  simp only [etcdWatchEvent]
  split
  next hcreate =>
    -- the revision of the creation is that of the last change
    have hrev : kv.createRevision = kv.modRevision := of_decide_eq_true hcreate
    rw [hrev]
    rfl
  · rfl

variable (s : EtcdClusters δ)

theorem EtcdClusters.apply_change (c : ClusterChange δ) :
    applyEvents s.view ((s.change c).2.toList.map etcdWatchEvent) = (s.change c).1.view := by
  cases c with
  | put cluster bump =>
    refine (apply_etcdWatchEvent_put ..).trans (funext fun id => ?_)
    simp only [update_apply, view, change, put, GoMap.lookup_insert_eq, apply_ite (Option.map _)]
    rfl
  | delete id bump =>
    simp only [change]
    cases hlookup : s.kvs.lookup id with
    | none => rfl
    | some prevKv =>
      funext id'
      rw [view, delete, GoMap.lookup_erase_eq, apply_ite (Option.map _),
        ← (s.valid id prevKv hlookup).1]
      exact update_apply ..

theorem EtcdClusters.apply_events (changes : List (ClusterChange δ)) :
    applyEvents s.view ((s.events changes).map etcdWatchEvent) = (s.run changes).view := by
  induction changes generalizing s with
  | nil => rfl
  | cons c changes ih =>
    rw [events, List.map_append, applyEvents_append, apply_change, ih]
    rfl

theorem EtcdClusters.lists (resp : Schedule s.values) :
    Lists (resp.1.map EtcdKV.cluster) s.view := by
  have hmem : ∀ kv, kv ∈ resp.1 ↔ s.kvs.lookup kv.value.id = some kv := by
    intro kv
    rw [resp.2.mem_iff, values, List.mem_map]
    apply Iff.intro
    · rintro ⟨⟨id, kv'⟩, hentry, rfl⟩
      have hlookup := GoMap.mem_entries.mp hentry
      rwa [(s.valid id kv' hlookup).1]
    · intro hlookup
      exact ⟨⟨_, kv⟩, GoMap.mem_entries.mpr hlookup, rfl⟩
  refine ⟨?_, ?_⟩
  · -- the ids are the keys of the map
    have hids : s.values.map (fun kv => kv.value.id) = s.kvs.keys := by
      rw [values, List.map_map]
      apply List.map_congr_left
      rintro ⟨id, kv⟩ hentry
      exact (s.valid id kv (GoMap.mem_entries.mp hentry)).1
    rw [List.map_map]
    exact ((resp.2.map _).nodup_iff).mpr (hids ▸ s.kvs.keys_nodup)
  · intro id c
    rw [view, Option.map_eq_some_iff, List.mem_map]
    apply Iff.intro
    · rintro ⟨kv, hlookup, rfl⟩
      obtain ⟨hid, -⟩ := s.valid id kv hlookup
      exact ⟨⟨kv, (hmem kv).mpr (hid ▸ hlookup), rfl⟩, hid⟩
    · rintro ⟨⟨kv, hkv, rfl⟩, rfl⟩
      exact ⟨kv, (hmem kv).mp hkv, rfl⟩

variable {view : View δ} {e : KeyValueEntry δ} {log entries : List (KeyValueEntry δ)}
  {m : GoMap String (Cluster δ)}

theorem apply_initialEvents (hnodup : (cs.map (·.id)).Nodup)
    (hview : ∀ c ∈ cs, view c.id = known c.id) :
    applyEvents view (cs.filterMap fun c => initialEvent (known c.id) c) = cs.foldl see view := by
  induction cs generalizing view with
  | nil => rfl
  | cons c cs ih =>
    obtain ⟨hc, hcs⟩ := List.forall_mem_cons.mp hview
    rw [List.map_cons, List.nodup_cons] at hnodup
    have hrest : ∀ c' ∈ cs, see view c c'.id = known c'.id := by
      intro c' hc'
      have hne : c'.id ≠ c.id := fun heq => hnodup.1 (heq ▸ List.mem_map_of_mem hc')
      rw [see, update_of_ne hne, hcs c' hc']
    have hsee := apply_initialEvent view c
    rw [hc] at hsee
    rw [List.foldl_cons, ← ih hnodup.2 hrest, ← hsee, List.filterMap_cons]
    cases initialEvent (known c.id) c <;> rfl

theorem apply_etcdWatchClusters (s : EtcdClusters δ)
    (resp : Schedule s.values) (events : List (EtcdEvent δ)) :
    applyEvents (knownView knownClusters) (etcdWatchClusters knownClusters resp.1 events) =
      applyEvents ((resp.1.map EtcdKV.cluster).foldl see (knownView knownClusters))
        (events.map etcdWatchEvent) := by
  rw [etcdWatchClusters, applyEvents_append, ← apply_initialEvents (s.lists resp).nodup
    fun _ _ => rfl, List.filterMap_map]
  rfl

/-! ## JetStream -/

def KeyValueEntry.cluster (e : KeyValueEntry δ) : Option (Cluster δ) :=
  match e.op with
  | .put c => some (withVersion c e.revision)
  | .delete | .purge => none

/-- An entry as the store writes it: a cluster under its id, or a delete marker.
    Nothing is purged. -/
def KeyValueEntry.Written (e : KeyValueEntry δ) : Prop :=
  match e.op with
  | .put c => c.id = e.key
  | .delete => True
  | .purge => False

theorem KeyValueEntry.Written.id_of_cluster (h : e.Written) (hc : e.cluster = some c) :
    c.id = e.key := by
  unfold cluster at hc
  unfold Written at h
  cases hop : e.op with
  | put value =>
    rw [hop] at hc h
    rw [← Option.some.inj hc]
    exact h
  | delete | purge =>
    rw [hop] at hc
    cases hc

def applyEntry (view : View δ) (e : KeyValueEntry δ) : View δ := update view e.key e.cluster

def bucketView (log : List (KeyValueEntry δ)) : View δ := log.foldl applyEntry fun _ => none

/-- The last entry of each key, which is what a watch begins with. -/
def lastEntries (log : List (KeyValueEntry δ)) : List (KeyValueEntry δ) :=
  log.foldl (fun es e => es.filter (·.key ≠ e.key) ++ [e]) []

section

variable (log : List (KeyValueEntry δ))

theorem bucketView_concat (e : KeyValueEntry δ) :
    bucketView (log ++ [e]) = applyEntry (bucketView log) e := by
  simp [bucketView]

theorem lastEntries_concat (e : KeyValueEntry δ) :
    lastEntries (log ++ [e]) = (lastEntries log).filter (·.key ≠ e.key) ++ [e] := by
  simp [lastEntries]

end

theorem mem_of_mem_lastEntries (h : e ∈ lastEntries log) : e ∈ log := by
  induction log using List.reverseRecOn with
  | nil => exact h
  | append_singleton log e' ih =>
    rw [lastEntries_concat, List.mem_append] at h
    rcases h with h | h
    · exact List.mem_append_left _ (ih (List.mem_of_mem_filter h))
    · exact List.mem_append_right _ h

theorem filterMap_cluster_filter {es : List (KeyValueEntry δ)} (h : ∀ e ∈ es, e.Written)
    (key : String) : (es.filter (·.key ≠ key)).filterMap KeyValueEntry.cluster =
      (es.filterMap KeyValueEntry.cluster).filter (·.id ≠ key) := by
  rw [List.filterMap_filter, List.filter_filterMap]
  refine List.filterMap_congr fun e he => ?_
  cases hc : e.cluster with
  | none => simp
  | some c => simp [Option.filter, (h e he).id_of_cluster hc]

theorem lists_lastEntries (h : ∀ e ∈ log, e.Written) :
    Lists ((lastEntries log).filterMap KeyValueEntry.cluster) (bucketView log) := by
  induction log using List.reverseRecOn with
  | nil => exact ⟨List.nodup_nil, by simp [bucketView, lastEntries]⟩
  | append_singleton log e ih =>
    have hlog : ∀ e' ∈ log, e'.Written := fun e' he' => h e' (List.mem_append_left _ he')
    have ih := ih hlog
    rw [bucketView_concat, lastEntries_concat, List.filterMap_append,
      filterMap_cluster_filter fun e' he' => hlog e' (mem_of_mem_lastEntries he'), applyEntry]
    cases hc : e.cluster with
    | none =>
      rw [List.filterMap_cons_none hc, List.filterMap_nil, List.append_nil]
      exact ih.delete e.key
    | some c =>
      rw [List.filterMap_cons_some hc, List.filterMap_nil,
        ← (h e (by simp)).id_of_cluster hc]
      exact ih.put c

/-! ### The known clusters of the watch -/

def Keyed (m : GoMap String (Cluster δ)) : Prop := ∀ id c, m.lookup id = some c → c.id = id

theorem Keyed.insert (h : Keyed m) (c : Cluster δ) : Keyed (m.insert c.id c) := by
  intro id c' hc'
  rcases GoMap.lookup_insert_eq_some.mp hc' with ⟨rfl, rfl⟩ | ⟨-, hc'⟩
  · rfl
  · exact h id c' hc'

theorem Keyed.erase (h : Keyed m) (id : String) : Keyed (m.erase id) :=
  fun id' c hc => h id' c (GoMap.lookup_erase_eq_some.mp hc).2

/-- Each delete marker is for a cluster that is there at the time. -/
def DeletesLive (view : View δ) (entries : List (KeyValueEntry δ)) : Prop :=
  ∀ before e, before ++ [e] <+: entries → e.cluster = none →
    (before.foldl applyEntry view e.key).isSome

theorem deletesLive_nil (view : View δ) : DeletesLive view [] := Interleave.forall_prefix_nil

theorem deletesLive_cons :
    DeletesLive view (e :: entries) ↔
      (e.cluster = none → (view e.key).isSome) ∧ DeletesLive (applyEntry view e) entries :=
  Interleave.forall_prefix_cons

theorem DeletesLive.of_prefix {entries' : List (KeyValueEntry δ)}
    (h : DeletesLive view entries) (hpre : entries' <+: entries) : DeletesLive view entries' :=
  fun before e he => h before e (he.trans hpre)

section JetStream

variable [Inhabited δ]

variable {e : KeyValueEntry δ} {m : GoMap String (Cluster δ)}
  {entries initial : List (KeyValueEntry δ)} {knownClusters : List (Cluster δ)} {view : View δ}
  {s : InitialState δ}

theorem initialStep_eq (h : e.Written) (s : InitialState δ) :
    initialStep s e = .ok (match e.cluster with
      | none => s
      | some c =>
        match initialEvent (s.1.lookup c.id) c with
        | none => s
        | some event => (s.1.insert c.id c, s.2 ++ [event])) := by
  unfold KeyValueEntry.Written at h
  unfold initialStep KeyValueEntry.cluster translateClusterWatchEvent
  cases hop : e.op with
  | put c =>
    simp only
    cases initialEvent (s.1.lookup (withVersion c e.revision).id) (withVersion c e.revision) <;>
      rfl
  | delete => rfl
  | purge =>
    rw [hop] at h
    exact h.elim

theorem watchStep_eq (known : GoMap String (Cluster δ)) (e : KeyValueEntry δ) :
    watchStep known e = match e.cluster with
      | some c => .ok (known.insert c.id c,
          match known.lookup c.id with
          | none => { eventType := .create, current := some c }
          | some prev => { eventType := .update, current := some c, previous := some prev })
      | none =>
        match known.lookup e.key with
        | none => .error .nilDereference
        | some prev =>
          .ok (known.erase prev.id, { eventType := .delete, previous := some prev }) := by
  unfold watchStep KeyValueEntry.cluster translateClusterWatchEvent
  cases e.op with
  | put c =>
    simp only
    cases known.lookup (withVersion c e.revision).id <;> rfl
  | delete | purge => rfl

theorem watchStep_of_live (hm : Keyed m)
    (he : e.Written) (hlive : e.cluster = none → (mapView m e.key).isSome) :
    ∃ m' event, watchStep m e = .ok (m', event) ∧ Keyed m' ∧
      mapView m' = applyEntry (mapView m) e ∧ applyEvent (mapView m) event = mapView m' ∧
      event.WellFormed := by
  rw [watchStep_eq, applyEntry]
  cases hc : e.cluster with
  | some c =>
    refine ⟨_, _, rfl, hm.insert c, ?_, ?_, ?_⟩
    · rw [mapView_insert, he.id_of_cluster hc]
    · rw [mapView_insert]
      cases m.lookup c.id <;> rfl
    · cases hprev : m.lookup c.id with
      | none => exact ⟨rfl, rfl⟩
      | some prev => exact ⟨c, prev, rfl, rfl, (hm _ prev hprev).symm⟩
  | none =>
    obtain ⟨prev, hprev⟩ := Option.isSome_iff_exists.mp (hlive hc)
    have hid : prev.id = e.key := hm _ prev hprev
    rw [show m.lookup e.key = some prev from hprev]
    refine ⟨_, _, rfl, hm.erase prev.id, ?_, (mapView_erase ..).symm, rfl, rfl⟩
    rw [mapView_erase, hid]

theorem watchFrom_of_deletesLive (hm : Keyed m) (hes : ∀ e ∈ entries, e.Written)
    (hlive : DeletesLive (mapView m) entries) :
    (∃ m', (watchFrom m entries).2 = .ok m') ∧
      applyEvents (mapView m) (watchFrom m entries).1 = entries.foldl applyEntry (mapView m) ∧
      ∀ event ∈ (watchFrom m entries).1, event.WellFormed := by
  induction entries generalizing m with
  | nil => exact ⟨⟨m, rfl⟩, rfl, by simp [watchFrom]⟩
  | cons e entries ih =>
    obtain ⟨he, hes⟩ := List.forall_mem_cons.mp hes
    obtain ⟨hfirst, hrest⟩ := deletesLive_cons.mp hlive
    obtain ⟨m', event, hstep, hm', hview, happly, hwf⟩ := watchStep_of_live hm he hfirst
    rw [← hview] at hrest
    obtain ⟨hok, happlies, hwfs⟩ := ih hm' hes hrest
    simp only [watchFrom, hstep]
    refine ⟨hok, ?_, List.forall_mem_cons.mpr ⟨hwf, hwfs⟩⟩
    rw [applyEvents, List.foldl_cons, happly, ← applyEvents, happlies, List.foldl_cons, hview]

theorem deletesLive_of_watchFrom {m' : GoMap String (Cluster δ)} (hm : Keyed m)
    (hes : ∀ e ∈ entries, e.Written)
    (hok : (watchFrom m entries).2 = .ok m') : DeletesLive (mapView m) entries := by
  induction entries generalizing m with
  | nil => exact deletesLive_nil _
  | cons e entries ih =>
    obtain ⟨he, hes⟩ := List.forall_mem_cons.mp hes
    have hlive : e.cluster = none → (mapView m e.key).isSome := by
      intro hc
      by_contra hnone
      have hlookup : m.lookup e.key = none := Option.not_isSome_iff_eq_none.mp hnone
      simp [watchFrom, watchStep_eq, hc, hlookup] at hok
    obtain ⟨m₁, event, hstep, hm₁, hview, -, -⟩ := watchStep_of_live hm he hlive
    simp only [watchFrom, hstep] at hok
    exact deletesLive_cons.mpr ⟨hlive, hview ▸ ih hm₁ hes hok⟩

structure InitialOk (knownClusters : List (Cluster δ)) (view : View δ) (s : InitialState δ) :
    Prop where
  keyed : Keyed s.1
  known : mapView s.1 = view
  applied : applyEvents (knownView knownClusters) s.2 = view
  wellFormed : ∀ event ∈ s.2, event.WellFormed

theorem initialStep_ok (hs : InitialOk knownClusters view s) (he : e.Written) :
    ∃ s', initialStep s e = .ok s' ∧
      InitialOk knownClusters (e.cluster.elim view (see view)) s' := by
  rw [initialStep_eq he]
  refine ⟨_, rfl, ?_⟩
  cases e.cluster with
  | none => exact hs
  | some c =>
    have hsee := apply_initialEvent view c
    have hlookup : s.1.lookup c.id = view c.id := congrFun hs.known c.id
    simp only [hlookup, Option.elim_some]
    cases hevent : initialEvent (view c.id) c with
    | none =>
      rw [hevent] at hsee
      rwa [← hsee]
    | some event =>
      rw [hevent] at hsee
      have hcurrent : applyEvent view event = update view c.id (some c) := by
        unfold initialEvent at hevent
        split at hevent
        · rw [← Option.some.inj hevent]
          rfl
        · split at hevent
          · rw [← Option.some.inj hevent]
            rfl
          · cases hevent
      refine ⟨hs.keyed.insert c, ?_, ?_, ?_⟩
      · rw [mapView_insert, hs.known, ← hsee, Option.elim_some, hcurrent]
      · rw [applyEvents_append, hs.applied, ← hsee]
        rfl
      · rw [List.forall_mem_append]
        refine ⟨hs.wellFormed, ?_⟩
        intro event' hmem
        rw [List.mem_singleton.mp hmem]
        exact initialEvent_wellFormed
          (fun k hk => hs.keyed _ k (hlookup.trans hk)) hevent

theorem foldlM_initialStep (hs : InitialOk knownClusters view s) (hes : ∀ e ∈ initial, e.Written) :
    ∃ s', initial.foldlM initialStep s = .ok s' ∧ InitialOk knownClusters
      ((initial.filterMap KeyValueEntry.cluster).foldl see view) s' := by
  induction initial generalizing s view with
  | nil => exact ⟨s, rfl, hs⟩
  | cons e initial ih =>
    obtain ⟨he, hes⟩ := List.forall_mem_cons.mp hes
    obtain ⟨s₁, hstep, hs₁⟩ := initialStep_ok hs he
    obtain ⟨s', hfold, hs'⟩ := ih hs₁ hes
    refine ⟨s', ?_, ?_⟩
    · rw [List.foldlM_cons, hstep]
      exact hfold
    · cases hc : e.cluster with
      | none =>
        rw [hc] at hs'
        rwa [List.filterMap_cons_none hc]
      | some c =>
        rw [hc] at hs'
        rwa [List.filterMap_cons_some hc]

theorem watchClusters_eq (knownClusters : List (Cluster δ)) (hes : ∀ e ∈ initial, e.Written) :
    ∃ s, InitialOk knownClusters
        ((initial.filterMap KeyValueEntry.cluster).foldl see (knownView knownClusters)) s ∧
      ∀ later, watchClusters knownClusters initial later =
        (s.2 ++ (watchFrom s.1 later).1, (watchFrom s.1 later).2) := by
  have hkeyed : Keyed (knownClusterMap knownClusters) := by
    intro id c hc
    obtain ⟨c', -, hid, rfl⟩ := GoMap.exists_of_lookup_ofList hc
    exact hid
  have hstart : InitialOk knownClusters (knownView knownClusters)
      (knownClusterMap knownClusters, []) :=
    ⟨hkeyed, rfl, rfl, by simp⟩
  obtain ⟨s, hfold, hs⟩ := foldlM_initialStep hstart hes
  refine ⟨s, hs, ?_⟩
  intro later
  simp only [watchClusters, hfold]

end JetStream

/-! ## Both -/

section

variable (knownClusters : List (Cluster δ))

/-- With the etcd store, after the initial events and after the events of any number
    of the changes, the clusters are those in the store. -/
def EtcdReconstructs (s : EtcdClusters δ)
    (resp : Schedule s.values) (changes : List (ClusterChange δ)) : Prop :=
  ∀ done, done <+: changes →
    applyEvents (knownView knownClusters)
      (etcdWatchClusters knownClusters resp.1 (s.events done)) = (s.run done).view

/-- With the JetStream store likewise, and the watch does not crash. -/
def JetStreamReconstructs [Inhabited δ] (knownClusters : List (Cluster δ))
    (log later : List (KeyValueEntry δ)) : Prop :=
  ∀ done, done <+: later →
    let watch := watchClusters knownClusters (lastEntries log) done
    (∃ known, watch.2 = .ok known) ∧
      applyEvents (knownView knownClusters) watch.1 = bucketView (log ++ done)

theorem etcdReconstructs_iff (s : EtcdClusters δ)
    (resp : Schedule s.values) (changes : List (ClusterChange δ)) :
    EtcdReconstructs knownClusters s resp changes ↔ KnownOk (knownView knownClusters) s.view := by
  rw [← foldl_see_eq_iff (s.lists resp)]
  apply Iff.intro
  · intro h
    have hinitial := h [] List.nil_prefix
    rwa [apply_etcdWatchClusters] at hinitial
  · intro h done hdone
    rw [apply_etcdWatchClusters, h, s.apply_events]

end

theorem jetStreamReconstructs_iff [Inhabited δ] (knownClusters : List (Cluster δ))
    {later : List (KeyValueEntry δ)} (hes : ∀ e ∈ log ++ later, e.Written) :
    JetStreamReconstructs knownClusters log later ↔
      KnownOk (knownView knownClusters) (bucketView log) ∧ DeletesLive (bucketView log) later := by
  obtain ⟨hlog, hlater⟩ := List.forall_mem_append.mp hes
  obtain ⟨s, hs, hwatch⟩ := watchClusters_eq knownClusters
    fun e he => hlog e (mem_of_mem_lastEntries he)
  rw [← foldl_see_eq_iff (lists_lastEntries hlog)]
  apply Iff.intro
  · intro h
    have hinitial := (h [] List.nil_prefix).2
    rw [hwatch, List.append_nil] at hinitial
    have hview : mapView s.1 = bucketView log := by
      rw [hs.known, ← hs.applied, ← hinitial]
      exact congrArg (applyEvents _) (List.append_nil _).symm
    obtain ⟨known, hok⟩ := (h later List.prefix_rfl).1
    rw [hwatch] at hok
    exact ⟨hs.known.symm.trans hview, hview ▸ deletesLive_of_watchFrom hs.keyed hlater hok⟩
  · rintro ⟨hview, hlive⟩ done hdone
    rw [hview] at hs
    have hwritten : ∀ e ∈ done, e.Written := fun e he => hlater e (hdone.subset he)
    obtain ⟨hok, happlied, -⟩ := watchFrom_of_deletesLive hs.keyed hwritten
      (hs.known ▸ hlive.of_prefix hdone)
    rw [hs.known] at happlied
    rw [hwatch]
    refine ⟨hok, ?_⟩
    rw [applyEvents_append, hs.applied, happlied, bucketView, bucketView, List.foldl_append]

/-- The known clusters, with the events of the watch applied to them, are the clusters
    in the store, if and only if every known cluster is still in the store and is what
    its resource version says, and, with JetStream, every later delete marker is
    for a cluster that is in the bucket. -/
theorem watchClusters_reconstruct_iff [Inhabited δ] (knownClusters : List (Cluster δ)) :
    (∀ (s : EtcdClusters δ) (resp : Schedule s.values) (changes : List (ClusterChange δ)),
      EtcdReconstructs knownClusters s resp changes ↔
        KnownOk (knownView knownClusters) s.view) ∧
    ∀ log later : List (KeyValueEntry δ), (∀ e ∈ log ++ later, e.Written) →
      (JetStreamReconstructs knownClusters log later ↔
        KnownOk (knownView knownClusters) (bucketView log) ∧
          DeletesLive (bucketView log) later) :=
  ⟨etcdReconstructs_iff knownClusters, fun _ _ => jetStreamReconstructs_iff knownClusters⟩

/-- A known cluster has been deleted: no event says so. -/
theorem watchClusters_keep_deleted :
    ¬EtcdReconstructs [⟨"a", (), "1"⟩] ⟨∅, 2, by simp⟩ ⟨[], .refl _⟩ [] ∧
    ¬JetStreamReconstructs [⟨"a", (), "1"⟩]
      [⟨"a", 1, .put ⟨"a", (), ""⟩⟩, ⟨"a", 2, .delete⟩] [] := by
  refine ⟨?_, ?_⟩
  · intro h
    have hview := congrFun (h [] List.nil_prefix) "a"
    cases hview
  · intro h
    have hview := congrFun (h [] List.nil_prefix).2 "a"
    cases hview

end Opni.Storage
