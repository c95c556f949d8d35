/-
  Opni.Storage.BucketCalls

  `CreateCluster`, `UpdateCluster` and `DeleteCluster` of the JetStream store
  (`pkg/storage/jetstream/cluster_store.go`), one operation on the bucket at a
  time.
-/

import Opni.Storage.WatchClusters

namespace Opni.Storage

open Lib Lib.Interleave Lib.OptimisticUpdate

variable {δ : Type}

/-! ## The bucket -/

variable (log : List (KeyValueEntry δ)) (key : String)

def lastEntry : Option (KeyValueEntry δ) :=
  log.reverse.find? (·.key = key)

variable (e : KeyValueEntry δ)

def KeyValueEntry.versioned : Option (Versioned (Cluster δ)) :=
  match e.op with
  | .put c => some ⟨c, e.revision⟩
  | .delete | .purge => none

/-- `KeyValue.Get`. -/
def getEntry : Option (Versioned (Cluster δ)) :=
  (lastEntry log key).bind KeyValueEntry.versioned

theorem lastEntry_concat (e : KeyValueEntry δ) (key : String) :
    lastEntry (log ++ [e]) key = if e.key = key then some e else lastEntry log key := by
  rw [lastEntry, List.reverse_append, List.reverse_singleton, List.singleton_append,
    List.find?_cons]
  by_cases h : e.key = key
  · simp [h]
  · simp [h, lastEntry]

theorem map_readCluster_versioned : e.versioned.map readCluster = e.cluster := by
  unfold KeyValueEntry.versioned KeyValueEntry.cluster
  cases e.op <;> rfl

theorem bucketView_eq : bucketView log key = (lastEntry log key).bind KeyValueEntry.cluster := by
  induction log using List.reverseRecOn with
  | nil => rfl
  | append_singleton log e ih =>
    rw [bucketView_concat, lastEntry_concat, applyEntry]
    by_cases h : e.key = key
    · rw [if_pos h, ← h, Function.update_self, Option.bind_some]
    · rw [if_neg h, Function.update_of_ne (Ne.symm h), ih]

theorem map_readCluster_getEntry : (getEntry log key).map readCluster = bucketView log key := by
  rw [bucketView_eq, getEntry, Option.map_bind]
  congr 1
  funext e
  exact map_readCluster_versioned e

theorem getEntry_eq_none {log : List (KeyValueEntry δ)} {key : String} :
    getEntry log key = none ↔ bucketView log key = none := by
  rw [← map_readCluster_getEntry, Option.map_eq_none_iff]

/-! ## The calls -/

inductive ClusterCall (δ : Type) where
  | create (cluster : Cluster δ)
  | update (id : String) (mutator : Cluster δ → Cluster δ)
  | delete (id : String)

inductive ClusterCallState (δ : Type) where
  | started
  | updating (s : CallState (Cluster δ) (Cluster δ) Unit)
  /-- `DeleteCluster` has found the cluster. -/
  | deleting
  | returned (result : Except String Unit)

inductive CallChoice where
  | proceeds
  | fails (err : String)
  /-- The call stops, if it may. -/
  | stops
deriving DecidableEq

def ClusterCall.init : ClusterCall δ → ClusterCallState δ
  | .update _ _ => .updating (.ready none)
  | .create _ | .delete _ => .started

/-- The choice for an update that is in the given state. -/
def CallChoice.toChoice (x : CallChoice) (bump : Nat) (s : CallState (Cluster δ) (Cluster δ) Unit) :
    Choice Unit Unit :=
  match x, s with
  | .proceeds, .writing _ => .write () bump
  | .proceeds, _ => .read ()
  | .fails err, _ => .fails err
  | .stops, _ => .stop

def newEntry (entry entry' : Option (Versioned (Cluster δ))) :
    List (KeyValueEntry δ) :=
  match entry' with
  | some v => if entry.map (·.rev) = some v.rev then [] else [⟨key, v.rev, .put v.value⟩]
  | none => []

variable (call : ClusterCall δ)

/-- One operation of `CreateCluster`, `UpdateCluster` or `DeleteCluster`. -/
def nextClusterCall (x : CallChoice) (log : List (KeyValueEntry δ))
    (p : ClusterCallState δ) : List (KeyValueEntry δ) × ClusterCallState δ :=
  match call, p with
  | .create cluster, .started =>
    match x with
    | .proceeds =>
      match getEntry log cluster.id with
      | some _ => (log, .returned (.error "already exists"))
      | none =>
        (log ++ [⟨cluster.id, log.length + 1, .put { cluster with resourceVersion := "" }⟩],
          .returned (.ok ()))
    | .fails err => (log, .returned (.error ("failed to create cluster: " ++ err)))
    | .stops => (log, .started)
  | .update id mutator, .updating s =>
    let entry := getEntry log id
    let bump := log.length - entry.elim 0 (·.rev)
    let next := nextCall (jetStreamUpdateCluster mutator) (x.toChoice bump s) entry s
    (log ++ newEntry id entry next.1, .updating next.2)
  | .delete id, .started =>
    match x with
    | .proceeds =>
      match getEntry log id with
      | some _ => (log, .deleting)
      | none => (log, .returned (.error "not found"))
    | .fails err => (log, .returned (.error ("failed to get cluster: " ++ err)))
    | .stops => (log, .started)
  | .delete id, .deleting =>
    match x with
    -- the marker is written whatever has happened since the read
    | .proceeds => (log ++ [⟨id, log.length + 1, .delete⟩], .returned (.ok ()))
    | .fails err => (log, .returned (.error err))
    | .stops => (log, .deleting)
  | _, p => (log, p)

/-! ## What an operation writes -/

/-- The operation is the `Delete` of a `DeleteCluster` call for the id. -/
def Deletes (x : CallChoice) (p : ClusterCallState δ) (id : String) : Prop :=
  call = .delete id ∧ p = .deleting ∧ x = .proceeds

/-- The operation is the `Create` of a `CreateCluster` call for the id, which the bucket
    does not have. -/
def Creates (x : CallChoice) (log : List (KeyValueEntry δ))
    (p : ClusterCallState δ) (id : String) : Prop :=
  (∃ cluster, call = .create cluster ∧ cluster.id = id) ∧ p = .started ∧ x = .proceeds ∧
    bucketView log id = none

structure Quiet (x : CallChoice) (log : List (KeyValueEntry δ))
    (p p' : ClusterCallState δ) : Prop where
  not_deletes : ∀ id, ¬Deletes call x p id
  not_creates : ∀ id, ¬Creates call x log p id
  /-- An update that is about to write was so before, or has just read. -/
  writing : ∀ w, p' = .updating (.writing w) → p = p' ∨
    ∃ id mutator v, call = .update id mutator ∧ getEntry log id = some v ∧
      (jetStreamUpdateCluster mutator).attempt () v = .write w

inductive BucketStep (call : ClusterCall δ) (x : CallChoice) (log : List (KeyValueEntry δ)) :
    ClusterCallState δ → List (KeyValueEntry δ) → ClusterCallState δ → Prop
  | quiet {p p'} : Quiet call x log p p' → BucketStep call x log p log p'
  | creates {p cluster rev result} : Creates call x log p cluster.id →
      BucketStep call x log p (log ++ [⟨cluster.id, rev, .put cluster⟩]) (.returned result)
  | updates {id mutator w rev result} : call = .update id mutator → (bucketView log id).isSome →
      BucketStep call x log (.updating (.writing w)) (log ++ [⟨id, rev, .put (w.store ())⟩])
        (.updating (.returned result))
  | deletes {id rev p result} : Deletes call x p id →
      BucketStep call x log p (log ++ [⟨id, rev, .delete⟩]) (.returned result)

theorem Quiet.of_ne {call : ClusterCall δ} {x : CallChoice} {log : List (KeyValueEntry δ)}
    {p p' : ClusterCallState δ} (hdel : ∀ id, ¬Deletes call x p id)
    (hcre : ∀ id, ¬Creates call x log p id) (hne : ∀ w, p' ≠ .updating (.writing w)) :
    Quiet call x log p p' :=
  ⟨hdel, hcre, fun w hw => absurd hw (hne w)⟩

theorem newEntry_self (entry : Option (Versioned (Cluster δ))) : newEntry key entry entry = [] := by
  cases entry <;> simp [newEntry]

theorem bucketStep_update (id : String) (mutator : Cluster δ → Cluster δ) (x : CallChoice)
    (log : List (KeyValueEntry δ)) (s : CallState (Cluster δ) (Cluster δ) Unit) :
    BucketStep (.update id mutator) x log (.updating s)
      (nextClusterCall (.update id mutator) x log (.updating s)).1
      (nextClusterCall (.update id mutator) x log (.updating s)).2 := by
  have hquiet : ∀ s', (∀ w, s' = .writing w → s' = s ∨ ∃ v, getEntry log id = some v ∧
      (jetStreamUpdateCluster mutator).attempt () v = .write w) →
      Quiet (.update id mutator) x log (.updating s) (.updating s') := by
    intro s' h
    refine ⟨by simp [Deletes], by simp [Creates], ?_⟩
    intro w hw
    obtain rfl := (ClusterCallState.updating.inj hw)
    rcases h w rfl with rfl | ⟨v, hv, hattempt⟩
    · exact .inl rfl
    · exact .inr ⟨id, mutator, v, rfl, hv, hattempt⟩
  simp only [nextClusterCall]
  have hstep := callStep_nextCall (jetStreamUpdateCluster mutator)
    (x.toChoice (log.length - (getEntry log id).elim 0 (·.rev)) s) (getEntry log id) s
  generalize nextCall (jetStreamUpdateCluster mutator) _ (getEntry log id) s = next at hstep ⊢
  obtain ⟨entry', s'⟩ := next
  generalize hentry : getEntry log id = entry at hstep ⊢
  cases hstep with
  | stays _ _ hwriting _ =>
    rw [newEntry_self, List.append_nil]
    exact .quiet (hquiet _ fun w hw => .inl (hwriting w hw))
  | done | expires hexpired =>
    rw [newEntry_self, List.append_nil]
    exact .quiet (hquiet _ fun w hw => absurd hw (by simp))
  | reads hv hattempt =>
    rw [newEntry_self, List.append_nil]
    refine .quiet (hquiet _ fun w hw => .inr ⟨_, hentry.trans hv, ?_⟩)
    rwa [← CallState.writing.inj hw]
  | writes k bump hv hrev =>
    rw [hv, newEntry, if_neg (by simp; omega)]
    refine .updates rfl ?_
    rw [← map_readCluster_getEntry, hentry, hv]
    rfl
  | collects =>
    rw [newEntry, List.append_nil]
    exact .quiet (hquiet _ fun w hw => absurd hw (by simp))

theorem bucketStep_nextClusterCall (x : CallChoice)
    (log : List (KeyValueEntry δ)) (p : ClusterCallState δ) :
    BucketStep call x log p (nextClusterCall call x log p).1 (nextClusterCall call x log p).2 := by
  fun_cases nextClusterCall call x log p with
  | case1 cluster v hget =>
    have hlive : bucketView log cluster.id ≠ none := fun hnone => by
      rw [getEntry_eq_none.mpr hnone] at hget
      cases hget
    exact .quiet (.of_ne (by simp [Deletes]) (by simp [Creates, hlive]) (by simp))
  | case2 cluster hget =>
    have hcreates : Creates (.create cluster) .proceeds log .started
        { cluster with resourceVersion := "" }.id :=
      ⟨⟨cluster, rfl, rfl⟩, rfl, rfl, getEntry_eq_none.mp hget⟩
    exact .creates hcreates
  | case5 => exact bucketStep_update _ _ x log _
  | case10 id => exact .deletes ⟨rfl, rfl, rfl⟩
  | case13 _ _ _ hcreate _ _ hdeleting =>
    refine .quiet ⟨?_, ?_, fun w hw => .inl rfl⟩
    · rintro _ ⟨rfl, rfl, -⟩
      exact hdeleting _ rfl rfl
    · rintro _ ⟨⟨_, rfl, -⟩, rfl, -⟩
      exact hcreate _ rfl rfl
  | _ => exact .quiet (.of_ne (by simp [Deletes]) (by simp [Creates]) (by simp))

inductive Adds (call : ClusterCall δ) (x : CallChoice) (log : List (KeyValueEntry δ))
    (p : ClusterCallState δ) : List (KeyValueEntry δ) → Prop
  | nothing : (∀ id, ¬Deletes call x p id) → (∀ id, ¬Creates call x log p id) → Adds call x log p []
  | created {cluster rev} : Creates call x log p cluster.id →
      Adds call x log p [⟨cluster.id, rev, .put cluster⟩]
  | updated {id mutator cluster rev} : call = .update id mutator → (bucketView log id).isSome →
      Adds call x log p [⟨id, rev, .put cluster⟩]
  | deleted {id rev} : Deletes call x p id → Adds call x log p [⟨id, rev, .delete⟩]

theorem BucketStep.adds {call : ClusterCall δ} {x : CallChoice} {log log' : List (KeyValueEntry δ)}
    {p p' : ClusterCallState δ} (h : BucketStep call x log p log' p') :
    ∃ entries, log' = log ++ entries ∧ Adds call x log p entries := by
  cases h with
  | quiet h => exact ⟨[], (List.append_nil _).symm, .nothing h.not_deletes h.not_creates⟩
  | creates h => exact ⟨_, rfl, .created h⟩
  | updates hcall hlive => exact ⟨_, rfl, .updated hcall hlive⟩
  | deletes h => exact ⟨_, rfl, .deleted h⟩

/-! ## Runs -/

variable {ι : Type} [DecidableEq ι] (calls : ι → ClusterCall δ)

abbrev nextOf (i : ι) := nextClusterCall (calls i)

/-- Calls on an empty bucket, with their operations in any order. -/
def runCalls (events : List (ι × CallChoice)) :
    Config ι (List (KeyValueEntry δ)) (ClusterCallState δ) :=
  run (nextOf calls) ⟨[], fun i => (calls i).init⟩ events

/-- The mutators of the calls keep the id of the cluster. -/
def KeepIds : Prop :=
  ∀ i id mutator, calls i = .update id mutator → ∀ c, (mutator c).id = c.id

/-- What holds in every run: the entries are under the ids of their clusters, also the
    ones that are about to be written. -/
structure BucketInv (c : Config ι (List (KeyValueEntry δ)) (ClusterCallState δ)) : Prop where
  written : ∀ e ∈ c.shared, e.Written
  writing : ∀ i id mutator w, calls i = .update id mutator →
    c.procs i = .updating (.writing w) → (w.store ()).id = id

theorem id_of_getEntry {log : List (KeyValueEntry δ)} (hlog : ∀ e ∈ log, e.Written) {id : String}
    {v : Versioned (Cluster δ)} (h : getEntry log id = some v) : v.value.id = id := by
  obtain ⟨e, hlast, hv⟩ := Option.bind_eq_some_iff.mp h
  have hkey : e.key = id := by simpa using List.find?_some hlast
  have hc : e.cluster = some (readCluster v) := by
    rw [← map_readCluster_versioned, hv]
    rfl
  rw [← hkey]
  show (readCluster v).id = e.key
  exact (hlog e (List.mem_reverse.mp (List.mem_of_find?_eq_some hlast))).id_of_cluster hc

theorem BucketInv.step {calls : ι → ClusterCall δ} (hids : KeepIds calls)
    {c : Config ι (List (KeyValueEntry δ)) (ClusterCallState δ)} (h : BucketInv calls c)
    (e : ι × CallChoice) : BucketInv calls (step (nextOf calls) c e) := by
  obtain ⟨i, x⟩ := e
  have hstep := bucketStep_nextClusterCall (calls i) x c.shared (c.procs i)
  refine ⟨?_, ?_⟩
  · intro e he
    simp only [Interleave.step] at he
    generalize (nextClusterCall (calls i) x c.shared (c.procs i)).1 = log' at hstep he
    generalize (nextClusterCall (calls i) x c.shared (c.procs i)).2 = p' at hstep
    generalize hp : c.procs i = p at hstep
    cases hstep with
    | quiet _ => exact h.written e he
    | creates _ =>
      rcases List.mem_append.mp he with he | he
      · exact h.written e he
      · rw [List.mem_singleton.mp he]
        rfl
    | updates hcall _ =>
      rcases List.mem_append.mp he with he | he
      · exact h.written e he
      · rw [List.mem_singleton.mp he]
        exact h.writing i _ _ _ hcall hp
    | deletes _ =>
      rcases List.mem_append.mp he with he | he
      · exact h.written e he
      · rw [List.mem_singleton.mp he]
        trivial
  · intro j id mutator w hcall hj
    by_cases hji : j = i
    · subst hji
      rw [procs_step_self] at hj
      rw [hj] at hstep
      generalize hp : c.procs j = p at hstep
      generalize (nextClusterCall (calls j) x c.shared p).1 = log' at hstep
      cases hstep with
      | quiet hquiet =>
        rcases hquiet.writing w rfl with rfl | ⟨id', mutator', v, hcall', hget, hattempt⟩
        · exact h.writing j id mutator w hcall hp
        · rw [hcall] at hcall'
          obtain ⟨rfl, rfl⟩ := ClusterCall.update.inj hcall'
          simp only [jetStreamUpdateCluster, clusterAttempt] at hattempt
          split at hattempt
          · cases hattempt
          · rw [← Attempt.write.inj hattempt, ← id_of_getEntry h.written hget]
            exact hids j id mutator hcall _
    · rw [procs_step_of_ne _ _ _ hji] at hj
      exact h.writing j id mutator w hcall hj

theorem bucketInv_runCalls {calls : ι → ClusterCall δ} (hids : KeepIds calls)
    (events : List (ι × CallChoice)) : BucketInv calls (runCalls calls events) := by
  induction events using List.reverseRecOn with
  | nil =>
    refine ⟨by simp [runCalls], ?_⟩
    intro i id mutator w hcall hi
    simp [runCalls, hcall, ClusterCall.init] at hi
  | append_singleton events e ih =>
    rw [runCalls, run_concat]
    exact ih.step hids e

end Opni.Storage
