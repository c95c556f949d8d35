/-
  Opni.Storage.WatchEvents

  Whether the JetStream watches crash, and whether their events are
  well-formed, on the entries that interleaved calls of `CreateCluster`,
  `UpdateCluster` and `DeleteCluster` write.
-/

import Opni.Storage.BucketCalls

namespace Opni.Storage

open Lib Lib.Interleave Function

variable {δ : Type} {log since : List (KeyValueEntry δ)} (knownClusters : List (Cluster δ))

/-! ## `WatchClusters` -/

/-- The clusters that are known to the watch after the initial entries. -/
def seenView (knownClusters : List (Cluster δ)) (log : List (KeyValueEntry δ)) : View δ :=
  ((lastEntries log).filterMap KeyValueEntry.cluster).foldl see (knownView knownClusters)

theorem isSome_seenView (hlog : ∀ e ∈ log, e.Written) (id : String) :
    (seenView knownClusters log id).isSome ↔
      (bucketView log id).isSome ∨ (knownView knownClusters id).isSome := by
  have hlists := lists_lastEntries hlog
  cases hstore : bucketView log id with
  | none =>
    rw [seenView, foldl_see_of_ne (hlists.ne_of_none hstore)]
    simp
  | some c =>
    obtain ⟨hmem, rfl⟩ := (hlists.mem_iff id c).mp hstore
    rw [seenView, foldl_see_of_mem hlists.nodup hmem]
    simp

/-- The cluster is in the bucket, or it was known at the start of the watch and has not
    been written since. -/
def Expected (knownClusters : List (Cluster δ)) (log since : List (KeyValueEntry δ)) (id : String) :
    Prop :=
  (bucketView (log ++ since) id).isSome ∨
    (knownView knownClusters id).isSome ∧ ∀ e ∈ since, e.key ≠ id

theorem isSome_foldl_seenView (hlog : ∀ e ∈ log, e.Written) (since : List (KeyValueEntry δ))
    (id : String) :
    (since.foldl applyEntry (seenView knownClusters log) id).isSome ↔
      Expected knownClusters log since id := by
  unfold Expected
  induction since using List.reverseRecOn with
  | nil =>
    rw [List.foldl_nil, isSome_seenView knownClusters hlog, List.append_nil]
    simp
  | append_singleton since e ih =>
    rw [List.foldl_concat, ← List.append_assoc, bucketView_concat, applyEntry, applyEntry]
    by_cases hid : id = e.key
    · -- the last entry decides
      subst hid
      simp
    · rw [update_of_ne hid, update_of_ne hid, ih]
      have hne : e.key ≠ id := Ne.symm hid
      simp [hne, or_imp, forall_and]

/-- The watch has not crashed, and its events are well-formed. -/
def WatchOk {α : Type} (watch : List (WatchEvent δ) × Except NilDereference α) : Prop :=
  (∃ known, watch.2 = .ok known) ∧ ∀ event ∈ watch.1, event.WellFormed

theorem watchOk_iff [Inhabited δ] {later : List (KeyValueEntry δ)} (hlog : ∀ e ∈ log, e.Written)
    (hlater : ∀ e ∈ later, e.Written) :
    WatchOk (watchClusters knownClusters (lastEntries log) later) ↔
      DeletesLive (seenView knownClusters log) later := by
  obtain ⟨s, hs, hwatch⟩ := watchClusters_eq knownClusters
    fun e he => hlog e (mem_of_mem_lastEntries he)
  rw [hwatch, seenView, ← hs.known]
  apply Iff.intro
  · rintro ⟨⟨known, hok⟩, -⟩
    exact deletesLive_of_watchFrom hs.keyed hlater hok
  · intro hlive
    obtain ⟨hok, -, hwf⟩ := watchFrom_of_deletesLive hs.keyed hlater hlive
    exact ⟨hok, List.forall_mem_append.mpr ⟨hs.wellFormed, hwf⟩⟩

/-! ## `WatchCluster` -/

/-- After a delete marker for the id nothing more is written for it. -/
def EndsDeleted (id : String) (entries : List (KeyValueEntry δ)) : Prop :=
  ∀ before e, before ++ [e] <+: entries → e.key = id →
    ∀ e' ∈ before, e'.key = id → e'.cluster ≠ none

section WatchCluster

variable [Inhabited δ]

theorem translateClusterWatchEvent_current (e : KeyValueEntry δ) :
    (translateClusterWatchEvent e).current = e.cluster := by
  unfold translateClusterWatchEvent KeyValueEntry.cluster
  cases e.op <;> rfl

/-- An initial entry is well: a delete marker makes for an event without a cluster,
    unless the watched cluster has no resource version. -/
def InitialEntryOk (cluster : Cluster δ) (e : KeyValueEntry δ) : Prop :=
  cluster.resourceVersion ≠ "" → e.cluster ≠ none

/-- The watch is of a cluster with the id, and is not at a deleted one. -/
def Watches (id : String) (current : Option (Cluster δ)) : Prop := ∃ c, current = some c ∧ c.id = id

variable {cluster : Cluster δ} {e : KeyValueEntry δ} {id : String}
  {s : Option (Cluster δ) × List (WatchEvent δ)} {later : List (KeyValueEntry δ)}

theorem watchClusterInitialStep_wellFormed (hwritten : e.Written) (hkey : e.key = cluster.id)
    (s : Option (Cluster δ) × List (WatchEvent δ)) :
    ((∀ event ∈ (watchClusterInitialStep cluster s e).2, event.WellFormed) ↔
      (∀ event ∈ s.2, event.WellFormed) ∧ InitialEntryOk cluster e) ∧
    (InitialEntryOk cluster e → Watches cluster.id s.1 →
      Watches cluster.id (watchClusterInitialStep cluster s e).1) := by
  simp only [watchClusterInitialStep, translateClusterWatchEvent_current, InitialEntryOk]
  cases hc : e.cluster with
  | some c =>
    have hid : c.id = cluster.id := (hwritten.id_of_cluster hc).trans hkey
    split
    · refine ⟨?_, fun _ _ => ⟨c, rfl, hid⟩⟩
      rw [List.forall_mem_append]
      simp [WatchEvent.WellFormed, hid]
    · simp
  | none =>
    by_cases hversion : cluster.resourceVersion = ""
    · simp [getResourceVersion, hversion]
    · rw [if_pos (fun h => hversion h.symm), List.forall_mem_append]
      simp [WatchEvent.WellFormed, hversion]

theorem foldl_watchClusterInitialStep {initial : List (KeyValueEntry δ)}
    (hes : ∀ e ∈ initial, e.Written ∧ e.key = cluster.id)
    (s : Option (Cluster δ) × List (WatchEvent δ)) :
    ((∀ event ∈ (initial.foldl (watchClusterInitialStep cluster) s).2, event.WellFormed) ↔
      (∀ event ∈ s.2, event.WellFormed) ∧ ∀ e ∈ initial, InitialEntryOk cluster e) ∧
    ((∀ e ∈ initial, InitialEntryOk cluster e) → Watches cluster.id s.1 →
      Watches cluster.id (initial.foldl (watchClusterInitialStep cluster) s).1) := by
  induction initial generalizing s with
  | nil => simp
  | cons e initial ih =>
    obtain ⟨⟨hwritten, hkey⟩, hes⟩ := List.forall_mem_cons.mp hes
    obtain ⟨hwf, hwatches⟩ := watchClusterInitialStep_wellFormed hwritten hkey s
    obtain ⟨hwfs, hwatchess⟩ := ih hes (watchClusterInitialStep cluster s e)
    rw [List.foldl_cons, hwfs, hwf, and_assoc, List.forall_mem_cons]
    refine ⟨Iff.rfl, ?_⟩
    rintro ⟨he, hrest⟩ hs
    exact hwatchess hrest (hwatches he hs)

theorem watchClusterStep_wellFormed (hwritten : e.Written) (hkey : e.key = id)
    (hs : ∀ c, s.1 = some c → c.id = id) :
    (watchClusterStep s e).1 = e.cluster ∧
    ((∀ event ∈ (watchClusterStep s e).2, event.WellFormed) ↔
      (∀ event ∈ s.2, event.WellFormed) ∧ s.1 ≠ none) := by
  have hid : ∀ c, e.cluster = some c → c.id = id :=
    fun c hc => (hwritten.id_of_cluster hc).trans hkey
  unfold KeyValueEntry.cluster at hid ⊢
  simp only [watchClusterStep, translateClusterWatchEvent]
  cases hop : e.op with
  | put c =>
    rw [hop] at hid
    rw [List.forall_mem_append]
    cases hcurrent : s.1 with
    | none => simp [WatchEvent.WellFormed]
    | some prev => simp [WatchEvent.WellFormed, hid _ rfl, hs prev hcurrent]
  | delete | purge =>
    rw [List.forall_mem_append]
    cases s.1 with
    | none | some prev => simp [WatchEvent.WellFormed]

/-- What the watch is at after later entries, and whether all events are well-formed. -/
structure LaterOk (id : String) (later : List (KeyValueEntry δ))
    (s : Option (Cluster δ) × List (WatchEvent δ)) : Prop where
  wellFormed : (∀ event ∈ s.2, event.WellFormed) ↔ EndsDeleted id later
  ids : ∀ c, s.1 = some c → c.id = id
  deleted : EndsDeleted id later → (s.1 ≠ none ↔ ∀ e ∈ later, e.key = id → e.cluster ≠ none)

theorem foldl_watchClusterStep
    (hes : ∀ e ∈ later, e.Written) (hwf : ∀ event ∈ s.2, event.WellFormed) (hs : Watches id s.1) :
    LaterOk id later ((later.filter (·.key = id)).foldl watchClusterStep s) := by
  induction later using List.reverseRecOn with
  | nil =>
    obtain ⟨c, hc, hid⟩ := hs
    refine ⟨⟨fun _ => ?_, fun _ => hwf⟩, ?_, ?_⟩
    · exact forall_prefix_nil
    · intro c' hc'
      rw [List.filter_nil, List.foldl_nil, hc] at hc'
      rwa [← Option.some.inj hc']
    · simp [hc]
  | append_singleton later e ih =>
    obtain ⟨hlater, he⟩ := List.forall_mem_append.mp hes
    have ih := ih hlater
    have hends : EndsDeleted id (later ++ [e]) ↔ EndsDeleted id later ∧
        (e.key = id → ∀ e' ∈ later, e'.key = id → e'.cluster ≠ none) := forall_prefix_concat
    by_cases hkey : e.key = id
    · have hfilter : (later ++ [e]).filter (·.key = id) = later.filter (·.key = id) ++ [e] := by
        simp [hkey]
      rw [hfilter, List.foldl_concat]
      obtain ⟨hcurrent, hevents⟩ := watchClusterStep_wellFormed (he e (by simp)) hkey ih.ids
      refine ⟨?_, ?_, ?_⟩
      · rw [hevents, ih.wellFormed, hends]
        apply and_congr_right
        intro h
        rw [ih.deleted h, forall_prop_of_true hkey]
      · intro c hc
        rw [hcurrent] at hc
        exact ((he e (by simp)).id_of_cluster hc).trans hkey
      · intro h
        rw [hcurrent, List.forall_mem_append, and_iff_right ((hends.mp h).2 hkey)]
        simp [hkey]
    · have hfilter : (later ++ [e]).filter (·.key = id) = later.filter (·.key = id) := by
        simp [hkey]
      rw [hfilter]
      refine ⟨?_, ih.ids, ?_⟩
      · rw [ih.wellFormed, hends]
        simp [hkey]
      · intro h
        rw [ih.deleted (hends.mp h).1]
        simp [or_imp, forall_and, hkey]

theorem subset_foldl_watchClusterStep (later : List (KeyValueEntry δ))
    (s : Option (Cluster δ) × List (WatchEvent δ)) : s.2 ⊆ (later.foldl watchClusterStep s).2 := by
  induction later generalizing s with
  | nil => exact List.Subset.refl _
  | cons e later ih =>
    apply List.Subset.trans _ (ih (watchClusterStep s e))
    unfold watchClusterStep
    simp only
    split <;> exact List.subset_append_left _ _

theorem watchCluster_wellFormed_iff (cluster : Cluster δ) {log : List (KeyValueEntry δ)}
    (hlog : ∀ e ∈ log, e.Written) (hlater : ∀ e ∈ later, e.Written) :
    (∀ event ∈ watchCluster cluster ((lastEntries log).filter (·.key = cluster.id))
        (later.filter (·.key = cluster.id)), event.WellFormed) ↔
      (∀ e ∈ (lastEntries log).filter (·.key = cluster.id), InitialEntryOk cluster e) ∧
        EndsDeleted cluster.id later := by
  have hinitial : ∀ e ∈ (lastEntries log).filter (·.key = cluster.id),
      e.Written ∧ e.key = cluster.id := by
    intro e he
    obtain ⟨hmem, hkey⟩ := List.mem_filter.mp he
    exact ⟨hlog e (mem_of_mem_lastEntries hmem), of_decide_eq_true hkey⟩
  obtain ⟨hwf, hwatches⟩ := foldl_watchClusterInitialStep hinitial (some cluster, [])
  rw [watchCluster]
  by_cases hok : ∀ e ∈ (lastEntries log).filter (·.key = cluster.id), InitialEntryOk cluster e
  · have hlaterOk := foldl_watchClusterStep hlater (hwf.mpr ⟨by simp, hok⟩)
      (hwatches hok ⟨cluster, rfl, rfl⟩)
    rw [hlaterOk.wellFormed, and_iff_right hok]
  · apply iff_of_false
    · intro hall
      exact hok (hwf.mp fun event h => hall event (subset_foldl_watchClusterStep _ _ h)).2
    · exact fun h => hok h.1

end WatchCluster

/-! ## Runs -/

variable {ι : Type} (calls : ι → ClusterCall δ)

/-- The entries since the watch has started, which was when the bucket had `log`. -/
def entriesSince (log log' : List (KeyValueEntry δ)) : List (KeyValueEntry δ) :=
  log'.drop log.length

abbrev CallsConfig (ι δ : Type) := Config ι (List (KeyValueEntry δ)) (ClusterCallState δ)

/-- A `DeleteCluster` call deletes only a cluster that is in the bucket, or that was
    known to the watch and has not been written since. -/
def DeletesExpected (knownClusters : List (Cluster δ)) (log : List (KeyValueEntry δ))
    (c : CallsConfig ι δ) (e : ι × CallChoice) : Prop :=
  ∀ id, Deletes (calls e.1) e.2 (c.procs e.1) id →
    Expected knownClusters log (entriesSince log c.shared) id

/-- The cluster is not created or deleted if it has been deleted since the watch has
    started. -/
def NotAfterDelete (id : String) (log : List (KeyValueEntry δ)) (c : CallsConfig ι δ)
    (e : ι × CallChoice) : Prop :=
  Deletes (calls e.1) e.2 (c.procs e.1) id ∨ Creates (calls e.1) e.2 c.shared (c.procs e.1) id →
    ∀ e' ∈ entriesSince log c.shared, e'.key = id → e'.cluster ≠ none

theorem entriesSince_append (log since : List (KeyValueEntry δ)) :
    entriesSince log (log ++ since) = since := List.drop_left

variable {entries : List (KeyValueEntry δ)} {e : KeyValueEntry δ} {id : String}

theorem deletesLive_concat {view : View δ} :
    DeletesLive view (entries ++ [e]) ↔ DeletesLive view entries ∧
      (e.cluster = none → (entries.foldl applyEntry view e.key).isSome) :=
  forall_prefix_concat

theorem endsDeleted_concat : EndsDeleted id (entries ++ [e]) ↔ EndsDeleted id entries ∧
      (e.key = id → ∀ e' ∈ entries, e'.key = id → e'.cluster ≠ none) :=
  forall_prefix_concat

theorem EndsDeleted.of_live (h : EndsDeleted id since)
    (hlive : (bucketView (log ++ since) id).isSome) :
    ∀ e ∈ since, e.key = id → e.cluster ≠ none := by
  induction since using List.reverseRecOn with
  | nil => simp
  | append_singleton since e ih =>
    rw [endsDeleted_concat] at h
    rw [← List.append_assoc, bucketView_concat, applyEntry] at hlive
    rw [List.forall_mem_append]
    by_cases hkey : e.key = id
    · refine ⟨h.2 hkey, ?_⟩
      rw [← hkey, update_self] at hlive
      intro e' he' _
      rw [List.mem_singleton.mp he']
      exact Option.isSome_iff_ne_none.mp hlive
    · rw [update_of_ne (Ne.symm hkey)] at hlive
      refine ⟨ih h.1 hlive, ?_⟩
      intro e' he' hkey'
      rw [List.mem_singleton.mp he'] at hkey'
      exact absurd hkey' hkey

variable {calls} {log : List (KeyValueEntry δ)} {c : CallsConfig ι δ}

theorem deletesLive_step (hlog : ∀ e ∈ log, e.Written) {e : ι × CallChoice}
    (hshared : c.shared = log ++ since)
    (hadds : Adds (calls e.1) e.2 c.shared (c.procs e.1) entries) :
    DeletesLive (seenView knownClusters log) (since ++ entries) ↔
      DeletesLive (seenView knownClusters log) since ∧
        DeletesExpected calls knownClusters log c e := by
  unfold DeletesExpected
  rw [hshared, entriesSince_append]
  cases hadds with
  | nothing hdel _ => simp [hdel]
  | created hcreates =>
    obtain ⟨⟨cluster, hcall, -⟩, -⟩ := hcreates
    rw [deletesLive_concat]
    simp [KeyValueEntry.cluster, Deletes, hcall]
  | updated hcall _ =>
    rw [deletesLive_concat]
    simp [KeyValueEntry.cluster, Deletes, hcall]
  | deleted hdel =>
    rw [deletesLive_concat, isSome_foldl_seenView knownClusters hlog]
    obtain ⟨hcall, hp, hx⟩ := hdel
    simp [KeyValueEntry.cluster, Deletes, hcall, hp, hx]

theorem endsDeleted_step (id : String) {e : ι × CallChoice} (hshared : c.shared = log ++ since)
    (hadds : Adds (calls e.1) e.2 c.shared (c.procs e.1) entries) :
    EndsDeleted id (since ++ entries) ↔
      EndsDeleted id since ∧ NotAfterDelete calls id log c e := by
  unfold NotAfterDelete
  rw [hshared, entriesSince_append, ← hshared]
  cases hadds with
  | nothing hdel hcre => simp [hdel, hcre]
  | @created cluster rev hcreates =>
    rw [endsDeleted_concat]
    obtain ⟨⟨cluster', hcall, hid⟩, hp, hx, hnone⟩ := hcreates
    have hiff : Creates (calls e.1) e.2 c.shared (c.procs e.1) id ↔ cluster.id = id := by
      apply Iff.intro
      · rintro ⟨⟨cluster'', hcall', rfl⟩, -⟩
        rw [hcall] at hcall'
        rw [← hid, ClusterCall.create.inj hcall']
      · rintro rfl
        exact ⟨⟨cluster', hcall, hid⟩, hp, hx, hnone⟩
    have hnot : ¬Deletes (calls e.1) e.2 (c.procs e.1) id := by simp [Deletes, hcall]
    rw [hiff, or_iff_right hnot]
  | @updated id' mutator cluster rev hcall hlive =>
    rw [endsDeleted_concat]
    apply and_congr_right
    intro hends
    apply iff_of_true
    · rintro rfl
      exact hends.of_live (hshared ▸ hlive)
    · simp [Deletes, Creates, hcall]
  | @deleted id' rev hdel =>
    obtain ⟨hcall, hp, hx⟩ := hdel
    rw [endsDeleted_concat]
    simp [Deletes, Creates, hcall, hp, hx]

variable [DecidableEq ι]

section

variable (calls : ι → ClusterCall δ)

theorem exists_adds (c : CallsConfig ι δ) (e : ι × CallChoice) :
    ∃ entries, (step (nextOf calls) c e).shared = c.shared ++ entries ∧
      Adds (calls e.1) e.2 c.shared (c.procs e.1) entries :=
  (bucketStep_nextClusterCall (calls e.1) e.2 c.shared (c.procs e.1)).adds

theorem exists_since (c : CallsConfig ι δ) (events : List (ι × CallChoice)) :
    ∃ since, (run (nextOf calls) c events).shared = c.shared ++ since := by
  induction events using List.reverseRecOn with
  | nil => exact ⟨[], (List.append_nil _).symm⟩
  | append_singleton events e ih =>
    obtain ⟨since, ih⟩ := ih
    obtain ⟨entries, hstep, -⟩ :=
      exists_adds calls (run (nextOf calls) c events) e
    rw [run_concat, hstep, ih]
    exact ⟨since ++ entries, List.append_assoc ..⟩

theorem runCalls_append (before after : List (ι × CallChoice)) :
    runCalls calls (before ++ after) =
      run (nextOf calls) (runCalls calls before) after := run_append ..

/-- What is said about the entries since a state follows the bucket operation by operation. -/
theorem iff_throughout_since {Q : List (KeyValueEntry δ) → Prop}
    {P : CallsConfig ι δ → ι × CallChoice → Prop} (hnil : Q [])
    (hstep : ∀ c' since entries e, c'.shared = c.shared ++ since →
      Adds (calls e.1) e.2 c'.shared (c'.procs e.1) entries →
      (Q (since ++ entries) ↔ Q since ∧ P c' e))
    (events : List (ι × CallChoice)) :
    Q (entriesSince c.shared (run (nextOf calls) c events).shared) ↔
      Throughout (nextOf calls) P c events := by
  apply iff_throughout (Q := fun c' => Q (entriesSince c.shared c'.shared))
  · rwa [entriesSince, List.drop_length]
  · intro events e
    obtain ⟨since, hrun⟩ := exists_since calls c events
    obtain ⟨entries, hafter, hadds⟩ := exists_adds calls (run (nextOf calls) c events) e
    rw [hafter, hrun, List.append_assoc, entriesSince_append, entriesSince_append]
    exact hstep _ since entries e hrun hadds

end

/-- A watch that starts after some operations of the calls and sees the others.
    `WatchClusters` does not crash and its events are well-formed, if and only if
    every operation that deletes a cluster finds it in the bucket, or it was known and has not
    been written since.  The events of `WatchCluster` are well-formed, if and only if
    it does not start with the cluster deleted (unless it is given without a resource
    version), and the cluster is neither created nor deleted again after it has been
    deleted. -/
theorem watch_wellFormed_iff [Inhabited δ] {calls : ι → ClusterCall δ} (hids : KeepIds calls)
    (before after : List (ι × CallChoice)) : let log := (runCalls calls before).shared
    let later := entriesSince log (runCalls calls (before ++ after)).shared
    (∀ knownClusters : List (Cluster δ),
      WatchOk (watchClusters knownClusters (lastEntries log) later) ↔
        Throughout (nextOf calls) (DeletesExpected calls knownClusters log)
          (runCalls calls before) after) ∧
    ∀ cluster : Cluster δ,
      (∀ event ∈ watchCluster cluster ((lastEntries log).filter (·.key = cluster.id))
          (later.filter (·.key = cluster.id)), event.WellFormed) ↔
        (∀ e ∈ (lastEntries log).filter (·.key = cluster.id), InitialEntryOk cluster e) ∧
          Throughout (nextOf calls) (NotAfterDelete calls cluster.id log)
            (runCalls calls before) after := by
  intro log later
  have hlog : ∀ e ∈ log, e.Written := (bucketInv_runCalls hids before).written
  have hlater : ∀ e ∈ later, e.Written := fun e he =>
    (bucketInv_runCalls hids (before ++ after)).written e (List.mem_of_mem_drop he)
  refine ⟨?_, ?_⟩
  · intro knownClusters
    rw [watchOk_iff knownClusters hlog hlater]
    simp only [later, runCalls_append]
    exact iff_throughout_since calls (deletesLive_nil _)
      (fun _ _ _ _ => deletesLive_step knownClusters hlog) after
  · intro cluster
    rw [watchCluster_wellFormed_iff cluster hlog hlater]
    apply and_congr_right'
    simp only [later, runCalls_append]
    exact iff_throughout_since calls forall_prefix_nil
      (fun _ _ _ _ => endsDeleted_step cluster.id) after

def twoDeletes : Fin 3 → ClusterCall Unit
  | 0 => .create ⟨"a", (), ""⟩
  | 1 | 2 => .delete "a"

theorem keepIds_twoDeletes : KeepIds twoDeletes := by
  intro i id mutator h
  match i with
  | 0 | 1 | 2 => simp [twoDeletes] at h

/-- One call deletes the cluster. -/
theorem watch_wellFormed_one_delete :
    let log := (runCalls twoDeletes [(0, .proceeds)]).shared
    let after := [] ++ [(1, CallChoice.proceeds)] ++ [(1, .proceeds)]
    let later := entriesSince log (runCalls twoDeletes ([(0, .proceeds)] ++ after)).shared
    KeepIds twoDeletes ∧ WatchOk (watchClusters [] (lastEntries log) later) := by
  intro log after later
  refine ⟨keepIds_twoDeletes, ?_⟩
  apply ((watch_wellFormed_iff keepIds_twoDeletes [(0, .proceeds)] after).1 []).mpr
  refine throughout_concat_iff.mpr ⟨throughout_concat_iff.mpr ⟨throughout_nil, ?_⟩, ?_⟩
  · rintro id ⟨-, hp, -⟩
    have hstarted : (runCalls twoDeletes [(0, .proceeds)]).procs 1 = .started := rfl
    cases hstarted.symm.trans hp
  · rintro id ⟨hcall, -, -⟩
    obtain rfl := ClusterCall.delete.inj hcall
    exact .inl (by decide)

/-- Both calls read before either deletes: `WatchClusters` crashes, and `WatchCluster`
    sends a `Delete` without a cluster. -/
theorem watch_second_delete :
    let log := (runCalls twoDeletes [(0, .proceeds)]).shared
    let after := [(1, CallChoice.proceeds), (2, .proceeds), (1, .proceeds), (2, .proceeds)]
    let later := entriesSince log (runCalls twoDeletes ([(0, .proceeds)] ++ after)).shared
    (watchClusters [] (lastEntries log) later).2 = .error .nilDereference ∧
      ⟨.delete, none, none⟩ ∈ watchCluster ⟨"a", (), "1"⟩ (lastEntries log) later := by
  refine ⟨by rfl, by decide⟩

end Opni.Storage
