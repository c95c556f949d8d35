/-
  Opni.Aiops.Aggregation

  Counting the logs of workloads: the buckets of a search are added up page by
  page and stored, and read for one cluster
  (`plugins/aiops/pkg/gateway/aggregation.go` and `modeltraining.go`).
-/

import Opni.Lib.GoData

namespace Opni.Aiops

open Lib

structure Key where
  clusterID : String
  namespaceName : String
  deploymentName : String
deriving DecidableEq

structure Bucket where
  key : Key
  docCount : Int

/-- `BucketSpec`, a page of the aggregation. -/
structure Page where
  afterKey : Option Key
  buckets : List Bucket

structure DeploymentLogCount where
  deploymentName : String
  count : Int

abbrev NamespaceAggregation := GoMap String DeploymentLogCount

abbrev ClusterAggregation := GoMap String NamespaceAggregation

abbrev Aggregations := GoMap String ClusterAggregation

namespace Aggregations

variable (a : Aggregations) (b : Bucket) (k : Key)

def add : Aggregations :=
  let cluster := (a.lookup b.key.clusterID).getD ∅
  let ns := (cluster.lookup b.key.namespaceName).getD ∅
  a.insert b.key.clusterID (cluster.insert b.key.namespaceName
    (ns.insert b.key.deploymentName ⟨b.key.deploymentName, b.docCount⟩))

/-- The count of a deployment. -/
def countOf : Option Int :=
  let ns := ((a.lookup k.clusterID).getD ∅).lookup k.namespaceName
  ((ns.getD ∅).lookup k.deploymentName).map (·.count)

theorem countOf_add : (a.add b).countOf k = if k = b.key then some b.docCount else a.countOf k := by
  obtain ⟨c, n, d⟩ := k
  obtain ⟨⟨c', n', d'⟩, count⟩ := b
  simp only [countOf, add, GoMap.lookup_insert_eq, Key.mk.injEq]
  rcases eq_or_ne c c' with rfl | hc <;> rcases eq_or_ne n n' with rfl | hn <;>
    rcases eq_or_ne d d' with rfl | hd <;> simp [*]

theorem countOf_foldl {buckets : List Bucket} (hdistinct : (buckets.map (·.key)).Nodup)
    {count : Int} : countOf (buckets.foldl add ∅) k = some count ↔
      ∃ b ∈ buckets, b.key = k ∧ b.docCount = count := by
  rw [← GoMap.lookup_ofList_eq_some hdistinct]
  clear hdistinct
  induction buckets using List.reverseRecOn with
  | nil => simp [countOf, GoMap.ofList]
  | append_singleton buckets b ih =>
    rw [List.foldl_append, List.foldl_cons, List.foldl_nil, countOf_add,
      GoMap.ofList_append_singleton, GoMap.lookup_insert_eq]
    split
    · rfl
    · exact ih

end Aggregations

/-! ## Runs -/

/-- The pages that follow an after key: each one is asked for with the key of the one before, and
    the last one has none. -/
inductive Delivers (page : Option Key → Page) : Option Key → List Page → Prop where
  | last {after : Option Key} : (page after).afterKey = none → Delivers page after [page after]
  | next {after : Option Key} {key : Key} {pages : List Page} : (page after).afterKey = some key →
      Delivers page (some key) pages → Delivers page after (page after :: pages)

/-- `encoding/json`, which keeps every count. -/
structure Json (τ : Type) where
  marshal : Aggregations → τ
  unmarshal : τ → Except String Aggregations
  unmarshal_marshal : ∀ a, ∃ a', unmarshal (marshal a) = .ok a' ∧ ∀ k, a'.countOf k = a.countOf k

/-- A run of `aggregateWorkloadLogs`: the composite aggregation, the requests that fail, by their
    numbers, and whether the `Put` does. -/
structure Run where
  page : Option Key → Page
  fails : Nat → Option String
  put : Option String
  pages : List Page
  delivers : Delivers page none pages
  distinct : ((pages.flatMap (·.buckets)).map (·.key)).Nodup
  fuel : Nat
  enough : pages.length ≤ fuel

namespace Run

variable {τ : Type} (json : Json τ) (r : Run) (kv : Option τ)

/-- The loop over the pages; none while it is still running. -/
def collect (page : Option Key → Page) : Nat → (Nat → Option String) → Option Key → Aggregations →
    Option (Except String Aggregations)
  | 0, _, _, _ => none
  | fuel + 1, fails, after, agg =>
    match fails 0, (page after).afterKey with
    | some err, _ => some (.error err)
    | none, some key =>
      collect page fuel (fails <| · + 1) (some key) ((page after).buckets.foldl .add agg)
    | none, none => some (.ok ((page after).buckets.foldl .add agg))

/-- `aggregateWorkloadLogs`: what is stored after it. -/
def aggregateWorkloadLogs : Option τ :=
  match collect r.page r.fuel r.fails none ∅ with
  | some (.ok agg) => if r.put.isSome then kv else some (json.marshal agg)
  | _ => kv

def buckets : List Bucket := r.pages.flatMap (·.buckets)

def Succeeds : Prop := (∀ n < r.pages.length, r.fails n = none) ∧ r.put = none

instance : Decidable r.Succeeds := inferInstanceAs (Decidable (_ ∧ _))

variable {page : Option Key → Page} {fails : Nat → Option String} {pages : List Page}
  {after : Option Key} {fuel : Nat}

theorem collect_eq (h : Delivers page after pages) (hfuel : pages.length ≤ fuel)
    (agg : Aggregations) : if ∀ i < pages.length, fails i = none then
      collect page fuel fails after agg = some (.ok ((pages.flatMap (·.buckets)).foldl .add agg))
    else ∃ err, collect page fuel fails after agg = some (.error err) := by
  induction h generalizing fuel fails agg with
  | last hkey =>
    obtain ⟨fuel, rfl⟩ := Nat.exists_eq_add_of_le' hfuel
    cases hfails : fails 0 <;> simp [collect, hfails, hkey]
  | @next after key pages hkey hrest ih =>
    obtain ⟨fuel, rfl⟩ := Nat.exists_eq_add_of_le' (Nat.le_trans (by simp) hfuel : 1 ≤ fuel)
    have hih :=
      @ih (fails <| · + 1) fuel (by simpa using hfuel) ((page after).buckets.foldl .add agg)
    simp only [List.length_cons, Nat.forall_lt_succ_left]
    cases hfails : fails 0 <;> simp [collect, hfails, hkey, hih]

theorem aggregateWorkloadLogs_eq : r.aggregateWorkloadLogs json kv =
    if r.Succeeds then some (json.marshal (r.buckets.foldl .add ∅)) else kv := by
  have hcollect := @collect_eq r.page r.fails _ _ _ r.delivers r.enough ∅
  unfold aggregateWorkloadLogs
  split at hcollect
  next hok =>
    have hput : r.Succeeds ↔ r.put = none := and_iff_right hok
    by_cases hnone : r.put = none <;> simp [hcollect, hput, hnone, buckets]
  next hfails =>
    have hnot : ¬r.Succeeds := fun h => hfails h.1
    obtain ⟨err, herr⟩ := hcollect
    simp [herr, hnot]

end Run

section Workloads

variable {τ : Type} (json : Json τ) (runs : List Run)

/-- What is stored after some runs. -/
def stored : Option τ := runs.foldl (fun kv r => r.aggregateWorkloadLogs json kv) none

def lastSuccess : Option Run := (runs.filter (·.Succeeds)).getLast?

theorem stored_eq : stored json runs =
    (lastSuccess runs).map fun r => json.marshal (r.buckets.foldl .add ∅) := by
  unfold stored lastSuccess
  induction runs using List.reverseRecOn with
  | nil => rfl
  | append_singleton runs r ih =>
    rw [List.foldl_append, List.foldl_cons, List.foldl_nil, Run.aggregateWorkloadLogs_eq, ih]
    by_cases hr : r.Succeeds <;> simp [hr]

structure WorkloadAggregation where
  clusterId : String
  ns : String
  deployment : String
  logCount : Int

variable (namespaces : Scheduler (Σ _ : String, NamespaceAggregation))
  (deployments : String → Scheduler (Σ _ : String, DeploymentLogCount)) (id : String)

/-- The loops over the maps of a cluster. -/
def workloads (cluster : ClusterAggregation) : List WorkloadAggregation :=
  (namespaces.order cluster.entries).flatMap fun n =>
    ((deployments n.1).order n.2.entries).map fun d => ⟨id, n.1, d.1, d.2.count⟩

def clusterWorkloadAggregation (kv : Option τ) : Except Status (List WorkloadAggregation) :=
  match kv with
  | none => .error
      ⟨.notFound, "Failed to get workload aggregation from Jetstream: nats: key not found"⟩
  | some text =>
    match json.unmarshal text with
    | .error err => .error
        ⟨.internal, "Failed to unmarshal workload aggregation from Jetstream: " ++ err⟩
    | .ok resultsStorage =>
      match resultsStorage.lookup id with
      | none => .ok []
      | some cluster => .ok (workloads namespaces deployments id cluster)

def Bucket.workload (b : Bucket) : WorkloadAggregation :=
  ⟨b.key.clusterID, b.key.namespaceName, b.key.deploymentName, b.docCount⟩

variable {cluster : ClusterAggregation}

theorem nodup_workloads : (workloads namespaces deployments id cluster).Nodup := by
  have hkeys {β : Type} (m : GoMap String β) (order : Scheduler (Σ _ : String, β)) :
      ((order.order m.entries).map Sigma.fst).Nodup :=
    (((order.perm _).map _).nodup_iff).mpr m.keys_nodup
  rw [workloads, List.nodup_flatMap]
  refine ⟨fun n _ => ?_, ?_⟩
  · refine List.Nodup.of_map (·.deployment) ?_
    rw [List.map_map]
    exact hkeys n.2 (deployments n.1)
  · refine (List.pairwise_map.mp (hkeys cluster namespaces)).imp fun hne w hw hw' => hne ?_
    obtain ⟨d, -, rfl⟩ := List.mem_map.mp hw
    obtain ⟨d', -, heq⟩ := List.mem_map.mp hw'
    exact (congrArg WorkloadAggregation.ns heq).symm

theorem mem_workloads {w : WorkloadAggregation} : w ∈ workloads namespaces deployments id cluster ↔
    w.clusterId = id ∧ (((cluster.lookup w.ns).getD ∅).lookup w.deployment).map (·.count) =
      some w.logCount := by
  simp only [workloads, List.mem_flatMap, List.mem_map, (namespaces.perm _).mem_iff,
    ((deployments _).perm _).mem_iff]
  constructor
  · rintro ⟨⟨n, m⟩, hn, ⟨d, c⟩, hd, rfl⟩
    simp [GoMap.mem_entries.mp hn, GoMap.mem_entries.mp hd]
  · obtain ⟨c, n, d, count⟩ := w
    rintro ⟨rfl, hcount⟩
    obtain ⟨count, hd, rfl⟩ := Option.map_eq_some_iff.mp hcount
    cases hn : cluster.lookup n with
    | none => simp [hn] at hd
    | some m =>
      rw [hn] at hd
      exact ⟨⟨n, m⟩, GoMap.mem_entries.mpr hn, ⟨d, count⟩, GoMap.mem_entries.mpr hd, rfl⟩

variable {json} {text : τ} {a : Aggregations}

theorem exists_clusterWorkloadAggregation (h : json.unmarshal text = .ok a) : ∃ items,
    clusterWorkloadAggregation json namespaces deployments id (some text) = .ok items ∧
      items.Nodup ∧ ∀ w, w ∈ items ↔
        w.clusterId = id ∧ a.countOf ⟨id, w.ns, w.deployment⟩ = some w.logCount := by
  simp only [clusterWorkloadAggregation, h, Aggregations.countOf]
  cases a.lookup id with
  | none => exact ⟨[], rfl, List.nodup_nil, by simp⟩
  | some cluster => exact ⟨_, rfl, nodup_workloads .., fun w => mem_workloads ..⟩

variable (json) in
/-- What is read is the last run that succeeded: one item for each bucket of the cluster, and none
    of another one.  A run that fails changes nothing. -/
theorem workload_counts_survive_paging :
    (match lastSuccess runs with
      | none => ∃ err, clusterWorkloadAggregation json namespaces deployments id
          (stored json runs) = .error ⟨.notFound, err⟩
      | some r => ∃ items, clusterWorkloadAggregation json namespaces deployments id
          (stored json runs) = .ok items ∧
        items.Perm ((r.buckets.filter (·.key.clusterID = id)).map (·.workload))) ∧
    ∀ (r : Run) (kv : Option τ), ¬r.Succeeds → r.aggregateWorkloadLogs json kv = kv := by
  refine ⟨?_, fun r kv hr => by rw [r.aggregateWorkloadLogs_eq, if_neg hr]⟩
  rw [stored_eq]
  cases lastSuccess runs with
  | none => exact ⟨_, rfl⟩
  | some r =>
    obtain ⟨a, ha, hcount⟩ := json.unmarshal_marshal (r.buckets.foldl .add ∅)
    obtain ⟨items, hitems, hnodup, hmem⟩ :=
      exists_clusterWorkloadAggregation namespaces deployments id ha
    have hdistinct : (r.buckets.map (·.key)).Nodup := r.distinct
    have hbuckets : ((r.buckets.filter (·.key.clusterID = id)).map (·.workload)).Nodup := by
      refine List.Nodup.of_map (fun w => (⟨w.clusterId, w.ns, w.deployment⟩ : Key)) ?_
      rw [List.map_map]
      exact (List.filter_sublist.map _).nodup hdistinct
    refine ⟨items, hitems, (List.perm_ext_iff_of_nodup hnodup hbuckets).mpr fun w => ?_⟩
    rw [hmem, hcount, Aggregations.countOf_foldl _ hdistinct]
    simp only [List.mem_map, List.mem_filter, decide_eq_true_eq]
    constructor
    · rintro ⟨hid, b, hb, hkey, hdoc⟩
      refine ⟨b, ⟨hb, by rw [hkey]⟩, ?_⟩
      rw [Bucket.workload, hkey, hdoc, ← hid]
    · rintro ⟨b, ⟨hb, rfl⟩, rfl⟩
      exact ⟨rfl, b, hb, rfl, rfl⟩

end Workloads

/-- The text of an aggregation is the aggregation. -/
def plainJson : Json Aggregations := ⟨id, .ok, fun a => ⟨a, rfl, fun _ => rfl⟩⟩

/-- Two pages, each of one bucket. -/
def twoPages : Run where
  page after := if after = none then ⟨some ⟨"a", "ns", "web"⟩, [⟨⟨"a", "ns", "web"⟩, 3⟩]⟩
    else ⟨none, [⟨⟨"b", "ns", "web"⟩, 5⟩]⟩
  fails _ := none
  put := none
  pages := [_, _]
  delivers := .next rfl (.last rfl)
  distinct := by decide
  fuel := 2
  enough := Nat.le_refl 2

/-- The count of the first page is read back, and nothing of the other cluster. -/
theorem workload_counts_two_pages : ∃ items,
    clusterWorkloadAggregation plainJson (.inOrder _) (fun _ => .inOrder _) "a"
      (stored plainJson [twoPages]) = .ok items ∧ items.Perm [⟨"a", "ns", "web", 3⟩] :=
  (workload_counts_survive_paging _ [twoPages] (.inOrder _) (fun _ => .inOrder _) "a").1

end Opni.Aiops
