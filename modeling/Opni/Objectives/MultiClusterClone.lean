/-
  Opni.Objectives.MultiClusterClone

  Cloning an objective to other clusters (`plugins/slo/pkg/slo/api.go`,
  `impl.go`, `filters.go`, `plugins/slo/pkg/apis/slo/extension.go`).
-/

import Opni.Lib.Interleave
import Opni.Objectives.Events
import Opni.Objectives.SharedRequest

namespace Opni.Objectives.MultiClusterClone

open Lib Lib.Interleave Objectives.SharedRequest

/-! ## Listings -/

structure FilterValue where
  matchString : String → Bool
  score : Int

structure Filter where
  name : String
  filters : List FilterValue
  ignore : List FilterValue

/-- `res[series][group] += score`. -/
def addScore (group seriesName : String) (sign : Int) (scores : GoMap String Int)
    (v : FilterValue) : GoMap String Int :=
  if v.matchString seriesName then
    scores.insert group ((scores.lookup group).getD 0 + sign * v.score)
  else scores

variable (filters : List Filter)

/-- The scores of a series, by group; a series that nothing matches has none. -/
def scores (seriesName : String) : GoMap String Int :=
  filters.foldl (fun m f => f.ignore.foldl (addScore f.name seriesName (-1))
    (f.filters.foldl (addScore f.name seriesName 1) m)) ∅

/-- The orders in which the maps of `scoredLabels` are gone through. -/
structure Orders where
  series : Scheduler String
  groups : Scheduler (Σ _ : String, Int)

def bestGroup (order : Scheduler (Σ _ : String, Int)) (scores : GoMap String Int) : String :=
  let best := (order.order scores.entries).foldl
    (fun (best : String × Int) e => if e.2 > best.2 then (e.1, e.2) else best) ("", 0)
  if best.2 ≤ 0 then "other metrics" else best.1

/-- `MetricGroupList`, with the ids of the metrics. -/
abbrev MetricGroupList := GoMap String (List String)

variable (groups : MetricGroupList)

def MetricGroupList.add (group id : String) : MetricGroupList :=
  groups.insert group ((groups.lookup group).getD [] ++ [id])

def scoredLabels (orders : Orders) (series : List String) :
    MetricGroupList :=
  (orders.series.order (series.filter fun s => (scores filters s).entries ≠ [])).foldl
    (fun groups s => groups.add (bestGroup orders.groups (scores filters s)) s) ∅

def MetricGroupList.containsId (id : String) : Bool :=
  (groups.entries.flatMap Sigma.snd).contains id

/-- `ServiceList.ContainsId`, which says whether the id is missing. -/
def serviceListContainsId (items : List String) (id : String) : Bool := !items.contains id

structure Env where
  /-- `ListClusters`. -/
  clusters : Except Status (List String)
  /-- The jobs of a tenant. -/
  services : String → List String
  /-- `GetSeriesMetrics` of a tenant and a job. -/
  series : String → String → List String
  filters : List Filter
  orders : Orders

def Env.clusterIds (env : Env) : List String :=
  match env.clusters with
  | .ok ids => ids
  | .error _ => []

def Env.Offers (env : Env) (d : Details) (clusterId : String) : Prop :=
  d.serviceId ∈ env.services clusterId ∧
    d.goodMetricName ∈ env.series clusterId d.serviceId ∧
    d.totalMetricName ∈ env.series clusterId d.serviceId

/-! ## Goroutines -/

structure Job where
  clusterId : String
  ruleId : String
  toApply : List RuleGroup

inductive Pc where
  | start
  /-- Before each `WithCurrentRequest`, and before the method. -/
  | askServices
  | listServices
  | askMetrics
  | listMetrics
  /-- In `tryApplyThenDeleteCortexRules`. -/
  | loading (left : List RuleGroup) (errs : List Status)
  | undoing (names : List String) (errs : List Status)
  /-- The error of the target is nil. -/
  | applied
  | failed (errs : List Status)
  | panicked
deriving DecidableEq

structure Shared where
  /-- The request that the service backend holds. -/
  current : Option (Message Details)
  groups : Groups

section Goroutine

variable (env : Env) (d : Details) (job : Job)

def Job.servicesRequest : Message Details := .listServices "monitoring" job.clusterId

def Job.metricsRequest : Message Details := .listMetrics "monitoring" job.clusterId d.serviceId

variable (fault : Option Status)

/-- After `ListServices` of a tenant. -/
def Job.checkServices (tenant : String) : Pc :=
  match fault with
  | some err => .failed [err]
  | none =>
    if serviceListContainsId (env.services tenant) d.serviceId then
      .failed [⟨.unknown,
        "service " ++ d.serviceId ++ " not found on cluster " ++ job.clusterId⟩]
    else .askMetrics

/-- After `ListMetrics` of a tenant and a service. -/
def Job.checkMetrics (tenant serviceId : String) : Pc :=
  match fault with
  | some err => .failed [err]
  | none =>
    let metrics := scoredLabels env.filters env.orders (env.series tenant serviceId)
    if metrics.containsId d.goodMetricName = false then
      .failed [⟨.unknown,
        "good metric " ++ d.goodMetricName ++ " not found on cluster " ++ job.clusterId⟩]
    else if metrics.containsId d.totalMetricName = false then
      .failed [⟨.unknown,
        "total metric " ++ d.totalMetricName ++ " not found on cluster " ++ job.clusterId⟩]
    else .loading job.toApply []

/-- One step of a goroutine, with the fault of the call that it makes. -/
def Job.next (sh : Shared) : Pc → Shared × Pc
  | .start =>
    if job.clusterId ∈ env.clusterIds then (sh, .askServices)
    else (sh, .failed [⟨.unknown, "cluster " ++ job.clusterId ++ " not found"⟩])
  | .askServices => ({ sh with current := some job.servicesRequest }, .listServices)
  | .listServices =>
    match sh.current.bind (listing job.servicesRequest) with
    | some (.services tenant) => (sh, job.checkServices env d fault tenant)
    | _ => (sh, .panicked)
  | .askMetrics => ({ sh with current := some (job.metricsRequest d) }, .listMetrics)
  | .listMetrics =>
    match sh.current.bind (listing (job.metricsRequest d)) with
    | some (.series tenant serviceId) => (sh, job.checkMetrics env d fault tenant serviceId)
    | _ => (sh, .panicked)
  | .loading (rules :: left) errs =>
    match fault with
    | none => ({ sh with
        groups := Function.update sh.groups (job.clusterId, rules.name) (some rules) },
        .loading left errs)
    | some err => (sh, .loading left (errs ++ [err]))
  | .loading [] [] => (sh, .applied)
  | .loading [] errs => (sh, .undoing (job.toApply.map (·.name)) errs)
  | .undoing (name :: names) errs =>
    match fault with
    | none => ({ sh with groups := Function.update sh.groups (job.clusterId, name) none },
        .undoing names errs)
    -- a group that is not there is no error
    | some err => (sh, .undoing names (if err.code = .notFound then errs else errs ++ [err]))
  | .undoing [] errs => (sh, .failed errs)
  | pc => (sh, pc)

end Goroutine

def goroutine (env : Env) (d : Details) (jobs : List Job) (i : Nat) (fault : Option Status)
    (sh : Shared) (pc : Pc) : Shared × Pc :=
  match jobs[i]? with
  | some job => job.next env d fault sh pc
  | none => (sh, pc)

/-! ## Calls -/

def cloneName (name : String) (idx : Nat) : String := name ++ "-clone-" ++ toString idx

section Calls

variable (text : SLO Details → String → String) (newIds : Nat → String)

/-- The rounds of `MultiClusterClone`: the jobs of the goroutines, and the message. -/
def cloneLoop : Nat → List String → SLOData Details → List Job × SLOData Details
  | _, [], data => ([], data)
  | idx, clusterId :: inputClusters, data =>
    -- `sloData` is the objective of the message, and its name is set in each round
    let name := cloneName data.slo.name idx
    let slo : SLO Details := ⟨newIds idx, name, data.slo.sloPeriod, data.slo.rest⟩
    let r := cloneLoop (idx + 1) inputClusters ⟨newIds idx, { data.slo with name }⟩
    (⟨clusterId, newIds idx, constructCortexRules text slo⟩ :: r.1, r.2)

/-- `MultiClusterSLO`. -/
structure CloneRequest where
  cloneId : String
  clusters : List String

/-- `ProtoClone`, in which `SLODataToStruct` matches the events. -/
def clonedData (base : SLOData Details) : SLOData Details :=
  { base with slo := { base.slo with rest := base.slo.rest.matched } }

def cloneRun (env : Env) (base : SLOData Details) (clusters : List String)
    (events : List (Nat × Option Status)) (sh : Shared) : Config Nat Shared Pc :=
  let jobs := (cloneLoop text newIds 0 clusters (clonedData base)).1
  Interleave.run (goroutine env (clonedData base).slo.rest jobs) ⟨sh, fun _ => .start⟩ events

def Pc.finished : Pc → Bool
  | .applied | .failed _ => true
  | _ => false

/-- `errArr[idx]`. -/
def Pc.error : Pc → Option (List Status)
  | .failed errs => some errs
  | _ => none

/-- The loop of `CloneToClusters`, with the faults of `Put`. -/
def storeClones (puts : Nat → Option Status) (data : SLOData Details) :
    Nat → List (String × Option (List Status)) → Plugin Details → List (List Status) →
      Plugin Details × Except Status (List (List Status))
  | _, [], p, failures => (p, .ok failures)
  | idx, (_, some errs) :: left, p, failures =>
    storeClones puts data (idx + 1) left p (failures ++ [errs])
  | idx, (id, none) :: left, p, failures =>
    match puts idx with
    | some err => (p, .error err)
    | none => storeClones puts data (idx + 1) left (p.put id data) failures

structure CloneFaults where
  get : Option Status := none
  put : Nat → Option Status := fun _ => none

/-- `CloneToClusters`, with the request that the service backend holds before it.  None if the
    goroutines have not all returned. -/
def cloneToClusters (parseDuration : String → Option Int) (env : Env)
    (current : Option (Message Details)) (faults : CloneFaults)
    (events : List (Nat × Option Status)) (req : CloneRequest) (p : Plugin Details) :
    Option (Plugin Details × Except Status (List (List Status))) :=
  match p.get faults.get req.cloneId with
  | .error err => some (p, .error err)
  | .ok existing =>
    match validate parseDuration existing.slo with
    | some err => some (p, .error err)
    | none =>
      if registered existing.slo.datasource = false then some (p, .error errInvalidDatasource)
      else match env.clusters with
        -- one error for all of the targets
        | .error err => some (p, .ok [[err]])
        | .ok _ =>
          let c := cloneRun text newIds env existing req.clusters events ⟨current, p.groups⟩
          if ∀ i < req.clusters.length, (c.procs i).finished = true then
            some (storeClones faults.put
              (cloneLoop text newIds 0 req.clusters (clonedData existing)).2 0
              ((List.range req.clusters.length).map fun i => (newIds i, (c.procs i).error))
              { p with groups := c.shared.groups } [])
          else none

end Calls

/-! ## One objective for each target -/

/-- Ids are made by `uuid.New`. -/
structure FreshIds (newIds : Nat → String) (p : Plugin Details) : Prop where
  distinct : ∀ i j, sloKey (newIds i) = sloKey (newIds j) → i = j
  unused : ∀ i, p.slos (sloKey (newIds i)) = none

section Targets

variable (text : SLO Details → String → String) (newIds : Nat → String) (env : Env)
  (current : Option (Message Details)) (events : List (Nat × Option Status)) (req : CloneRequest)
  (source : SLOData Details) (p p' : Plugin Details) (failures : List (List Status))

/-- The rules of target `i` were applied. -/
def Applied (i : Nat) : Prop :=
  i < req.clusters.length ∧
    (cloneRun text newIds env source req.clusters events ⟨current, p.groups⟩).procs i = .applied

/-- Target `i` exists and offers the service and both metrics, and its rules were applied. -/
def Succeeds (i : Nat) : Prop :=
  Applied text newIds env current events req source p i ∧
    ∃ c, req.clusters[i]? = some c ∧ c ∈ env.clusterIds ∧ env.Offers source.slo.rest c

open Classical in
/-- Each target that succeeds has a new objective under its own id, with its rule groups on the
    target; each other target has a failure; and nothing else is changed in the store. -/
structure ClonedToClusters : Prop where
  stored : ∀ i c, req.clusters[i]? = some c →
    Succeeds text newIds env current events req source p i →
    ∃ data, p'.slos (sloKey (newIds i)) = some data ∧ data.id = newIds i ∧
      data.slo.clusterId = c ∧ data.slo.name = cloneName source.slo.name i ∧
      ∀ g ∈ constructCortexRules text (createSLORequestToStruct data.id data.slo),
        p'.groups (c, g.name) = some g
  others : ∀ key, (∀ i, Succeeds text newIds env current events req source p i →
    key ≠ sloKey (newIds i)) → p'.slos key = p.slos key
  failures : ∃ message : Nat → List Status, failures = ((List.range req.clusters.length).filter
    fun i => ¬Succeeds text newIds env current events req source p i).map message
  source : p'.slos (sloKey req.cloneId) = some source

/-- `ListClusters` fails for a single target only, and rules are applied only if there is a single
    target, the cluster of the objective itself. -/
def CloneFits : Prop :=
  (∀ err, env.clusters = .error err → req.clusters.length = 1) ∧
    ((∃ i, Applied text newIds env current events req source p i) →
      req.clusters = [source.slo.clusterId])

end Targets

end Opni.Objectives.MultiClusterClone
