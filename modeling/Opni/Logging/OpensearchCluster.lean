/-
  Opni.Logging.OpensearchCluster

  Writing the settings of an OpenSearch cluster and reading them back
  (`plugins/logging/pkg/gateway/admin_v2.go` and `convertDashboardsToProtobuf`
  of `admin.go`).
-/

import Opni.Lib.GoData

namespace Opni.Logging

open Lib

/-! ## Quantities -/

variable (Q : Type)

/-- `resource.Quantity`. -/
structure Quantities where
  parse : String → Except String Q
  print : Q → String
  isZero : Q → Bool
  /-- What a resource list has for a resource that it does not list. -/
  zero : Q
  /-- `q.Cmp(r) > 0`. -/
  gt : Q → Q → Bool
  value : Q → Int

structure Quantities.Lawful {Q : Type} (q : Quantities Q) : Prop where
  print_of_parse : ∀ s x, q.parse s = .ok x → q.print x = s
  isZero_zero : q.isZero q.zero = true
  print_zero : q.print q.zero = "0"

/-! ## Messages -/

structure CPUResource where
  request : String := ""
  limit : String := ""
deriving DecidableEq

structure DataPersistence where
  enabled : Option Bool := none
  storageClass : Option String := none
deriving DecidableEq

abbrev NodeSelector := List (String × String)

variable (τ : Type)

structure DataDetails where
  replicas : Option Int := none
  diskSize : String := ""
  memoryLimit : String
  cpuResources : Option CPUResource := none
  enableAntiAffinity : Option Bool := none
  nodeSelector : NodeSelector := []
  tolerations : List τ := []
  persistence : Option DataPersistence := none

structure IngestDetails where
  replicas : Option Int := none
  memoryLimit : String
  cpuResources : Option CPUResource := none
  enableAntiAffinity : Option Bool := none
  nodeSelector : NodeSelector := []
  tolerations : List τ := []

structure ControlplaneDetails where
  replicas : Option Int := none
  nodeSelector : NodeSelector := []
  tolerations : List τ := []
  persistence : Option DataPersistence := none

structure ComputeResourceQuantities where
  cpu : String := ""
  memory : String := ""
deriving DecidableEq

structure ResourceRequirements where
  requests : Option ComputeResourceQuantities := none
  limits : Option ComputeResourceQuantities := none
deriving DecidableEq

structure DashboardsDetails where
  enabled : Option Bool := none
  replicas : Option Int := none
  resources : Option ResourceRequirements := none
deriving DecidableEq

structure OpensearchClusterV2 where
  externalURL : String := ""
  dataNodes : Option (DataDetails τ) := none
  ingestNodes : Option (IngestDetails τ) := none
  controlplaneNodes : Option (ControlplaneDetails τ) := none
  dashboards : Option DashboardsDetails := none
  dataRetention : Option String := none

/-! ## Objects -/

structure ResourceList where
  cpu : Option Q := none
  memory : Option Q := none

/-- `corev1.ResourceRequirements`. -/
structure Resources where
  limits : ResourceList Q := {}
  requests : ResourceList Q := {}

inductive Role where
  | data
  | ingest
  | master
deriving DecidableEq

structure PodAntiAffinity where
  matchLabels : List (String × String)
  topologyKey : String

structure Affinity where
  podAntiAffinity : Option PodAntiAffinity

/-- `PersistenceConfig`, with the class of a volume claim. -/
structure PersistenceConfig where
  emptyDir : Bool := false
  pvc : Option String := none

structure NodePool (τ Q : Type) where
  component : String := ""
  replicas : Int := 0
  roles : List Role := []
  labels : List (String × String) := []
  diskSize : String := ""
  nodeSelector : NodeSelector := []
  resources : Resources Q := {}
  jvm : String := ""
  tolerations : List τ := []
  affinity : Option Affinity := none
  persistence : Option PersistenceConfig := none
  env : List (String × String) := []

structure DashboardsConfig where
  enable : Bool := false
  replicas : Int := 0
  resources : Resources Q := {}

/-- `OpniOpensearch`, with the fields of its spec that are set and read; `indexRetention` is that
    of `ClusterConfigSpec`, which may be nil. -/
structure OpniOpensearch (τ Q : Type) where
  nodePools : List (NodePool τ Q)
  dashboards : DashboardsConfig Q
  externalURL : String
  clusterConfigSpec : Option String

section Settings

variable {τ Q : Type} (q : Quantities Q)

/-! ## Writing -/

def errInvalidCluster : String := "invalid opensearch cluster"

def errRequestMissingMemory : String := "memory limit must be configured: " ++ errInvalidCluster

def errInvalidRetention : String :=
  "duration must be integer and time unit, e.g 7d: " ++ errInvalidCluster

def errMissingDataNode : String := "request must contain data nodes: " ++ errInvalidCluster

def errRequestGtLimits : String :=
  "cpu requests must not be more than cpu limits: " ++ errInvalidCluster

def errReplicasZero (nodeType : String) : String :=
  "replicas for " ++ nodeType ++ " must be a positive nonzero integer: " ++ errInvalidCluster

def errStoredClusterPersistence : String :=
  "stored opensearch cluster is invalid: invalid persistence config"

def parseOptional (s : String) : Except String (Option Q) :=
  if s = "" then .ok none else (q.parse s).map some

/-- `generateK8sResources`: the resources, and the options of the virtual machine. -/
def generateK8sResources (memoryLimit : String) (cpu : Option CPUResource) :
    Except String (Resources Q × String) :=
  if memoryLimit = "" then .error errRequestMissingMemory
  else do
    let memory ← q.parse memoryLimit
    let jvmVal := toString ((q.value memory).tdiv 2)
    let cpu := cpu.getD {}
    let request ← parseOptional q cpu.request
    let limit ← parseOptional q cpu.limit
    let jvm := "-Xmx" ++ jvmVal ++ " -Xms" ++ jvmVal
    match request, limit with
    | some r, some l =>
      if q.gt r l then .error errRequestGtLimits
      else return (⟨⟨some l, some memory⟩, ⟨some r, some memory⟩⟩, jvm)
    | _, _ => return (⟨⟨limit, some memory⟩, ⟨request, some memory⟩⟩, jvm)

variable (clusterName opniRole : String)

def generateAntiAffinity : Affinity where
  podAntiAffinity := some
    { matchLabels :=
        [("opster.io/opensearch-cluster", clusterName), ("opni.io/node-group", opniRole)]
      topologyKey := "kubernetes.io/hostname" }

/-- The affinity of a group for which it can be enabled. -/
def groupAffinity (enable : Option Bool) : Option Affinity :=
  if enable.getD false then some (generateAntiAffinity clusterName opniRole) else none

def convertPersistence (persistence : Option DataPersistence) : Option PersistenceConfig :=
  persistence.map fun p =>
    if p.enabled.getD true then { pvc := some (p.storageClass.getD "") } else { emptyDir := true }

def envInstall : List (String × String) := [("DISABLE_INSTALL_DEMO_CONFIG", "true")]

def envAnalyzer : List (String × String) :=
  envInstall ++ [("DISABLE_PERFORMANCE_ANALYZER_AGENT_CLI", "true")]

variable (clusterName : String)

def convertIngestDetails (details : IngestDetails τ) :
    Except String (NodePool τ Q) := do
  let (resources, jvm) ← generateK8sResources q details.memoryLimit details.cpuResources
  if details.replicas.getD 1 < 1 then .error (errReplicasZero "ingest")
  else
    return {
      component := "ingest"
      roles := [.ingest]
      replicas := details.replicas.getD 1
      labels := [("opni.io/node-group", "ingest")]
      diskSize := "5Gi"
      nodeSelector := details.nodeSelector
      resources
      jvm
      tolerations := details.tolerations
      affinity := groupAffinity clusterName "ingest" details.enableAntiAffinity
      persistence := some { emptyDir := true }
      env := envInstall }

def masterMemory : String := "640Mi"

/-- What their virtual machine takes half of: testing has shown that the collector can spike at
    lower memory levels. -/
def masterJvmMemory : String := "512Mi"

def masterCPU : CPUResource := { request := "100m" }

def convertControlplaneDetails (details : ControlplaneDetails τ) :
    Except String (NodePool τ Q) := do
  let (_, jvm) ← generateK8sResources q masterJvmMemory (some masterCPU)
  if details.replicas.getD 1 < 1 then .error (errReplicasZero "controlplane")
  else
    let (resources, _) ← generateK8sResources q masterMemory (some masterCPU)
    return {
      component := "controlplane"
      roles := [.master]
      replicas := details.replicas.getD 3
      labels := [("opni.io/node-group", "controlplane")]
      diskSize := "5Gi"
      nodeSelector := details.nodeSelector
      resources
      jvm
      tolerations := details.tolerations
      affinity := some (generateAntiAffinity clusterName "controlplane")
      persistence := convertPersistence details.persistence
      env := envAnalyzer }

variable (cluster : OpensearchClusterV2 τ)

/-- The data nodes have the roles that no other group has. -/
def dataRoles : List Role :=
  [.data] ++ (if cluster.ingestNodes.isNone then [.ingest] else []) ++
    (if cluster.controlplaneNodes.isNone then [.master] else [])

variable (data : DataDetails τ)

/-- The data pool, or the two of them if there are more nodes than can be masters. -/
def dataPools (resources : Resources Q) (jvm : String) : List (NodePool τ Q) :=
  let replicas := data.replicas.getD 1
  let splitPool := cluster.controlplaneNodes.isNone && 5 < replicas
  let initialPool : NodePool τ Q := {
    component := "data"
    replicas := if splitPool then 5 else replicas
    roles := dataRoles cluster
    labels := [("opni.io/node-group", "data")]
    diskSize := data.diskSize
    nodeSelector := data.nodeSelector
    resources
    jvm
    tolerations := data.tolerations
    affinity := groupAffinity clusterName "data" data.enableAntiAffinity
    persistence := convertPersistence data.persistence
    env := envInstall }
  if splitPool then
    [initialPool, { initialPool with
      component := "datax", replicas := replicas - 5, roles := (dataRoles cluster).erase .master }]
  else [initialPool]

def quorumPool : Except String (NodePool τ Q) := do
  let (_, jvm) ← generateK8sResources q masterJvmMemory (some masterCPU)
  let (resources, _) ← generateK8sResources q masterMemory (some masterCPU)
  return {
    component := "quorum"
    replicas := if data.replicas.getD 1 < 3 then 3 - data.replicas.getD 1 else 1
    roles := [.master]
    labels := [("opni.io/node-group", "data")]
    diskSize := "5Gi"
    nodeSelector := data.nodeSelector
    resources
    jvm
    tolerations := data.tolerations
    affinity := groupAffinity clusterName "data" data.enableAntiAffinity
    env := envAnalyzer }

def optionalPool {α : Type} (convert : α → Except String (NodePool τ Q)) (details : Option α) :
    Except String (List (NodePool τ Q)) :=
  match details with
  | none => .ok []
  | some d => (convert d).map ([·])

def generateNodePools : Except String (List (NodePool τ Q)) := do
  let (resources, jvm) ← generateK8sResources q data.memoryLimit data.cpuResources
  let replicas := data.replicas.getD 1
  if replicas < 1 then .error (errReplicasZero "data")
  else do
    let extraControlPlanePool := cluster.controlplaneNodes.isNone &&
      (replicas % 2 = 0 || replicas < 3) && !decide (5 < replicas)
    let quorum ← optionalPool (quorumPool q clusterName)
      (if extraControlPlanePool then some data else none)
    let ingest ← optionalPool (convertIngestDetails q clusterName) cluster.ingestNodes
    let controlplane ← optionalPool (convertControlplaneDetails q clusterName)
      cluster.controlplaneNodes
    return dataPools clusterName cluster data resources jvm ++ quorum ++ ingest ++ controlplane

/-- A list of resources of the dashboards; none if a quantity cannot be parsed, which panics. -/
def dashboardResources (given : Option ComputeResourceQuantities) : Option (ResourceList Q) := do
  let given := given.getD {}
  let cpu ← (parseOptional q given.cpu).toOption
  let memory ← (parseOptional q given.memory).toOption
  return { cpu, memory }

/-- `convertProtobufToDashboards`; none if it panics. -/
def convertProtobufToDashboards (dashboard : Option DashboardsDetails) :
    Option (DashboardsConfig Q) := do
  let dashboard ← dashboard -- a nil message is dereferenced
  let resources := dashboard.resources.getD {}
  let requests ← dashboardResources q resources.requests
  let limits ← dashboardResources q resources.limits
  return {
    enable := dashboard.enabled.getD true
    replicas := dashboard.replicas.getD 1
    resources := { limits, requests } }

/-- `validDurationString`: digits and a unit, whatever comes after them. -/
def validDurationString (duration : String) : Bool :=
  let digits := duration.toList.takeWhile Char.isDigit
  let rest := duration.toList.drop digits.length
  digits ≠ [] && rest.head?.any fun c => c ∈ ['d', 'M', 'm', 'y', 'h']

inductive Outcome (α : Type) where
  | ok (value : α)
  | failed (err : String)
  | panicked

/-- The requests to the API server that may fail, and the creation of the first admin. -/
structure Faults where
  get : Option String := none
  create : Option String := none
  admin : Option String := none
  reread : Option String := none
  update : Option String := none

/-- `CreateOrUpdateOpensearchCluster`, of the object that is there: the object that is stored when
    the call succeeds. -/
def createOrUpdateOpensearchCluster (faults : Faults)
    (existing : Option (OpniOpensearch τ Q)) (cluster : OpensearchClusterV2 τ) :
    Outcome (OpniOpensearch τ Q) :=
  if validDurationString (cluster.dataRetention.getD "7d") = false then .failed errInvalidRetention
  else
    match cluster.dataNodes, faults.get with
    | none, _ => .failed errMissingDataNode
    | some _, some err => .failed err
    | some data, none =>
      match generateNodePools q clusterName cluster data with
      | .error err => .failed err
      | .ok nodePools =>
        let stored (clusterConfigSpec : Option String) (dashboards : DashboardsConfig Q) :
            OpniOpensearch τ Q :=
          { nodePools, dashboards, externalURL := cluster.externalURL, clusterConfigSpec }
        match existing, convertProtobufToDashboards q cluster.dashboards with
        | none, none => .panicked
        | none, some dashboards =>
          match faults.create.or faults.admin with
          | some err => .failed err
          | none => .ok (stored (some (cluster.dataRetention.getD "7d")) dashboards)
        | some _, dashboards =>
          match faults.reread, dashboards with
          | some err, _ => .failed err
          | none, none => .panicked
          | none, some dashboards =>
            match faults.update with
            | some err => .failed err
            | none => .ok (stored cluster.dataRetention dashboards)

/-! ## Reading -/

/-- The loop that takes the address of its variable: every pointer is to the last toleration. -/
def readTolerations (tolerations : List τ) : List τ :=
  match tolerations.getLast? with
  | none => []
  | some last => tolerations.map fun _ => last

variable (pool : NodePool τ Q)

def generatePersistence : Except String DataPersistence :=
  match pool.persistence with
  | none => .ok { enabled := some true }
  | some p =>
    if p.emptyDir then .ok { enabled := some false }
    else
      match p.pvc with
      | some storageClass =>
        .ok { enabled := some true
              storageClass := if storageClass = "" then none else some storageClass }
      | none => .error errStoredClusterPersistence

def generateCPU : Option CPUResource :=
  let request := pool.resources.requests.cpu.getD q.zero
  let limit := pool.resources.limits.cpu.getD q.zero
  if q.isZero request && q.isZero limit then none
  else some { request := q.print request, limit := q.print limit }

def antiAffinityEnabled : Option Bool :=
  some ((pool.affinity.bind (·.podAntiAffinity)).isSome)

/-- `Limits.Memory().String()`. -/
def memoryLimit : String :=
  q.print (pool.resources.limits.memory.getD q.zero)

variable (pools : List (NodePool τ Q))

def dataLoop (acc : Int × NodePool τ Q) : Int × NodePool τ Q :=
  pools.foldl
    (fun (replicas, referencePool) pool =>
      if .data ∈ pool.roles then (replicas + pool.replicas, pool) else (replicas, referencePool))
    acc

def generateDataDetails : Except String (DataDetails τ) := do
  let (replicas, referencePool) := dataLoop pools (0, {})
  let persistence ← generatePersistence referencePool
  return {
    replicas := some replicas
    diskSize := referencePool.diskSize
    memoryLimit := memoryLimit q referencePool
    cpuResources := generateCPU q referencePool
    enableAntiAffinity := antiAffinityEnabled referencePool
    nodeSelector := referencePool.nodeSelector
    tolerations := readTolerations referencePool.tolerations
    persistence := some persistence }

/-- The ingest nodes and the last pool of them; none if the data nodes are ingest nodes. -/
def ingestLoop : List (NodePool τ Q) → Int × NodePool τ Q → Option (Int × NodePool τ Q)
  | [], acc => some acc
  | pool :: pools, (replicas, referencePool) =>
    if .ingest ∈ pool.roles then
      if .data ∈ pool.roles then none else ingestLoop pools (replicas + pool.replicas, pool)
    else ingestLoop pools (replicas, referencePool)

def generateIngestDetails : Option (IngestDetails τ) :=
  (ingestLoop pools (0, {})).map fun (replicas, referencePool) =>
    { replicas := some replicas
      memoryLimit := memoryLimit q referencePool
      cpuResources := generateCPU q referencePool
      enableAntiAffinity := antiAffinityEnabled referencePool
      nodeSelector := referencePool.nodeSelector
      tolerations := readTolerations referencePool.tolerations }

/-- The last pool of masters; none if the data nodes are masters. -/
def controlplaneLoop : List (NodePool τ Q) → NodePool τ Q → Option (NodePool τ Q)
  | [], referencePool => some referencePool
  | pool :: pools, referencePool =>
    if .master ∈ pool.roles then
      if .data ∈ pool.roles then none else controlplaneLoop pools pool
    else controlplaneLoop pools referencePool

def generateControlplaneDetails :
    Except String (Option (ControlplaneDetails τ)) :=
  match controlplaneLoop pools {} with
  | none => .ok none
  | some referencePool => do
      let persistence ← generatePersistence referencePool
      return some
        { replicas := some referencePool.replicas
          nodeSelector := referencePool.nodeSelector
          tolerations := readTolerations referencePool.tolerations
          persistence := some persistence }

variable (list : ResourceList Q)

/-- A list of resources as strings; zero is the empty string. -/
def printResources : ComputeResourceQuantities :=
  let text (x : Option Q) : String :=
    if q.isZero (x.getD q.zero) then "" else q.print (x.getD q.zero)
  { cpu := text list.cpu, memory := text list.memory }

def ResourceList.isNil : Bool := list.cpu.isNone && list.memory.isNone

/-- `convertDashboardsToProtobuf`: the limits too are written to the requests. -/
def convertDashboardsToProtobuf (dashboard : DashboardsConfig Q) : DashboardsDetails where
  enabled := some dashboard.enable
  replicas := some dashboard.replicas
  resources :=
    let requests := dashboard.resources.requests
    let limits := dashboard.resources.limits
    if limits.isNil && requests.isNil then none
    else
      some
        { requests :=
            if !limits.isNil then some (printResources q limits)
            else if !requests.isNil then some (printResources q requests)
            else none }

/-- `GetOpensearchCluster`, of the object that is there. -/
def getOpensearchCluster (object : Option (OpniOpensearch τ Q)) :
    Outcome (OpensearchClusterV2 τ) :=
  match object with
  | none => .ok {}
  | some cluster =>
    match generateDataDetails q cluster.nodePools,
      generateControlplaneDetails cluster.nodePools with
    | .error err, _ => .failed err
    | .ok _, .error err => .failed err
    | .ok data, .ok controlplane =>
      match cluster.clusterConfigSpec with
      | none => .panicked -- the field of a nil embedded struct
      | some indexRetention => .ok
          { externalURL := cluster.externalURL
            dataNodes := some data
            ingestNodes := generateIngestDetails q cluster.nodePools
            controlplaneNodes := controlplane
            dashboards := some (convertDashboardsToProtobuf q cluster.dashboards)
            dataRetention := some indexRetention }

end Settings

end Opni.Logging
