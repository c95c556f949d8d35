/-
  Opni.Logging.ReadBack

  Whether the settings of an OpenSearch cluster are read back as they were
  written.  The pools that are written are told apart by their components and
  roles (`Generated`), and each part of the settings is read from its own.
-/

import Opni.Logging.OpensearchCluster

namespace Opni.Logging

open Lib

section Settings

variable {τ Q : Type}

/-! ## The same settings -/

def cpuOf (cpu : Option CPUResource) : CPUResource := cpu.getD {}

variable (persistence : Option DataPersistence)

/-- The persistence: whether it is enabled, and the storage class. -/
def persistenceOf : Bool × String :=
  let p := persistence.getD {}
  (p.enabled.getD true, p.storageClass.getD "")

structure SameData (given read : DataDetails τ) : Prop where
  replicas : read.replicas = some (given.replicas.getD 1)
  diskSize : read.diskSize = given.diskSize
  memoryLimit : read.memoryLimit = given.memoryLimit
  cpu : cpuOf read.cpuResources = cpuOf given.cpuResources
  antiAffinity : read.enableAntiAffinity = some (given.enableAntiAffinity.getD false)
  nodeSelector : read.nodeSelector = given.nodeSelector
  tolerations : read.tolerations = given.tolerations
  persistence : persistenceOf read.persistence = persistenceOf given.persistence

structure SameIngest (given read : IngestDetails τ) : Prop where
  replicas : read.replicas = some (given.replicas.getD 1)
  memoryLimit : read.memoryLimit = given.memoryLimit
  cpu : cpuOf read.cpuResources = cpuOf given.cpuResources
  antiAffinity : read.enableAntiAffinity = some (given.enableAntiAffinity.getD false)
  nodeSelector : read.nodeSelector = given.nodeSelector
  tolerations : read.tolerations = given.tolerations

structure SameControlplane (given read : ControlplaneDetails τ) : Prop where
  replicas : read.replicas = some (given.replicas.getD 3)
  nodeSelector : read.nodeSelector = given.nodeSelector
  tolerations : read.tolerations = given.tolerations
  persistence : persistenceOf read.persistence = persistenceOf given.persistence

variable (d : DashboardsDetails)

/-- The requests of the dashboards, as the getters read them. -/
def requestsOf : ComputeResourceQuantities :=
  ((d.resources.bind (·.requests)).getD {})

def limitsOf : ComputeResourceQuantities :=
  ((d.resources.bind (·.limits)).getD {})

structure SameDashboards (given read : DashboardsDetails) : Prop where
  enabled : read.enabled = some (given.enabled.getD true)
  replicas : read.replicas = some (given.replicas.getD 1)
  requests : requestsOf read = requestsOf given
  limits : limitsOf read = limitsOf given

/-- Sections that are both absent, or both there and the same. -/
def SameSection {α : Type} (same : α → α → Prop) : Option α → Option α → Prop
  | none, none => True
  | some given, some read => same given read
  | _, _ => False

theorem sameSection_some {α : Type} {same : α → α → Prop} {given read : α} :
    SameSection same (some given) (some read) ↔ same given read := .rfl

/-- Clusters with the same settings; a retention that was absent is absent or the default. -/
@[mk_iff]
structure SameSettings (given read : OpensearchClusterV2 τ) : Prop where
  externalURL : read.externalURL = given.externalURL
  retention : read.dataRetention = given.dataRetention ∨
    given.dataRetention = none ∧ read.dataRetention = some "7d"
  data : SameSection SameData given.dataNodes read.dataNodes
  ingest : SameSection SameIngest given.ingestNodes read.ingestNodes
  controlplane : SameSection SameControlplane given.controlplaneNodes read.controlplaneNodes
  dashboards : SameSection SameDashboards given.dashboards read.dashboards

variable (q : Quantities Q)

def ReadsBack (object : OpniOpensearch τ Q) (given : OpensearchClusterV2 τ) :
    Prop :=
  match getOpensearchCluster q (some object) with
  | .ok read => SameSettings given read
  | .failed _ => False
  | .panicked => False

/-! ## Settings that fit -/

def zeroText (s : String) : Bool :=
  match q.parse s with
  | .ok x => q.isZero x
  | .error _ => false

/-- Neither request nor limit is given, or both are and one is not zero. -/
def CPUResource.Fits (cpu : CPUResource) : Prop :=
  cpu.request = "" ∧ cpu.limit = "" ∨
    cpu.request ≠ "" ∧ cpu.limit ≠ "" ∧
      ¬(zeroText q cpu.request = true ∧ zeroText q cpu.limit = true)

def Uniform (tolerations : List τ) : Prop := ∀ t ∈ tolerations, some t = tolerations.getLast?

/-- There is a storage class only where persistence is enabled. -/
def PersistenceFits : Prop :=
  (persistenceOf persistence).1 = false → (persistenceOf persistence).2 = ""

/-- The dashboards have no limits, and no request that is zero. -/
structure DashboardsFit (d : DashboardsDetails) : Prop where
  limits : limitsOf d = {}
  cpu : (requestsOf d).cpu ≠ "" → zeroText q (requestsOf d).cpu = false
  memory : (requestsOf d).memory ≠ "" → zeroText q (requestsOf d).memory = false

@[mk_iff]
structure SettingsFit (existing : Option (OpniOpensearch τ Q))
    (given : OpensearchClusterV2 τ) : Prop where
  retention : given.dataRetention = none → existing.isNone
  data : ∀ d ∈ given.dataNodes, (cpuOf d.cpuResources).Fits q ∧ Uniform d.tolerations ∧
    PersistenceFits d.persistence
  ingest : ∀ d ∈ given.ingestNodes, (cpuOf d.cpuResources).Fits q ∧ Uniform d.tolerations
  controlplane : ∀ d ∈ given.controlplaneNodes, Uniform d.tolerations ∧
    PersistenceFits d.persistence
  dashboards : ∀ d ∈ given.dashboards, DashboardsFit q d

end Settings

/-! ## Quantities -/

section Quantities

variable {τ Q : Type} {q : Quantities Q} {s : String} {x : Option Q} (hq : q.Lawful)

include hq

theorem parseOptional_eq_ok (h : parseOptional q s = .ok x) :
    s = "" ∧ x = none ∨ s ≠ "" ∧ ∃ y, x = some y ∧ q.print y = s ∧ zeroText q s = q.isZero y := by
  unfold parseOptional at h
  split at h
  next hs =>
    cases h
    exact .inl ⟨hs, rfl⟩
  next hs =>
    obtain ⟨y, hy, rfl⟩ := map_eq_ok_iff.mp h
    refine .inr ⟨hs, y, rfl, hq.print_of_parse s y hy, ?_⟩
    rw [zeroText, hy]

theorem generateK8sResources_eq_ok {memory : String} {cpu : Option CPUResource}
    {resources : Resources Q} {jvm : String}
    (h : generateK8sResources q memory cpu = .ok (resources, jvm)) :
    q.print (resources.limits.memory.getD q.zero) = memory ∧
      parseOptional q (cpuOf cpu).request = .ok resources.requests.cpu ∧
      parseOptional q (cpuOf cpu).limit = .ok resources.limits.cpu := by
  unfold generateK8sResources at h
  split at h
  · cases h
  · obtain ⟨m, hm, h⟩ := bind_eq_ok_iff.mp h
    obtain ⟨request, hrequest, h⟩ := bind_eq_ok_iff.mp h
    obtain ⟨limit, hlimit, h⟩ := bind_eq_ok_iff.mp h
    have hprint := hq.print_of_parse _ m hm
    split at h
    · split at h
      · cases h
      · cases h
        exact ⟨hprint, hrequest, hlimit⟩
    · cases h
      exact ⟨hprint, hrequest, hlimit⟩

/-- The CPU resources are read back just when they fit. -/
theorem cpuOf_generateCPU_iff {cpu : CPUResource} {pool : NodePool τ Q}
    (hrequest : parseOptional q cpu.request = .ok pool.resources.requests.cpu)
    (hlimit : parseOptional q cpu.limit = .ok pool.resources.limits.cpu) :
    cpuOf (generateCPU q pool) = cpu ↔ cpu.Fits q := by
  obtain ⟨request, limit⟩ := cpu
  have hzero : ("0" : String) ≠ "" := by decide
  unfold generateCPU CPUResource.Fits
  rcases parseOptional_eq_ok hq hrequest with ⟨hr, hx⟩ | ⟨hr, x, hx, hprint, hxzero⟩ <;>
    rcases parseOptional_eq_ok hq hlimit with ⟨hl, hy⟩ | ⟨hl, y, hy, hprint', hyzero⟩ <;>
    rw [hx, hy]
  · -- neither is given
    subst hr hl
    simp [hq.isZero_zero, cpuOf]
  · subst hr
    refine iff_of_false ?_ (by simp [hl])
    simp only [Option.getD_none, Option.getD_some, hq.isZero_zero, Bool.true_and]
    split
    · simp [cpuOf, Ne.symm hl]
    · simp [cpuOf, hq.print_zero, hzero]
  · subst hl
    refine iff_of_false ?_ (by simp [hr])
    simp only [Option.getD_none, Option.getD_some, hq.isZero_zero, Bool.and_true]
    split
    · simp [cpuOf, Ne.symm hr]
    · simp [cpuOf, hq.print_zero, hzero]
  · -- both are given, and left out if both are zero
    simp only [Option.getD_some, hr, hl, hxzero, hyzero, false_and, false_or, not_false_eq_true,
      true_and, ne_eq, Bool.and_eq_true]
    split
    next hboth => simp [cpuOf, hboth, Ne.symm hr]
    next hboth => simp [cpuOf, hboth, hprint, hprint']

theorem print_eq_iff (h : parseOptional q s = .ok x) :
    (if q.isZero (x.getD q.zero) then "" else q.print (x.getD q.zero)) = s ↔
      (s ≠ "" → zeroText q s = false) := by
  rcases parseOptional_eq_ok hq h with ⟨rfl, rfl⟩ | ⟨hs, y, rfl, hprint, hzero⟩
  · simp [hq.isZero_zero]
  · rw [Option.getD_some, hzero]
    cases q.isZero y with
    | true => simp [hs, Ne.symm hs]
    | false => simp [hprint]

end Quantities

/-! ## Parts of a pool -/

section Parts

variable {τ Q : Type} {pool : NodePool τ Q} {ts : List τ}

theorem readTolerations_eq_iff : readTolerations ts = ts ↔ Uniform ts := by
  unfold readTolerations Uniform
  cases hlast : ts.getLast? with
  | none =>
    rw [List.getLast?_eq_none_iff.mp hlast]
    simp
  | some last =>
    constructor
    · intro heq t ht
      rw [← heq] at ht
      obtain ⟨_, -, rfl⟩ := List.mem_map.mp ht
      rfl
    · intro h
      calc ts.map (fun _ => last) = ts.map id :=
            List.map_congr_left fun t ht => (Option.some.inj (h t ht)).symm
        _ = ts := List.map_id ts

theorem readTolerations_iff (h : pool.tolerations = ts) :
    readTolerations pool.tolerations = ts ↔ Uniform ts := by
  rw [h, readTolerations_eq_iff]

theorem generatePersistence_of_convert {p : Option DataPersistence}
    (h : pool.persistence = convertPersistence p) :
    ∃ r, generatePersistence pool = .ok r ∧
      (persistenceOf (some r) = persistenceOf p ↔ PersistenceFits p) := by
  unfold generatePersistence PersistenceFits
  rw [h]
  cases p with
  | none => exact ⟨_, rfl, by simp [persistenceOf]⟩
  | some p =>
    by_cases henabled : p.enabled.getD true = true
    · refine ⟨_, by simp only [convertPersistence, Option.map_some, henabled, if_true]; rfl, ?_⟩
      by_cases hclass : p.storageClass.getD "" = ""
      · simp [persistenceOf, henabled, hclass]
      · simp [persistenceOf, henabled, hclass]
    · have hdisabled := Bool.eq_false_iff.mpr henabled
      refine ⟨_, by simp only [convertPersistence, Option.map_some, hdisabled]; rfl, ?_⟩
      simp only [persistenceOf, Option.getD_some, Option.getD_none, hdisabled, Prod.mk.injEq,
        true_and, true_implies]
      exact eq_comm

theorem antiAffinityEnabled_of_group {clusterName opniRole : String} {enable : Option Bool}
    (h : pool.affinity = groupAffinity clusterName opniRole enable) :
    antiAffinityEnabled pool = some (enable.getD false) := by
  rw [antiAffinityEnabled, h, groupAffinity]
  cases enable.getD false <;> rfl

end Parts

/-! ## Loops over the pools -/

section Loops

variable {τ Q : Type} {q : Quantities Q} {clusterName : String} {pools rest : List (NodePool τ Q)}
  {acc : Int × NodePool τ Q} {reference : NodePool τ Q} {pool : NodePool τ Q} {data : DataDetails τ}

theorem dataLoop_skip (h : ∀ p ∈ pools, .data ∉ p.roles) : dataLoop pools acc = acc := by
  induction pools generalizing acc with
  | nil => rfl
  | cons p pools ih =>
    rw [dataLoop, List.foldl_cons]
    dsimp only
    rw [if_neg (h p (by simp))]
    exact ih fun p hp => h p (by simp [hp])

theorem ingestLoop_skip (h : ∀ p ∈ pools, .ingest ∉ p.roles) :
    ingestLoop (pools ++ rest) acc = ingestLoop rest acc := by
  induction pools with
  | nil => rfl
  | cons p pools ih =>
    rw [List.cons_append, ingestLoop, if_neg (h p (by simp))]
    exact ih fun p hp => h p (by simp [hp])

theorem controlplaneLoop_skip (h : ∀ p ∈ pools, .master ∉ p.roles) :
    controlplaneLoop (pools ++ rest) reference = controlplaneLoop rest reference := by
  induction pools with
  | nil => rfl
  | cons p pools ih =>
    rw [List.cons_append, controlplaneLoop, if_neg (h p (by simp))]
    exact ih fun p hp => h p (by simp [hp])

/-! ## Groups of nodes -/

/-- A pool of nodes that have one role and no other. -/
structure Dedicated (component : String) (role : Role) (size : Int → Prop) (p : NodePool τ Q) :
    Prop where
  component : p.component = component
  roles : p.roles = [role]
  size : size p.replicas

structure IngestPool (q : Quantities Q) (clusterName : String) (details : IngestDetails τ)
    (pool : NodePool τ Q) : Prop extends Dedicated "ingest" .ingest (1 ≤ ·) pool where
  replicas : pool.replicas = details.replicas.getD 1
  parsed : ∃ jvm, generateK8sResources q details.memoryLimit details.cpuResources =
    .ok (pool.resources, jvm)
  nodeSelector : pool.nodeSelector = details.nodeSelector
  tolerations : pool.tolerations = details.tolerations
  affinity : pool.affinity = groupAffinity clusterName "ingest" details.enableAntiAffinity

theorem ingestPool_of_convert {details : IngestDetails τ}
    (h : convertIngestDetails q clusterName details = .ok pool) :
    IngestPool q clusterName details pool := by
  obtain ⟨⟨resources, jvm⟩, hresources, h⟩ := bind_eq_ok_iff.mp h
  dsimp only at h
  split at h
  · cases h
  next hreplicas =>
    cases h
    exact ⟨⟨rfl, rfl, not_lt.mp hreplicas⟩, rfl, ⟨jvm, hresources⟩, rfl, rfl, rfl⟩

structure ControlplanePool (details : ControlplaneDetails τ) (pool : NodePool τ Q) : Prop
    extends Dedicated "controlplane" .master (1 ≤ ·) pool where
  replicas : pool.replicas = details.replicas.getD 3
  nodeSelector : pool.nodeSelector = details.nodeSelector
  tolerations : pool.tolerations = details.tolerations
  persistence : pool.persistence = convertPersistence details.persistence

theorem controlplanePool_of_convert {details : ControlplaneDetails τ}
    (h : convertControlplaneDetails q clusterName details = .ok pool) :
    ControlplanePool details pool := by
  obtain ⟨⟨_, jvm⟩, -, h⟩ := bind_eq_ok_iff.mp h
  dsimp only at h
  split at h
  · cases h
  next hreplicas =>
    obtain ⟨⟨resources, _⟩, -, h⟩ := bind_eq_ok_iff.mp h
    cases h
    refine ⟨⟨rfl, rfl, ?_⟩, rfl, rfl, rfl, rfl⟩
    -- the check takes one node for the default, the pool three
    cases hd : details.replicas with
    | none => simp
    | some n => simpa [hd] using hreplicas

/-- The nodes that a quorum of an odd number of masters, three at least, lacks. -/
theorem quorumPool_eq_ok {p : NodePool τ Q} (h : quorumPool q clusterName data = .ok p) :
    Dedicated "quorum" .master
      (· = if data.replicas.getD 1 < 3 then 3 - data.replicas.getD 1 else 1) p := by
  obtain ⟨_, -, h⟩ := bind_eq_ok_iff.mp h
  obtain ⟨_, -, h⟩ := bind_eq_ok_iff.mp h
  cases h
  exact ⟨rfl, rfl, rfl⟩

/-- The pools of a group: none, or a dedicated one if the group is there. -/
inductive Group (component : String) (role : Role) (size : Int → Prop) :
    Bool → List (NodePool τ Q) → Prop
  | absent : Group component role size false []
  | present {p} : Dedicated component role size p → Group component role size true [p]

section Groups

variable {component : String} {role : Role} {size : Int → Prop} {α : Type}
  {convert : α → Except String (NodePool τ Q)} {details : Option α}

theorem optionalPool_eq_ok (h : optionalPool convert details = .ok pools) :
    details = none ∧ pools = [] ∨
      ∃ d pool, details = some d ∧ convert d = .ok pool ∧ pools = [pool] := by
  cases details with
  | none =>
    cases h
    exact .inl ⟨rfl, rfl⟩
  | some d =>
    obtain ⟨pool, hpool, rfl⟩ := map_eq_ok_iff.mp h
    exact .inr ⟨d, pool, rfl, hpool, rfl⟩

theorem group_of_optionalPool
    (hconvert : ∀ d ∈ details, ∀ p, convert d = .ok p → Dedicated component role size p)
    (h : optionalPool convert details = .ok pools) :
    Group component role size details.isSome pools := by
  rcases optionalPool_eq_ok h with ⟨rfl, rfl⟩ | ⟨d, p, rfl, hp, rfl⟩
  · exact .absent
  · exact .present (hconvert d rfl p hp)

theorem Group.forall {there : Bool} {P : NodePool τ Q → Prop}
    (h : Group component role size there pools)
    (hP : there = true → ∀ p, Dedicated component role size p → P p) : ∀ p ∈ pools, P p := by
  cases h with
  | absent => exact fun p hp => absurd hp List.not_mem_nil
  | present hp => exact fun p' hp' => List.mem_singleton.mp hp' ▸ hP rfl _ hp

end Groups

/-- The pools that are generated: those of the data nodes, and one for each other group. -/
structure Generated (q : Quantities Q) (clusterName : String) (cluster : OpensearchClusterV2 τ)
    (data : DataDetails τ) (pools : List (NodePool τ Q)) (resources : Resources Q) (jvm : String)
    (quorum ingest controlplane : List (NodePool τ Q)) : Prop where
  parsed : generateK8sResources q data.memoryLimit data.cpuResources = .ok (resources, jvm)
  staffed : 1 ≤ data.replicas.getD 1
  all : pools = dataPools clusterName cluster data resources jvm ++
    (quorum ++ (ingest ++ controlplane))
  masters : Group "quorum" .master
    (· = if data.replicas.getD 1 < 3 then 3 - data.replicas.getD 1 else 1)
    (cluster.controlplaneNodes.isNone &&
      (data.replicas.getD 1 % 2 = 0 || data.replicas.getD 1 < 3) &&
      !decide (5 < data.replicas.getD 1)) quorum
  converted : optionalPool (convertIngestDetails q clusterName) cluster.ingestNodes = .ok ingest
  converted' : optionalPool (convertControlplaneDetails q clusterName)
    cluster.controlplaneNodes = .ok controlplane

theorem generated_of_generateNodePools {cluster : OpensearchClusterV2 τ}
    (h : generateNodePools q clusterName cluster data = .ok pools) :
    ∃ resources jvm quorum ingest controlplane,
      Generated q clusterName cluster data pools resources jvm quorum ingest controlplane := by
  obtain ⟨⟨resources, jvm⟩, hresources, h⟩ := bind_eq_ok_iff.mp h
  dsimp only at h
  split at h
  · cases h
  next hreplicas =>
    obtain ⟨quorum, hquorum, h⟩ := bind_eq_ok_iff.mp h
    obtain ⟨ingest, hingest, h⟩ := bind_eq_ok_iff.mp h
    obtain ⟨controlplane, hcontrolplane, h⟩ := bind_eq_ok_iff.mp h
    cases h
    refine ⟨resources, jvm, quorum, ingest, controlplane, hresources, not_lt.mp hreplicas, ?_, ?_,
      hingest, hcontrolplane⟩
    · simp only [List.append_assoc]
    · have hgroup := group_of_optionalPool (fun d hd p hp => by
        obtain ⟨-, ⟨⟩⟩ := Option.ite_none_right_eq_some.mp hd
        exact quorumPool_eq_ok hp) hquorum
      have hisSome (c : Bool) : (if c then some data else none).isSome = c := by cases c <;> rfl
      rwa [hisSome] at hgroup

structure DataPool (clusterName : String) (data : DataDetails τ) (resources : Resources Q)
    (pool : NodePool τ Q) : Prop where
  diskSize : pool.diskSize = data.diskSize
  nodeSelector : pool.nodeSelector = data.nodeSelector
  resources : pool.resources = resources
  tolerations : pool.tolerations = data.tolerations
  affinity : pool.affinity = groupAffinity clusterName "data" data.enableAntiAffinity
  persistence : pool.persistence = convertPersistence data.persistence

variable {cluster : OpensearchClusterV2 τ} {data : DataDetails τ} {resources : Resources Q}
  {jvm : String} {quorum ingest controlplane : List (NodePool τ Q)}

variable (clusterName cluster data resources jvm) in
theorem dataLoop_dataPools : ∃ pool : NodePool τ Q, DataPool clusterName data resources pool ∧
    dataLoop (dataPools clusterName cluster data resources jvm) (0, {}) =
      (data.replicas.getD 1, pool) := by
  have hdata : Role.data ∈ dataRoles cluster := by simp [dataRoles]
  unfold dataPools
  dsimp only
  split
  · have hdata' : Role.data ∈ (dataRoles cluster).erase .master := by
      rw [List.mem_erase_of_ne (by decide)]
      exact hdata
    have hall : 0 + 5 + (data.replicas.getD 1 - 5) = data.replicas.getD 1 := by omega
    rw [dataLoop, List.foldl_cons, List.foldl_cons, List.foldl_nil]
    dsimp only
    rw [if_pos hdata, if_pos hdata', hall]
    exact ⟨_, ⟨rfl, rfl, rfl, rfl, rfl, rfl⟩, rfl⟩
  · rw [dataLoop, List.foldl_cons, List.foldl_nil]
    dsimp only
    rw [if_pos hdata, Int.zero_add]
    exact ⟨_, ⟨rfl, rfl, rfl, rfl, rfl, rfl⟩, rfl⟩

theorem roles_dataPools (h : pool ∈ dataPools clusterName cluster data resources jvm) :
    (.ingest ∈ pool.roles → cluster.ingestNodes = none) ∧
      (.master ∈ pool.roles → cluster.controlplaneNodes = none) := by
  have hroles : ∀ role ∈ pool.roles, role ∈ dataRoles cluster := by
    unfold dataPools at h
    dsimp only at h
    split at h
    · rcases List.mem_cons.mp h with rfl | h
      · exact fun role => id
      · obtain rfl := List.mem_singleton.mp h
        exact fun role => List.mem_of_mem_erase
    · obtain rfl := List.mem_singleton.mp h
      exact fun role => id
  refine ⟨fun hingest => ?_, fun hmaster => ?_⟩
  · simpa [dataRoles] using hroles _ hingest
  · simpa [dataRoles] using hroles _ hmaster

variable (clusterName cluster data resources jvm) in
theorem dataPools_eq_cons : ∃ pool pools,
    dataPools clusterName cluster data resources jvm = pool :: pools ∧ .data ∈ pool.roles ∧
      (cluster.ingestNodes = none → .ingest ∈ pool.roles) ∧
      (cluster.controlplaneNodes = none → .master ∈ pool.roles) := by
  have hdata : Role.data ∈ dataRoles cluster := by simp [dataRoles]
  have hingest (h : cluster.ingestNodes = none) : Role.ingest ∈ dataRoles cluster := by
    simp [dataRoles, h]
  have hmaster (h : cluster.controlplaneNodes = none) : Role.master ∈ dataRoles cluster := by
    simp [dataRoles, h]
  unfold dataPools
  dsimp only
  split
  · exact ⟨_, _, rfl, hdata, hingest, hmaster⟩
  · exact ⟨_, _, rfl, hdata, hingest, hmaster⟩

variable (g : Generated q clusterName cluster data pools resources jvm quorum ingest controlplane)
include g

theorem Generated.groupIngest :
    Group "ingest" .ingest (1 ≤ ·) cluster.ingestNodes.isSome ingest :=
  group_of_optionalPool (fun _ _ _ h => (ingestPool_of_convert h).toDedicated) g.converted

theorem Generated.groupControlplane :
    Group "controlplane" .master (1 ≤ ·) cluster.controlplaneNodes.isSome controlplane :=
  group_of_optionalPool (fun _ _ _ h => (controlplanePool_of_convert h).toDedicated) g.converted'

/-- The data nodes are always read, and they are the same just when they fit. -/
theorem Generated.sameData_iff (hq : q.Lawful) : ∃ read, generateDataDetails q pools = .ok read ∧
    (SameData data read ↔ (cpuOf data.cpuResources).Fits q ∧ Uniform data.tolerations ∧
      PersistenceFits data.persistence) := by
  obtain ⟨pool, hpool, hloop⟩ := dataLoop_dataPools clusterName cluster data resources jvm
  have hskip : ∀ p ∈ quorum ++ (ingest ++ controlplane), Role.data ∉ p.roles := by
    simp only [List.forall_mem_append]
    refine ⟨g.masters.forall ?_, g.groupIngest.forall ?_, g.groupControlplane.forall ?_⟩ <;>
      exact fun _ p hp => by simp [hp.roles]
  have hdata : dataLoop pools (0, {}) = (data.replicas.getD 1, pool) := by
    rw [g.all, dataLoop, List.foldl_append]
    exact (congrArg (dataLoop _) hloop).trans (dataLoop_skip hskip ..)
  obtain ⟨hmemory, hrequest, hlimit⟩ := generateK8sResources_eq_ok hq g.parsed
  obtain ⟨persistence, hpersistence, hpersistence_iff⟩ :=
    generatePersistence_of_convert hpool.persistence
  rw [← hpool.resources] at hmemory hrequest hlimit
  have hcpu := cpuOf_generateCPU_iff hq hrequest hlimit
  rw [generateDataDetails, hdata]
  dsimp only
  rw [hpersistence]
  refine ⟨_, rfl, ?_⟩
  rw [← hcpu, ← readTolerations_iff hpool.tolerations, ← hpersistence_iff]
  constructor
  · exact fun h => ⟨h.cpu, h.tolerations, h.persistence⟩
  · rintro ⟨hcpu, htolerations, hpersistence⟩
    exact ⟨rfl, hpool.diskSize, hmemory, hcpu, antiAffinityEnabled_of_group hpool.affinity,
      hpool.nodeSelector, htolerations, hpersistence⟩

/-- There are ingest nodes just when they were requested, the same if they fit. -/
theorem Generated.sameIngest_iff (hq : q.Lawful) :
    SameSection SameIngest cluster.ingestNodes (generateIngestDetails q pools) ↔
      ∀ d ∈ cluster.ingestNodes, (cpuOf d.cpuResources).Fits q ∧ Uniform d.tolerations := by
  rcases optionalPool_eq_ok g.converted with ⟨hnone, -⟩ | ⟨d, pool, hsome, hconvert, rfl⟩
  · -- the first data pool has the role
    obtain ⟨first, rest, hcons, hdata, hrole, -⟩ :=
      dataPools_eq_cons clusterName cluster data resources jvm
    have hloop : ingestLoop pools (0, {}) = none := by
      rw [g.all, hcons, List.cons_append, ingestLoop, if_pos (hrole hnone), if_pos hdata]
    rw [generateIngestDetails, hloop, hnone]
    exact iff_of_true trivial (by simp)
  · have hpool := ingestPool_of_convert hconvert
    have hskip : ∀ p ∈ dataPools clusterName cluster data resources jvm ++ quorum,
        Role.ingest ∉ p.roles := by
      simp only [List.forall_mem_append]
      refine ⟨fun p hp hrole => ?_, g.masters.forall fun _ p hp => by simp [hp.roles]⟩
      rw [(roles_dataPools hp).1 hrole] at hsome
      cases hsome
    have hskip' : ∀ p ∈ controlplane, Role.ingest ∉ p.roles :=
      g.groupControlplane.forall fun _ p hp => by simp [hp.roles]
    have hloop : ingestLoop pools (0, {}) = some (0 + pool.replicas, pool) := by
      rw [g.all, ← List.append_assoc, ingestLoop_skip hskip, List.singleton_append, ingestLoop,
        if_pos (by simp [hpool.roles]), if_neg (by simp [hpool.roles])]
      have hend : ingestLoop (controlplane ++ []) (0 + pool.replicas, pool) = _ :=
        ingestLoop_skip hskip'
      rw [List.append_nil] at hend
      rw [hend, ingestLoop]
    obtain ⟨jvm', hparsed⟩ := hpool.parsed
    obtain ⟨hmemory, hrequest, hlimit⟩ := generateK8sResources_eq_ok hq hparsed
    have hcpu := cpuOf_generateCPU_iff hq hrequest hlimit
    rw [generateIngestDetails, hloop, hsome, Int.zero_add]
    simp only [Option.mem_some_iff, forall_eq']
    rw [← hcpu, ← readTolerations_iff hpool.tolerations]
    constructor
    · exact fun h => ⟨h.cpu, h.tolerations⟩
    · rintro ⟨hcpu, htolerations⟩
      exact ⟨congrArg some hpool.replicas, hmemory, hcpu,
        antiAffinityEnabled_of_group hpool.affinity, hpool.nodeSelector, htolerations⟩

/-- There is a control plane just when it was requested, the same if it fits. -/
theorem Generated.sameControlplane_iff : ∃ read, generateControlplaneDetails pools = .ok read ∧
    (SameSection SameControlplane cluster.controlplaneNodes read ↔
      ∀ d ∈ cluster.controlplaneNodes, Uniform d.tolerations ∧ PersistenceFits d.persistence) := by
  rcases optionalPool_eq_ok g.converted' with ⟨hnone, -⟩ | ⟨d, pool, hsome, hconvert, rfl⟩
  · obtain ⟨first, rest, hcons, hdata, -, hrole⟩ :=
      dataPools_eq_cons clusterName cluster data resources jvm
    have hloop : controlplaneLoop pools {} = none := by
      rw [g.all, hcons, List.cons_append, controlplaneLoop, if_pos (hrole hnone), if_pos hdata]
    rw [generateControlplaneDetails, hloop, hnone]
    exact ⟨none, rfl, iff_of_true trivial (by simp)⟩
  · have hpool := controlplanePool_of_convert hconvert
    have hskip : ∀ p ∈ dataPools clusterName cluster data resources jvm ++ (quorum ++ ingest),
        Role.master ∉ p.roles := by
      simp only [List.forall_mem_append]
      refine ⟨fun p hp hrole => ?_, g.masters.forall fun hextra => ?_,
        g.groupIngest.forall fun _ p hp => by simp [hp.roles]⟩
      · rw [(roles_dataPools hp).2 hrole] at hsome
        cases hsome
      · simp [hsome] at hextra
    have hloop : controlplaneLoop pools {} = some pool := by
      have hall : pools =
          (dataPools clusterName cluster data resources jvm ++ (quorum ++ ingest)) ++
          [pool] := by
        rw [g.all]
        simp only [List.append_assoc]
      rw [hall, controlplaneLoop_skip hskip, controlplaneLoop, if_pos (by simp [hpool.roles]),
        if_neg (by simp [hpool.roles]), controlplaneLoop]
    obtain ⟨persistence, hpersistence, hpersistence_iff⟩ :=
      generatePersistence_of_convert hpool.persistence
    rw [generateControlplaneDetails, hloop, hsome]
    dsimp only
    rw [hpersistence]
    refine ⟨_, rfl, ?_⟩
    simp only [Option.mem_some_iff, forall_eq']
    rw [← hpersistence_iff, ← readTolerations_iff hpool.tolerations]
    constructor
    · exact fun h => ⟨h.tolerations, h.persistence⟩
    · rintro ⟨htolerations, hpersistence⟩
      exact ⟨congrArg some hpool.replicas, hpool.nodeSelector, htolerations, hpersistence⟩

end Loops

/-! ## Dashboards -/

section Dashboards

variable {Q : Type} {q : Quantities Q}

variable {given : Option ComputeResourceQuantities} {list : ResourceList Q}

theorem dashboardResources_eq_some (h : dashboardResources q given = some list) :
    parseOptional q (given.getD {}).cpu = .ok list.cpu ∧
      parseOptional q (given.getD {}).memory = .ok list.memory := by
  obtain ⟨cpu, hcpu, h⟩ := Option.bind_eq_some_iff.mp h
  obtain ⟨memory, hmemory, h⟩ := Option.bind_eq_some_iff.mp h
  cases h
  have hok {r : Except String (Option Q)} {x : Option Q} (h : r.toOption = some x) : r = .ok x := by
    cases r with
    | error err => cases h
    | ok y =>
      cases h
      rfl
  exact ⟨hok hcpu, hok hmemory⟩

variable (hq : q.Lawful)

include hq

theorem isNil_iff
    (h : dashboardResources q given = some list) : list.isNil = true ↔ given.getD {} = {} := by
  obtain ⟨hcpu, hmemory⟩ := dashboardResources_eq_some h
  have hnone {s : String} {x : Option Q} (h : parseOptional q s = .ok x) : x = none ↔ s = "" := by
    rcases parseOptional_eq_ok hq h with ⟨rfl, rfl⟩ | ⟨hs, y, rfl, -⟩
    · simp
    · simp [hs]
  rw [ResourceList.isNil, Bool.and_eq_true, Option.isNone_iff_eq_none, Option.isNone_iff_eq_none,
    hnone hcpu, hnone hmemory]
  cases given.getD {}
  simp

theorem printResources_eq_iff (h : dashboardResources q given = some list) :
    printResources q list = given.getD {} ↔
      ((given.getD {}).cpu ≠ "" → zeroText q (given.getD {}).cpu = false) ∧
        ((given.getD {}).memory ≠ "" → zeroText q (given.getD {}).memory = false) := by
  obtain ⟨hcpu, hmemory⟩ := dashboardResources_eq_some h
  rw [← print_eq_iff hq hcpu, ← print_eq_iff hq hmemory]
  cases given.getD {}
  simp [printResources]

/-- The dashboards are read back just when they fit. -/
theorem sameDashboards_iff {d : DashboardsDetails} {config : DashboardsConfig Q}
    (h : convertProtobufToDashboards q (some d) = some config) :
    SameDashboards d (convertDashboardsToProtobuf q config) ↔ DashboardsFit q d := by
  obtain ⟨requests, hrequests, h⟩ := Option.bind_eq_some_iff.mp h
  obtain ⟨limits, hlimits, h⟩ := Option.bind_eq_some_iff.mp h
  cases h
  have hrequestsOf : requestsOf d = (d.resources.getD {}).requests.getD {} := by
    unfold requestsOf
    cases d.resources <;> rfl
  have hlimitsOf : limitsOf d = (d.resources.getD {}).limits.getD {} := by
    unfold limitsOf
    cases d.resources <;> rfl
  have hnoLimits := isNil_iff hq hlimits
  have hnoRequests := isNil_iff hq hrequests
  have hprint := printResources_eq_iff hq hrequests
  rw [← hlimitsOf] at hnoLimits
  rw [← hrequestsOf] at hnoRequests hprint
  let read := convertDashboardsToProtobuf q
    { enable := d.enabled.getD true, replicas := d.replicas.getD 1,
      resources := { limits, requests } }
  -- limits are never read back
  have hreadLimits : limitsOf read = {} := by
    unfold limitsOf read convertDashboardsToProtobuf
    dsimp only
    split <;> rfl
  by_cases hlimitsNil : limits.isNil = true
  · have hreadRequests : requestsOf read =
        if requests.isNil then {} else printResources q requests := by
      unfold requestsOf read convertDashboardsToProtobuf
      simp only [hlimitsNil, Bool.true_and, Bool.not_true]
      cases requests.isNil <;> rfl
    have hsame : SameDashboards d read ↔ requestsOf read = requestsOf d := by
      constructor
      · exact fun h => h.requests
      · exact fun h => ⟨rfl, rfl, h, hreadLimits.trans (hnoLimits.mp hlimitsNil).symm⟩
    have hfit : DashboardsFit q d ↔ printResources q requests = requestsOf d := by
      rw [hprint]
      constructor
      · exact fun h => ⟨h.cpu, h.memory⟩
      · exact fun h => ⟨hnoLimits.mp hlimitsNil, h.1, h.2⟩
    rw [hsame, hfit, hreadRequests]
    split
    next hnil =>
      -- nothing was given, and nothing is printed
      have hempty := hnoRequests.mp hnil
      refine iff_of_true hempty.symm (hprint.mpr ?_)
      rw [hempty]
      exact ⟨fun hne => absurd rfl hne, fun hne => absurd rfl hne⟩
    · rfl
  · refine iff_of_false (fun h => ?_) fun h => hlimitsNil (hnoLimits.mpr h.limits)
    exact hlimitsNil (hnoLimits.mpr (h.limits.symm.trans hreadLimits))

end Dashboards

/-! ## The settings -/

section ReadBack

variable {τ Q : Type} {q : Quantities Q} {clusterName : String} {faults : Faults}
  {existing : Option (OpniOpensearch τ Q)} {given : OpensearchClusterV2 τ}
  {object : OpniOpensearch τ Q}

structure Stored (q : Quantities Q) (clusterName : String) (existing : Option (OpniOpensearch τ Q))
    (given : OpensearchClusterV2 τ) (object : OpniOpensearch τ Q) : Prop where
  data : ∃ data, given.dataNodes = some data ∧
    generateNodePools q clusterName given data = .ok object.nodePools
  dashboards : ∃ d, given.dashboards = some d ∧
    convertProtobufToDashboards q (some d) = some object.dashboards
  externalURL : object.externalURL = given.externalURL
  retention : object.clusterConfigSpec =
    if existing.isNone then some (given.dataRetention.getD "7d") else given.dataRetention

theorem stored_of_createOrUpdate
    (h : createOrUpdateOpensearchCluster q clusterName faults existing given = .ok object) :
    Stored q clusterName existing given object := by
  have hdashboards {config : DashboardsConfig Q}
      (hconfig : convertProtobufToDashboards q given.dashboards = some config) :
      ∃ d, given.dashboards = some d ∧
        convertProtobufToDashboards q (some d) = some config := by
    obtain ⟨d, hd, -⟩ := Option.bind_eq_some_iff.mp hconfig
    rw [hd] at hconfig
    exact ⟨d, hd, hconfig⟩
  revert h
  fun_cases createOrUpdateOpensearchCluster q clusterName faults existing given with
  | case7 _ data _ hdata nodePools hpools _ config hconfig
  | case11 _ data _ hdata nodePools hpools _ _ config _ _ hconfig =>
    rintro ⟨⟩
    exact ⟨⟨data, hdata, hpools⟩, hdashboards hconfig, rfl, rfl⟩
  | _ => exact nofun

/-- The retention that is read, if there is one. -/
theorem Stored.clusterConfigSpec_cases (h : Stored q clusterName existing given object) :
    (object.clusterConfigSpec = none ∧ ¬(given.dataRetention = none → existing.isNone)) ∨
      ∃ r, object.clusterConfigSpec = some r ∧ (given.dataRetention = none → existing.isNone) ∧
        (some r = given.dataRetention ∨ given.dataRetention = none ∧ some r = some "7d") := by
  rw [h.retention]
  cases existing.isNone <;> cases given.dataRetention <;> simp

/-- The settings that a successful call has written are read back just when they fit. -/
theorem readsBack_iff (hq : q.Lawful)
    (h : createOrUpdateOpensearchCluster q clusterName faults existing given = .ok object) :
    ReadsBack q object given ↔ SettingsFit q existing given := by
  have hstored := stored_of_createOrUpdate h
  obtain ⟨data, hdata, hpools⟩ := hstored.data
  obtain ⟨d, hd, hconfig⟩ := hstored.dashboards
  obtain ⟨resources, jvm, quorum, ingest, controlplane, g⟩ := generated_of_generateNodePools hpools
  obtain ⟨readData, hreadData, hdata_iff⟩ := g.sameData_iff hq
  obtain ⟨readControlplane, hreadControlplane, hcontrolplane_iff⟩ := g.sameControlplane_iff
  have hingest_iff := g.sameIngest_iff hq
  have hdashboards_iff := sameDashboards_iff hq hconfig
  unfold ReadsBack getOpensearchCluster
  dsimp only
  rw [hreadData, hreadControlplane]
  rcases hstored.clusterConfigSpec_cases with ⟨hspec, hnot⟩ | ⟨retention, hspec, hgiven, hsame⟩
  · -- an update without retention has left nothing to read
    rw [hspec]
    exact iff_of_false id fun hfit => hnot hfit.retention
  · rw [hspec]
    simp only [sameSettings_iff, settingsFit_iff, hstored.externalURL, hsame, hdata, hd,
      sameSection_some, Option.mem_some_iff, forall_eq', hdata_iff, hingest_iff, hcontrolplane_iff,
      hdashboards_iff, iff_true_intro hgiven, true_and]

end ReadBack

/-! ## Settings that are read back, and some that are not -/

/-- A quantity in thousandths: digits with one of some suffixes. -/
def milliValue (s : String) : Option Nat :=
  let digits := s.toList.takeWhile Char.isDigit
  let number := digits.foldl (fun n c => 10 * n + (c.toNat - '0'.toNat)) 0
  if digits = [] then none
  else match s.toList.drop digits.length with
    | [] => some (1000 * number)
    | ['m'] => some number
    | ['M', 'i'] => some (1000 * 2 ^ 20 * number)
    | ['G', 'i'] => some (1000 * 2 ^ 30 * number)
    | _ => none

/-- Quantities that are kept as they are written. -/
def textQuantities : Quantities String where
  parse s := if (milliValue s).isSome then .ok s
    else .error "quantities must match the regular expression"
  print s := s
  isZero s := milliValue s = some 0
  zero := "0"
  gt s s' := (milliValue s').getD 0 < (milliValue s).getD 0
  value s := ((milliValue s).getD 0 + 999) / 1000

theorem lawful_textQuantities : textQuantities.Lawful where
  print_of_parse s x h := by
    unfold textQuantities at h
    dsimp only at h
    split at h
    · cases h
      rfl
    · cases h
  isZero_zero := by decide
  print_zero := rfl

def splitNodes : DataDetails String where
  replicas := some 7
  diskSize := "50Gi"
  memoryLimit := "4Gi"
  cpuResources := some { request := "500m", limit := "1" }
  tolerations := ["dedicated=logging:NoSchedule"]
  persistence := some { enabled := some true, storageClass := some "fast" }

/-- Seven data nodes, in two pools, with ingest nodes of their own. -/
def splitCluster : OpensearchClusterV2 String where
  externalURL := "opensearch.internal"
  dataNodes := some splitNodes
  ingestNodes := some { replicas := some 2, memoryLimit := "1Gi" }
  dashboards := some { resources := some { requests := some { memory := "512Mi" } } }
  dataRetention := some "14d"

theorem readsBack_iff_split : ∃ object,
    createOrUpdateOpensearchCluster textQuantities "opni" {} none splitCluster = .ok object ∧
      ReadsBack textQuantities object splitCluster := by
  obtain ⟨object, hobject⟩ : ∃ object, createOrUpdateOpensearchCluster textQuantities "opni" {} none
      splitCluster = .ok object := ⟨_, rfl⟩
  refine ⟨object, hobject, (readsBack_iff lawful_textQuantities hobject).mpr ?_⟩
  refine ⟨fun _ => rfl, ?_, ?_, ?_, ?_⟩
  · rintro _ ⟨⟩
    refine ⟨.inr (by decide), ?_, fun h => by cases h⟩
    simp [Uniform, splitNodes]
  · rintro _ ⟨⟩
    refine ⟨.inl ⟨rfl, rfl⟩, ?_⟩
    simp [Uniform]
  · rintro _ ⟨⟩
  · rintro _ ⟨⟩
    exact ⟨rfl, fun h => absurd rfl h, fun _ => rfl⟩

def limitedCluster : OpensearchClusterV2 String where
  dataNodes := some { memoryLimit := "4Gi", tolerations := ["a", "b"] }
  dashboards := some { resources := some { limits := some { cpu := "1" } } }

/-- The last toleration is read twice, and the limits of the dashboards as requests; and after an
    update without a retention reading panics. -/
theorem settings_not_read_back :
    ∃ object, createOrUpdateOpensearchCluster textQuantities "opni" {} none limitedCluster =
        .ok object ∧
      (∃ read, getOpensearchCluster textQuantities (some object) = .ok read ∧
        read.dataNodes.map (·.tolerations) = some ["b", "b"] ∧
        read.dashboards.map requestsOf = some { cpu := "1" } ∧
        read.dashboards.map limitsOf = some {}) ∧
      ∃ updated, createOrUpdateOpensearchCluster textQuantities "opni" {} (some object)
          limitedCluster = .ok updated ∧
        getOpensearchCluster textQuantities (some updated) = .panicked := by
  refine ⟨_, rfl, ?_, ?_⟩
  · exact ⟨_, rfl, rfl, rfl, rfl⟩
  · refine ⟨_, rfl, ?_⟩
    rfl

end Opni.Logging
