/-
  Opni.Logging.NodePools

  The node pools of an OpenSearch cluster add up (`generateNodePools` of
  `plugins/logging/pkg/gateway/admin_v2.go`).
-/

import Opni.Logging.ReadBack

namespace Opni.Logging

open Lib

section Pools

variable {τ Q : Type} {q : Quantities Q} {clusterName : String} {cluster : OpensearchClusterV2 τ}
  {data : DataDetails τ} {pools : List (NodePool τ Q)}

/-- The nodes of the pools that have a role. -/
def nodesWith (role : Role) (pools : List (NodePool τ Q)) : Int :=
  ((pools.filter (role ∈ ·.roles)).map (·.replicas)).sum

structure AddUp (cluster : OpensearchClusterV2 τ) (data : DataDetails τ)
    (pools : List (NodePool τ Q)) : Prop where
  distinct : (pools.map (·.component)).Nodup
  staffed : ∀ p ∈ pools, 1 ≤ p.replicas
  data : nodesWith .data pools = data.replicas.getD 1
  held : ∀ role, ∃ p ∈ pools, role ∈ p.roles
  quorum : cluster.controlplaneNodes = none →
    nodesWith .master pools % 2 = 1 ∧ 3 ≤ nodesWith .master pools ∧ nodesWith .master pools ≤ 5

theorem nodesWith_append (role : Role) (l l' : List (NodePool τ Q)) :
    nodesWith role (l ++ l') = nodesWith role l + nodesWith role l' := by
  simp [nodesWith]

@[simp] theorem nodesWith_cons (role : Role) (p : NodePool τ Q) (l : List (NodePool τ Q)) :
    nodesWith role (p :: l) = (if role ∈ p.roles then p.replicas else 0) + nodesWith role l := by
  by_cases hrole : role ∈ p.roles <;> simp [nodesWith, hrole]

@[simp] theorem nodesWith_nil (role : Role) : nodesWith role ([] : List (NodePool τ Q)) = 0 := rfl

/-! ### A group that is there or not -/

section Groups

variable {component : String} {role : Role} {size : Int → Prop} {there : Bool}
  (h : Group component role size there pools)

include h

theorem Group.components : (pools.map (·.component)).Sublist [component] := by
  cases h with
  | absent => exact List.nil_sublist _
  | present hp => simp [hp.component]

theorem Group.nodesWith_of_ne {other : Role} (hne : other ≠ role) : nodesWith other pools = 0 := by
  cases h with
  | absent => rfl
  | present hp => simp [hp.roles, hne]

theorem Group.exists_role (hthere : there = true) : ∃ p ∈ pools, role ∈ p.roles := by
  cases h with
  | absent => cases hthere
  | present hp => exact ⟨_, List.mem_singleton_self _, by simp [hp.roles]⟩

end Groups

/-! ### The data pools -/

section DataPools

variable (clusterName cluster data) (resources : Resources Q) (jvm : String)

theorem staffed_dataPools (hreplicas : 1 ≤ data.replicas.getD 1) :
    ∀ p ∈ dataPools clusterName cluster data resources jvm, 1 ≤ p.replicas := by
  unfold dataPools
  dsimp only
  split
  next hsplit =>
    have hmany : 5 < data.replicas.getD 1 := by simp_all
    simp only [List.forall_mem_cons, List.not_mem_nil, false_imp_iff, implies_true, and_true]
    omega
  next => simpa using hreplicas

theorem nodesWith_data_dataPools :
    nodesWith .data (dataPools clusterName cluster data resources jvm) = data.replicas.getD 1 := by
  have hdata : Role.data ∈ dataRoles cluster := by simp [dataRoles]
  have hdatax : Role.data ∈ (dataRoles cluster).erase .master :=
    (List.mem_erase_of_ne (by decide)).mpr hdata
  unfold dataPools
  dsimp only
  split
  · simp [hdata, hdatax]
  · simp [hdata]

/-- No more than five of the data nodes are masters. -/
theorem nodesWith_master_dataPools (hcontrolplane : cluster.controlplaneNodes = none) :
    nodesWith .master (dataPools clusterName cluster data resources jvm) =
      min 5 (data.replicas.getD 1) := by
  have hmaster : Role.master ∈ dataRoles cluster := by simp [dataRoles, hcontrolplane]
  have hnot : Role.master ∉ (dataRoles cluster).erase .master := by
    rw [dataRoles]
    split_ifs <;> decide
  unfold dataPools
  dsimp only
  split
  next hsplit =>
    have hmany : 5 < data.replicas.getD 1 := by simp_all
    simp [hmaster, hnot, hmany.le]
  next hsplit =>
    have hfew : data.replicas.getD 1 ≤ 5 := by simpa [hcontrolplane] using hsplit
    simp [hmaster, hfew]

end DataPools

/-- The pools of an accepted request add up. -/
theorem addUp_of_generateNodePools (h : generateNodePools q clusterName cluster data = .ok pools) :
    AddUp cluster data pools := by
  obtain ⟨resources, jvm, quorum, ingest, controlplane, g⟩ := generated_of_generateNodePools h
  have hquorum := g.masters
  have hingest := g.groupIngest
  have hcontrolplane := g.groupControlplane
  rw [g.all]
  refine ⟨?distinct, ?staffed, ?data, ?held, ?quorum⟩
  case distinct =>
    simp only [List.map_append]
    have hdata : ((dataPools clusterName cluster data resources jvm).map (·.component)).Sublist
        ["data", "datax"] := by
      dsimp only [dataPools]
      split <;> simp
    have hall := hdata.append
      (hquorum.components.append (hingest.components.append hcontrolplane.components))
    exact hall.nodup (by decide)
  case staffed =>
    simp only [List.forall_mem_append]
    refine ⟨staffed_dataPools clusterName cluster data resources jvm g.staffed,
      hquorum.forall fun _ p hp => ?_, hingest.forall fun _ p hp => hp.size,
      hcontrolplane.forall fun _ p hp => hp.size⟩
    rw [hp.size]
    split <;> omega
  case data =>
    rw [nodesWith_append, nodesWith_append, nodesWith_append, nodesWith_data_dataPools,
      hquorum.nodesWith_of_ne (by decide), hingest.nodesWith_of_ne (by decide),
      hcontrolplane.nodesWith_of_ne (by decide)]
    omega
  case held =>
    obtain ⟨first, rest, hcons, hdata, hdataIngest, hdataMaster⟩ :=
      dataPools_eq_cons clusterName cluster data resources jvm
    rw [hcons]
    intro role
    cases role with
    | data => exact ⟨first, by simp, hdata⟩
    | ingest =>
      cases hi : cluster.ingestNodes with
      | none => exact ⟨first, by simp, hdataIngest hi⟩
      | some d =>
        obtain ⟨p, hp, hrole⟩ := hingest.exists_role (by rw [hi]; rfl)
        exact ⟨p, by simp [hp], hrole⟩
    | master =>
      cases hc : cluster.controlplaneNodes with
      | none => exact ⟨first, by simp, hdataMaster hc⟩
      | some d =>
        obtain ⟨p, hp, hrole⟩ := hcontrolplane.exists_role (by rw [hc]; rfl)
        exact ⟨p, by simp [hp], hrole⟩
  case quorum =>
    intro hnone
    rw [hnone] at hcontrolplane
    cases hcontrolplane
    rw [nodesWith_append, nodesWith_append, nodesWith_append, nodesWith_nil,
      nodesWith_master_dataPools _ _ _ _ _ hnone, hingest.nodesWith_of_ne (by decide)]
    have hreplicas := g.staffed
    generalize data.replicas.getD 1 = r at *
    generalize hextra : (_ && _) = extra at hquorum
    cases hquorum with
    | absent =>
      have hr : r % 2 = 1 ∧ 3 ≤ r ∨ 5 < r := by
        simp [hnone] at hextra
        omega
      rw [nodesWith_nil]
      omega
    | present hp =>
      -- the quorum pool makes up for an even number of nodes, or for too few
      have hr : (r % 2 = 0 ∨ r < 3) ∧ r ≤ 5 := by simpa [hnone] using hextra
      rw [nodesWith_cons, nodesWith_nil, hp.roles, hp.size, if_pos (List.mem_singleton_self _)]
      omega

end Pools

theorem addUp_of_split : ∃ pools,
    generateNodePools textQuantities "opni" splitCluster splitNodes = .ok pools ∧
      AddUp splitCluster splitNodes pools := by
  obtain ⟨pools, hpools⟩ : ∃ pools, generateNodePools textQuantities "opni" splitCluster
      splitNodes = .ok pools := ⟨_, rfl⟩
  exact ⟨pools, hpools, addUp_of_generateNodePools hpools⟩

end Opni.Logging
