/-
  Opni.Rbac.ListBindings

  Whether `ListRoleBindings` and `GetRoleBinding` agree about the bindings and
  their taints (`pkg/storage/taints.go`, `rbac_store.go` of both stores).
-/

import Opni.Rbac.SubjectAccess

namespace Opni.Rbac

open Lib

/-- `GetRoleBinding` of the management API, which validates the reference first, as far as it
    succeeds. -/
def serverGetRoleBinding (get : String → Except StoreErr RoleBinding) (id : String) :
    Option RoleBinding :=
  if validateID id then (get id).toOption else none

/-- The list succeeds, each of its bindings is the one that is got by its id, and each id with
    a binding is listed once. -/
def ListAgrees (list : Except StoreErr (List RoleBinding))
    (get : String → Except StoreErr RoleBinding) : Prop :=
  ∃ rbs, list = .ok rbs ∧ (∀ rb ∈ rbs, serverGetRoleBinding get rb.id = some rb) ∧
    ∀ id, (serverGetRoleBinding get id).isSome → (rbs.map (·.id)).count id = 1

section Reading

variable {get : ObjectKind → String → Except StoreErr RbacObject}
  {values : ObjectKind → List RbacObject} {data : RbacData} (h : Reads get values data)
  (haccepted : data.Accepted) {rb : RoleBinding}

include h haccepted

theorem Reads.get_binding (hrb : .roleBinding rb ∈ data) :
    validateID rb.id = true ∧ get .roleBindings rb.id = .ok (.roleBinding rb) := by
  have hid := RbacObject.validateID_of_accepted (haccepted _ hrb)
  exact ⟨hid, (h.get_eq_ok hid).mpr ⟨hrb, rfl, rfl⟩⟩

theorem Reads.serverGet_binding (hrb : .roleBinding rb ∈ data) :
    serverGetRoleBinding (getRoleBindingOf get) rb.id =
      (applyRoleBindingTaints (getRoleOf get) rb).toOption := by
  obtain ⟨hid, hget⟩ := h.get_binding haccepted hrb
  unfold serverGetRoleBinding getRoleBindingOf
  rw [if_pos hid, hget]
  rfl

omit haccepted in
theorem Reads.exists_of_serverGet {id : String}
    (hsome : (serverGetRoleBinding (getRoleBindingOf get) id).isSome) :
    ∃ rb, .roleBinding rb ∈ data ∧ rb.id = id := by
  unfold serverGetRoleBinding at hsome
  split at hsome
  next hid =>
    unfold getRoleBindingOf at hsome
    cases hget : get .roleBindings id with
    | error err =>
      rw [hget] at hsome
      simp [Except.toOption] at hsome
    | ok o =>
      obtain ⟨ho, hkind, hoid⟩ := (h.get_eq_ok hid).mp hget
      obtain ⟨rb, rfl, hrb⟩ := h.exists_binding (h.mem_values.mpr ⟨ho, hkind⟩)
      exact ⟨rb, hrb, hoid⟩
  · cases hsome

theorem Reads.nodup_ids (hnodup : (values .roleBindings).Nodup) :
    ((values .roleBindings).map RbacObject.id).Nodup := by
  refine hnodup.map_on ?_
  intro o ho o' ho' hid
  obtain ⟨rb, rfl, hrb⟩ := h.exists_binding ho
  obtain ⟨rb', rfl, hrb'⟩ := h.exists_binding ho'
  -- both are what is found under the one id
  have hget := (h.get_binding haccepted hrb).2
  have hget' := (h.get_binding haccepted hrb').2
  have hids : rb.id = rb'.id := hid
  rw [hids, hget'] at hget
  exact (Except.ok.inj hget).symm

/-- A list that makes `f` of each value agrees exactly if `f` is what `GetRoleBinding` does. -/
theorem Reads.listAgrees_iff (hnodup : (values .roleBindings).Nodup)
    {f : RbacObject → Except StoreErr RoleBinding}
    (hf : ∀ rb, .roleBinding rb ∈ data →
      ∃ listed, f (.roleBinding rb) = .ok listed ∧ listed.id = rb.id) :
    ListAgrees ((values .roleBindings).mapM f) (getRoleBindingOf get) ↔
      ∀ rb, .roleBinding rb ∈ data →
        applyRoleBindingTaints (getRoleOf get) rb = f (.roleBinding rb) := by
  have hok : ∀ o ∈ values .roleBindings, ∃ listed, f o = .ok listed ∧ listed.id = o.id := by
    intro o ho
    obtain ⟨rb, rfl, hrb⟩ := h.exists_binding ho
    exact hf rb hrb
  obtain ⟨rbs, hrbs, hmem⟩ := exists_mapM fun o ho => (hok o ho).imp fun _ => And.left
  -- the ids of the list are those of the values
  have hids : rbs.map (·.id) = (values .roleBindings).map RbacObject.id := by
    refine map_eq_of_forall₂ (mapM_eq_ok_iff.mp hrbs) fun o ho listed hfo => ?_
    obtain ⟨listed', hlisted, hid⟩ := hok o ho
    cases hlisted.symm.trans hfo
    exact hid
  constructor
  · rintro ⟨rbs', hrbs', hgets, -⟩ rb hrb
    cases hrbs.symm.trans hrbs'
    obtain ⟨listed, hlisted, hid⟩ := hf rb hrb
    have hin : listed ∈ rbs := (hmem listed).mpr ⟨_, h.mem_values.mpr ⟨hrb, rfl⟩, hlisted⟩
    have hgot := hgets listed hin
    rw [hid, h.serverGet_binding haccepted hrb] at hgot
    rw [hlisted]
    cases htaints : applyRoleBindingTaints (getRoleOf get) rb with
    | error err =>
      rw [htaints] at hgot
      simp [Except.toOption] at hgot
    | ok got =>
      rw [htaints] at hgot
      exact congrArg Except.ok (Option.some.inj hgot)
  · intro hsame
    refine ⟨rbs, hrbs, ?_, ?_⟩
    · intro listed hin
      obtain ⟨o, ho, hlisted⟩ := (hmem listed).mp hin
      obtain ⟨rb, rfl, hrb⟩ := h.exists_binding ho
      obtain ⟨listed', hlisted', hid⟩ := hf rb hrb
      cases hlisted'.symm.trans hlisted
      rw [hid, h.serverGet_binding haccepted hrb, hsame rb hrb, hlisted]
      rfl
    · intro id hsome
      obtain ⟨rb, hrb, rfl⟩ := h.exists_of_serverGet hsome
      rw [hids]
      refine List.count_eq_one_of_mem (h.nodup_ids haccepted hnodup) ?_
      exact List.mem_map.mpr ⟨_, h.mem_values.mpr ⟨hrb, rfl⟩, rfl⟩

theorem Reads.taints_eq_iff (hrb : .roleBinding rb ∈ data) :
    applyRoleBindingTaints (getRoleOf get) rb = .ok rb ↔ Untainted data rb := by
  have hroleId : validateID rb.roleId = true := validateID_roleId haccepted hrb
  have hfound : (∃ role, .role role ∈ data ∧ role.id = rb.roleId) ↔
      ∃ role, getRoleOf get rb.roleId = .ok role :=
    exists_congr fun role => (h.getRoleOf_eq_ok hroleId).symm
  -- a taint that is added makes the list of taints longer
  have hlonger : ∀ taint, rb ≠ taintNoSubjects { rb with taints := rb.taints ++ [taint] } := by
    intro taint heq
    have hlength := congrArg (fun b : RoleBinding => b.taints.length) heq
    unfold taintNoSubjects at hlength
    split at hlength
    · simp only [List.length_append, List.length_cons, List.length_nil] at hlength
      omega
    · simp only [List.length_append, List.length_cons, List.length_nil] at hlength
      omega
  unfold applyRoleBindingTaints Untainted
  rw [hfound]
  cases hrole : getRoleOf get rb.roleId with
  | ok role =>
    simp only [Except.ok.injEq, exists_eq', true_and]
    unfold taintNoSubjects
    split
    next hempty =>
      have hnil := List.length_eq_zero_iff.mp hempty
      refine iff_of_false (fun heq => ?_) (not_not_intro hnil)
      have hlength := congrArg (fun b : RoleBinding => b.taints.length) heq
      simp only [List.length_append, List.length_cons, List.length_nil] at hlength
      omega
    next hne => exact iff_of_true rfl fun hnil => hne (by simp [hnil])
  | error err =>
    refine iff_of_false (fun heq => ?_) (by simp)
    cases err with
    | notFound => exact hlonger "role not found" (Except.ok.inj heq).symm
    | alreadyExists | invalidKey | decode => cases heq

end Reading

variable {data : RbacData}

theorem EtcdStore.Holds.nodup_values {e : EtcdStore} (h : e.Holds data) (order : Scheduler Path)
    (kind : ObjectKind) : (e.values order kind).Nodup := by
  refine List.Nodup.filterMap ?_ (((order.perm _).nodup_iff.mpr e.kv.keys_nodup).filter _)
  intro p p' o hp hp'
  exact ((h.indexes p o).mp hp).2.symm.trans ((h.indexes p' o).mp hp').2

theorem JetStreamStore.Holds.nodup_values {keyValid : String → Bool} {s : JetStreamStore}
    (h : s.Holds keyValid data) (order : Scheduler String) (kind : ObjectKind) :
    (s.values order kind).Nodup := by
  refine List.Nodup.filterMap ?_ ((order.perm _).nodup_iff.mpr (s.kv kind).keys_nodup)
  intro id id' o hid hid'
  exact ((h.indexes kind id o).mp hid).2.symm.trans ((h.indexes kind id' o).mp hid').2

/-- After any calls the etcd store lists the role bindings as it returns them one by one.  The
    JetStream store, whose list applies no taints, does so exactly if no binding is tainted:
    each has subjects and a role that exists. -/
theorem listRoleBindings_agree_iff (calls : List RbacCall) :
    (∀ (keyPrefix : String) (order : Scheduler Path),
      let e := applyCalls EtcdStore.create EtcdStore.delete calls (EtcdStore.new keyPrefix)
      ListAgrees (e.listRoleBindings order) e.getRoleBinding) ∧
    ∀ (keyValid : String → Bool) (order : Scheduler String),
      let s := applyCalls JetStreamStore.create JetStreamStore.delete calls
        (JetStreamStore.new keyValid)
      let data := RbacData.empty.run (calls.filter fun call => keyValid call.id)
      ListAgrees (s.listRoleBindings order) s.getRoleBinding ↔
        ∀ rb, .roleBinding rb ∈ data → Untainted data rb := by
  constructor
  · intro keyPrefix order e
    have h : e.Holds (RbacData.empty.run (calls.filter fun _ => true)) :=
      EtcdStore.simulates.run (EtcdStore.holds_new keyPrefix) calls
    refine ((h.reads order).listAgrees_iff h.accepted (h.nodup_values order _) ?_).mpr
      fun rb _ => rfl
    intro rb hrb
    -- the list of the store has what `ApplyRoleBindingTaints` makes of the binding
    show ∃ listed, applyRoleBindingTaints e.getRole rb = .ok listed ∧ listed.id = rb.id
    have htaint : ∀ b : RoleBinding, (taintNoSubjects b).id = b.id := by
      intro b
      unfold taintNoSubjects
      split <;> rfl
    rw [applyRoleBindingTaints]
    rcases h.getRole_cases (validateID_roleId h.accepted hrb) with ⟨role, hrole⟩ | hmissing
    · rw [hrole]
      exact ⟨_, rfl, htaint rb⟩
    · rw [hmissing]
      exact ⟨_, rfl, htaint _⟩
  · intro keyValid order s data
    have h : s.Holds keyValid data :=
      (JetStreamStore.simulates keyValid).run (JetStreamStore.holds_new keyValid) calls
    refine ((h.reads order).listAgrees_iff h.accepted (h.nodup_values order _)
      fun rb _ => ⟨rb, rfl, rfl⟩).trans ?_
    exact forall₂_congr fun rb hrb => (h.reads order).taints_eq_iff h.accepted hrb

/-- A binding whose role does not exist: `GetRoleBinding` returns it with a taint, the list of
    the JetStream store without. -/
theorem listRoleBindings_drops_taints :
    let rb : RoleBinding := { id := "rb", roleId := "gone", subjects := ["user"] }
    let s := applyCalls JetStreamStore.create JetStreamStore.delete [.create (.roleBinding rb)]
      (JetStreamStore.new fun _ => true)
    s.getRoleBinding "rb" = .ok { rb with taints := ["role not found"] } ∧
      s.listRoleBindings (Scheduler.inOrder String) = .ok [rb] := by
  exact ⟨rfl, rfl⟩

end Opni.Rbac
