/-
  Opni.Rbac.SubjectAccess

  `SubjectAccess` (`pkg/storage/rbac_provider.go`): the clusters that a
  subject may access, by the role bindings it is in.
-/

import Opni.Rbac.EtcdStore
import Opni.Rbac.JetStreamStore

namespace Opni.Rbac

open Lib

/-! ## The provider -/

/-- `SubjectAccessCapableStore`: what the provider asks of a backend. -/
structure SubjectAccessCapableStore where
  listRoleBindings : Except StoreErr (List RoleBinding)
  getRole : String → Except StoreErr Role
  listClusters : Option LabelSelector → Bool → Except StoreErr (List Cluster)

/-- The errors of the provider: a text, and the error of the store it wraps. -/
structure AccessErr where
  text : String
  cause : StoreErr
deriving DecidableEq

/-- The loop over the role bindings.  The clusters are collected in a map, which
    leaves out the duplicates. -/
def grantFrom (store : SubjectAccessCapableStore) (subject : String) :
    List RoleBinding → GoMap String Unit → Except AccessErr (GoMap String Unit)
  | [], allowed => .ok allowed
  | rb :: rbs, allowed =>
    if !rb.subjects.any (· = subject) then grantFrom store subject rbs allowed
    else if rb.taints.length > 0 then grantFrom store subject rbs allowed
    else
      match store.getRole rb.roleId with
      -- a role that cannot be looked up is logged, and the binding is skipped
      | .error _ => grantFrom store subject rbs allowed
      | .ok role =>
        let explicit := role.clusterIDs.foldl (fun m id => m.insert id ()) allowed
        match store.listClusters role.matchLabels true with
        | .error err => .error ⟨"failed to list clusters", err⟩
        | .ok clusters =>
          grantFrom store subject rbs
            (clusters.foldl (fun m c => m.insert c.id ()) explicit)

variable (store : SubjectAccessCapableStore)

/-- `SubjectAccess`, with the keys of the map in some order. -/
def subjectAccess (order : Scheduler String)
    (subject : String) : Except AccessErr (List String) :=
  match store.listRoleBindings with
  | .error err => .error ⟨"failed to list role bindings", err⟩
  | .ok rbs =>
    match grantFrom store subject rbs ∅ with
    | .error err => .error err
    | .ok allowed => .ok (sortFunc (fun a b => decide (a < b)) (order.order allowed.keys))

def EtcdStore.backend (e : EtcdStore) (order : Scheduler Path) : SubjectAccessCapableStore where
  listRoleBindings := e.listRoleBindings order
  getRole := e.getRole
  listClusters := e.listClusters order

def JetStreamStore.backend (s : JetStreamStore) (order : Scheduler String) :
    SubjectAccessCapableStore where
  listRoleBindings := s.listRoleBindings order
  getRole := s.getRole
  listClusters := s.listClusters order

/-! ## What the roles say -/

variable (data : RbacData)

/-- A binding without taints: its role exists, and it has subjects. -/
def Untainted (rb : RoleBinding) : Prop :=
  (∃ role, .role role ∈ data ∧ role.id = rb.roleId) ∧ rb.subjects ≠ []

/-- A role gives access to a cluster: by its id, or by the selector. -/
def Role.Allows (role : Role) (id : String) : Prop :=
  id ∈ role.clusterIDs ∨ ∃ c, .cluster c ∈ data ∧ c.id = id ∧ Selects role.matchLabels c

def Granted (subject id : String) : Prop :=
  ∃ rb role, .roleBinding rb ∈ data ∧ subject ∈ rb.subjects ∧ Untainted data rb ∧
    .role role ∈ data ∧ role.id = rb.roleId ∧ role.Allows data id

/-- A listed binding stands for one of the set: it may have got taints, but only if
    the binding is tainted. -/
structure Listed (rb listed : RoleBinding) : Prop where
  roleId : listed.roleId = rb.roleId
  subjects : listed.subjects = rb.subjects
  taints : listed.taints ≠ [] → ¬Untainted data rb

structure Serves (data : RbacData) : Prop where
  accepted : data.Accepted
  bindings : ∃ rbs, store.listRoleBindings = .ok rbs ∧
    (∀ listed ∈ rbs, ∃ rb, .roleBinding rb ∈ data ∧ Listed data rb listed) ∧
    ∀ rb, .roleBinding rb ∈ data → ∃ listed ∈ rbs, Listed data rb listed
  role : ∀ {id role}, validateID id = true →
    (store.getRole id = .ok role ↔ .role role ∈ data ∧ role.id = id)
  clusters : ∀ matchLabels, ∃ clusters, store.listClusters matchLabels true = .ok clusters ∧
    ∀ c, c ∈ clusters ↔ .cluster c ∈ data ∧ Selects matchLabels c

/-! ## The loop -/

theorem mem_foldl_insert {α : Type} {f : α → String} {l : List α} {m : GoMap String Unit}
    {id : String} : id ∈ l.foldl (fun m x => m.insert (f x) ()) m ↔ id ∈ m ∨ ∃ x ∈ l, f x = id := by
  induction l generalizing m with
  | nil => simp
  | cons x l ih =>
    rw [List.foldl_cons, ih, AList.mem_insert, List.exists_mem_cons_iff, eq_comm, or_assoc,
      or_left_comm]

def Adds (subject : String) (listed : RoleBinding)
    (id : String) : Prop :=
  subject ∈ listed.subjects ∧ listed.taints = [] ∧
    ∃ role clusters, store.getRole listed.roleId = .ok role ∧
      store.listClusters role.matchLabels true = .ok clusters ∧
      (id ∈ role.clusterIDs ∨ ∃ c ∈ clusters, c.id = id)

/-- One turn of the loop: a binding that is skipped adds nothing. -/
theorem exists_grantFrom_cons {store : SubjectAccessCapableStore} (subject : String)
    (hlist : ∀ matchLabels, ∃ clusters, store.listClusters matchLabels true = .ok clusters)
    (rb : RoleBinding) (rbs : List RoleBinding) (allowed : GoMap String Unit) :
    ∃ allowed₁, grantFrom store subject (rb :: rbs) allowed = grantFrom store subject rbs allowed₁ ∧
      ∀ id, id ∈ allowed₁ ↔ id ∈ allowed ∨ Adds store subject rb id := by
  have hskip : (∀ id, ¬Adds store subject rb id) →
      ∀ id, id ∈ allowed ↔ id ∈ allowed ∨ Adds store subject rb id :=
    fun hnone id => (or_iff_left (hnone id)).symm
  rw [grantFrom]
  split
  next hsubject =>
    refine ⟨allowed, rfl, hskip ?_⟩
    rintro id ⟨hmem, -⟩
    have hany : rb.subjects.any (· = subject) = true := by simpa using hmem
    simp [hany] at hsubject
  next hsubject =>
    split
    next htaints =>
      refine ⟨allowed, rfl, hskip ?_⟩
      rintro id ⟨-, hnil, -⟩
      simp [hnil] at htaints
    next htaints =>
      split
      next err herr =>
        refine ⟨allowed, rfl, hskip ?_⟩
        rintro id ⟨-, -, role, clusters, hrole, -⟩
        rw [herr] at hrole
        cases hrole
      next role hrole =>
        obtain ⟨clusters, hclusters⟩ := hlist role.matchLabels
        have hadds : ∀ id, Adds store subject rb id ↔
            id ∈ role.clusterIDs ∨ ∃ c ∈ clusters, c.id = id := by
          intro id
          constructor
          · rintro ⟨-, -, role', clusters', hrole', hclusters', hid⟩
            cases hrole.symm.trans hrole'
            cases hclusters.symm.trans hclusters'
            exact hid
          · intro hid
            exact ⟨by simpa using hsubject, by simpa using htaints, role, clusters, hrole,
              hclusters, hid⟩
        simp only [hclusters]
        refine ⟨_, rfl, fun id => ?_⟩
        rw [mem_foldl_insert, mem_foldl_insert, hadds]
        simp [or_assoc]

theorem exists_grantFrom {store : SubjectAccessCapableStore} (subject : String)
    (hlist : ∀ matchLabels, ∃ clusters, store.listClusters matchLabels true = .ok clusters)
    (rbs : List RoleBinding) (allowed : GoMap String Unit) :
    ∃ allowed', grantFrom store subject rbs allowed = .ok allowed' ∧
      ∀ id, id ∈ allowed' ↔ id ∈ allowed ∨ ∃ listed ∈ rbs, Adds store subject listed id := by
  induction rbs generalizing allowed with
  | nil => exact ⟨allowed, rfl, by simp⟩
  | cons rb rbs ih =>
    obtain ⟨allowed₁, hturn, hmem₁⟩ := exists_grantFrom_cons subject hlist rb rbs allowed
    obtain ⟨allowed', hok, hmem⟩ := ih allowed₁
    refine ⟨allowed', hturn.trans hok, fun id => ?_⟩
    rw [hmem, hmem₁, List.exists_mem_cons_iff, or_assoc]

/-! ## From a backend that serves a set -/

theorem taints_eq_nil {data : RbacData} (haccepted : data.Accepted) {rb : RoleBinding}
    (hrb : .roleBinding rb ∈ data) : rb.taints = [] := by
  have h := haccepted _ hrb
  rw [RbacObject.accepted, Bool.and_eq_true] at h
  exact List.length_eq_zero_iff.mp (of_decide_eq_true h.2)

theorem validateID_roleId {data : RbacData} (haccepted : data.Accepted) {rb : RoleBinding}
    (hrb : .roleBinding rb ∈ data) : validateID rb.roleId = true := by
  have h := haccepted _ hrb
  rw [RbacObject.accepted, Bool.and_eq_true, Bool.and_eq_true] at h
  exact h.1.2

section Access

variable {store : SubjectAccessCapableStore} {data : RbacData} (h : Serves store data)

include h

theorem Serves.adds_iff {rb listed : RoleBinding} (hrb : .roleBinding rb ∈ data)
    (hlisted : Listed data rb listed) {subject id : String} :
    Adds store subject listed id ↔ subject ∈ rb.subjects ∧ listed.taints = [] ∧
      ∃ role, .role role ∈ data ∧ role.id = rb.roleId ∧ role.Allows data id := by
  rw [Adds, hlisted.subjects, hlisted.roleId]
  refine and_congr_right fun _ => and_congr_right fun _ => exists_congr fun role => ?_
  obtain ⟨clusters, hclusters, hmem⟩ := h.clusters role.matchLabels
  have hallows : role.Allows data id ↔ id ∈ role.clusterIDs ∨ ∃ c ∈ clusters, c.id = id := by
    refine or_congr_right (exists_congr fun c => ?_)
    rw [hmem, and_assoc, and_comm (a := c.id = id)]
  rw [hallows, ← and_assoc, ← h.role (validateID_roleId h.accepted hrb)]
  constructor
  · rintro ⟨clusters', hrole, hclusters', hid⟩
    cases hclusters.symm.trans hclusters'
    exact ⟨hrole, hid⟩
  · rintro ⟨hrole, hid⟩
    exact ⟨clusters, hrole, hclusters, hid⟩

/-- `SubjectAccess` returns what is granted, sorted and without duplicates. -/
theorem Serves.exists_subjectAccess (order : Scheduler String) (subject : String) :
    ∃ ids, subjectAccess store order subject = .ok ids ∧ ids.Pairwise (· < ·) ∧
      ∀ id, id ∈ ids ↔ Granted data subject id := by
  obtain ⟨rbs, hrbs, hsound, hcomplete⟩ := h.bindings
  have hlist : ∀ matchLabels, ∃ clusters, store.listClusters matchLabels true = .ok clusters :=
    fun matchLabels => (h.clusters matchLabels).imp fun _ hclusters => hclusters.1
  obtain ⟨allowed, hallowed, hmem⟩ := exists_grantFrom subject hlist rbs ∅
  have haccess : subjectAccess store order subject =
      .ok (sortFunc (fun a b => decide (a < b)) (order.order allowed.keys)) := by
    rw [subjectAccess, hrbs]
    simp only [hallowed]
  refine ⟨_, haccess, ?_, ?_⟩
  · exact pairwise_sortFunc_lt ((order.perm _).nodup_iff.mpr allowed.keys_nodup)
  · intro id
    rw [mem_sortFunc, (order.perm _).mem_iff]
    refine (hmem id).trans ?_
    constructor
    · rintro (hempty | ⟨listed, hlisted, hadds⟩)
      · exact absurd hempty (AList.notMem_empty id)
      · obtain ⟨rb, hrb, hof⟩ := hsound listed hlisted
        obtain ⟨hsubject, -, role, hrole, hid, hallows⟩ := (h.adds_iff hrb hof).mp hadds
        exact ⟨rb, role, hrb, hsubject, ⟨⟨role, hrole, hid⟩, List.ne_nil_of_mem hsubject⟩, hrole,
          hid, hallows⟩
    · rintro ⟨rb, role, hrb, hsubject, huntainted, hrole, hid, hallows⟩
      obtain ⟨listed, hlisted, hof⟩ := hcomplete rb hrb
      have hclean : listed.taints = [] := by
        by_contra htaints
        exact hof.taints htaints huntainted
      exact .inr ⟨listed, hlisted,
        (h.adds_iff hrb hof).mpr ⟨hsubject, hclean, role, hrole, hid, hallows⟩⟩

end Access

/-! ## The backends -/

theorem Reads.exists_listed {get : ObjectKind → String → Except StoreErr RbacObject}
    {values : ObjectKind → List RbacObject} {data : RbacData} (h : Reads get values data)
    {f : RbacObject → Except StoreErr RoleBinding}
    (hf : ∀ rb, .roleBinding rb ∈ data →
      ∃ listed, f (.roleBinding rb) = .ok listed ∧ Listed data rb listed) :
    ∃ rbs, (values .roleBindings).mapM f = .ok rbs ∧
      (∀ listed ∈ rbs, ∃ rb, .roleBinding rb ∈ data ∧ Listed data rb listed) ∧
      ∀ rb, .roleBinding rb ∈ data → ∃ listed ∈ rbs, Listed data rb listed := by
  have hok : ∀ o ∈ values .roleBindings, ∃ listed, f o = .ok listed := by
    intro o ho
    obtain ⟨rb, rfl, hrb⟩ := h.exists_binding ho
    exact (hf rb hrb).imp fun _ => And.left
  obtain ⟨rbs, hrbs, hmem⟩ := exists_mapM hok
  refine ⟨rbs, hrbs, ?_, ?_⟩
  · intro listed hlisted
    obtain ⟨o, ho, hfo⟩ := (hmem listed).mp hlisted
    obtain ⟨rb, rfl, hrb⟩ := h.exists_binding ho
    obtain ⟨listed', hfo', hof⟩ := hf rb hrb
    cases hfo.symm.trans hfo'
    exact ⟨rb, hrb, hof⟩
  · intro rb hrb
    obtain ⟨listed, hfo, hof⟩ := hf rb hrb
    exact ⟨listed, (hmem listed).mpr ⟨_, h.mem_values.mpr ⟨hrb, rfl⟩, hfo⟩, hof⟩

theorem JetStreamStore.Holds.serves {keyValid : String → Bool} {s : JetStreamStore}
    {data : RbacData} (h : s.Holds keyValid data) (order : Scheduler String) :
    Serves (s.backend order) data where
  accepted := h.accepted
  bindings := by
    refine (h.reads order).exists_listed ?_
    intro rb hrb
    refine ⟨rb, rfl, rfl, rfl, ?_⟩
    intro htaints
    exact absurd (taints_eq_nil h.accepted hrb) htaints
  role hid := (h.reads order).getRoleOf_eq_ok hid
  clusters matchLabels := (h.reads order).exists_listClustersOf matchLabels

/-- The etcd store lists the bindings with their taints. -/
theorem EtcdStore.Holds.serves {e : EtcdStore} {data : RbacData} (h : e.Holds data)
    (order : Scheduler Path) : Serves (e.backend order) data where
  accepted := h.accepted
  bindings := by
    refine (h.reads order).exists_listed ?_
    intro rb hrb
    have hid := validateID_roleId h.accepted hrb
    have htaints := taints_eq_nil h.accepted hrb
    show ∃ listed, applyRoleBindingTaints e.getRole rb = .ok listed ∧ Listed data rb listed
    rw [applyRoleBindingTaints]
    rcases h.getRole_cases hid with ⟨role, hrole⟩ | hmissing
    · -- the role is there, so the only taint is that of a binding without subjects
      rw [hrole]
      refine ⟨_, rfl, ?_⟩
      unfold taintNoSubjects
      split
      next hsubjects =>
        refine ⟨rfl, rfl, fun _ huntainted => huntainted.2 ?_⟩
        exact List.length_eq_zero_iff.mp hsubjects
      next => exact ⟨rfl, rfl, fun hne => absurd htaints hne⟩
    · have huntainted : ¬Untainted data rb := by
        rintro ⟨⟨role, hrole, hroleId⟩, -⟩
        have hget := ((h.reads order).getRoleOf_eq_ok hid).mpr ⟨hrole, hroleId⟩
        cases hget.symm.trans hmissing
      rw [hmissing]
      refine ⟨_, rfl, ?_⟩
      unfold taintNoSubjects
      split <;> exact ⟨rfl, rfl, fun _ => huntainted⟩
  role hid := (h.reads order).getRoleOf_eq_ok hid
  clusters matchLabels := (h.reads order).exists_listClustersOf matchLabels

/-! ## Whole runs -/

/-- After any calls `SubjectAccess` returns exactly the granted ids, sorted and
    without duplicates, and both backends return the same: the etcd store after the
    calls, and the JetStream store after any calls of which it takes these. -/
theorem subjectAccess_grants (calls : List RbacCall) (subject : String) :
    ∃ ids : List String, ids.Pairwise (· < ·) ∧
      (∀ id, id ∈ ids ↔ Granted (RbacData.empty.run calls) subject id) ∧
      (∀ (keyPrefix : String) (keyOrder : Scheduler Path) (order : Scheduler String),
        subjectAccess ((applyCalls EtcdStore.create EtcdStore.delete calls
          (EtcdStore.new keyPrefix)).backend keyOrder) order subject = .ok ids) ∧
      ∀ (keyValid : String → Bool) (calls' : List RbacCall) (keyOrder order : Scheduler String),
        (calls'.filter fun call => keyValid call.id) = calls →
        subjectAccess ((applyCalls JetStreamStore.create JetStreamStore.delete calls'
          (JetStreamStore.new keyValid)).backend keyOrder) order subject = .ok ids := by
  -- the etcd store with any prefix gives the list
  have hetcd : ∀ keyPrefix, (applyCalls EtcdStore.create EtcdStore.delete calls
      (EtcdStore.new keyPrefix)).Holds (RbacData.empty.run calls) := by
    intro keyPrefix
    have hrun := EtcdStore.simulates.run (EtcdStore.holds_new keyPrefix) calls
    rwa [List.filter_eq_self.mpr (by simp)] at hrun
  obtain ⟨ids, -, hsorted, hmem⟩ :=
    ((hetcd "").serves (Scheduler.inOrder Path)).exists_subjectAccess
    (Scheduler.inOrder String) subject
  -- a sorted list is known by its elements, so any other backend gives the same
  have hunique : ∀ {store : SubjectAccessCapableStore} (order : Scheduler String),
      Serves store (RbacData.empty.run calls) → subjectAccess store order subject = .ok ids := by
    intro store order hserves
    obtain ⟨ids', haccess, hsorted', hmem'⟩ := hserves.exists_subjectAccess order subject
    rw [haccess, hsorted'.eq_of_mem_iff hsorted fun id => (hmem' id).trans (hmem id).symm]
  refine ⟨ids, hsorted, hmem, ?_, ?_⟩
  · intro keyPrefix keyOrder order
    exact hunique order ((hetcd keyPrefix).serves keyOrder)
  · rintro keyValid calls' keyOrder order rfl
    have hholds :=
      (JetStreamStore.simulates keyValid).run (JetStreamStore.holds_new keyValid) calls'
    exact hunique order (hholds.serves keyOrder)

end Opni.Rbac
