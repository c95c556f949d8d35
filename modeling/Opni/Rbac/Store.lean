/-
  Opni.Rbac.Store

  What the etcd and the JetStream store have in common: the errors, the calls
  on the state of a store, the decoding of its values, the taints of role
  bindings, and two relations to the abstract store.
-/

import Opni.Rbac.Objects

namespace Opni.Rbac

open Lib

/-! ## Calls on a store -/

/-- The errors of a store: `ErrNotFound`, `ErrAlreadyExists`, the error of
    JetStream for keys it does not take, and a value that does not decode. -/
inductive StoreErr where
  | notFound | alreadyExists | invalidKey | decode
deriving DecidableEq

section Run

variable {σ : Type} (create : RbacObject → σ → Except StoreErr σ)
  (delete : ObjectKind → String → σ → Except StoreErr σ)

/-- A call on a store.  One that fails has not changed it. -/
def applyCall (s : σ) : RbacCall → σ
  | .create o =>
    -- the management API validates before it calls the store
    if o.accepted then
      match create o s with
      | .ok s' => s'
      | .error _ => s
    else s
  | .delete kind id =>
    if validateID id then
      match delete kind id s with
      | .ok s' => s'
      | .error _ => s
    else s

def applyCalls (calls : List RbacCall) (s : σ) : σ := calls.foldl (applyCall create delete) s

end Run

/-! ## Simulation -/

/-- A store that simulates the abstract one on the ids it takes: its operations do
    to it what the calls do to the set of objects it holds.  Calls about other ids
    fail. -/
structure Simulates {σ : Type} (create : RbacObject → σ → Except StoreErr σ)
    (delete : ObjectKind → String → σ → Except StoreErr σ) (takes : String → Bool)
    (holds : σ → RbacData → Prop) : Prop where
  create_new : ∀ {s data o}, holds s data → takes o.id = true → o.accepted = true →
    ¬data.Has o.kind o.id → ∃ s', create o s = .ok s' ∧ holds s' { o' | o' ∈ data ∨ o' = o }
  create_old : ∀ {s data o}, holds s data → takes o.id = true → o.accepted = true →
    data.Has o.kind o.id → create o s = .error .alreadyExists
  create_refused : ∀ {s data o}, holds s data → takes o.id = false →
    ∃ err, create o s = .error err
  delete_old : ∀ {s data kind id}, holds s data → takes id = true → validateID id = true →
    data.Has kind id → ∃ s', delete kind id s = .ok s' ∧
      holds s' { o' | o' ∈ data ∧ ¬(o'.kind = kind ∧ o'.id = id) }
  delete_new : ∀ {s data kind id}, holds s data → takes id = true → validateID id = true →
    ¬data.Has kind id → delete kind id s = .error .notFound
  delete_refused : ∀ {s data kind id}, holds s data → takes id = false →
    ∃ err, delete kind id s = .error err

section Simulation

variable {σ : Type} {create : RbacObject → σ → Except StoreErr σ}
  {delete : ObjectKind → String → σ → Except StoreErr σ} {takes : String → Bool}
  {holds : σ → RbacData → Prop} (h : Simulates create delete takes holds) {s : σ} {data : RbacData}

include h

theorem Simulates.step_create (hs : holds s data) {o : RbacObject} (htakes : takes o.id = true) :
    holds (applyCall create delete s (.create o)) (data.step (.create o)) := by
  cases haccepted : o.accepted with
  | false =>
    have hsame : data.step (.create o) = data := by
      simp [RbacData.step, haccepted]
    rw [hsame, applyCall, haccepted]
    exact hs
  | true =>
    by_cases hhas : data.Has o.kind o.id
    · -- the call fails, and the set has no place for a second object of the id
      have hsame : data.step (.create o) = data := by
        simp [RbacData.step, hhas]
      rw [hsame, applyCall, haccepted, h.create_old hs htakes haccepted hhas]
      exact hs
    · obtain ⟨s', hcreate, hs'⟩ := h.create_new hs htakes haccepted hhas
      have hstep : data.step (.create o) = { o' | o' ∈ data ∨ o' = o } := by
        simp [RbacData.step, haccepted, hhas]
      rw [hstep, applyCall, haccepted, hcreate]
      exact hs'

theorem Simulates.step_delete (hs : holds s data) {kind : ObjectKind} {id : String}
    (htakes : takes id = true) :
    holds (applyCall create delete s (.delete kind id)) (data.step (.delete kind id)) := by
  cases hvalid : validateID id with
  | false =>
    have hsame : data.step (.delete kind id) = data := by
      simp [RbacData.step, hvalid]
    rw [hsame, applyCall, hvalid]
    exact hs
  | true =>
    have hstep : data.step (.delete kind id) =
        { o' | o' ∈ data ∧ ¬(o'.kind = kind ∧ o'.id = id) } := by
      simp [RbacData.step, hvalid]
    by_cases hhas : data.Has kind id
    · obtain ⟨s', hdelete, hs'⟩ := h.delete_old hs htakes hvalid hhas
      rw [hstep, applyCall, hvalid, hdelete]
      exact hs'
    · -- there is nothing to remove in the set either
      have hsame : data.step (.delete kind id) = data := by
        rw [hstep]
        ext o'
        exact ⟨And.left, fun ho' => ⟨ho', fun hk => hhas ⟨o', ho', hk⟩⟩⟩
      rw [hsame, applyCall, hvalid, h.delete_new hs htakes hvalid hhas]
      exact hs

theorem Simulates.step_refused (hs : holds s data) {call : RbacCall}
    (htakes : takes call.id = false) : applyCall create delete s call = s := by
  cases call with
  | create o =>
    have hrefused : takes o.id = false := htakes
    obtain ⟨err, herr⟩ := h.create_refused hs hrefused
    rw [applyCall, herr]
    split <;> rfl
  | delete kind id =>
    have hrefused : takes id = false := htakes
    obtain ⟨err, herr⟩ : ∃ err, delete kind id s = .error err := h.delete_refused hs hrefused
    rw [applyCall, herr]
    split <;> rfl

theorem Simulates.run (hs : holds s data) (calls : List RbacCall) :
    holds (applyCalls create delete calls s)
      (data.run (calls.filter fun call => takes call.id)) := by
  induction calls generalizing s data with
  | nil => exact hs
  | cons call calls ih =>
    cases htakes : takes call.id with
    | false =>
      rw [List.filter_cons_of_neg (by simp [htakes]), applyCalls, List.foldl_cons,
        h.step_refused hs htakes]
      exact ih hs
    | true =>
      rw [List.filter_cons_of_pos (by simp [htakes])]
      refine ih ?_
      cases call with
      | create o => exact h.step_create hs htakes
      | delete kind id => exact h.step_delete hs htakes

end Simulation

/-! ## Reading -/

/-- `protojson.Unmarshal` into a `Role`. -/
def decodeRole : RbacObject → Except StoreErr Role
  | .role r => .ok r
  | _ => .error .decode

/-- `protojson.Unmarshal` into a `RoleBinding`. -/
def decodeRoleBinding : RbacObject → Except StoreErr RoleBinding
  | .roleBinding rb => .ok rb
  | _ => .error .decode

/-- `protojson.Unmarshal` into a `Cluster`. -/
def decodeCluster : RbacObject → Except StoreErr Cluster
  | .cluster c => .ok c
  | _ => .error .decode

variable {o : RbacObject}

theorem decodeRole_eq_ok {r : Role} : decodeRole o = .ok r ↔ o = .role r := by
  cases o <;> simp [decodeRole]

theorem decodeCluster_eq_ok {c : Cluster} : decodeCluster o = .ok c ↔ o = .cluster c := by
  cases o <;> simp [decodeCluster]

variable (get : ObjectKind → String → Except StoreErr RbacObject)

/-- `GetRole`, over the lookup of a key. -/
def getRoleOf (id : String) :
    Except StoreErr Role :=
  match get .roles id with
  | .error err => .error err
  | .ok o => decodeRole o

/-- `ListClusters`, over the values of the clusters. -/
def listClustersOf (values : List RbacObject) (matchLabels : Option LabelSelector)
    (emptySelectorMatchesNone : Bool) : Except StoreErr (List Cluster) :=
  (values.mapM decodeCluster).map fun clusters =>
    clusters.filter (newSelectorPredicate
      { labelSelector := matchLabels, emptySelectorMatchesNone := emptySelectorMatchesNone })

/-- The second check of `ApplyRoleBindingTaints`. -/
def taintNoSubjects (rb : RoleBinding) : RoleBinding :=
  if rb.subjects.length = 0 then { rb with taints := rb.taints ++ ["no subjects"] } else rb

/-- `ApplyRoleBindingTaints`.  The subjects are checked whether or not the role was
    found. -/
def applyRoleBindingTaints (getRole : String → Except StoreErr Role) (rb : RoleBinding) :
    Except StoreErr RoleBinding :=
  match getRole rb.roleId with
  | .error .notFound =>
    .ok (taintNoSubjects { rb with taints := rb.taints ++ ["role not found"] })
  | .error err => .error err
  | .ok _ => .ok (taintNoSubjects rb)

/-- `GetRoleBinding`, over the lookup of a key. -/
def getRoleBindingOf (id : String) :
    Except StoreErr RoleBinding :=
  match get .roleBindings id with
  | .error err => .error err
  | .ok o =>
    match decodeRoleBinding o with
    | .error err => .error err
    | .ok rb => applyRoleBindingTaints (getRoleOf get) rb

/-- A store whose lookups and lists give the objects of a set.  How a missing
    object is reported is left open: the stores differ in it. -/
structure Reads (values : ObjectKind → List RbacObject) (data : RbacData) : Prop where
  get_eq_ok : ∀ {kind id o}, validateID id = true →
    (get kind id = .ok o ↔ o ∈ data ∧ o.kind = kind ∧ o.id = id)
  mem_values : ∀ {kind o}, o ∈ values kind ↔ o ∈ data ∧ o.kind = kind

section Reading

variable {get : ObjectKind → String → Except StoreErr RbacObject}
  {values : ObjectKind → List RbacObject} {data : RbacData} (h : Reads get values data)

include h

theorem Reads.getRoleOf_eq_ok {id : String} {role : Role} (hid : validateID id = true) :
    getRoleOf get id = .ok role ↔ .role role ∈ data ∧ role.id = id := by
  unfold getRoleOf
  constructor
  · intro hok
    cases hget : get .roles id with
    | error err =>
      rw [hget] at hok
      cases hok
    | ok o =>
      rw [hget, decodeRole_eq_ok] at hok
      obtain ⟨ho, -, hrid⟩ := (h.get_eq_ok hid).mp hget
      cases hok
      exact ⟨ho, hrid⟩
  · rintro ⟨hrole, hrid⟩
    have hget : get .roles id = .ok (.role role) := (h.get_eq_ok hid).mpr ⟨hrole, rfl, hrid⟩
    rw [hget]
    exact decodeRole_eq_ok.mpr rfl

theorem Reads.exists_listClustersOf (matchLabels : Option LabelSelector) :
    ∃ clusters, listClustersOf (values .clusters) matchLabels true = .ok clusters ∧
      ∀ c, c ∈ clusters ↔ .cluster c ∈ data ∧ Selects matchLabels c := by
  have hdecode : ∀ o ∈ values .clusters, ∃ c, decodeCluster o = .ok c := by
    intro o ho
    have hkind := (h.mem_values.mp ho).2
    cases o with
    | cluster c => exact ⟨c, rfl⟩
    | role _ | roleBinding _ => simp [RbacObject.kind] at hkind
  obtain ⟨clusters, hclusters, hmem⟩ := exists_mapM hdecode
  refine ⟨_, by rw [listClustersOf, hclusters]; rfl, ?_⟩
  intro c
  rw [List.mem_filter, newSelectorPredicate_iff, hmem]
  apply and_congr_left'
  constructor
  · rintro ⟨o, ho, hc⟩
    rw [decodeCluster_eq_ok.mp hc] at ho
    exact (h.mem_values.mp ho).1
  · intro hc
    exact ⟨.cluster c, h.mem_values.mpr ⟨hc, rfl⟩, rfl⟩

theorem Reads.exists_binding {o : RbacObject} (ho : o ∈ values .roleBindings) :
    ∃ rb, o = .roleBinding rb ∧ .roleBinding rb ∈ data := by
  obtain ⟨hdata, hkind⟩ := h.mem_values.mp ho
  cases o with
  | roleBinding rb => exact ⟨rb, rfl, hdata⟩
  | role _ | cluster _ => simp [RbacObject.kind] at hkind

end Reading

end Opni.Rbac
