/-
  Opni.Rbac.JetStreamStore

  The JetStream store of roles, role bindings and clusters
  (`pkg/storage/jetstream`).
-/

import Opni.Rbac.Store

namespace Opni.Rbac

open Lib

/-- `JetStreamStore`: the keys the client library takes, and the buckets. -/
structure JetStreamStore where
  keyValid : String → Bool
  kv : ObjectKind → GoMap String RbacObject

namespace JetStreamStore

variable (keyValid : String → Bool)

def new : JetStreamStore := ⟨keyValid, fun _ => ∅⟩

variable (s : JetStreamStore) (kind : ObjectKind) (bucket : GoMap String RbacObject)

def setBucket :
    JetStreamStore :=
  { s with kv := fun kind' => if kind' = kind then bucket else s.kv kind' }

/-- `CreateRole`, `CreateRoleBinding` and `CreateCluster`. -/
def create (o : RbacObject) (s : JetStreamStore) : Except StoreErr JetStreamStore :=
  if !s.keyValid o.id then .error .invalidKey
  else if o.id ∈ s.kv o.kind then .error .alreadyExists
  else .ok (s.setBucket o.kind ((s.kv o.kind).insert o.id o))

variable (id : String)

/-- `DeleteRole`, `DeleteRoleBinding` and `DeleteCluster`: the key is looked up
    first, because the library does not say whether there was one to delete. -/
def delete (s : JetStreamStore) :
    Except StoreErr JetStreamStore :=
  if !s.keyValid id then .error .invalidKey
  else if id ∈ s.kv kind then .ok (s.setBucket kind ((s.kv kind).erase id))
  else .error .notFound

/-- The value under a key, as `GetRole` and `GetRoleBinding` look it up: an empty
    id is not found, although the library calls it invalid. -/
def get : Except StoreErr RbacObject :=
  if !s.keyValid id then
    if id = "" then .error .notFound else .error .invalidKey
  else
    match (s.kv kind).lookup id with
    | none => .error .notFound
    | some o => .ok o

variable (order : Scheduler String)

/-- The values that `WatchAll` sends before the marker that ends the list. -/
def values (kind : ObjectKind) :
    List RbacObject :=
  (order.order (s.kv kind).keys).filterMap (s.kv kind).lookup

def getRole : Except StoreErr Role := getRoleOf s.get id

def getRoleBinding : Except StoreErr RoleBinding :=
  getRoleBindingOf s.get id

/-- `ListRoleBindings`.  Unlike the list of the etcd store it applies no taints. -/
def listRoleBindings :
    Except StoreErr (List RoleBinding) :=
  (s.values order .roleBindings).mapM decodeRoleBinding

def listClusters (matchLabels : Option LabelSelector) (emptySelectorMatchesNone : Bool) :
    Except StoreErr (List Cluster) :=
  listClustersOf (s.values order .clusters) matchLabels emptySelectorMatchesNone

@[simp] theorem setBucket_kv_self : (s.setBucket kind bucket).kv kind = bucket :=
  if_pos rfl

/-! ## What the store holds -/

/-- The store holds a set of objects whose ids are valid keys: each kind is in its
    bucket, under the ids. -/
structure Holds (s : JetStreamStore) (data : RbacData) : Prop where
  accepted : data.Accepted
  keys : s.keyValid = keyValid
  taken : ∀ o ∈ data, keyValid o.id = true
  indexes : ∀ kind, (s.kv kind).Indexes RbacObject.id { o | o ∈ data ∧ o.kind = kind }

theorem holds_new : (new keyValid).Holds keyValid RbacData.empty where
  accepted := RbacData.accepted_empty
  keys := rfl
  taken := fun o ho => absurd ho (by simp [RbacData.empty])
  indexes kind := by
    have hnone : { o | o ∈ RbacData.empty ∧ o.kind = kind } = ∅ := by simp [RbacData.empty]
    rw [hnone]
    exact GoMap.indexes_empty _

section Holding

variable {keyValid : String → Bool} {s : JetStreamStore} {data : RbacData}
  (h : s.Holds keyValid data)

include h

theorem Holds.id_mem {kind : ObjectKind} {id : String} : id ∈ s.kv kind ↔ data.Has kind id := by
  rw [(h.indexes kind).mem_iff]
  exact exists_congr fun o => and_assoc

theorem Holds.indexes_setBucket {kind : ObjectKind} {bucket : GoMap String RbacObject}
    {data' : RbacData} (hbucket : bucket.Indexes RbacObject.id { o | o ∈ data' ∧ o.kind = kind })
    (hother : ∀ o, o.kind ≠ kind → (o ∈ data' ↔ o ∈ data)) (kind' : ObjectKind) :
    GoMap.Indexes ((s.setBucket kind bucket).kv kind') RbacObject.id
      { o | o ∈ data' ∧ o.kind = kind' } := by
  by_cases hkind : kind' = kind
  · subst hkind
    rw [setBucket_kv_self]
    exact hbucket
  · have hset : { o | o ∈ data' ∧ o.kind = kind' } = { o | o ∈ data ∧ o.kind = kind' } := by
      ext o
      apply and_congr_left
      rintro rfl
      exact hother o hkind
    simp only [setBucket, if_neg hkind, hset]
    exact h.indexes kind'

theorem Holds.create_new {o : RbacObject} (htakes : keyValid o.id = true)
    (haccepted : o.accepted = true) (hnew : ¬data.Has o.kind o.id) :
    ∃ s', create o s = .ok s' ∧ s'.Holds keyValid { o' | o' ∈ data ∨ o' = o } := by
  have habsent : o.id ∉ s.kv o.kind := fun hmem => hnew (h.id_mem.mp hmem)
  have hset : { o' | o' ∈ ({ o' | o' ∈ data ∨ o' = o } : RbacData) ∧ o'.kind = o.kind } =
      { o' | o' ∈ { o' | o' ∈ data ∧ o'.kind = o.kind } ∨ o' = o } := by
    ext o'
    constructor
    · rintro ⟨ho' | rfl, hkind⟩
      · exact .inl ⟨ho', hkind⟩
      · exact .inr rfl
    · rintro (⟨ho', hkind⟩ | rfl)
      · exact ⟨.inl ho', hkind⟩
      · exact ⟨.inr rfl, rfl⟩
  refine ⟨s.setBucket o.kind ((s.kv o.kind).insert o.id o),
    by rw [create, h.keys, htakes, if_neg (by simp), if_neg habsent], ?_, h.keys, ?_,
    h.indexes_setBucket ?_ ?_⟩
  · rintro o' (ho' | rfl)
    · exact h.accepted o' ho'
    · exact haccepted
  · rintro o' (ho' | rfl)
    · exact h.taken o' ho'
    · exact htakes
  · rw [hset]
    exact (h.indexes o.kind).insert habsent
  · intro o' hkind
    constructor
    · rintro (ho' | rfl)
      · exact ho'
      · exact absurd rfl hkind
    · exact .inl

theorem Holds.delete_old {kind : ObjectKind} {id : String} (htakes : keyValid id = true)
    (hold : data.Has kind id) :
    ∃ s', delete kind id s = .ok s' ∧
      s'.Holds keyValid { o' | o' ∈ data ∧ ¬(o'.kind = kind ∧ o'.id = id) } := by
  have hpresent : id ∈ s.kv kind := h.id_mem.mpr hold
  have hset : { o' | o' ∈ ({ o' | o' ∈ data ∧ ¬(o'.kind = kind ∧ o'.id = id) } : RbacData) ∧
        o'.kind = kind } =
      { o' | o' ∈ { o' | o' ∈ data ∧ o'.kind = kind } ∧ o'.id ≠ id } := by
    ext o'
    constructor
    · rintro ⟨⟨ho', hne⟩, hkind⟩
      exact ⟨⟨ho', hkind⟩, fun hid => hne ⟨hkind, hid⟩⟩
    · rintro ⟨⟨ho', hkind⟩, hne⟩
      exact ⟨⟨ho', fun hsame => hne hsame.2⟩, hkind⟩
  refine ⟨s.setBucket kind ((s.kv kind).erase id),
    by rw [delete, h.keys, htakes, if_neg (by simp), if_pos hpresent],
    fun o' ho' => h.accepted o' ho'.1, h.keys, fun o' ho' => h.taken o' ho'.1,
    h.indexes_setBucket ?_ ?_⟩
  · rw [hset]
    exact (h.indexes kind).erase id
  · intro o' hkind
    exact ⟨And.left, fun ho' => ⟨ho', fun hsame => hkind hsame.1⟩⟩

end Holding

theorem simulates (keyValid : String → Bool) :
    Simulates create delete keyValid (Holds keyValid) where
  create_new h htakes haccepted hnew := h.create_new htakes haccepted hnew
  create_old h htakes _ hold := by
    rw [create, h.keys, htakes, if_neg (by simp), if_pos (h.id_mem.mpr hold)]
  create_refused h hrefused := ⟨.invalidKey, by rw [create, h.keys, hrefused, if_pos (by simp)]⟩
  delete_old h htakes _ hold := h.delete_old htakes hold
  delete_new h htakes _ hnew := by
    rw [delete, h.keys, htakes, if_neg (by simp), if_neg fun hmem => hnew (h.id_mem.mp hmem)]
  delete_refused h hrefused := ⟨.invalidKey, by rw [delete, h.keys, hrefused, if_pos (by simp)]⟩

/-! ## What is read -/

theorem Holds.reads {keyValid : String → Bool} {s : JetStreamStore} {data : RbacData}
    (h : s.Holds keyValid data) (order : Scheduler String) : Reads s.get (s.values order) data where
  get_eq_ok {kind id o} _ := by
    have hlookup := h.indexes kind id o
    rw [get, h.keys]
    cases hvalid : keyValid id with
    | false =>
      -- no object of the set has a key that is refused
      have hnone : ¬(o ∈ data ∧ o.kind = kind ∧ o.id = id) := by
        rintro ⟨ho, -, rfl⟩
        exact absurd (h.taken o ho) (by simp [hvalid])
      rw [if_pos (by simp)]
      split <;> simp [hnone]
    | true =>
      -- the bucket has the objects of the kind under their ids
      rw [if_neg (by simp), ← and_assoc]
      refine Iff.trans ?_ hlookup
      cases AList.lookup id (s.kv kind) <;> simp
  mem_values {kind o} := by
    rw [values, List.mem_filterMap]
    constructor
    · rintro ⟨id, -, hlookup⟩
      exact ((h.indexes kind id o).mp hlookup).1
    · intro ho
      refine ⟨o.id, (order.perm _).mem_iff.mpr ?_, (h.indexes kind o.id o).mpr ⟨ho, rfl⟩⟩
      exact h.id_mem.mpr ⟨o, ho.1, ho.2, rfl⟩

end JetStreamStore

end Opni.Rbac
