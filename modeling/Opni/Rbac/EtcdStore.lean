/-
  Opni.Rbac.EtcdStore

  The etcd store of roles, role bindings and clusters (`pkg/storage/etcd`).
-/

import Opni.Rbac.Store

namespace Opni.Rbac

open Lib

structure EtcdStore where
  keyPrefix : String
  kv : GoMap Path RbacObject

/-- `roleKey`, `roleBindingKey` and `clusterKey`. -/
def ObjectKind.dir : ObjectKind → String
  | .roles => "roles"
  | .roleBindings => "rolebindings"
  | .clusters => "clusters"

namespace EtcdStore

variable (keyPrefix : String)

def new : EtcdStore := ⟨keyPrefix, ∅⟩

variable (e : EtcdStore)

def key (kind : ObjectKind) (id : String) : Path :=
  joinPath [e.keyPrefix, kind.dir, id]

/-- `CreateRole`, `CreateRoleBinding` and `CreateCluster`: a transaction that puts
    the value if the key has no version. -/
def create (o : RbacObject) (e : EtcdStore) : Except StoreErr EtcdStore :=
  if e.key o.kind o.id ∈ e.kv then .error .alreadyExists
  else .ok { e with kv := e.kv.insert (e.key o.kind o.id) o }

variable (kind : ObjectKind) (id : String)

/-- `DeleteRole`, `DeleteRoleBinding` and `DeleteCluster`. -/
def delete (e : EtcdStore) : Except StoreErr EtcdStore :=
  if e.key kind id ∈ e.kv then .ok { e with kv := e.kv.erase (e.key kind id) }
  else .error .notFound

def get (kind : ObjectKind) (id : String) : Except StoreErr RbacObject :=
  match e.kv.lookup (e.key kind id) with
  | none => .error .notFound
  | some o => .ok o

variable (order : Scheduler Path)

/-- The values under the keys with the prefix of a directory. -/
def values (kind : ObjectKind) : List RbacObject :=
  ((order.order e.kv.keys).filter fun p =>
    hasPrefix p.text (joinPath [e.keyPrefix, kind.dir]).text).filterMap e.kv.lookup

def getRole : Except StoreErr Role := getRoleOf e.get id

def getRoleBinding : Except StoreErr RoleBinding :=
  getRoleBindingOf e.get id

def listRoleBindings :
    Except StoreErr (List RoleBinding) :=
  (e.values order .roleBindings).mapM fun o =>
    match decodeRoleBinding o with
    | .error err => .error err
    | .ok rb => applyRoleBindingTaints e.getRole rb

def listClusters (matchLabels : Option LabelSelector)
    (emptySelectorMatchesNone : Bool) : Except StoreErr (List Cluster) :=
  listClustersOf (e.values order .clusters) matchLabels emptySelectorMatchesNone

/-! ## Keys -/

theorem plainName_dir : PlainName kind.dir := by
  cases kind <;> decide

variable {kind kind' : ObjectKind} {e : EtcdStore} {id : String}

theorem dir_prefix_free
    (h : kind.dir.toList.isPrefixOf kind'.dir.toList = true) : kind = kind' := by
  cases kind <;> cases kind' <;> first | rfl | cases h

theorem key_eq (hid : validateID id = true) :
    e.key kind id = ⟨(cleanPath e.keyPrefix).rooted,
      (cleanPath e.keyPrefix).comps ++ [kind.dir] ++ [id]⟩ := by
  rw [key, joinPath_plain (plainName_dir kind) (plainName_of_validateID hid), List.append_assoc]
  rfl

theorem key_inj {id' : String} (hid : validateID id = true) (hid' : validateID id' = true)
    (h : e.key kind id = e.key kind' id') : kind = kind' ∧ id = id' := by
  have hcomps := congrArg Path.comps h
  rw [key_eq hid, key_eq hid'] at hcomps
  simp only [List.append_assoc, List.append_cancel_left_eq, List.cons_append, List.nil_append,
    List.cons.injEq, and_true] at hcomps
  obtain ⟨hdir, hids⟩ := hcomps
  have hpre : kind.dir.toList <+: kind'.dir.toList := hdir ▸ List.prefix_rfl
  exact ⟨dir_prefix_free (List.isPrefixOf_iff_prefix.mpr hpre), hids⟩

theorem hasPrefix_key (hid : validateID id = true) :
    hasPrefix (e.key kind id).text (joinPath [e.keyPrefix, kind'.dir]).text = true ↔
      kind = kind' := by
  obtain ⟨before, hbefore⟩ :=
    Path.exists_text_append (cleanPath e.keyPrefix).rooted (cleanPath e.keyPrefix).comps
  -- both texts start alike, and then come the names of the directories
  have hkey : (e.key kind id).text = before ++ (kind.dir ++ ("/" ++ id)) := by
    rw [key_eq hid, Path.text_append (by simp), hbefore, String.append_assoc, String.append_assoc]
  have hdir : (joinPath [e.keyPrefix, kind'.dir]).text = before ++ kind'.dir := by
    rw [joinPath_name (plainName_dir kind'), hbefore]
  rw [hkey, hdir, hasPrefix, List.isPrefixOf_iff_prefix, String.toList_append,
    String.toList_append, List.prefix_append_right_inj, String.toList_append]
  constructor
  · -- two prefixes of one text are comparable, and directory names never are
    intro hpre
    rcases List.prefix_or_prefix_of_prefix hpre (List.prefix_append _ _) with h | h
    · exact (dir_prefix_free (List.isPrefixOf_iff_prefix.mpr h)).symm
    · exact dir_prefix_free (List.isPrefixOf_iff_prefix.mpr h)
  · rintro rfl
    exact List.prefix_append _ _

/-! ## What the store holds -/

/-- The store holds a set of objects: they are under their keys, and nothing else
    is there. -/
structure Holds (e : EtcdStore) (data : RbacData) : Prop where
  accepted : data.Accepted
  indexes : e.kv.Indexes (fun o => e.key o.kind o.id) data

theorem holds_new : (new keyPrefix).Holds RbacData.empty where
  accepted := RbacData.accepted_empty
  indexes := GoMap.indexes_empty _

section Holding

variable {e : EtcdStore} {data : RbacData} (h : e.Holds data)

include h

variable {kind : ObjectKind} {id : String} {o : RbacObject}

theorem Holds.key_iff (ho : o ∈ data) (hid : validateID id = true) :
    e.key o.kind o.id = e.key kind id ↔ o.kind = kind ∧ o.id = id := by
  constructor
  · exact key_inj (RbacObject.validateID_of_accepted (h.accepted o ho)) hid
  · rintro ⟨rfl, rfl⟩
    rfl

theorem Holds.lookup_key (hid : validateID id = true) :
    e.kv.lookup (e.key kind id) = some o ↔ o ∈ data ∧ o.kind = kind ∧ o.id = id := by
  rw [h.indexes]
  exact and_congr_right fun ho => h.key_iff ho hid

theorem Holds.key_mem (hid : validateID id = true) : e.key kind id ∈ e.kv ↔ data.Has kind id := by
  rw [h.indexes.mem_iff]
  exact exists_congr fun o => and_congr_right fun ho => h.key_iff ho hid

theorem Holds.create_new (haccepted : o.accepted = true) (hnew : ¬data.Has o.kind o.id) :
    ∃ e', create o e = .ok e' ∧ e'.Holds { o' | o' ∈ data ∨ o' = o } := by
  have hid : validateID o.id = true := RbacObject.validateID_of_accepted haccepted
  have habsent : e.key o.kind o.id ∉ e.kv := fun hmem => hnew ((h.key_mem hid).mp hmem)
  refine ⟨_, by rw [create, if_neg habsent], ?_, h.indexes.insert habsent⟩
  rintro o' (ho' | rfl)
  · exact h.accepted o' ho'
  · exact haccepted

theorem Holds.delete_old (hid : validateID id = true) (hold : data.Has kind id) :
    ∃ e', delete kind id e = .ok e' ∧
      e'.Holds { o' | o' ∈ data ∧ ¬(o'.kind = kind ∧ o'.id = id) } := by
  have hpresent : e.key kind id ∈ e.kv := (h.key_mem hid).mpr hold
  have hset : { o' | o' ∈ data ∧ ¬(o'.kind = kind ∧ o'.id = id) } =
      { o' | o' ∈ data ∧ e.key o'.kind o'.id ≠ e.key kind id } := by
    ext o'
    exact and_congr_right fun ho' => not_congr (h.key_iff ho' hid).symm
  refine ⟨_, by rw [delete, if_pos hpresent], fun o' ho' => h.accepted o' ho'.1, ?_⟩
  rw [hset]
  exact h.indexes.erase _

end Holding

theorem simulates : Simulates create delete (fun _ => true) Holds where
  create_new h _ haccepted hnew := h.create_new haccepted hnew
  create_old h _ haccepted hold := by
    rw [create, if_pos ((h.key_mem (RbacObject.validateID_of_accepted haccepted)).mpr hold)]
  create_refused _ hrefused := absurd hrefused (by simp)
  delete_old h _ hid hold := h.delete_old hid hold
  delete_new h _ hid hnew := by
    rw [delete, if_neg fun hmem => hnew ((h.key_mem hid).mp hmem)]
  delete_refused _ hrefused := absurd hrefused (by simp)

/-! ## What is read -/

section Reading

variable {e : EtcdStore} {data : RbacData} (h : e.Holds data)

include h

theorem Holds.reads (order : Scheduler Path) : Reads e.get (e.values order) data where
  get_eq_ok {kind id o} hid := by
    rw [← h.lookup_key hid, get]
    cases e.kv.lookup (e.key kind id) <;> simp
  mem_values {kind o} := by
    rw [values, List.mem_filterMap]
    constructor
    · rintro ⟨p, hp, hlookup⟩
      obtain ⟨ho, rfl⟩ := (h.indexes p o).mp hlookup
      have hid := RbacObject.validateID_of_accepted (h.accepted o ho)
      exact ⟨ho, (hasPrefix_key hid).mp (List.mem_filter.mp hp).2⟩
    · rintro ⟨ho, rfl⟩
      have hid := RbacObject.validateID_of_accepted (h.accepted o ho)
      have hlookup : e.kv.lookup (e.key o.kind o.id) = some o := (h.indexes _ o).mpr ⟨ho, rfl⟩
      have hkey : e.key o.kind o.id ∈ e.kv.keys :=
        (h.key_mem hid).mpr ⟨o, ho, rfl, rfl⟩
      refine ⟨_, List.mem_filter.mpr ⟨?_, (hasPrefix_key hid).mpr rfl⟩, hlookup⟩
      exact (order.perm _).mem_iff.mpr hkey

theorem Holds.getRole_cases {id : String} (hid : validateID id = true) :
    (∃ role, e.getRole id = .ok role) ∨ e.getRole id = .error .notFound := by
  rw [getRole, getRoleOf, get]
  cases hlookup : e.kv.lookup (e.key .roles id) with
  | none => exact .inr rfl
  | some o =>
    -- what is under the key of a role is a role, so it decodes
    obtain ⟨-, hkind, -⟩ := (h.lookup_key hid).mp hlookup
    cases o with
    | role role => exact .inl ⟨role, rfl⟩
    | roleBinding _ | cluster _ => simp [RbacObject.kind] at hkind

end Reading

end EtcdStore

end Opni.Rbac
