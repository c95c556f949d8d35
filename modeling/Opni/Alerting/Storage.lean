/-
  Opni.Alerting.Storage

  `JetStreamAlertingStorage`: conditions and endpoints are kept in key-value
  buckets, under paths below a fixed prefix.  A bucket holds the decoded
  values: encoding them as JSON and back is the identity.
-/

import Opni.Alerting.Router

namespace Opni.Alerting

open Lib

/-- The prefix of the keys of a bucket, a cleaned path. -/
structure StorePrefix where
  path : String
  ne_empty : path ≠ ""
  clean : (cleanPath path).text = path
  comps_ne : (cleanPath path).comps ≠ []

/-- `JetStreamAlertingStorage`. -/
structure AlertingStorage (V : Type) where
  basePath : StorePrefix
  kv : GoMap Path V

namespace AlertingStorage

variable {V : Type}

def empty (basePath : StorePrefix) : AlertingStorage V := ⟨basePath, ∅⟩

variable (j : AlertingStorage V) (k : String)

def key : Path := joinPath [j.basePath.path, k]

def put (v : V) : AlertingStorage V :=
  { j with kv := j.kv.insert (j.key k) v }

def get : Except Failure V :=
  match j.kv.lookup (j.key k) with
  | some v => .ok v
  | none => .error (.status ⟨.unknown, "nats: key not found"⟩)

variable {j : AlertingStorage V} {k k' : String} {s : Scheduler Path} {vs vs' : List V} {v : V}

theorem get_eq_ok_iff : j.get k = .ok v ↔ j.kv.lookup (j.key k) = some v := by
  rw [get]
  cases j.kv.lookup (j.key k) <;> simp

/-- `Delete`; a missing key is no error. -/
def delete (j : AlertingStorage V) (k : String) : AlertingStorage V :=
  { j with kv := j.kv.erase (j.key k) }

/-- `ListKeys`, with the keys of the bucket in some order. -/
def listKeys (s : Scheduler Path) (j : AlertingStorage V) : List String :=
  ((s.order j.kv.keys).filter fun p => j.basePath.path.toList.isPrefixOf p.text.toList).map
    Path.base

def list (s : Scheduler Path) (j : AlertingStorage V) : Except Failure (List V) :=
  (j.listKeys s).mapM j.get

theorem exists_lookup_of_mem_list
    (h : j.list s = .ok vs) (hv : v ∈ vs) : ∃ p, j.kv.lookup p = some v := by
  obtain ⟨k, -, hget⟩ := exists_left_of_forall₂ (mapM_eq_ok_iff.mp h) hv
  exact ⟨_, get_eq_ok_iff.mp hget⟩

theorem list_eq_filterMap
    (h : j.list s = .ok vs) : vs = (j.listKeys s).filterMap fun k => j.kv.lookup (j.key k) := by
  have hrel := mapM_eq_ok_iff.mp h
  clear h
  generalize j.listKeys s = ks at hrel
  induction hrel with
  | nil => rfl
  | cons hget _ ih => simp [get_eq_ok_iff.mp hget, ← ih]

theorem list_perm {s' : Scheduler Path}
    (h : j.list s = .ok vs) (h' : j.list s' = .ok vs') : vs.Perm vs' := by
  rw [list_eq_filterMap h, list_eq_filterMap h']
  refine List.Perm.filterMap _ (List.Perm.map _ (List.Perm.filter _ ?_))
  exact (s.perm _).trans (s'.perm _).symm

theorem exists_list_of_perm
    (h : j.list s = .ok vs) (hperm : vs'.Perm vs) : ∃ s', j.list s' = .ok vs' := by
  obtain ⟨ks, hget, hks⟩ := List.perm_comp_forall₂ hperm (mapM_eq_ok_iff.mp h).flip
  obtain ⟨ps, hps, rfl⟩ := exists_perm_of_perm_map hks
  have hpre : ∀ p ∈ ps, j.basePath.path.toList.isPrefixOf p.text.toList = true :=
    fun p hp => (List.mem_filter.mp (hps.mem_iff.mp hp)).2
  -- the keys of other prefixes go to the end
  have hall : (ps ++ (s.order j.kv.keys).filter fun p =>
      !j.basePath.path.toList.isPrefixOf p.text.toList).Perm j.kv.keys :=
    ((hps.append_right _).trans (List.filter_append_perm _ _)).trans (s.perm _)
  obtain ⟨s', hs'⟩ := exists_scheduler hall
  refine ⟨s', ?_⟩
  have hkeys : j.listKeys s' = ps.map Path.base := by
    rw [listKeys, hs', List.filter_append, List.filter_eq_self.mpr hpre, List.filter_filter]
    simp
  rw [list, hkeys, mapM_eq_ok_iff]
  exact hget.flip

/-! ## Plain keys -/

/-- All keys of the bucket are plain names below the prefix. -/
def PlainKeys (j : AlertingStorage V) : Prop := ∀ p ∈ j.kv, ∃ k, PlainName k ∧ p = j.key k

section

variable (j : AlertingStorage V)

theorem key_plain (h : PlainName k) :
    j.key k = ⟨(cleanPath j.basePath.path).rooted, (cleanPath j.basePath.path).comps ++ [k]⟩ :=
  joinPath_name h

theorem base_key (h : PlainName k) : (j.key k).base = k := by
  simp [j.key_plain h, Path.base]

theorem key_inj (h : PlainName k) (h' : PlainName k') : j.key k = j.key k' ↔ k = k' := by
  constructor
  · intro heq
    rw [← j.base_key h, heq, j.base_key h']
  · exact congrArg j.key

end

section

variable (j : AlertingStorage V)

/-- The path that has the key as it is below the prefix. -/
def rawKey (k : String) : Path :=
  ⟨(cleanPath j.basePath.path).rooted, (cleanPath j.basePath.path).comps ++ split '/' k⟩

/-- A key that joining it to the prefix does not change, such as a plain name. -/
def CleanKey (k : String) : Prop := j.key k = j.rawKey k

instance (k : String) : Decidable (j.CleanKey k) :=
  inferInstanceAs (Decidable (_ = _))

theorem cleanKey_of_plain (h : PlainName k) : j.CleanKey k := by
  rw [CleanKey, j.key_plain h, rawKey, split_plain h]

def CleanKeys : Prop := ∀ p ∈ j.kv, ∃ k, j.CleanKey k ∧ p = j.key k

end

theorem CleanKey.eq_of_key_eq (h : j.CleanKey k)
    (h' : j.CleanKey k') (heq : j.key k = j.key k') : k = k' := by
  rw [h, h', rawKey, rawKey] at heq
  injection heq with _ hcomps
  exact split_inj (List.append_cancel_left hcomps)

theorem CleanKeys.put (h : j.CleanKeys) (hk : j.CleanKey k) (v : V) : (j.put k v).CleanKeys := by
  intro p hp
  rcases (AList.mem_insert _).mp hp with rfl | hold
  · exact ⟨k, hk, rfl⟩
  · exact h p hold

theorem CleanKeys.delete (h : j.CleanKeys) (k : String) : (j.delete k).CleanKeys := by
  intro p hp
  exact h p (AList.mem_erase.mp hp).2

theorem isPrefixOf_key (j : AlertingStorage V) (h : PlainName k) :
    j.basePath.path.toList.isPrefixOf (j.key k).text.toList = true := by
  have htext : (j.key k).text = j.basePath.path ++ "/" ++ k := by
    rw [j.key_plain h, Path.text_append j.basePath.comps_ne, j.basePath.clean]
  rw [htext, List.isPrefixOf_iff_prefix, String.append_assoc, String.toList_append]
  exact List.prefix_append _ _

theorem mem_list_of_plain
    (h : j.list s = .ok vs) (hk : PlainName k) (hv : j.kv.lookup (j.key k) = some v) : v ∈ vs := by
  have hmem : k ∈ j.listKeys s := by
    refine List.mem_map.mpr ⟨j.key k, List.mem_filter.mpr ⟨?_, j.isPrefixOf_key hk⟩, j.base_key hk⟩
    rw [(s.perm _).mem_iff]
    exact AList.mem_keys.mp (GoMap.mem_iff.mpr ⟨_, hv⟩)
  obtain ⟨v', hv', hget⟩ := exists_right_of_forall₂ (mapM_eq_ok_iff.mp h) hmem
  rw [get_eq_ok_iff, hv] at hget
  exact Option.some.inj hget ▸ hv'

theorem list_eq (h : j.PlainKeys) (s : Scheduler Path) :
    ∃ vs, j.list s = .ok vs ∧ vs.Perm (j.kv.entries.map Sigma.snd) := by
  have hmem : ∀ p ∈ s.order j.kv.keys, p ∈ j.kv :=
    fun p hp => AList.mem_keys.mpr ((s.perm _).mem_iff.mp hp)
  have hkeys : j.listKeys s = (s.order j.kv.keys).map Path.base := by
    rw [listKeys, List.filter_eq_self.mpr]
    intro p hp
    obtain ⟨k, hk, rfl⟩ := h p (hmem p hp)
    exact j.isPrefixOf_key hk
  refine ⟨(s.order j.kv.keys).filterMap j.kv.lookup, ?_, ?_⟩
  · rw [list, hkeys, mapM_eq_ok_iff, List.forall₂_map_left_iff]
    generalize s.order j.kv.keys = ps at hmem
    induction ps with
    | nil => exact .nil
    | cons p ps ih =>
      obtain ⟨k, hk, rfl⟩ := h p (hmem p (by simp))
      obtain ⟨v, hv⟩ : ∃ v, j.kv.lookup (j.key k) = some v :=
        GoMap.mem_iff.mp (hmem (j.key k) (by simp))
      rw [List.filterMap_cons_some (f := fun p => j.kv.lookup p) hv]
      refine .cons ?_ (ih fun p hp => hmem p (by simp [hp]))
      rw [j.base_key hk, get, hv]
  · rw [← GoMap.filterMap_lookup_keys]
    exact (s.perm _).filterMap _

/-- Values that are filed under their own ids are listed once each, with
    distinct ids. -/
theorem list_by_id {idOf : V → String}
    (h : ∀ p v, j.kv.lookup p = some v → PlainName (idOf v) ∧ p = j.key (idOf v))
    (s : Scheduler Path) :
    ∃ vs, j.list s = .ok vs ∧ (∀ v, v ∈ vs ↔ ∃ p, j.kv.lookup p = some v) ∧
      (vs.map idOf).Nodup := by
  have hplain : j.PlainKeys := by
    intro p hp
    obtain ⟨v, hv⟩ := GoMap.mem_iff.mp hp
    exact ⟨idOf v, h p v hv⟩
  obtain ⟨vs, hlist, hperm⟩ := list_eq hplain s
  refine ⟨vs, hlist, ?_, ?_⟩
  · intro v
    rw [hperm.mem_iff, List.mem_map]
    constructor
    · rintro ⟨⟨p, v'⟩, hmem, rfl⟩
      exact ⟨p, GoMap.mem_entries.mp hmem⟩
    · rintro ⟨p, hp⟩
      exact ⟨⟨p, v⟩, GoMap.mem_entries.mpr hp, rfl⟩
  · -- the paths are distinct, and each is determined by the id
    have hkeys : j.kv.entries.map Sigma.fst = (j.kv.entries.map Sigma.snd).map (j.key ∘ idOf) := by
      rw [List.map_map]
      apply List.map_congr_left
      rintro ⟨p, v⟩ hmem
      exact (h p v (GoMap.mem_entries.mp hmem)).2
    have hnodup : ((j.kv.entries.map Sigma.snd).map (j.key ∘ idOf)).Nodup :=
      hkeys ▸ j.kv.keys_nodup
    rw [← List.map_map] at hnodup
    exact (hperm.map idOf).nodup_iff.mpr hnodup.of_map

end AlertingStorage

end Opni.Alerting
