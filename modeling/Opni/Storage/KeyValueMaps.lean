/-
  Opni.Storage.KeyValueMaps

  When the key-value stores behave like maps.  The keys of all stores are in
  one key space: a store is a map while no other store has a key where its own
  are (`LocatedMap`).
-/

import Mathlib.Data.Finset.Max
import Opni.Lib.LocatedMap
import Opni.Storage.KeyValue

namespace Opni.Storage

open Lib Function

/-! ## Maps -/

section Maps

variable {σ T : Type}

/-- What `Get` returns for what is stored. -/
def found : Option T → Except KeyValueErr T
  | none => .error .notFound
  | some value => .ok value

def KeyValueWrite.value : KeyValueWrite T → Option T
  | .put _ value => some value
  | .delete _ => none

def KeyValueWrite.under (start : String) : KeyValueWrite T → KeyValueWrite T
  | .put key value => .put (start ++ key) value
  | .delete key => .delete (start ++ key)

variable (accepts : String → Bool)

/-- The maps after a write to one of them; a key that is refused is not written. -/
def mapWrite (m : StoreName × String → Option T)
    (op : StoreName × KeyValueWrite T) : StoreName × String → Option T :=
  if accepts (op.1.start ++ op.2.key) then update m (op.1, op.2.key) op.2.value else m

def mapsAfter (ops : List (StoreName × KeyValueWrite T)) :
    StoreName × String → Option T :=
  ops.foldl (mapWrite accepts) fun _ => none

/-- The keys are those of the map that start with `p`, each once, and can be read. -/
structure ListsKeys (s : KeyValueStore σ T) (st : σ) (m : String → Option T) (p : String)
    (keys : List String) : Prop where
  nodup : keys.Nodup
  mem_iff : ∀ key, key ∈ keys ↔ m key ≠ none ∧ hasPrefix key p = true
  readable : ∀ key ∈ keys, ∃ value, m key = some value ∧ s.get key st = .ok value

theorem eq_empty_of_prefixed {start : String} (hstart : start ≠ "") {keys : List String}
    (h : ∀ x ∈ keys, start ++ x ∈ keys) : keys = [] := by
  by_contra hne
  obtain ⟨x, hx, hmax⟩ := keys.toFinset.exists_max_image String.length
    ((List.toFinset_nonempty_iff keys).mpr hne)
  have hle := hmax (start ++ x) (List.mem_toFinset.mpr (h x (List.mem_toFinset.mp hx)))
  have hlen : 0 < start.length := by
    exact List.length_pos_iff.mpr fun hnil => hstart (String.toList_eq_nil_iff.mp hnil)
  rw [String.length_append] at hle
  omega

end Maps

/-! ## Stores that write to locations -/

section Lawful

variable {σ T L : Type} [DecidableEq L] {base : String → KeyValueStore σ T}
  {accepts : String → Bool} {loc raw : String → String → L} {look : σ → L → Option T}
  {exact : String → String → σ → Prop} (start : String) (op : KeyValueWrite T)

/-- The stores of the namespaces of a backend: `loc` is where a key is, and `raw` where it is
    if the backend leaves it alone. -/
structure LawfulStores (base : String → KeyValueStore σ T) (accepts : String → Bool)
    (loc raw : String → String → L) (look : σ → L → Option T)
    (exact : String → String → σ → Prop) : Prop where
  write_refused : ∀ ns op st, accepts op.key = false → (base ns).write op st = st
  look_write : ∀ ns op st, accepts op.key = true →
    look ((base ns).write op st) = update (look st) (loc ns op.key) op.value
  get_eq : ∀ ns key st, accepts key = true →
    (base ns).get key st = found (look st (loc ns key))
  raw_injective : ∀ ns, Function.Injective (raw ns)
  list_eq : ∀ ns p st, exact ns p st → ∃ keys, (base ns).listKeys p st = .ok keys ∧
    keys.Nodup ∧ ∀ key, key ∈ keys ↔ look st (raw ns key) ≠ none ∧ hasPrefix key p = true

def withPrefixes (base : String → KeyValueStore σ T) (i : StoreName) : KeyValueStore σ T :=
  newKeyValueStoreWithPrefix (base i.ns) i.start

/-- No key of one store is where a key of the other is. -/
def Apart (raw : String → String → L) (i j : StoreName) : Prop :=
  ∀ key key', raw i.ns (i.start ++ key) ≠ raw j.ns (j.start ++ key')

def Plain (loc raw : String → String → L) (i : StoreName) (key : String) : Prop :=
  loc i.ns (i.start ++ key) = raw i.ns (i.start ++ key)

/-- The keys of the stores that are accepted and left alone. -/
def goodKeys (accepts : String → Bool) (loc raw : String → String → L) (S : Set StoreName) :
    Set (StoreName × String) :=
  { a | a.1 ∈ S ∧ accepts (a.1.start ++ a.2) = true ∧ Plain loc raw a.1 a.2 }

def locOf (loc : String → String → L) (a : StoreName × String) : L :=
  loc a.1.ns (a.1.start ++ a.2)

theorem KeyValueWrite.key_under : (op.under start).key = start ++ op.key := by
  cases op with
  | put key value | delete key => rfl

theorem KeyValueWrite.value_under : (op.under start).value = op.value := by
  cases op with
  | put key value | delete key => rfl

/-- The stores serve the maps: the keys in `plain` are read from them, and the lists in
    `exact` are right just when there is no prefix, or nothing to list. -/
def ServesMaps (stores : StoreName → KeyValueStore σ T) (st : σ)
    (m : StoreName × String → Option T) (S : Set StoreName)
    (plain exact : StoreName → String → Prop) : Prop :=
  ∀ i ∈ S, (∀ key, plain i key → (stores i).get key st = found (m (i, key))) ∧
    ∀ p, exact i p → ∃ keys, (stores i).listKeys p st = .ok keys ∧
      (ListsKeys (stores i) st (fun key => m (i, key)) p keys ↔
        i.start = "" ∨ ∀ key, m (i, key) ≠ none → hasPrefix key p = false)

namespace LawfulStores

variable {S : Set StoreName} {st : σ} {m : StoreName × String → Option T}
  (h : LawfulStores base accepts loc raw look exact) (hS : S.Pairwise (Apart raw))
  (hm : LocatedMap (locOf loc) (goodKeys accepts loc raw S) (look st) m) {i : StoreName}
  {p : String}

include h

include hm in
theorem get_eq_of_located {key : String} (hgood : (i, key) ∈ goodKeys accepts loc raw S) :
    (withPrefixes base i).get key st = found (m (i, key)) := by
  have hget := h.get_eq i.ns (i.start ++ key) st hgood.2.1
  have hloc : look st (loc i.ns (i.start ++ key)) = m (i, key) := hm.at_loc _ hgood
  rw [hloc] at hget
  exact hget

include hS

theorem injOn_goodKeys : Set.InjOn (locOf loc) (goodKeys accepts loc raw S) := by
  rintro ⟨i, key⟩ ⟨hi, -, hplain⟩ ⟨j, key'⟩ ⟨hj, -, hplain'⟩ heq
  have hraw : raw i.ns (i.start ++ key) = raw j.ns (j.start ++ key') :=
    hplain.symm.trans (heq.trans hplain')
  by_cases hij : i = j
  · subst hij
    have hkey := h.raw_injective i.ns hraw
    rw [String.append_right_inj] at hkey
    rw [hkey]
  · exact absurd hraw (hS hi hj hij key key')

include hm in
theorem holds_write {op : StoreName × KeyValueWrite T} (hmem : op.1 ∈ S)
    (hplain : accepts (op.1.start ++ op.2.key) = true → Plain loc raw op.1 op.2.key) :
    LocatedMap (locOf loc) (goodKeys accepts loc raw S)
      (look ((withPrefixes base op.1).write op.2 st)) (mapWrite accepts m op) := by
  have hwrite : (withPrefixes base op.1).write op.2 st =
      (base op.1.ns).write (op.2.under op.1.start) st := by cases op.2 <;> rfl
  rw [hwrite, mapWrite]
  have hkey := KeyValueWrite.key_under op.1.start op.2
  by_cases hacc : accepts (op.1.start ++ op.2.key) = true
  · rw [h.look_write _ _ _ (by rw [hkey, hacc]), if_pos hacc, hkey, KeyValueWrite.value_under]
    exact hm.update (h.injOn_goodKeys hS) (a := (op.1, op.2.key)) ⟨hmem, hacc, hplain hacc⟩ _
  · rw [h.write_refused _ _ _ (by rw [hkey, Bool.not_eq_true _ |>.mp hacc]), if_neg hacc]
    exact hm

theorem holds (hst : look st = fun _ => none) (ops : List (StoreName × KeyValueWrite T))
    (hops : ∀ op ∈ ops, op.1 ∈ S ∧
      (accepts (op.1.start ++ op.2.key) = true → Plain loc raw op.1 op.2.key)) :
    LocatedMap (locOf loc) (goodKeys accepts loc raw S)
      (look (writeAll (withPrefixes base) st ops)) (mapsAfter accepts ops) := by
  induction ops using List.reverseRecOn with
  | nil =>
    rw [writeAll, mapsAfter, List.foldl_nil, List.foldl_nil, hst]
    exact LocatedMap.empty _ _
  | append_singleton ops op ih =>
    rw [writeAll, mapsAfter, List.foldl_concat, List.foldl_concat]
    obtain ⟨hmem, hplain⟩ := hops op (by simp)
    exact h.holds_write hS (ih fun op' hop' => hops op' (by simp [hop'])) hmem hplain

include hm

theorem look_raw_ne_none (hi : i ∈ S) (key : String) :
    look st (raw i.ns (i.start ++ key)) ≠ none ↔ m (i, key) ≠ none := by
  apply Iff.intro
  · intro hlook
    obtain ⟨⟨j, key'⟩, ha, hloc⟩ := hm.exists_address _ hlook
    have hne : m (j, key') ≠ none := by rwa [← hm.at_loc _ ha, hloc]
    obtain ⟨hj, -, hplain⟩ := hm.mem_of_ne_none _ hne
    have hraw : raw j.ns (j.start ++ key') = raw i.ns (i.start ++ key) := hplain.symm.trans hloc
    by_cases hji : j = i
    · subst hji
      have hkey := h.raw_injective j.ns hraw
      rw [String.append_right_inj] at hkey
      rwa [← hkey]
    · exact absurd hraw (hS hj hi hji key' key)
  · intro hne
    have hgood := hm.mem_of_ne_none _ hne
    have hplain : loc i.ns (i.start ++ key) = raw i.ns (i.start ++ key) := hgood.2.2
    rw [← hplain]
    exact (hm.at_loc _ hgood).trans_ne hne

theorem listKeys_of_located (hi : i ∈ S) (hexact : exact i.ns (i.start ++ p) st) :
    ∃ keys, (withPrefixes base i).listKeys p st = .ok keys ∧ keys.Nodup ∧
      ∀ x, x ∈ keys ↔ ∃ key, x = i.start ++ key ∧ m (i, key) ≠ none ∧ hasPrefix key p = true := by
  obtain ⟨keys, hlist, hnd, hmem⟩ := h.list_eq i.ns (i.start ++ p) st hexact
  refine ⟨keys, hlist, hnd, fun x => ?_⟩
  rw [hmem]
  apply Iff.intro
  · rintro ⟨hlook, hpre⟩
    obtain ⟨rest, rfl⟩ := hasPrefix_iff.mp hpre
    refine ⟨p ++ rest, String.append_assoc .., ?_, hasPrefix_append p rest⟩
    rw [← h.look_raw_ne_none hS hm hi, ← String.append_assoc]
    exact hlook
  · rintro ⟨key, rfl, hne, hpre⟩
    refine ⟨(h.look_raw_ne_none hS hm hi key).mpr hne, ?_⟩
    rwa [hasPrefix_append_append]

/-- A list is right just when there is no prefix, or nothing to list. -/
theorem listsKeys_iff (hi : i ∈ S) (hexact : exact i.ns (i.start ++ p) st) :
    ∃ keys, (withPrefixes base i).listKeys p st = .ok keys ∧
      (ListsKeys (withPrefixes base i) st (fun key => m (i, key)) p keys ↔
        i.start = "" ∨ ∀ key, m (i, key) ≠ none → hasPrefix key p = false) := by
  obtain ⟨keys, hlist, hnd, hmem⟩ := h.listKeys_of_located hS hm hi hexact
  have hread : ∀ key, m (i, key) ≠ none →
      ∃ value, m (i, key) = some value ∧ (withPrefixes base i).get key st = .ok value := by
    intro key hne
    obtain ⟨value, hvalue⟩ := Option.ne_none_iff_exists'.mp hne
    refine ⟨value, hvalue, ?_⟩
    rw [h.get_eq_of_located hm (hm.mem_of_ne_none _ hne), hvalue, found]
  refine ⟨keys, hlist, ?_, ?_⟩
  · intro hright
    by_contra hcon
    push Not at hcon
    obtain ⟨hstart, key, hne, hpre⟩ := hcon
    -- a key that is listed is listed with the prefix in front of it, and so on without end
    have hnil : keys = [] := by
      apply eq_empty_of_prefixed hstart
      intro x hx
      obtain ⟨hxne, hxpre⟩ := (hright.mem_iff x).mp hx
      exact (hmem _).mpr ⟨x, rfl, hxne, hxpre⟩
    have hkey := (hright.mem_iff key).mpr ⟨hne, by simpa using hpre⟩
    rw [hnil] at hkey
    cases hkey
  · intro hcond
    have hiff : ∀ key, key ∈ keys ↔ m (i, key) ≠ none ∧ hasPrefix key p = true := by
      intro key
      rw [hmem]
      rcases hcond with hstart | hnone
      · simp [hstart]
      · constructor
        · rintro ⟨key', -, hne, hpre⟩
          rw [hnone key' hne] at hpre
          cases hpre
        · rintro ⟨hne, hpre⟩
          rw [hnone key hne] at hpre
          cases hpre
    exact ⟨hnd, hiff, fun key hkey => hread key ((hiff key).mp hkey).1⟩

omit hm in
theorem servesMaps (hst : look st = fun _ => none) (ops : List (StoreName × KeyValueWrite T))
    (hops : ∀ op ∈ ops, op.1 ∈ S ∧
      (accepts (op.1.start ++ op.2.key) = true → Plain loc raw op.1 op.2.key)) :
    ServesMaps (withPrefixes base) (writeAll (withPrefixes base) st ops) (mapsAfter accepts ops) S
      (fun i key => accepts (i.start ++ key) = true ∧ Plain loc raw i key)
      fun i p => exact i.ns (i.start ++ p) (writeAll (withPrefixes base) st ops) := by
  have hm := h.holds hS hst ops hops
  intro i hi
  refine ⟨fun key hkey => ?_, fun p hexact => h.listsKeys_iff hS hm hi hexact⟩
  exact h.get_eq_of_located hm ⟨hi, hkey.1, hkey.2⟩

end LawfulStores

end Lawful

/-! ## etcd -/

namespace EtcdKeyValues

variable (e : EtcdKeyValues) (x : String)

theorem look_insert (value : Bytes) :
    (e.insert x value).look = update e.look x (some value) := by
  funext y
  rw [look, insert, GoMap.lookup_insert_eq, update_apply]
  split
  · exact Base64.stdDecodeString_stdEncodeToString value
  · rfl

theorem look_erase : (e.erase x).look = update e.look x none := by
  funext y
  rw [look, erase, GoMap.lookup_erase_eq, update_apply]
  split <;> rfl

theorem exists_look {text : String} (h : e.kv.lookup x = some text) :
    ∃ value, e.look x = some value ∧ Base64.stdDecodeString text = some value := by
  obtain ⟨value, rfl⟩ := e.encoded x text h
  have hdecode := Base64.stdDecodeString_stdEncodeToString value
  exact ⟨value, by rw [look, h, Option.bind_some, hdecode], hdecode⟩

theorem look_eq_none : e.look x = none ↔ e.kv.lookup x = none := by
  apply Iff.intro
  · intro hnone
    cases h : e.kv.lookup x with
    | none => rfl
    | some text =>
      obtain ⟨value, hvalue, -⟩ := e.exists_look x h
      rw [hnone] at hvalue
      cases hvalue
  · intro hnone
    rw [look, hnone, Option.bind_none]

theorem look_ne_none : e.look x ≠ none ↔ x ∈ e.kv := by
  rw [Ne, look_eq_none, AList.lookup_eq_none, not_not]

end EtcdKeyValues

/-- `validateKey` succeeds. -/
def nonempty (key : String) : Bool := key != ""

variable (storePrefix ns key : String)

def etcdLoc : String :=
  etcdKey (etcdStorePrefix storePrefix ns) key

/-- Where a key is in etcd if `path.Join` leaves it alone. -/
def etcdRaw : String :=
  etcdStorePrefix storePrefix ns ++ "/" ++ key

/-- The keys that start with the path that `ListKeys` asks for are those that start with what
    it is asked for. -/
def EtcdExact (storePrefix ns p : String) (e : EtcdKeyValues) : Prop :=
  ∀ x ∈ e.kv.keys, hasPrefix x (etcdLoc storePrefix ns p) = hasPrefix x (etcdRaw storePrefix ns p)

variable (order : Scheduler String) (keyPrefix : String) (op : KeyValueWrite Bytes)
  (e : EtcdKeyValues)

theorem etcd_look_write (h : nonempty op.key = true) :
    ((genericKeyValueStore order keyPrefix).write op e).look =
      update e.look (etcdKey keyPrefix op.key) op.value := by
  have hkey : op.key ≠ "" := by simpa [nonempty] using h
  cases op with
  | put key value =>
    have hne : key ≠ "" := hkey
    simp only [KeyValueStore.write, genericKeyValueStore, if_neg hne]
    exact e.look_insert _ _
  | delete key =>
    have hne : key ≠ "" := hkey
    simp only [KeyValueStore.write, genericKeyValueStore, if_neg hne]
    by_cases hmem : etcdKey keyPrefix key ∈ e.kv
    · rw [if_pos hmem]
      exact e.look_erase _
    · -- nothing is deleted, and there is nothing at the key
      have hnone : e.look (etcdKey keyPrefix key) = none := by
        rwa [EtcdKeyValues.look_eq_none, AList.lookup_eq_none]
      rw [if_neg hmem]
      exact (update_eq_self_iff.mpr hnone.symm).symm

theorem etcd_get_eq (keyPrefix key : String) (e : EtcdKeyValues) (h : nonempty key = true) :
    (genericKeyValueStore order keyPrefix).get key e = found (e.look (etcdKey keyPrefix key)) := by
  have hkey : key ≠ "" := by simpa [nonempty] using h
  simp only [genericKeyValueStore, if_neg hkey]
  cases htext : e.kv.lookup (etcdKey keyPrefix key) with
  | none => rw [(e.look_eq_none _).mpr htext, found]
  | some text =>
    obtain ⟨value, hlook, hdecode⟩ := e.exists_look _ htext
    simp only [hlook, hdecode, found]

theorem etcd_list_eq (keyPrefix p : String) (e : EtcdKeyValues)
    (hexact : ∀ x ∈ e.kv.keys,
      hasPrefix x (etcdKey keyPrefix p) = hasPrefix x (keyPrefix ++ "/" ++ p)) :
    ∃ keys, (genericKeyValueStore order keyPrefix).listKeys p e = .ok keys ∧ keys.Nodup ∧
      ∀ key, key ∈ keys ↔ e.look (keyPrefix ++ "/" ++ key) ≠ none ∧ hasPrefix key p = true := by
  have hmem : ∀ x, x ∈ (order.order e.kv.keys).filter (hasPrefix · (etcdKey keyPrefix p)) ↔
      x ∈ e.kv ∧ hasPrefix x (keyPrefix ++ "/" ++ p) = true := by
    intro x
    rw [List.mem_filter, (order.perm _).mem_iff, AList.mem_keys]
    constructor
    · rintro ⟨hx, hpre⟩
      rw [hexact x (AList.mem_keys.mp hx)] at hpre
      exact ⟨hx, hpre⟩
    · rintro ⟨hx, hpre⟩
      rw [← hexact x (AList.mem_keys.mp hx)] at hpre
      exact ⟨hx, hpre⟩
  -- what is listed starts with what is trimmed
  have hstart : ∀ x ∈ (order.order e.kv.keys).filter (hasPrefix · (etcdKey keyPrefix p)),
      ∃ rest, x = keyPrefix ++ "/" ++ (p ++ rest) := by
    intro x hx
    obtain ⟨rest, rfl⟩ := hasPrefix_iff.mp ((hmem x).mp hx).2
    exact ⟨rest, by rw [String.append_assoc]⟩
  refine ⟨_, rfl, ?_, fun key => ?_⟩
  · refine List.Nodup.map_on ?_ (((order.perm _).nodup_iff.mpr e.kv.nodupKeys).filter _)
    intro x hx y hy heq
    obtain ⟨rest, rfl⟩ := hstart x hx
    obtain ⟨rest', rfl⟩ := hstart y hy
    rw [trimPrefix_append, trimPrefix_append] at heq
    rw [heq]
  · rw [List.mem_map, e.look_ne_none]
    constructor
    · rintro ⟨x, hx, rfl⟩
      obtain ⟨rest, rfl⟩ := hstart x hx
      rw [trimPrefix_append]
      exact ⟨((hmem _).mp hx).1, hasPrefix_append p rest⟩
    · rintro ⟨hkey, hpre⟩
      refine ⟨_, (hmem _).mpr ⟨hkey, ?_⟩, trimPrefix_append _ _⟩
      rwa [hasPrefix_append_append]

theorem etcd_keyValue_lawful (storePrefix : String) :
    LawfulStores (etcdKeyValueStore order storePrefix) nonempty (etcdLoc storePrefix)
      (etcdRaw storePrefix) EtcdKeyValues.look (EtcdExact storePrefix) where
  write_refused ns op e h := by
    have hkey : op.key = "" := by simpa [nonempty] using h
    cases op with
    | put key value | delete key =>
      obtain rfl : key = "" := hkey
      rfl
  look_write ns op e := etcd_look_write order _ op e
  get_eq ns key e := etcd_get_eq order _ key e
  raw_injective ns key key' h := by
    rw [etcdRaw, etcdRaw, String.append_right_inj] at h
    exact h
  list_eq ns p e hexact := etcd_list_eq order _ p e hexact

/-! ## JetStream -/

def lookBucket (b : Buckets) (x : String × String) : Option Bytes := (b x.1).lookup x.2

def bucketLoc (bucketPrefix ns key : String) : String × String :=
  (dynamicBucket bucketPrefix ns, key)

section Buckets

variable (keyValid : String → Bool) (order : Scheduler String) (bucket : String) (b : Buckets)

theorem lookBucket_update {key : String} {value : Option Bytes} {entries : GoMap String Bytes}
    (hkey : entries.lookup key = value)
    (hne : ∀ key' ≠ key, entries.lookup key' = (b bucket).lookup key') :
    lookBucket (update b bucket entries) =
      update (lookBucket b) (bucket, key) value := by
  funext ⟨bucket', key'⟩
  rw [lookBucket]
  by_cases hb : bucket' = bucket
  · subst hb
    rw [update_self]
    by_cases hk : key' = key
    · subst hk
      rw [update_self]
      exact hkey
    · rw [update_of_ne (by simp [hk]), lookBucket]
      exact hne key' hk
  · rw [update_of_ne hb, update_of_ne (by simp [hb]), lookBucket]

theorem jetStream_look_write (op : KeyValueWrite Bytes) (h : keyValid op.key = true) :
    lookBucket ((jetStreamKeyValueStore keyValid order bucket).write op b) =
      update (lookBucket b) (bucket, op.key) op.value := by
  cases op with
  | put key value =>
    have hvalid : keyValid key = true := h
    simp only [KeyValueStore.write, jetStreamKeyValueStore, hvalid, Bool.not_true,
      Bool.false_eq_true, if_false]
    exact lookBucket_update bucket b (AList.lookup_insert _) fun _ => AList.lookup_insert_ne
  | delete key =>
    have hvalid : keyValid key = true := h
    simp only [KeyValueStore.write, jetStreamKeyValueStore, hvalid, Bool.not_true,
      Bool.false_eq_true, if_false]
    by_cases hmem : key ∈ b bucket
    · rw [if_pos hmem]
      exact lookBucket_update bucket b (AList.lookup_erase _ _) fun _ => AList.lookup_erase_ne
    · have hnone : lookBucket b (bucket, key) = none := AList.lookup_eq_none.mpr hmem
      rw [if_neg hmem]
      exact (update_eq_self_iff.mpr hnone.symm).symm

end Buckets

theorem jetStream_keyValue_lawful (keyValid : String → Bool) (order : Scheduler String)
    (bucketPrefix : String) :
    LawfulStores
      (fun ns => jetStreamKeyValueStore keyValid order (dynamicBucket bucketPrefix ns)) keyValid
      (bucketLoc bucketPrefix) (bucketLoc bucketPrefix) lookBucket fun _ _ _ => True where
  write_refused ns op b h := by
    cases op with
    | put key value | delete key =>
      have hvalid : keyValid key = false := h
      simp [KeyValueStore.write, jetStreamKeyValueStore, hvalid]
  look_write ns op b := jetStream_look_write keyValid order _ b op
  get_eq ns key b h := by
    simp only [jetStreamKeyValueStore, h, Bool.not_true, Bool.false_eq_true, if_false,
      lookBucket, bucketLoc]
    cases (b (dynamicBucket bucketPrefix ns)).lookup key with
    | none | some value => rfl
  raw_injective ns key key' h := (Prod.mk.inj h).2
  list_eq ns p b _ := by
    refine ⟨_, rfl, ((order.perm _).nodup_iff.mpr (b _).nodupKeys).filter _, fun key => ?_⟩
    have hlook : lookBucket b (bucketLoc bucketPrefix ns key) ≠ none ↔
        key ∈ (b (dynamicBucket bucketPrefix ns)).keys := by
      rw [Ne, lookBucket, bucketLoc, AList.lookup_eq_none, not_not, AList.mem_keys]
    rw [hlook, List.mem_filter, (order.perm _).mem_iff]

/-! ## The stores are maps -/

section Stores

variable (storePrefix : String) {S : Set StoreName}

/-- `path.Join` leaves the key of the store alone. -/
def EtcdPlain (i : StoreName) (key : String) : Prop :=
  etcdLoc storePrefix i.ns (i.start ++ key) = etcdRaw storePrefix i.ns (i.start ++ key)

/-- What is before the keys of the one store does not start with what is before those of the
    other. -/
def EtcdApart (i j : StoreName) : Prop :=
  hasPrefix (etcdRaw storePrefix i.ns i.start) (etcdRaw storePrefix j.ns j.start) = false

/-- The stores have different buckets, or the prefix of the one does not start with that of
    the other. -/
def BucketApart (bucketPrefix : String) (i j : StoreName) : Prop :=
  dynamicBucket bucketPrefix i.ns = dynamicBucket bucketPrefix j.ns →
    hasPrefix i.start j.start = false

theorem pairwise_apart_of_etcdApart {storePrefix : String}
    (h : S.Pairwise (EtcdApart storePrefix)) :
    S.Pairwise (Apart (etcdRaw storePrefix)) := by
  intro i hi j hj hij key key' heq
  have happend : ∀ (i : StoreName) key, etcdRaw storePrefix i.ns (i.start ++ key) =
      etcdRaw storePrefix i.ns i.start ++ key := by
    intro i key
    rw [etcdRaw, etcdRaw, ← String.append_assoc]
  rw [happend, happend] at heq
  rcases hasPrefix_or_hasPrefix heq with hpre | hpre
  · exact absurd hpre (by rw [h hi hj hij]; decide)
  · exact absurd hpre (by rw [h hj hi hij.symm]; decide)

theorem pairwise_apart_of_bucketApart {bucketPrefix : String}
    (h : S.Pairwise (BucketApart bucketPrefix)) : S.Pairwise (Apart (bucketLoc bucketPrefix)) := by
  intro i hi j hj hij key key' heq
  obtain ⟨hbucket, hkey⟩ := Prod.mk.inj heq
  rcases hasPrefix_or_hasPrefix hkey with hpre | hpre
  · exact absurd hpre (by rw [h hi hj hij hbucket]; decide)
  · exact absurd hpre (by rw [h hj hi hij.symm hbucket.symm]; decide)

/-- After every sequence of writes to stores that are apart, in etcd only to keys that
    `path.Join` leaves alone, each store serves its map. -/
theorem keyValueStores_serve_maps (order : Scheduler String) (storePrefix : String)
    (keyValid : String → Bool) (bucketPrefix : String) (S : Set StoreName)
    (ops : List (StoreName × KeyValueWrite Bytes)) (hops : ∀ op ∈ ops, op.1 ∈ S) :
    (S.Pairwise (EtcdApart storePrefix) → (∀ op ∈ ops, EtcdPlain storePrefix op.1 op.2.key) →
      ServesMaps (etcdStores order storePrefix)
        (writeAll (etcdStores order storePrefix) .empty ops) (mapsAfter nonempty ops) S
        (fun i key => nonempty (i.start ++ key) = true ∧ EtcdPlain storePrefix i key)
        fun i p => EtcdExact storePrefix i.ns (i.start ++ p)
          (writeAll (etcdStores order storePrefix) .empty ops)) ∧
    (S.Pairwise (BucketApart bucketPrefix) →
      ServesMaps (jetStreamStores keyValid order bucketPrefix)
        (writeAll (jetStreamStores keyValid order bucketPrefix) (fun _ => ∅) ops)
        (mapsAfter keyValid ops) S (fun i key => keyValid (i.start ++ key) = true)
        fun _ _ => True) := by
  constructor
  · intro hS hplain
    refine (etcd_keyValue_lawful order storePrefix).servesMaps (pairwise_apart_of_etcdApart hS) rfl
      ops ?_
    intro op hop
    exact ⟨hops op hop, fun _ => hplain op hop⟩
  · intro hS i hi
    have hempty : lookBucket (fun _ => ∅) = fun _ => none := rfl
    have hserves := (jetStream_keyValue_lawful keyValid order bucketPrefix).servesMaps
      (pairwise_apart_of_bucketApart hS) hempty ops
      (fun op hop => ⟨hops op hop, fun _ => rfl⟩) i hi
    exact ⟨fun key hkey => hserves.1 key ⟨hkey, rfl⟩, hserves.2⟩

/-- A write to a store, and one to a store with a prefix in another namespace. -/
def sampleWrites : List (StoreName × KeyValueWrite Bytes) :=
  [(⟨"metrics", ""⟩, .put "a/b" [1]), (⟨"logs", "x/"⟩, .put "c" [2])]

theorem keyValueStores_serve_sample :
    ServesMaps (etcdStores (.inOrder _) "gateway")
      (writeAll (etcdStores (.inOrder _) "gateway") .empty sampleWrites)
      (mapsAfter nonempty sampleWrites) {⟨"metrics", ""⟩, ⟨"logs", "x/"⟩}
      (fun i key => nonempty (i.start ++ key) = true ∧ EtcdPlain "gateway" i key)
      (fun i p => EtcdExact "gateway" i.ns (i.start ++ p)
        (writeAll (etcdStores (.inOrder _) "gateway") .empty sampleWrites)) ∧
    ServesMaps (jetStreamStores nonempty (.inOrder _) "gateway")
      (writeAll (jetStreamStores nonempty (.inOrder _) "gateway") (fun _ => ∅) sampleWrites)
      (mapsAfter nonempty sampleWrites) {⟨"metrics", ""⟩, ⟨"logs", "x/"⟩}
      (fun i key => nonempty (i.start ++ key) = true) fun _ _ => True := by
  have hserves := keyValueStores_serve_maps (.inOrder _) "gateway" nonempty "gateway"
    {⟨"metrics", ""⟩, ⟨"logs", "x/"⟩} sampleWrites (by simp [sampleWrites])
  refine ⟨hserves.1 ?_ ?_, hserves.2 ?_⟩
  · rw [Set.pairwise_pair]
    exact fun _ => ⟨by unfold EtcdApart; decide +kernel, by unfold EtcdApart; decide +kernel⟩
  · unfold EtcdPlain
    decide +kernel
  · rw [Set.pairwise_pair]
    exact fun _ => ⟨by unfold BucketApart; decide +kernel, by unfold BucketApart; decide +kernel⟩

/-- A store with a prefix lists keys that it does not have; two keys are one to etcd, and two
    namespaces one to JetStream. -/
theorem keyValueStores_confuse_keys :
    let etcd := etcdStores (.inOrder _) "gateway"
    let jetStream := jetStreamStores nonempty (.inOrder _) "gateway"
    let e := writeAll etcd .empty [(⟨"ns", "p/"⟩, .put "a" [1])]
    let b := writeAll jetStream (fun _ => ∅) [(⟨"ns", "p/"⟩, .put "a" [1])]
    (etcd ⟨"ns", "p/"⟩).listKeys "" e = .ok ["p/a"] ∧
      (etcd ⟨"ns", "p/"⟩).get "p/a" e = .error .notFound ∧
      (jetStream ⟨"ns", "p/"⟩).listKeys "" b = .ok ["p/a"] ∧
      (jetStream ⟨"ns", "p/"⟩).get "p/a" b = .error .notFound ∧
      (etcd ⟨"ns", ""⟩).get "a/b"
        (writeAll etcd .empty [(⟨"ns", ""⟩, .put "a/b" [1]), (⟨"ns", ""⟩, .put "a//b" [2])]) =
          .ok [2] ∧
      (jetStream ⟨"a-b", ""⟩).get "k"
        (writeAll jetStream (fun _ => ∅) [(⟨"a/b", ""⟩, .put "k" [1])]) = .ok [1] := by
  decide +kernel

end Stores

end Opni.Storage
