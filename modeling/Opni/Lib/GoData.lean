/-
  Opni.Lib.GoData

  The Go data types the models are written over: byte slices and their
  conversion from and to strings, maps, and the sorting of slices.

  A Go map is an association list without duplicate keys (`AList`).  The list
  order carries no meaning: where the source ranges over a map, the model
  quantifies over the orders.
-/

import Mathlib.Algebra.Ring.Int.Defs
import Mathlib.Data.List.AList
import Mathlib.Data.List.Perm.Basic
import Mathlib.Data.List.Induction
import Mathlib.Data.List.Sort
import Mathlib.Data.String.Basic

namespace Opni.Lib

/-! ## Byte slices -/

/-- A Go `[]byte`. -/
abbrev Bytes := List UInt8

/-- The conversion `[]byte(s)`. -/
def bytesOfString (s : String) : Bytes := s.toUTF8.data.toList

/-- The conversion `string(b)`.  A Go string may hold any bytes; a Lean string
    is valid UTF-8, so other byte slices are sent to the empty string. -/
def stringOfBytes (b : Bytes) : String := (String.fromUTF8? ⟨b.toArray⟩).getD ""

theorem stringOfBytes_bytesOfString (s : String) : stringOfBytes (bytesOfString s) = s := by
  have hround : (⟨(bytesOfString s).toArray⟩ : ByteArray) = s.toUTF8 := by
    simp [bytesOfString]
  rw [stringOfBytes, hround, String.fromUTF8?, String.toUTF8_eq_toByteArray,
    dif_pos s.isValidUTF8]
  rfl

theorem bytesOfString_injective : Function.Injective bytesOfString :=
  Function.LeftInverse.injective stringOfBytes_bytesOfString

/-! ## Loops over slices -/

variable {γ α β ε : Type} {f : α → β} {err : ε} {R : α → β → Prop} {x : α}

theorem map_filterMap_sublist {f : α → Option β} {key : α → γ} {key' : β → γ} {l : List α}
    (h : ∀ x ∈ l, ∀ y, f x = some y → key' y = key x) :
    List.Sublist ((l.filterMap f).map key') (l.map key) := by
  induction l with
  | nil => exact List.Sublist.refl _
  | cons x l ih =>
    have ih := ih fun x hx => h x (.tail _ hx)
    cases hf : f x with
    | none =>
      rw [List.filterMap_cons_none hf]
      exact ih.trans (List.sublist_cons_self _ _)
    | some y =>
      rw [List.filterMap_cons_some hf, List.map_cons, List.map_cons, h x (by simp) y hf]
      exact ih.cons_cons _

theorem map_eq_ok_iff {x : Except ε α} {y : β} : x.map f = .ok y ↔ ∃ z, x = .ok z ∧ f z = y := by
  cases x <;> simp [Except.map]

theorem bind_eq_ok_iff {f : α → Except ε β} {x : Except ε α} {y : β} :
    (x >>= f) = .ok y ↔ ∃ z, x = .ok z ∧ f z = .ok y := by
  cases x <;> simp [bind, Except.bind]

theorem bind_eq_error_iff {f : α → Except ε β} {x : Except ε α} :
    (x >>= f) = .error err ↔ x = .error err ∨ ∃ z, x = .ok z ∧ f z = .error err := by
  cases x <;> simp [bind, Except.bind]

theorem eq_of_map_secret {rest : α → β} {secret : α → γ}
    (hinj : ∀ a a', rest a = rest a' → secret a = secret a' → a = a') {o o' : Option α}
    (hrest : o.map rest = o'.map rest) (hsecret : o.map secret = o'.map secret) : o = o' := by
  cases o with
  | none => exact (Option.map_eq_none_iff.mp hrest.symm).symm
  | some a =>
    obtain ⟨a', rfl, ha'⟩ := Option.map_eq_some_iff.mp hrest.symm
    rw [hinj a a' ha'.symm (Option.some.inj hsecret)]

theorem mapM_eq_ok_iff {f : α → Except ε β} {l : List α} {l' : List β} :
    l.mapM f = .ok l' ↔ List.Forall₂ (fun x y => f x = .ok y) l l' := by
  induction l generalizing l' with
  | nil => simp [pure, Except.pure, eq_comm]
  | cons x l ih =>
    simp only [List.mapM_cons, bind_eq_ok_iff, ih, List.forall₂_cons_left_iff, pure, Except.pure,
      Except.ok.injEq, exists_and_left, @eq_comm _ l']

theorem exists_of_mapM_eq_error {f : α → Except ε β} {l : List α} (h : l.mapM f = .error err) :
    ∃ x ∈ l, f x = .error err := by
  induction l with
  | nil => cases h
  | cons x l ih =>
    rw [List.mapM_cons] at h
    rcases bind_eq_error_iff.mp h with hx | ⟨y, hy, h⟩
    · exact ⟨x, by simp, hx⟩
    · rcases bind_eq_error_iff.mp h with hl | ⟨ys, hys, h⟩
      · obtain ⟨x', hx', herr⟩ := ih hl
        exact ⟨x', .tail _ hx', herr⟩
      · cases h

theorem exists_left_of_forall₂ {l : List α} {l' : List β} (h : List.Forall₂ R l l') {y : β}
    (hy : y ∈ l') : ∃ x ∈ l, R x y := by
  induction h with
  | nil => cases hy
  | cons hxy _ ih =>
    rcases List.mem_cons.mp hy with rfl | hy
    · exact ⟨_, by simp, hxy⟩
    · obtain ⟨x, hx, hr⟩ := ih hy
      exact ⟨x, .tail _ hx, hr⟩

theorem exists_right_of_forall₂ {l : List α} {l' : List β} (h : List.Forall₂ R l l') (hx : x ∈ l) :
    ∃ y ∈ l', R x y :=
  exists_left_of_forall₂ h.flip hx

theorem map_eq_of_forall₂ {l : List α} {l' : List β} (h : List.Forall₂ R l l') {f : α → γ}
    {g : β → γ} (hR : ∀ x ∈ l, ∀ y, R x y → g y = f x) : l'.map g = l.map f := by
  induction h with
  | nil => rfl
  | cons hxy _ ih =>
    rw [List.map_cons, List.map_cons, hR _ List.mem_cons_self _ hxy,
      ih fun x hx => hR x (.tail _ hx)]

theorem exists_forall₂ {l : List α} (h : ∀ x ∈ l, ∃ y, R x y) : ∃ l', List.Forall₂ R l l' := by
  induction l with
  | nil => exact ⟨[], .nil⟩
  | cons x l ih =>
    obtain ⟨y, hy⟩ := h x (by simp)
    obtain ⟨l', hl'⟩ := ih fun x hx => h x (.tail _ hx)
    exact ⟨y :: l', .cons hy hl'⟩

theorem exists_mapM {f : α → Except ε β} {l : List α} (h : ∀ x ∈ l, ∃ y, f x = .ok y) :
    ∃ l', l.mapM f = .ok l' ∧ ∀ y, y ∈ l' ↔ ∃ x ∈ l, f x = .ok y := by
  obtain ⟨l', hl'⟩ := exists_forall₂ h
  refine ⟨l', mapM_eq_ok_iff.mpr hl', ?_⟩
  intro y
  constructor
  · intro hy
    exact exists_left_of_forall₂ hl' hy
  · rintro ⟨x, hx, hfx⟩
    obtain ⟨y', hy', hfx'⟩ := exists_right_of_forall₂ hl' hx
    rw [hfx] at hfx'
    exact Except.ok.inj hfx' ▸ hy'

theorem forall₂_comp {S : β → γ → Prop} {l : List α} {l' : List β} {l'' : List γ}
    (h : List.Forall₂ R l l') (h' : List.Forall₂ S l' l'') :
    List.Forall₂ (fun x z => ∃ y, R x y ∧ S y z) l l'' := by
  induction h generalizing l'' with
  | nil =>
    cases h'
    exact .nil
  | cons hr _ ih =>
    cases h' with
    | cons hs hrest => exact .cons ⟨_, hr, hs⟩ (ih hrest)

theorem filter_key_eq [DecidableEq β] {key : α → β} {l : List α} (hnd : (l.map key).Nodup)
    (hx : x ∈ l) : (l.filter fun y => key x = key y) = [x] := by
  induction l with
  | nil => cases hx
  | cons y l ih =>
    rw [List.map_cons, List.nodup_cons] at hnd
    obtain ⟨hy, hl⟩ := hnd
    rcases List.mem_cons.mp hx with rfl | hx
    · have hrest : (l.filter fun z => key x = key z) = [] := by
        rw [List.filter_eq_nil_iff]
        intro z hz heq
        exact hy (of_decide_eq_true heq ▸ List.mem_map_of_mem hz)
      rw [List.filter_cons_of_pos (by simp), hrest]
    · have hne : key x ≠ key y := fun heq => hy (heq ▸ List.mem_map_of_mem hx)
      rw [List.filter_cons_of_neg (by simpa using hne), ih hl hx]

/-! ## Maps -/

/-- A Go `map[α]β`. -/
abbrev GoMap (α β : Type) := AList (fun _ : α => β)

namespace GoMap

variable {α β γ : Type} [DecidableEq α] (m : GoMap α β) {k k' : α} {v' v : β}

@[grind =] theorem lookup_insert_eq (k : α) (v : β) (k' : α) :
    AList.lookup k' (m.insert k v) = if k' = k then some v else m.lookup k' := by
  split
  next h => rw [h, AList.lookup_insert]
  next h => rw [AList.lookup_insert_ne h]

@[grind =] theorem lookup_erase_eq (k k' : α) :
    AList.lookup k' (m.erase k) = if k' = k then none else m.lookup k' := by
  split
  next h => rw [h, AList.lookup_erase]
  next h => rw [AList.lookup_erase_ne h]

variable {m} in
theorem mem_iff : k ∈ m ↔ ∃ v, m.lookup k = some v := by
  rw [← AList.lookup_isSome, Option.isSome_iff_exists]

variable {m} in
theorem lookup_insert_eq_some :
    AList.lookup k' (m.insert k v) = some v' ↔
      k' = k ∧ v = v' ∨ k' ≠ k ∧ m.lookup k' = some v' := by
  rw [lookup_insert_eq]
  split <;> simp [*]

variable {m} in
theorem lookup_erase_eq_some :
    AList.lookup k' (m.erase k) = some v ↔ k' ≠ k ∧ m.lookup k' = some v := by
  rw [lookup_erase_eq]
  split <;> simp [*]

variable (key : γ → α) (val : γ → β)

/-- The map a loop `for _, x := range l { m[key(x)] = val(x) }` builds. -/
def ofList (l : List γ) : GoMap α β :=
  l.foldl (fun m x => m.insert (key x) (val x)) ∅

theorem ofList_append_singleton (l : List γ) (x : γ) :
    ofList key val (l ++ [x]) = (ofList key val l).insert (key x) (val x) := by
  simp [ofList, List.foldl_append]

theorem exists_of_lookup_ofList {key : γ → α} {val : γ → β} {l : List γ}
    (h : (ofList key val l).lookup k = some v) : ∃ x ∈ l, key x = k ∧ val x = v := by
  induction l using List.reverseRec with
  | nil => simp [ofList] at h
  | append_singleton l x ih =>
    rw [ofList_append_singleton] at h
    rcases lookup_insert_eq_some.mp h with ⟨rfl, hx⟩ | ⟨-, h⟩
    · exact ⟨x, by simp, rfl, hx⟩
    · obtain ⟨y, hy, hxy⟩ := ih h
      exact ⟨y, List.mem_append_left _ hy, hxy⟩

theorem mem_ofList {key : γ → α} {val : γ → β} {l : List γ} :
    k ∈ ofList key val l ↔ ∃ x ∈ l, key x = k := by
  induction l using List.reverseRec with
  | nil => simp [ofList]
  | append_singleton l x ih =>
    rw [ofList_append_singleton, AList.mem_insert, ih]
    constructor
    · rintro (h | ⟨y, hy, h⟩)
      · exact ⟨x, by simp, h.symm⟩
      · exact ⟨y, List.mem_append_left _ hy, h⟩
    · rintro ⟨y, hy, h⟩
      rcases List.mem_append.mp hy with hy | hy
      · exact .inr ⟨y, hy, h⟩
      · rw [List.mem_singleton.mp hy] at h
        exact .inl h.symm

theorem mem_entries {m : GoMap α β} : (⟨k, v⟩ : Σ _ : α, β) ∈ m.entries ↔ m.lookup k = some v :=
  AList.mem_lookup_iff.symm

theorem entries_ofList_perm {key : γ → α} {val : γ → β} {l : List γ} (hnd : (l.map key).Nodup) :
    (ofList key val l).entries.Perm (l.map fun x => ⟨key x, val x⟩) := by
  induction l using List.reverseRec with
  | nil => exact List.Perm.refl _
  | append_singleton l x ih =>
    rw [List.map_append, List.nodup_append] at hnd
    obtain ⟨hl, -, hdisj⟩ := hnd
    have hfresh : key x ∉ ofList key val l := by
      rw [mem_ofList]
      rintro ⟨y, hy, heq⟩
      exact hdisj _ (List.mem_map_of_mem hy) _ (by simp) heq
    rw [ofList_append_singleton, AList.entries_insert_of_notMem hfresh, List.map_append]
    exact ((ih hl).cons _).trans (List.perm_append_singleton _ _).symm

theorem lookup_ofList_eq_some {key : γ → α} {val : γ → β} {l : List γ} (hnd : (l.map key).Nodup) :
    (ofList key val l).lookup k = some v ↔ ∃ x ∈ l, key x = k ∧ val x = v := by
  rw [← mem_entries, (entries_ofList_perm hnd).mem_iff, List.mem_map]
  simp

theorem filterMap_lookup_keys : m.keys.filterMap m.lookup = m.entries.map Sigma.snd := by
  rw [AList.keys, List.keys, List.filterMap_map, ← List.filterMap_eq_map]
  apply List.filterMap_congr
  rintro ⟨k, v⟩ hmem
  exact mem_entries.mp hmem

/-- A loop that keeps some values of a map, changed, under their keys. -/
def filterMap (f : α → β → Option γ) (m : GoMap α β) : GoMap α γ :=
  ofList Sigma.fst Sigma.snd
    (m.entries.filterMap fun e => (f e.1 e.2).map fun v => (⟨e.1, v⟩ : Σ _ : α, γ))

theorem lookup_filterMap (f : α → β → Option γ) (m : GoMap α β) (k : α) :
    (m.filterMap f).lookup k = (m.lookup k).bind (f k) := by
  have hnd : ((m.entries.filterMap fun e =>
      (f e.1 e.2).map fun v => (⟨e.1, v⟩ : Σ _ : α, γ)).map Sigma.fst).Nodup := by
    refine (map_filterMap_sublist ?_).nodup m.keys_nodup
    rintro e - e' he
    obtain ⟨v, -, rfl⟩ := Option.map_eq_some_iff.mp he
    rfl
  apply Option.ext
  intro v
  rw [filterMap, lookup_ofList_eq_some hnd, Option.bind_eq_some_iff]
  constructor
  · rintro ⟨e, he, rfl, rfl⟩
    obtain ⟨⟨k', v'⟩, hmem, hf⟩ := List.mem_filterMap.mp he
    obtain ⟨v'', hv'', rfl⟩ := Option.map_eq_some_iff.mp hf
    exact ⟨v', mem_entries.mp hmem, hv''⟩
  · rintro ⟨v', hlookup, hf⟩
    exact ⟨⟨k, v⟩,
      List.mem_filterMap.mpr ⟨⟨k, v'⟩, mem_entries.mpr hlookup, by simp [hf]⟩, rfl, rfl⟩

/-- A loop over a map that changes every value, or fails. -/
def mapM {ε : Type} (f : β → Except ε γ) (m : GoMap α β) : Except ε (GoMap α γ) :=
  (m.entries.mapM fun e => (f e.2).map fun v => (⟨e.1, v⟩ : Σ _ : α, γ)).map
    (ofList Sigma.fst Sigma.snd)

theorem lookup_mapM {f : β → Except ε γ} {m : GoMap α β} {m' : GoMap α γ} (h : m.mapM f = .ok m')
    {v : γ} : m'.lookup k = some v ↔ ∃ v', m.lookup k = some v' ∧ f v' = .ok v := by
  obtain ⟨es, hm, rfl⟩ := map_eq_ok_iff.mp h
  have hrel := mapM_eq_ok_iff.mp hm
  have hkeys : es.map Sigma.fst = m.entries.map Sigma.fst := by
    refine map_eq_of_forall₂ hrel fun e _ e' he => ?_
    obtain ⟨v, -, rfl⟩ := map_eq_ok_iff.mp he
    rfl
  rw [lookup_ofList_eq_some (hkeys ▸ m.keys_nodup)]
  constructor
  · rintro ⟨e, he, rfl, rfl⟩
    obtain ⟨⟨k', v'⟩, hmem, hf⟩ := exists_left_of_forall₂ hrel he
    obtain ⟨v, hv, rfl⟩ := map_eq_ok_iff.mp hf
    exact ⟨v', mem_entries.mp hmem, hv⟩
  · rintro ⟨v', hlookup, hf⟩
    obtain ⟨e, he, heq⟩ := exists_right_of_forall₂ hrel (mem_entries.mpr hlookup)
    obtain ⟨v'', hv'', rfl⟩ := map_eq_ok_iff.mp heq
    rw [hf] at hv''
    exact ⟨_, he, rfl, (Except.ok.inj hv'').symm⟩

theorem lookup_singleton_eq_some :
    AList.lookup k' (AList.singleton k v : GoMap α β) = some v' ↔ k' = k ∧ v' = v := by
  rw [← mem_entries, AList.singleton_entries, List.mem_singleton, Sigma.mk.injEq, heq_eq_eq]

def equal [DecidableEq β] (m m' : GoMap α β) : Bool :=
  m.entries.length == m'.entries.length && m.entries.all fun e => m'.lookup e.1 == some e.2

theorem lookup_eq_of_equal [DecidableEq β] {m m' : GoMap α β} (h : m.equal m' = true) (k : α) :
    m.lookup k = m'.lookup k := by
  simp only [equal, Bool.and_eq_true, beq_iff_eq, List.all_eq_true] at h
  obtain ⟨hlength, hall⟩ := h
  have hsub : ∀ k v, m.lookup k = some v → m'.lookup k = some v :=
    fun k v hv => hall ⟨k, v⟩ (mem_entries.mpr hv)
  have hkeys : m.keys.Perm m'.keys := by
    refine (List.subperm_of_subset m.keys_nodup fun k hk => ?_).perm_of_length_le ?_
    · obtain ⟨v, hv⟩ := GoMap.mem_iff.mp hk
      exact GoMap.mem_iff.mpr ⟨v, hsub k v hv⟩
    · simp [AList.keys, List.keys, hlength]
  apply Option.ext
  intro v
  refine ⟨hsub k v, fun hv => ?_⟩
  have hk : k ∈ m.keys := hkeys.mem_iff.mpr (GoMap.mem_iff.mpr ⟨_, hv⟩)
  obtain ⟨w, hw⟩ := GoMap.mem_iff.mp hk
  rw [hw, ← hsub k w hw, hv]

/-! ### Maps that index a set -/

/-- The map has the elements of a set, each under its key. -/
def Indexes (key : β → α) (S : Set β) : Prop :=
  ∀ k v, m.lookup k = some v ↔ v ∈ S ∧ key v = k

theorem indexes_empty (key : β → α) : (∅ : GoMap α β).Indexes key ∅ := by
  intro k v
  simp

section Index

variable {m : GoMap α β} {key : β → α} {S : Set β} (h : m.Indexes key S)

include h

theorem Indexes.mem_iff : k ∈ m ↔ ∃ v ∈ S, key v = k := by
  rw [GoMap.mem_iff]
  exact exists_congr fun v => h k v

theorem Indexes.insert (hnew : key v ∉ m) :
    GoMap.Indexes (AList.insert (key v) v m) key { v' | v' ∈ S ∨ v' = v } := by
  intro k v'
  -- the key is new, so no element of the set has it
  have hfresh : ∀ w ∈ S, key w ≠ key v := fun w hw hkey => hnew (h.mem_iff.mpr ⟨w, hw, hkey⟩)
  rw [lookup_insert_eq_some, h k v', Set.mem_ofPred_eq]
  grind

theorem Indexes.erase (k : α) : GoMap.Indexes (AList.erase k m) key { v | v ∈ S ∧ key v ≠ k } := by
  intro k' v
  rw [lookup_erase_eq_some, h k' v, Set.mem_ofPred_eq]
  grind

end Index

end GoMap

/-! ## Sorting -/

/-- `slices.SortFunc` and `sort.Slice`.  Both are unstable; the callers sort
    elements that `less` tells apart, so the result does not depend on that. -/
def sortFunc {α : Type} (less : α → α → Bool) (l : List α) : List α :=
  l.insertionSort (fun a b => less b a = false)

theorem sortFunc_perm (less : α → α → Bool) (l : List α) : (sortFunc less l).Perm l :=
  List.perm_insertionSort _ l

@[simp] theorem mem_sortFunc {less : α → α → Bool} {l : List α} : x ∈ sortFunc less l ↔ x ∈ l :=
  (sortFunc_perm less l).mem_iff

theorem pairwise_sortFunc_le [LinearOrder α] (l : List α) :
    (sortFunc (fun a b => decide (a < b)) l).Pairwise (· ≤ ·) := by
  have hsame : sortFunc (fun a b => decide (a < b)) l = l.insertionSort (· ≤ ·) := by
    unfold sortFunc
    simp
  rw [hsame]
  exact List.pairwise_insertionSort (· ≤ ·) l

theorem pairwise_sortFunc_lt [LinearOrder α] {l : List α} (hnd : l.Nodup) :
    (sortFunc (fun a b => decide (a < b)) l).Pairwise (· < ·) := by
  have hnd' : (sortFunc (fun a b => decide (a < b)) l).Nodup :=
    (sortFunc_perm _ l).nodup_iff.mpr hnd
  exact ((pairwise_sortFunc_le l).and hnd').imp fun h => lt_of_le_of_ne h.1 h.2

/-! ## Schedules -/

/-- An order in which goroutines started for the elements of a list run. -/
abbrev Schedule {α : Type} (l : List α) := { order : List α // order.Perm l }

structure Scheduler (α : Type) where
  order : List α → List α
  perm : ∀ l, (order l).Perm l

def Scheduler.schedule {α : Type} (s : Scheduler α) (l : List α) : Schedule l :=
  ⟨s.order l, s.perm l⟩

def Scheduler.inOrder (α : Type) : Scheduler α := ⟨id, List.Perm.refl⟩

/-- An order that starts with the given element, where there is one. -/
def Scheduler.front {α : Type} [DecidableEq α] (x : α) : Scheduler α where
  order l := if x ∈ l then x :: l.erase x else l
  perm l := by
    split
    next h => exact (List.perm_cons_erase h).symm
    next => exact List.Perm.refl l

theorem exists_scheduler [DecidableEq α] {l order : List α} (h : order.Perm l) :
    ∃ s : Scheduler α, s.order l = order := by
  refine ⟨⟨fun l' => if l' = l then order else l', fun l' => ?_⟩, if_pos rfl⟩
  split
  next heq => exact heq ▸ h
  next => exact List.Perm.refl l'

theorem exists_perm_of_perm_map {l : List α} {l' : List β} (h : l'.Perm (l.map f)) :
    ∃ order : List α, order.Perm l ∧ order.map f = l' := by
  have hrel : List.Forall₂ (fun y x => f x = y) (l.map f) l := by
    rw [List.forall₂_map_left_iff, List.forall₂_same]
    exact fun _ _ => rfl
  obtain ⟨order, horder, hperm⟩ := List.perm_comp_forall₂ h hrel
  refine ⟨order, hperm, ?_⟩
  clear hperm hrel h
  induction horder with
  | nil => rfl
  | cons hxy _ ih => rw [List.map_cons, hxy, ih]

/-! ## Errors -/

/-- The gRPC status codes the modelled handlers answer with. -/
inductive Code where
  | invalidArgument | notFound | alreadyExists | failedPrecondition
  | unauthenticated | permissionDenied | internal | unavailable | unimplemented | unknown
deriving DecidableEq, Repr

structure Status where
  code : Code
  message : String
deriving DecidableEq, Repr

def Code.text : Code → String
  | .invalidArgument => "InvalidArgument"
  | .notFound => "NotFound"
  | .alreadyExists => "AlreadyExists"
  | .failedPrecondition => "FailedPrecondition"
  | .unauthenticated => "Unauthenticated"
  | .permissionDenied => "PermissionDenied"
  | .internal => "Internal"
  | .unavailable => "Unavailable"
  | .unimplemented => "Unimplemented"
  | .unknown => "Unknown"

def Status.text (err : Status) : String :=
  "rpc error: code = " ++ err.code.text ++ " desc = " ++ err.message

/-- The error of a file system call, as far as its callers look at it. -/
inductive OsErr where
  | notExist | permission | notDir | isDir | io
deriving DecidableEq, Repr

def OsErr.text : OsErr → String
  | .notExist => "no such file or directory"
  | .permission => "permission denied"
  | .notDir => "not a directory"
  | .isDir => "is a directory"
  | .io => "input/output error"

end Opni.Lib
