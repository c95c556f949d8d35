/-
  Opni.Management.ResolveClusters

  `resolveClusters` of the management server (`pkg/management/clusters.go`),
  which finds clusters by id or by name.
-/

import Opni.Rbac.Store

namespace Opni.Management

open Lib Rbac

/-! ## The function -/

def nameLabel : String := "opni.io/name"

/-- The name of a cluster as the map of its labels gives it, which is empty if there
    is none. -/
def readName (c : Cluster) : String := (c.labels.lookup nameLabel).getD ""

/-- What `resolveClusters` asks of the storage backend. -/
structure ClusterBackend where
  getCluster : String → Except StoreErr Cluster
  listClusters : Option LabelSelector → Bool → Except StoreErr (List Cluster)

/-- How `resolveClusters` fails. -/
inductive ResolveFailure where
  | storage (err : StoreErr)
  | status (s : Status)
  | panicked (msg : String)
deriving DecidableEq

variable (b : ClusterBackend)

def getClusters (refs : List String) :
    Except StoreErr (List (Option Cluster)) :=
  refs.mapM fun ref =>
    match b.getCluster ref with
    | .ok cluster => .ok (some cluster)
    | .error .notFound => .ok none
    | .error err => .error err

/-- The references that are not found, with their indexes. -/
def unresolved (refs : List String) (clusters : List (Option Cluster)) : List (String × Nat) :=
  (refs.zip clusters).zipIdx.filterMap fun e =>
    if e.1.2.isNone then some (e.1.1, e.2) else none

/-- `nameIndexes`: the last index of each name. -/
def nameIndexes (pending : List (String × Nat)) : GoMap String Int :=
  GoMap.ofList (·.1) (fun p => (p.2 : Int)) pending

/-- The result so far, and `nameIndexes`. -/
abbrev NameState := List (Option Cluster) × GoMap String Int

/-- The loop over the clusters that have one of the names. -/
def placeByName : List Cluster → NameState → Except ResolveFailure NameState
  | [], s => .ok s
  | c :: items, (clusters, nameIndexes) =>
    let name := readName c
    match nameIndexes.lookup name with
    | some idx =>
      if 0 ≤ idx ∧ idx < clusters.length then
        placeByName items (clusters.set idx.toNat (some c), nameIndexes.insert name (-1))
      else .error (.panicked ("index out of range [" ++ toString idx ++ "]"))
    | none =>
      -- what a map gives for a name that it does not have, and never -1
      let idx : Int := 0
      if idx = -1 then
        .error (.status ⟨.failedPrecondition,
          "ambiguous cluster name \"" ++ name ++ "\" (use cluster IDs instead)"⟩)
      else .error (.panicked "bug: ListClusters with label selector returned bad results")

def namesNotFound (names : List String) (notFound : Nat) : Status :=
  if notFound = 1 then ⟨.notFound, "cluster not found: \"" ++ names.headD "" ++ "\""⟩
  else ⟨.notFound,
    toString names.length ++ " clusters not found: [" ++ " ".intercalate names ++ "]"⟩

/-- The selector for clusters that have one of the names. -/
def nameSelector (names : List String) : LabelSelector where
  matchExpressions := [{ key := nameLabel, operator := .opIn, values := names }]

/-- The second pass of `resolveClusters`, over the names. -/
def resolveNames (clusters : List (Option Cluster))
    (pending : List (String × Nat)) : Except ResolveFailure (List (Option Cluster)) :=
  let names := pending.map (·.1)
  match b.listClusters (some (nameSelector names)) true with
  | .error err => .error (.storage err)
  | .ok items =>
    match placeByName items (clusters, nameIndexes pending) with
    | .error err => .error err
    | .ok (clusters, nameIndexes) =>
      let notFound := nameIndexes.entries.filter fun e => e.2 ≠ -1
      if notFound.length = 0 then .ok clusters
      else .error (.status (namesNotFound names notFound.length))

def resolveClusters (refs : List String) :
    Except ResolveFailure (List (Option Cluster)) :=
  match getClusters b refs with
  | .error err => .error (.storage err)
  | .ok clusters =>
    let pending := unresolved refs clusters
    if pending.length = 0 then .ok clusters else resolveNames b clusters pending

/-! ## The store -/

structure StoredClusters where
  clusters : List Cluster
  nodup : (clusters.map Storage.Cluster.id).Nodup

namespace StoredClusters

variable (s : StoredClusters)

def get (id : String) : Option Cluster := s.clusters.find? (·.id = id)

/-- The store as a backend, which lists the clusters in some order. -/
def backend (order : Scheduler Cluster) : ClusterBackend where
  getCluster id :=
    match s.get id with
    | some c => .ok c
    | none => .error .notFound
  listClusters matchLabels emptySelectorMatchesNone :=
    .ok (order.order (s.clusters.filter (newSelectorPredicate
      { labelSelector := matchLabels, emptySelectorMatchesNone := emptySelectorMatchesNone })))

theorem get_eq_none {s : StoredClusters} {id : String} :
    s.get id = none ↔ ∀ c ∈ s.clusters, c.id ≠ id := by
  simp [get]

end StoredClusters

/-! ## What is claimed -/

variable (s : StoredClusters)

def Unresolved (refs : List String) (ref : String) : Prop :=
  ref ∈ refs ∧ ∀ c ∈ s.clusters, c.id ≠ ref

def HasName (c : Cluster) (name : String) : Prop := c.labels.lookup nameLabel = some name

structure ResolvesCorrectly (refs : List String)
    (result : Except ResolveFailure (List (Option Cluster))) : Prop where
  no_panic : ∀ msg, result ≠ .error (.panicked msg)
  resolved : ∀ clusters, result = .ok clusters → clusters.length = refs.length ∧
    ∀ (i : Nat) ref, refs[i]? = some ref → ∃ c ∈ s.clusters, clusters[i]? = some (some c) ∧
      (c.id = ref ∨ (∀ c' ∈ s.clusters, c'.id ≠ ref) ∧ HasName c ref)
  not_found : ∀ ref, Unresolved s refs ref → (∀ c ∈ s.clusters, ¬HasName c ref) →
    ∃ msg, result = .error (.status ⟨.notFound, msg⟩)
  ambiguous : ∀ ref, Unresolved s refs ref →
    (∃ c ∈ s.clusters, ∃ c' ∈ s.clusters, c ≠ c' ∧ HasName c ref ∧ HasName c' ref) →
    ∃ msg, result = .error (.status ⟨.failedPrecondition, msg⟩)

/-! ## The first pass -/

theorem getClusters_backend (order : Scheduler Cluster) (refs : List String) :
    getClusters (s.backend order) refs = .ok (refs.map s.get) := by
  rw [getClusters, mapM_eq_ok_iff, List.forall₂_map_right_iff, List.forall₂_same]
  intro ref _
  simp only [StoredClusters.backend]
  cases s.get ref <;> rfl

abbrev pending (refs : List String) : List (String × Nat) :=
  unresolved refs (refs.map s.get)

abbrev names (refs : List String) : List String :=
  (pending s refs).map (·.1)

theorem mem_pending {s : StoredClusters} {refs : List String} {ref : String} {i : Nat} :
    (ref, i) ∈ pending s refs ↔ refs[i]? = some ref ∧ s.get ref = none := by
  rw [pending, unresolved, ← List.map_prod_left_eq_zip, List.mem_filterMap]
  apply Iff.intro
  · rintro ⟨⟨⟨ref', r⟩, i'⟩, hmem, hsome⟩
    rw [List.mem_zipIdx_iff_getElem?, List.getElem?_map, Option.map_eq_some_iff] at hmem
    obtain ⟨ref'', hi, heq⟩ := hmem
    cases heq
    simp only [Option.isNone_iff_eq_none] at hsome
    split at hsome
    next hnone =>
      cases hsome
      exact ⟨hi, hnone⟩
    · cases hsome
  · rintro ⟨hi, hnone⟩
    refine ⟨((ref, none), i), ?_, rfl⟩
    rw [List.mem_zipIdx_iff_getElem?, List.getElem?_map, hi, Option.map_some, hnone]

variable (refs : List String) {clusters : List (Option Cluster)} {items : List Cluster}

theorem map_fst_pending : names s refs = refs.filter fun ref => s.get ref = none := by
  rw [names, pending, unresolved, List.map_filterMap]
  have hfst : (fun e : (String × Option Cluster) × Nat =>
      (if e.1.2.isNone then some (e.1.1, e.2) else none).map (·.1)) =
      (fun e : String × Option Cluster => if e.2.isNone then some e.1 else none) ∘ Prod.fst := by
    funext e
    simp only [Function.comp]
    split <;> rfl
  rw [hfst, ← List.filterMap_map, List.zipIdx_map_fst, ← List.map_prod_left_eq_zip,
    List.filterMap_map, ← List.filterMap_eq_filter]
  apply List.filterMap_congr
  intro ref _
  cases h : s.get ref <;> simp [Option.guard, h]

theorem pending_nodup : (pending s refs).Nodup := by
  have hindexes : List.Sublist ((pending s refs).map (·.2))
      (((refs.zip (refs.map s.get)).zipIdx).map (·.2)) := by
    apply map_filterMap_sublist
    rintro e _ p hp
    split at hp
    · rw [← Option.some.inj hp]
    · cases hp
  rw [List.zipIdx_map_snd] at hindexes
  exact (hindexes.nodup List.nodup_range').of_map _

/-! ## The second pass -/

/-- Clusters with distinct names are placed where their names stand, and the names
    are marked as seen. -/
theorem placeByName_ok {nameIndexes : GoMap String Int} (hnodup : (items.map readName).Nodup)
    (hidx : ∀ c ∈ items, ∃ j : Nat, nameIndexes.lookup (readName c) = some (j : Int) ∧
      j < clusters.length)
    (hinj : ∀ c ∈ items, ∀ c' ∈ items,
      nameIndexes.lookup (readName c) = nameIndexes.lookup (readName c') →
      readName c = readName c') :
    ∃ clusters' nameIndexes', placeByName items (clusters, nameIndexes) =
        .ok (clusters', nameIndexes') ∧
      clusters'.length = clusters.length ∧
      (∀ name, nameIndexes'.lookup name =
        if name ∈ items.map readName then some (-1) else nameIndexes.lookup name) ∧
      (∀ j : Nat, (∀ c ∈ items, nameIndexes.lookup (readName c) ≠ some (j : Int)) →
        clusters'[j]? = clusters[j]?) ∧
      ∀ c ∈ items, ∀ j : Nat, nameIndexes.lookup (readName c) = some (j : Int) →
        clusters'[j]? = some (some c) := by
  induction items generalizing clusters nameIndexes with
  | nil => exact ⟨clusters, nameIndexes, rfl, rfl, by simp, by simp, by simp⟩
  | cons c items ih =>
    rw [List.map_cons, List.nodup_cons] at hnodup
    obtain ⟨hnew, hnodup⟩ := hnodup
    obtain ⟨⟨j, hj, hlt⟩, hidx⟩ := List.forall_mem_cons.mp hidx
    have hne : ∀ c' ∈ items, readName c' ≠ readName c :=
      fun c' hc' heq => hnew (heq ▸ List.mem_map_of_mem hc')
    have hkeep : ∀ c' ∈ items, (nameIndexes.insert (readName c) (-1)).lookup (readName c') =
        nameIndexes.lookup (readName c') := fun c' hc' => AList.lookup_insert_ne (hne c' hc')
    have hstep : placeByName (c :: items) (clusters, nameIndexes) =
        placeByName items (clusters.set j (some c), nameIndexes.insert (readName c) (-1)) := by
      simp only [placeByName, hj]
      rw [if_pos (by omega), Int.toNat_natCast]
    obtain ⟨clusters', nameIndexes', hplace, hlength, hlookup, hother, hplaced⟩ :=
      @ih (clusters.set j (some c)) (nameIndexes.insert (readName c) (-1)) hnodup
        (fun c' hc' => by
          rw [hkeep c' hc', List.length_set]
          exact hidx c' hc')
        (fun c' hc' c'' hc'' heq => by
          rw [hkeep c' hc', hkeep c'' hc''] at heq
          exact hinj c' (.tail _ hc') c'' (.tail _ hc'') heq)
    refine ⟨clusters', nameIndexes', hstep.trans hplace, ?_, ?_, ?_, ?_⟩
    · rw [hlength, List.length_set]
    · intro name
      rw [hlookup, List.map_cons]
      by_cases hname : name = readName c
      · rw [hname, if_neg hnew, AList.lookup_insert, if_pos (by simp)]
      · simp [hname, AList.lookup_insert_ne hname]
    · intro j' hj'
      obtain ⟨hc, hrest⟩ := List.forall_mem_cons.mp hj'
      have hjj' : j ≠ j' := by
        rintro rfl
        exact hc hj
      rw [hother j' fun c' hc' => hkeep c' hc' ▸ hrest c' hc', List.getElem?_set_ne hjj']
    · intro c' hc' j' hj'
      rcases List.mem_cons.mp hc' with rfl | hc'
      · have hjj' : j' = j := by
          rw [hj] at hj'
          exact_mod_cast (Option.some.inj hj').symm
        subst hjj'
        -- no later cluster is placed there
        rw [hother, List.getElem?_set_self hlt]
        intro c'' hc'' heq
        rw [hkeep c'' hc'', ← hj] at heq
        exact hne c'' hc'' (hinj c'' (.tail _ hc'') c' (by simp) heq)
      · exact hplaced c' hc' j' ((hkeep c' hc').trans hj')

/-- When a name comes up again the result is written at the index -1. -/
theorem placeByName_panics {nameIndexes : GoMap String Int}
    (hidx : ∀ c ∈ items, nameIndexes.lookup (readName c) = some (-1) ∨
      ∃ j : Nat, nameIndexes.lookup (readName c) = some (j : Int) ∧ j < clusters.length)
    (hagain : (∃ c ∈ items, nameIndexes.lookup (readName c) = some (-1)) ∨
      ¬(items.map readName).Nodup) :
    placeByName items (clusters, nameIndexes) = .error (.panicked "index out of range [-1]") := by
  induction items generalizing clusters nameIndexes with
  | nil => simp at hagain
  | cons c items ih =>
    obtain ⟨hc, hrest⟩ := List.forall_mem_cons.mp hidx
    rcases hc with hc | ⟨j, hj, hlt⟩
    · simp only [placeByName, hc]
      rfl
    · simp only [placeByName, hj]
      rw [if_pos (by omega)]
      apply ih
      · intro c' hc'
        rw [GoMap.lookup_insert_eq, List.length_set]
        split
        · exact .inl rfl
        · exact hrest c' hc'
      · rw [List.map_cons, List.nodup_cons, not_and_or, not_not] at hagain
        rcases hagain with ⟨c', hc', hseen⟩ | hdup | hdup
        · rcases List.mem_cons.mp hc' with rfl | hc'
          · rw [hj] at hseen
            exact absurd (Option.some.inj hseen) (by omega)
          · refine .inl ⟨c', hc', ?_⟩
            rw [GoMap.lookup_insert_eq, hseen, ite_self]
        · obtain ⟨c', hc', hname⟩ := List.mem_map.mp hdup
          exact .inl ⟨c', hc', by rw [GoMap.lookup_insert_eq, if_pos hname]⟩
        · exact .inr hdup

/-! ## Both passes -/

/-- No two clusters have the name of an unresolved reference. -/
def Unambiguous (refs : List String) : Prop :=
  ∀ ref, Unresolved s refs ref → ∀ c ∈ s.clusters, ∀ c' ∈ s.clusters,
    readName c = ref → readName c' = ref → c = c'

/-- No cluster has the name of some unresolved reference. -/
def SomeMissing (refs : List String) : Prop :=
  ∃ ref, Unresolved s refs ref ∧ ∀ c ∈ s.clusters, readName c ≠ ref

theorem readName_of_hasName {c : Cluster} {name : String} (h : HasName c name) :
    readName c = name := by
  rw [readName, h, Option.getD_some]

section Resolve

variable {s : StoredClusters} {order : Scheduler Cluster} {refs : List String} {c : Cluster}
  {name : String}

theorem unresolved_iff {ref : String} : Unresolved s refs ref ↔ ref ∈ names s refs := by
  rw [map_fst_pending, List.mem_filter, Unresolved, ← StoredClusters.get_eq_none]
  simp

def listed (s : StoredClusters) (order : Scheduler Cluster) (names : List String) : List Cluster :=
  order.order (s.clusters.filter (newSelectorPredicate
    { labelSelector := some (nameSelector names), emptySelectorMatchesNone := true }))

theorem mem_listed {names : List String} :
    c ∈ listed s order names ↔ c ∈ s.clusters ∧ readName c ∈ names := by
  rw [listed, (order.perm _).mem_iff, List.mem_filter, newSelectorPredicate_iff]
  simp [Selects, LabelSelector.isEmpty, nameSelector, labelSelectorMatches, matchExpressionsFrom,
    readName]

theorem nodup_listed_iff :
    ((listed s order (names s refs)).map readName).Nodup ↔
      Unambiguous s refs := by
  apply Iff.intro
  · intro hnodup ref href c hc c' hc' hname hname'
    have hmem : ∀ c ∈ s.clusters, readName c = ref →
        c ∈ listed s order (names s refs) :=
      fun c hc hname => mem_listed.mpr ⟨hc, hname ▸ unresolved_iff.mp href⟩
    exact List.inj_on_of_nodup_map hnodup (hmem c hc hname) (hmem c' hc' hname')
      (hname.trans hname'.symm)
  · intro h
    apply List.Nodup.map_on _ (((order.perm _).nodup_iff).mpr ((s.nodup.of_map _).filter _))
    intro c hc c' hc' heq
    obtain ⟨hc, hname⟩ := mem_listed.mp hc
    obtain ⟨hc', -⟩ := mem_listed.mp hc'
    exact h _ (unresolved_iff.mpr hname) c hc c' hc' rfl heq.symm

theorem exists_of_lookup_nameIndexes {v : Int}
    (h : (nameIndexes (pending s refs)).lookup name = some v) :
    ∃ j : Nat, v = j ∧ refs[j]? = some name ∧ s.get name = none := by
  obtain ⟨⟨name', j⟩, hmem, rfl, rfl⟩ := GoMap.exists_of_lookup_ofList h
  exact ⟨j, rfl, mem_pending.mp hmem⟩

theorem isSome_lookup_nameIndexes (h : Unresolved s refs name) :
    ((nameIndexes (pending s refs)).lookup name).isSome := by
  rw [unresolved_iff, List.mem_map] at h
  obtain ⟨p, hp, rfl⟩ := h
  exact AList.lookup_isSome.mpr (GoMap.mem_ofList.mpr ⟨p, hp, rfl⟩)

theorem exists_index_of_mem_listed (hc : c ∈ listed s order (names s refs)) :
    ∃ j : Nat, (nameIndexes (pending s refs)).lookup (readName c) =
      some (j : Int) ∧ j < (refs.map s.get).length := by
  obtain ⟨-, hname⟩ := mem_listed.mp hc
  obtain ⟨v, hv⟩ := Option.isSome_iff_exists.mp
    (isSome_lookup_nameIndexes (unresolved_iff.mpr hname))
  obtain ⟨j, rfl, hj, -⟩ := exists_of_lookup_nameIndexes hv
  obtain ⟨hlt, -⟩ := List.getElem?_eq_some_iff.mp hj
  exact ⟨j, hv, by rwa [List.length_map]⟩

theorem resolveClusters_eq : resolveClusters (s.backend order) refs =
    resolveNames (s.backend order) (refs.map s.get) (pending s refs) := by
  simp only [resolveClusters, getClusters_backend]
  split
  next hlength =>
    have hnil : pending s refs = [] := List.length_eq_zero_iff.mp hlength
    have hlisted : listed s order [] = [] := by
      apply List.eq_nil_iff_forall_not_mem.mpr
      intro c hc
      exact absurd (mem_listed.mp hc).2 (by simp)
    simp only [resolveNames, StoredClusters.backend, hnil, List.map_nil]
    rw [← listed, hlisted]
    rfl
  · rfl

theorem resolveClusters_panics (h : ¬Unambiguous s refs) :
    resolveClusters (s.backend order) refs =
      .error (.panicked "index out of range [-1]") := by
  rw [resolveClusters_eq]
  simp only [resolveNames, StoredClusters.backend]
  rw [← listed, placeByName_panics (fun c hc => .inr (exists_index_of_mem_listed hc))
    (.inr (mt nodup_listed_iff.mp h))]

/-- What stands at an index of the result: the cluster with the id, the cluster with
    the name, or nil, if the name stands again further on. -/
structure Placed (s : StoredClusters) (refs : List String) (clusters : List (Option Cluster)) :
    Prop where
  length_eq : clusters.length = refs.length
  by_id : ∀ (i : Nat) ref c, refs[i]? = some ref → s.get ref = some c →
    clusters[i]? = some (some c)
  by_name : ∀ (i : Nat) ref, refs[i]? = some ref → s.get ref = none →
    (nameIndexes (pending s refs)).lookup ref = some (i : Int) →
    ∃ c ∈ s.clusters, readName c = ref ∧ clusters[i]? = some (some c)
  left_nil : ∀ (i : Nat) ref, refs[i]? = some ref → s.get ref = none →
    (nameIndexes (pending s refs)).lookup ref ≠ some (i : Int) →
    clusters[i]? = some none

/-- The state after the loop over the clusters with the names. -/
structure AfterNames (s : StoredClusters) (order : Scheduler Cluster) (refs : List String)
    (clusters : List (Option Cluster)) (indexes : GoMap String Int) : Prop where
  length_eq : clusters.length = refs.length
  lookup_eq : ∀ name, indexes.lookup name =
    if name ∈ (listed s order (names s refs)).map readName then some (-1)
    else (nameIndexes (pending s refs)).lookup name
  other : ∀ i : Nat, (∀ c ∈ listed s order (names s refs),
    (nameIndexes (pending s refs)).lookup (readName c) ≠ some (i : Int)) →
    clusters[i]? = (refs.map s.get)[i]?
  placed : ∀ c ∈ listed s order (names s refs), ∀ i : Nat,
    (nameIndexes (pending s refs)).lookup (readName c) = some (i : Int) →
    clusters[i]? = some (some c)

theorem exists_afterNames (order : Scheduler Cluster) (h : Unambiguous s refs) :
    ∃ clusters indexes,
    placeByName (listed s order (names s refs)) (refs.map s.get, nameIndexes (pending s refs)) =
      .ok (clusters, indexes) ∧ AfterNames s order refs clusters indexes := by
  have hinj : ∀ c ∈ listed s order (names s refs), ∀ c' ∈ listed s order (names s refs),
      (nameIndexes (pending s refs)).lookup (readName c) =
        (nameIndexes (pending s refs)).lookup (readName c') → readName c = readName c' := by
    intro c hc c' hc' heq
    -- the index determines the name
    obtain ⟨j, hj, -⟩ := exists_index_of_mem_listed hc
    obtain ⟨j₁, hj₁, href, -⟩ := exists_of_lookup_nameIndexes hj
    obtain ⟨j₂, hj₂, href', -⟩ := exists_of_lookup_nameIndexes (heq ▸ hj)
    have hjj : j₁ = j₂ := by omega
    rw [hjj, href'] at href
    exact (Option.some.inj href).symm
  obtain ⟨clusters, indexes, hplace, hlength, hlookup, hother, hplaced⟩ :=
    placeByName_ok (nodup_listed_iff.mpr h) (fun c hc => exists_index_of_mem_listed hc) hinj
  exact ⟨clusters, indexes, hplace, by rw [hlength, List.length_map], hlookup, hother, hplaced⟩

section After

variable {clusters : List (Option Cluster)} {indexes : GoMap String Int}
  (h : AfterNames s order refs clusters indexes)

include h

theorem AfterNames.exists_of_lookup {v : Int} (hv : indexes.lookup name = some v) :
    v = -1 ∨ Unresolved s refs name ∧ ∀ c ∈ s.clusters, readName c ≠ name := by
  rw [h.lookup_eq] at hv
  split at hv
  · exact .inl (Option.some.inj hv).symm
  next hnot =>
    obtain ⟨j, -, href, hnone⟩ := exists_of_lookup_nameIndexes hv
    have hun : Unresolved s refs name :=
      ⟨List.mem_of_getElem? href, StoredClusters.get_eq_none.mp hnone⟩
    refine .inr ⟨hun, ?_⟩
    rintro c hc rfl
    exact hnot (List.mem_map_of_mem (mem_listed.mpr ⟨hc, unresolved_iff.mp hun⟩))

theorem AfterNames.missing_iff :
    (indexes.entries.filter fun e => e.2 ≠ -1).length = 0 ↔ ¬SomeMissing s refs := by
  rw [List.length_eq_zero_iff, List.filter_eq_nil_iff]
  apply Iff.intro
  · rintro hall ⟨ref, href, hno⟩
    have hnot : ref ∉ (listed s order (names s refs)).map readName := by
      intro hmem
      obtain ⟨c, hc, hname⟩ := List.mem_map.mp hmem
      exact hno c (mem_listed.mp hc).1 hname
    obtain ⟨v, hv⟩ := Option.isSome_iff_exists.mp (isSome_lookup_nameIndexes href)
    obtain ⟨j, rfl, -⟩ := exists_of_lookup_nameIndexes hv
    have hentry := h.lookup_eq ref
    rw [if_neg hnot, hv] at hentry
    have hmark := hall _ (GoMap.mem_entries.mpr hentry)
    simp at hmark
  · rintro hall ⟨name, v⟩ hentry hne
    rcases h.exists_of_lookup (GoMap.mem_entries.mp hentry) with rfl | hmissing
    · simp at hne
    · exact hall ⟨name, hmissing⟩

theorem AfterNames.kept {i : Nat} {ref : String} (href : refs[i]? = some ref)
    (hlookup : (nameIndexes (pending s refs)).lookup ref ≠ some (i : Int)) :
    clusters[i]? = some (s.get ref) := by
  rw [h.other, List.getElem?_map, href, Option.map_some]
  intro c _ hc
  obtain ⟨j, hj, href', -⟩ := exists_of_lookup_nameIndexes hc
  have hji : j = i := by omega
  rw [hji, href] at href'
  exact hlookup (Option.some.inj href' ▸ hc)

theorem AfterNames.placed_of_not_missing (hnone : ¬SomeMissing s refs) :
    Placed s refs clusters where
  length_eq := h.length_eq
  by_id := by
    intro i ref c href hget
    rw [h.kept href, hget]
    intro hlookup
    obtain ⟨-, -, -, hnone⟩ := exists_of_lookup_nameIndexes hlookup
    rw [hget] at hnone
    cases hnone
  by_name := by
    intro i ref href hget hlookup
    have hun : Unresolved s refs ref :=
      ⟨List.mem_of_getElem? href, StoredClusters.get_eq_none.mp hget⟩
    have hexists : ∃ c ∈ s.clusters, readName c = ref := by
      by_contra hno
      exact hnone ⟨ref, hun, fun c hc heq => hno ⟨c, hc, heq⟩⟩
    obtain ⟨c, hc, rfl⟩ := hexists
    exact ⟨c, hc, rfl, h.placed c (mem_listed.mpr ⟨hc, unresolved_iff.mp hun⟩) i hlookup⟩
  left_nil := by
    intro i ref href hget hlookup
    rw [h.kept href hlookup, hget]

end After

theorem resolveClusters_unambiguous (order : Scheduler Cluster) (h : Unambiguous s refs) :
    (SomeMissing s refs → ∃ msg, resolveClusters (s.backend order) refs =
      .error (.status ⟨.notFound, msg⟩)) ∧
    (¬SomeMissing s refs → ∃ clusters, resolveClusters (s.backend order) refs = .ok clusters ∧
      Placed s refs clusters) := by
  obtain ⟨clusters, indexes, hplace, hafter⟩ := exists_afterNames order h
  have hresult : resolveClusters (s.backend order) refs =
      if (indexes.entries.filter fun e => e.2 ≠ -1).length = 0 then .ok clusters
      else .error (.status (namesNotFound (names s refs)
        (indexes.entries.filter fun e => e.2 ≠ -1).length)) := by
    rw [resolveClusters_eq]
    simp only [resolveNames, StoredClusters.backend]
    rw [← listed, hplace]
  rw [hresult]
  refine ⟨?_, ?_⟩
  · intro hsome
    rw [if_neg (mt hafter.missing_iff.mp (not_not.mpr hsome)), namesNotFound]
    split
    · exact ⟨_, rfl⟩
    · exact ⟨_, rfl⟩
  · intro hnone
    rw [if_pos (hafter.missing_iff.mpr hnone)]
    exact ⟨clusters, rfl, hafter.placed_of_not_missing hnone⟩

theorem nodup_iff_lookup : (refs.filter fun ref => s.get ref = none).Nodup ↔
    ∀ (i : Nat) ref, refs[i]? = some ref → s.get ref = none →
      (nameIndexes (pending s refs)).lookup ref = some (i : Int) := by
  rw [← map_fst_pending]
  apply Iff.intro
  · intro hnodup i ref href hget
    exact (GoMap.lookup_ofList_eq_some hnodup).mpr
      ⟨(ref, i), mem_pending.mpr ⟨href, hget⟩, rfl, rfl⟩
  · intro hall
    apply (pending_nodup s refs).map_on
    rintro ⟨ref, i⟩ hi ⟨ref', j⟩ hj rfl
    obtain ⟨href, hget⟩ := mem_pending.mp hi
    obtain ⟨href', -⟩ := mem_pending.mp hj
    have hij := (hall i ref href hget).symm.trans (hall j ref href' hget)
    rw [show i = j by exact_mod_cast Option.some.inj hij]

theorem resolvesCorrectly_of_missing (h : Unambiguous s refs) {msg : String}
    {result : Except ResolveFailure (List (Option Cluster))}
    (hresult : result = .error (.status ⟨.notFound, msg⟩)) : ResolvesCorrectly s refs result where
  no_panic := by simp [hresult]
  resolved := by simp [hresult]
  not_found := fun _ _ _ => ⟨msg, hresult⟩
  ambiguous := by
    rintro ref href ⟨c, hc, c', hc', hne, hname, hname'⟩
    exact absurd (h ref href c hc c' hc' (readName_of_hasName hname) (readName_of_hasName hname'))
      hne

/-- When all names are placed, the result is right if they are distinct and each is
    the label of a cluster. -/
theorem resolvesCorrectly_of_placed (h : Unambiguous s refs) (hplaced : Placed s refs clusters) :
    ResolvesCorrectly s refs (.ok clusters) ↔
      (refs.filter fun ref => s.get ref = none).Nodup ∧
        ∀ ref, Unresolved s refs ref → ∃ c ∈ s.clusters, HasName c ref := by
  rw [nodup_iff_lookup]
  apply Iff.intro
  · intro hcorrect
    obtain ⟨-, hresolved⟩ := hcorrect.resolved clusters rfl
    refine ⟨?_, ?_⟩
    · intro i ref href hget
      by_contra hlookup
      obtain ⟨c, -, hc, -⟩ := hresolved i ref href
      rw [hplaced.left_nil i ref href hget hlookup] at hc
      cases hc
    · intro ref href
      by_contra hno
      obtain ⟨msg, hmsg⟩ := hcorrect.not_found ref href fun c hc hname => hno ⟨c, hc, hname⟩
      cases hmsg
  · rintro ⟨hlookup, hlabels⟩
    refine ⟨by simp, ?_, ?_, ?_⟩
    · intro clusters' hok
      cases hok
      refine ⟨hplaced.length_eq, ?_⟩
      intro i ref href
      cases hget : s.get ref with
      | some c =>
        exact ⟨c, List.mem_of_find?_eq_some hget, hplaced.by_id i ref c href hget,
          .inl (by simpa using List.find?_some hget)⟩
      | none =>
        have hno := StoredClusters.get_eq_none.mp hget
        have hun : Unresolved s refs ref := ⟨List.mem_of_getElem? href, hno⟩
        obtain ⟨c, hc, hname, hat⟩ := hplaced.by_name i ref href hget (hlookup i ref href hget)
        -- the one cluster that reads as the name is the one that has the label
        obtain ⟨c', hc', hname'⟩ := hlabels ref hun
        obtain rfl := h ref hun c hc c' hc' hname (readName_of_hasName hname')
        exact ⟨c, hc, hat, .inr ⟨hno, hname'⟩⟩
    · intro ref href hno
      obtain ⟨c, hc, hname⟩ := hlabels ref href
      exact absurd hname (hno c hc)
    · rintro ref href ⟨c, hc, c', hc', hne, hname, hname'⟩
      exact absurd (h ref href c hc c' hc' (readName_of_hasName hname)
        (readName_of_hasName hname')) hne

end Resolve

/-- `resolveClusters` is right exactly if no unresolved reference is the name of two
    clusters, and either some unresolved reference is the name of no cluster, or the
    unresolved references are distinct and each is the label of a cluster (which
    only excludes an empty reference to a cluster without the label). -/
theorem resolveClusters_correct_iff (s : StoredClusters) (order : Scheduler Cluster)
    (refs : List String) :
    ResolvesCorrectly s refs (resolveClusters (s.backend order) refs) ↔
      Unambiguous s refs ∧ (SomeMissing s refs ∨
        (refs.filter fun ref => s.get ref = none).Nodup ∧
          ∀ ref, Unresolved s refs ref → ∃ c ∈ s.clusters, HasName c ref) := by
  by_cases h : Unambiguous s refs
  · rw [and_iff_right h]
    obtain ⟨hmissing, hfound⟩ := resolveClusters_unambiguous order h
    by_cases hsome : SomeMissing s refs
    · obtain ⟨msg, hresult⟩ := hmissing hsome
      exact iff_of_true (resolvesCorrectly_of_missing h hresult) (.inl hsome)
    · obtain ⟨clusters, hresult, hplaced⟩ := hfound hsome
      rw [hresult, or_iff_right hsome]
      exact resolvesCorrectly_of_placed h hplaced
  · apply iff_of_false
    · intro hcorrect
      exact hcorrect.no_panic _ (resolveClusters_panics h)
    · exact fun hcond => h hcond.1

/-- A name of two clusters makes the function panic, and a name that is given twice
    leaves a nil. -/
theorem resolveClusters_ambiguous_and_repeated :
    let s : StoredClusters := ⟨[⟨"1", AList.singleton nameLabel "a", ""⟩,
      ⟨"2", AList.singleton nameLabel "b", ""⟩, ⟨"3", AList.singleton nameLabel "b", ""⟩],
      by decide⟩
    ¬ResolvesCorrectly s ["b"] (resolveClusters (s.backend (.inOrder _)) ["b"]) ∧
      ¬ResolvesCorrectly s ["a", "a"] (resolveClusters (s.backend (.inOrder _)) ["a", "a"]) := by
  refine ⟨?_, ?_⟩
  · intro h
    exact h.no_panic "index out of range [-1]" rfl
  · intro h
    obtain ⟨-, hresolved⟩ := h.resolved [none, some ⟨"1", AList.singleton nameLabel "a", ""⟩] rfl
    obtain ⟨c, -, hc, -⟩ := hresolved 0 "a" rfl
    cases hc

end Opni.Management
