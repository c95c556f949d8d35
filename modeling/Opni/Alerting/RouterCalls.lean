/-
  Opni.Alerting.RouterCalls

  What the calls that change an `OpniRouterV1` have checked and done when they
  succeed, and when they do.
-/

import Opni.Alerting.Router

namespace Opni.Alerting

open Lib

/-! ## Filling a map with receivers -/

theorem validateAll_eq_ok_iff {α : Type} {check : α → Except Status Unit} {l : List α} :
    validateAll check l = .ok () ↔ ∀ x ∈ l, check x = .ok () := by
  induction l with
  | nil => simp [validateAll]
  | cons x l ih =>
    rw [validateAll, List.forall_mem_cons]
    cases hx : check x with
    | error err => simp
    | ok _ => simpa using ih

variable {lib : Parsers} {details : Option EndpointImplementation}
  {specs : List (String × AlertEndpoint)}

theorem exists_fillReceivers
    (h : ∀ s ∈ specs, ∃ r, newReceiverImplementationFromEndpoint lib s.2 details = .ok r) :
    ∃ m, fillReceivers lib details specs = .ok m := by
  obtain ⟨rs, hrs, -⟩ := exists_mapM (f := fun s : String × AlertEndpoint =>
    (newReceiverImplementationFromEndpoint lib s.2 details).map (Prod.mk s.1)) fun s hs => by
      obtain ⟨r, hr⟩ := h s hs
      exact ⟨(s.1, r), by rw [hr]; rfl⟩
  exact ⟨_, map_eq_ok_iff.mpr ⟨rs, hrs, rfl⟩⟩

theorem values_of_fillReceivers {m : GoMap String OpniReceiver}
    (h : fillReceivers lib details specs = .ok m) (hnd : (specs.map Prod.fst).Nodup) :
    ∃ rs, List.Forall₂
        (fun (s : String × AlertEndpoint) r =>
          newReceiverImplementationFromEndpoint lib s.2 details = .ok r) specs rs ∧
      (m.entries.map Sigma.snd).Perm rs := by
  obtain ⟨rs, hrs, rfl⟩ := map_eq_ok_iff.mp h
  have hrel := mapM_eq_ok_iff.mp hrs
  -- the pairs written are those of the specs, each under the spec's own key
  have hpairs : List.Forall₂ (fun (s : String × AlertEndpoint) (r : String × OpniReceiver) =>
      r.1 = s.1 ∧ newReceiverImplementationFromEndpoint lib s.2 details = .ok r.2) specs rs := by
    refine hrel.imp fun s r heq => ?_
    obtain ⟨recv, hrecv, rfl⟩ := map_eq_ok_iff.mp heq
    exact ⟨rfl, hrecv⟩
  have hkeys : rs.map Prod.fst = specs.map Prod.fst :=
    map_eq_of_forall₂ hpairs fun _ _ _ hx => hx.1
  refine ⟨rs.map Prod.snd, ?_, ?_⟩
  · rw [List.forall₂_map_right_iff]
    exact hpairs.imp fun _ _ hx => hx.2
  · have hperm : ((GoMap.ofList Prod.fst Prod.snd rs).entries.map Sigma.snd).Perm _ :=
      (GoMap.entries_ofList_perm (hkeys ▸ hnd)).map Sigma.snd
    simpa [List.map_map, Function.comp_def] using hperm

namespace OpniRouterV1

variable {lib : Parsers} {m : GoMap String OpniReceiver} {ns : String}
  {specs : FullAttachedEndpoints} {β : Type}

theorem mem_of_fillReceivers {specs : List (String × AlertEndpoint)}
    (h : fillReceivers lib details specs = .ok m) {k : String} : k ∈ m ↔ ∃ s ∈ specs, s.1 = k := by
  obtain ⟨rs, hrs, rfl⟩ := map_eq_ok_iff.mp h
  have hrel := mapM_eq_ok_iff.mp hrs
  rw [GoMap.mem_ofList]
  constructor
  · rintro ⟨r, hr, rfl⟩
    obtain ⟨s, hs, heq⟩ := exists_left_of_forall₂ hrel hr
    obtain ⟨recv, -, rfl⟩ := map_eq_ok_iff.mp heq
    exact ⟨s, hs, rfl⟩
  · rintro ⟨s, hs, rfl⟩
    obtain ⟨r, hr, heq⟩ := exists_right_of_forall₂ hrel hs
    obtain ⟨recv, -, rfl⟩ := map_eq_ok_iff.mp heq
    exact ⟨_, hr, rfl⟩

theorem keys_ne_nil_iff {m : GoMap String β} : m.keys ≠ [] ↔ ∃ k, k ∈ m := by
  exact ⟨List.exists_mem_of_ne_nil _, fun ⟨_, hk⟩ => List.ne_nil_of_mem hk⟩

/-! ## The routes of a namespace -/

theorem setNamespaceSpec_eq_ok {o o' : OpniRouterV1} {routeId : String}
    (h : o.setNamespaceSpec lib ns routeId specs = .ok o') :
    ns ≠ "" ∧ ns ≠ defaultSubTreeLabel ∧ ∃ receivers,
      fillReceivers lib specs.details (specs.items.map itemSpec) = .ok receivers ∧
      o'.namespacedSpecs = o.namespacedSpecs.insert ns ((o.routes ns).insert routeId receivers) ∧
      o'.defaultNamespaceConfigs = o.defaultNamespaceConfigs ∧
      o'.syncedConfig = o.syncedConfig ∧ o'.hookEndpoint = o.hookEndpoint := by
  revert h
  fun_cases setNamespaceSpec lib o ns routeId specs with
  | case5 hempty hdefault _ receivers hfill =>
    rintro ⟨⟩
    exact ⟨hempty, hdefault, receivers, hfill, rfl, rfl, rfl, rfl⟩
  | _ => exact nofun

section Insert

variable {o o' : OpniRouterV1} {ns routeId : String} {m : GoMap String OpniReceiver}
  (hspecs : o'.namespacedSpecs = o.namespacedSpecs.insert ns ((o.routes ns).insert routeId m))
  {ns' r : String}

include hspecs

theorem routes_insert (ns' : String) :
    o'.routes ns' = if ns' = ns then (o.routes ns).insert routeId m else o.routes ns' := by
  split
  next h => rw [h, routes, hspecs, AList.lookup_insert, Option.getD_some]
  next h => rw [routes, hspecs, AList.lookup_insert_ne h, routes]

theorem mem_routes_insert : r ∈ o'.routes ns' ↔ (ns' = ns ∧ r = routeId) ∨ r ∈ o.routes ns' := by
  rw [routes_insert hspecs]
  split
  next h => rw [AList.mem_insert, h]; simp
  next h => simp [h]

theorem endpoints_insert_self : o'.endpoints ns routeId = m := by
  rw [endpoints, routes_insert hspecs, if_pos rfl, AList.lookup_insert, Option.getD_some]

theorem endpoints_insert_ne (h : ¬(ns' = ns ∧ r = routeId)) :
    o'.endpoints ns' r = o.endpoints ns' r := by
  rw [endpoints, routes_insert hspecs, endpoints]
  split
  next hns =>
    have hr : r ≠ routeId := fun hr => h ⟨hns, hr⟩
    rw [AList.lookup_insert_ne hr, hns]
  next => rfl

end Insert

/-! ## The default receivers -/

variable {lib : Parsers} {endps : List AlertEndpoint} {o o' : OpniRouterV1} {id k : String}
  {spec : AlertEndpoint}

/-- The loop of `SetDefaultNamespaceConfig` only writes maps with endpoints. -/
theorem setDefaultValues_eq_ok
    {vals : List DefaultRouteValues} (h : setDefaultValues lib endps vals o = .ok o') :
    o'.namespacedSpecs = o.namespacedSpecs ∧ o'.syncedConfig = o.syncedConfig ∧
      o'.hookEndpoint = o.hookEndpoint ∧
      ∀ value m, o'.defaultNamespaceConfigs.lookup value = some m →
        o.defaultNamespaceConfigs.lookup value = some m ∨ m.keys ≠ [] := by
  induction vals generalizing o with
  | nil =>
    cases h
    exact ⟨rfl, rfl, rfl, fun value m hm => .inl hm⟩
  | cons val vals ih =>
    rw [setDefaultValues] at h
    split at h
    · -- no endpoints: the source deletes this severity and returns from the loop
      cases h
      exact ⟨rfl, rfl, rfl, fun value m hm => .inl (GoMap.lookup_erase_eq_some.mp hm).2⟩
    next hlen =>
      split at h
      · cases h
      · split at h
        · cases h
        next receivers hfill =>
          obtain ⟨hspecs, hsync, hhook, hdefault⟩ := ih h
          refine ⟨hspecs, hsync, hhook, fun value m hm => ?_⟩
          rcases hdefault value m hm with hm | hm
          · -- not written by the later iterations: this one wrote it, or none did
            rcases GoMap.lookup_insert_eq_some.mp hm with ⟨rfl, rfl⟩ | ⟨-, hm⟩
            · obtain ⟨e, he⟩ := List.exists_mem_of_ne_nil endps (by simpa using hlen)
              refine .inr (keys_ne_nil_iff.mpr ⟨e.id, ?_⟩)
              exact (mem_of_fillReceivers hfill).mpr ⟨(e.id, e), List.mem_map_of_mem he, rfl⟩
            · exact .inl hm
          · exact .inr hm

theorem exists_setDefaultValues
    (hvalid : ∀ e ∈ endps, e.validate lib = .ok ()) (hparse : ∀ e ∈ endps, e.Parseable lib)
    (vals : List DefaultRouteValues) (o : OpniRouterV1) :
    ∃ o', setDefaultValues lib endps vals o = .ok o' := by
  induction vals generalizing o with
  | nil => exact ⟨o, rfl⟩
  | cons val vals ih =>
    rw [setDefaultValues]
    split
    · exact ⟨_, rfl⟩
    · obtain ⟨m, hm⟩ : ∃ m, fillReceivers lib (some defaultDetails)
          (endps.map fun e => (e.id, e)) = .ok m := by
        refine exists_fillReceivers fun s hs => ?_
        obtain ⟨e, he, rfl⟩ := List.mem_map.mp hs
        exact newReceiverImplementationFromEndpoint_ok (hvalid e he) (hparse e he) _
      rw [validateAll_eq_ok_iff.mpr hvalid, hm]
      exact ih _

/-! ## Updates -/

theorem mem_of_updateReceivers {m' : GoMap String OpniReceiver}
    (h : updateReceivers lib id spec m = .ok m') : k ∈ m' ↔ k ∈ m := by
  unfold updateReceivers at h
  split at h
  · rw [Except.ok.inj h]
  next r hr =>
    obtain ⟨r', -, rfl⟩ := map_eq_ok_iff.mp h
    rw [AList.mem_insert]
    constructor
    · rintro (rfl | hk)
      · -- the receiver is only replaced where the id was a key
        exact GoMap.mem_iff.mpr ⟨_, hr⟩
      · exact hk
    · exact .inr

theorem mem_iff_exists_lookup {m : GoMap String β} : k ∈ m ↔ ∃ v, m.lookup k = some v := by
  rw [GoMap.mem_iff]

theorem updateEndpoint_eq_ok (h : o.updateEndpoint lib id spec = .ok o') :
    (o.namespacedSpecs.mapM fun routes => routes.mapM (updateReceivers lib id spec)) =
        .ok o'.namespacedSpecs ∧
      o.defaultNamespaceConfigs.mapM (updateReceivers lib id spec) =
        .ok o'.defaultNamespaceConfigs ∧
      o'.syncedConfig = o.syncedConfig ∧ o'.hookEndpoint = o.hookEndpoint := by
  revert h
  fun_cases updateEndpoint lib o id spec with
  | case4 _ specs hspecs defaults hdefaults =>
    rintro ⟨⟩
    exact ⟨hspecs, hdefaults, rfl, rfl⟩
  | _ => exact nofun

end OpniRouterV1

end Opni.Alerting
