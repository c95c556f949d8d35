/-
  Opni.Alerting.ForceSync

  What `ForceSync` computes from stores that the API calls have written.  The
  calls keep the stores consistent, and from consistent stores every condition
  gets a route of its own (`Stores.Consistent`, `Routed`).
-/

import Opni.Alerting.BuildConfig
import Opni.Alerting.Clientset

namespace Opni.Alerting

open Lib

/-! ## Consistent stores -/

variable (lib : AlertingLibs)

/-- A call after which every stored condition carries its key as its id: an
    update names the condition by a plain id and repeats it in the condition.
    The URL of a created Slack endpoint is one that `url.Parse` accepts. -/
def Call.Consistent : Call → Prop
  | .createAlertEndpoint _ req => req.Parseable lib.toParsers
  | .updateAlertCondition (some id) updateAlert => PlainName id ∧ updateAlert.id = id
  | _ => True

/-- Stores in which everything is filed under its own id, and has been
    validated. -/
structure Stores.Consistent (st : Stores) : Prop where
  condition : ∀ p c, st.conditions.kv.lookup p = some c →
    PlainName c.id ∧ p = st.conditions.key c.id ∧ c.Valid
  endpoint : ∀ p e, st.endpoints.kv.lookup p = some e →
    PlainName e.id ∧ p = st.endpoints.key e.id ∧
      e.validate lib.toParsers = .ok () ∧ e.Parseable lib.toParsers

theorem AlertingStorage.lookup_put {V : Type} {j : AlertingStorage V} {k : String} {v v' : V}
    {p : Path} (h : (j.put k v).kv.lookup p = some v') :
    (p = j.key k ∧ v' = v) ∨ j.kv.lookup p = some v' := by
  rcases GoMap.lookup_insert_eq_some.mp h with ⟨hp, rfl⟩ | ⟨-, h⟩
  · exact .inl ⟨hp, rfl⟩
  · exact .inr h

/-- The endpoints that a call on the alarms attaches. -/
def Call.attached : Call → List AttachedEndpoint
  | .createAlertCondition _ req => req.attached
  | .updateAlertCondition _ updateAlert => updateAlert.attached
  | .cloneTo _ _ cond => cond.attached
  | .createAlertEndpoint .. | .deleteAlertCondition _ => []

/-- A condition as a call stores it, and the id it is stored under. -/
structure Call.Puts (call : Call) (id : String) (c : AlertCondition) : Prop where
  valid : c.Valid
  attached : c.attached = call.attached
  filed : call.Consistent lib → PlainName id ∧ c.id = id

variable {lib : AlertingLibs} {st st' : Stores} {newId : RefId}

theorem createAlertCondition_eq_ok {req : AlertCondition}
    (h : createAlertCondition lib st newId req = .ok st') :
    ∃ c : AlertCondition, c.Valid ∧ c.attached = req.attached ∧ c.id = newId.1 ∧
      st' = { st with conditions := st.conditions.put newId.1 c } := by
  unfold createAlertCondition at h
  split at h
  · cases h
  next req' hvalidate =>
    have hvalid := AlertCondition.valid_of_validate hvalidate
    obtain ⟨alertType, -, rfl, -⟩ := AlertCondition.validate_eq_ok hvalidate
    exact ⟨{ req with id := newId.1, alertType := alertType },
      ⟨hvalid.ns_ne_default, hvalid.attached_valid⟩, rfl, rfl, (Except.ok.inj h).symm⟩

theorem AlertCondition.attached_setClusterId {c c' : AlertCondition} {cluster : String}
    (h : c.setClusterId cluster = .ok c') : c'.attached = c.attached := by
  unfold setClusterId at h
  split at h
  all_goals first
    | exact (Except.ok.inj h) ▸ rfl
    | cases h

section Rule

variable {P : Stores → Prop} (h : P st)

include h

theorem createClones_rule {cond : AlertCondition} {toClusters : List (String × RefId)}
    (hput : ∀ {st c} {newId : RefId}, P st → c.Valid → c.attached = cond.attached →
      c.id = newId.1 → P { st with conditions := st.conditions.put newId.1 c })
    (hcall : createClones lib cond toClusters st = .ok st') : P st' := by
  induction toClusters generalizing st with
  | nil =>
    cases hcall
    exact h
  | cons target toClusters ih =>
    rw [createClones] at hcall
    split at hcall
    · cases hcall
    next st₁ hcreate =>
      obtain ⟨c, hvalid, hattached, hid, rfl⟩ := createAlertCondition_eq_ok hcreate
      refine ih (hput h hvalid (hattached.trans ?_) hid) hcall
      split
      next clone hclone => exact AlertCondition.attached_setClusterId hclone
      · rfl

/-- A call on the alarms keeps what is kept when an endpoint or a condition is stored, and when
    a condition is deleted. -/
theorem Stores.step_rule {call : Call}
    (hendpoint : ∀ {newId req}, call = .createAlertEndpoint newId req →
      req.validate lib.toParsers = .ok () →
      P { st with endpoints := st.endpoints.put newId.1 { req with id := newId.1 } })
    (hcondition : ∀ {st id c}, P st → call.Puts lib id c →
      P { st with conditions := st.conditions.put id c })
    (hdelete : ∀ id, P { st with conditions := st.conditions.delete id })
    (hstep : st.step lib call = .ok st') : P st' := by
  cases call with
  | createAlertEndpoint newId req =>
    rw [Stores.step, createAlertEndpoint] at hstep
    split at hstep
    · cases hstep
    next hvalidate => exact Except.ok.inj hstep ▸ hendpoint rfl hvalidate
  | createAlertCondition newId req =>
    obtain ⟨c, hvalid, hattached, hid, rfl⟩ := createAlertCondition_eq_ok hstep
    exact hcondition h ⟨hvalid, hattached, fun _ => ⟨newId.2, hid⟩⟩
  | updateAlertCondition id updateAlert =>
    rw [Stores.step] at hstep
    revert hstep
    fun_cases updateAlertCondition lib st id updateAlert with
    | case4 id _ updateAlert' hvalidate =>
      rintro ⟨⟩
      have hvalid := AlertCondition.valid_of_validate hvalidate
      obtain ⟨alertType, -, rfl, -⟩ := AlertCondition.validate_eq_ok hvalidate
      exact hcondition h ⟨hvalid, rfl, fun hcons => hcons⟩
    | _ => exact nofun
  | deleteAlertCondition id =>
    rw [Stores.step, deleteAlertCondition] at hstep
    split at hstep
    · cases hstep
    · exact Except.ok.inj hstep ▸ hdelete id
  | cloneTo clusters toClusters cond =>
    rw [Stores.step] at hstep
    revert hstep
    fun_cases cloneTo lib st clusters toClusters cond with
    | case4 _ cond' hvalidate =>
      obtain ⟨alertType, -, rfl, -⟩ := AlertCondition.validate_eq_ok hvalidate
      exact createClones_rule h fun {_ _ newId} h hvalid hattached hid =>
        hcondition h ⟨hvalid, hattached, fun _ => ⟨newId.2, hid⟩⟩
    | _ => exact nofun

end Rule

namespace Stores.Consistent

theorem empty : Stores.empty.Consistent lib where
  condition p c h := absurd h (by simp [Stores.empty, AlertingStorage.empty])
  endpoint p e h := absurd h (by simp [Stores.empty, AlertingStorage.empty])

variable (h : st.Consistent lib)

include h

theorem putCondition {c : AlertCondition} (hplain : PlainName c.id) (hvalid : c.Valid) :
    ({ st with conditions := st.conditions.put c.id c } : Stores).Consistent lib where
  condition p c' hlookup := by
    rcases AlertingStorage.lookup_put hlookup with ⟨rfl, rfl⟩ | hold
    · exact ⟨hplain, rfl, hvalid⟩
    · exact h.condition p c' hold
  endpoint := h.endpoint

theorem step {call : Call} (hcons : call.Consistent lib)
    (hstep : st.step lib call = .ok st') : st'.Consistent lib := by
  refine Stores.step_rule h ?_ ?_ (fun id => ?_) hstep
  · rintro newId req rfl hvalidate
    refine ⟨h.condition, fun p e hlookup => ?_⟩
    rcases AlertingStorage.lookup_put hlookup with ⟨rfl, rfl⟩ | hold
    · exact ⟨newId.2, rfl, AlertEndpoint.validate_id newId.1 hvalidate, hcons⟩
    · exact h.endpoint p e hold
  · intro st id c h hput
    obtain ⟨hplain, rfl⟩ := hput.filed hcons
    exact h.putCondition hplain hput.valid
  · exact ⟨fun p c hlookup => h.condition p c (GoMap.lookup_erase_eq_some.mp hlookup).2, h.endpoint⟩

theorem run {calls : List Call} (hcons : ∀ call ∈ calls, call.Consistent lib)
    (hrun : Stores.run lib calls st = .ok st') : st'.Consistent lib := by
  induction calls generalizing st with
  | nil =>
    cases hrun
    exact h
  | cons call calls ih =>
    rw [Stores.run] at hrun
    split at hrun
    · cases hrun
    next st₁ hstep =>
      exact ih (h.step (hcons call (by simp)) hstep)
        (fun call hmem => hcons call (.tail _ hmem)) hrun

end Stores.Consistent

/-! ## The routes of the conditions -/

/-- The endpoints of a condition, in the order of the condition. -/
def EndpointsFor (endpMap : GoMap String AlertEndpoint) (c : AlertCondition)
    (endps : List AlertEndpoint) : Prop :=
  List.Forall₂ (fun item e => endpMap.lookup item.endpointId = some e) c.attached endps

/-- The map of receivers made for a condition: one for each of its endpoints. -/
def ReceiversFor (lib : Parsers) (endpMap : GoMap String AlertEndpoint) (c : AlertCondition)
    (m : GoMap String OpniReceiver) : Prop :=
  ∃ specs, conditionSpecs endpMap c = .ok specs ∧
    (∀ item ∈ specs.items, item.validate lib = .ok ()) ∧
    fillReceivers lib specs.details (specs.items.map OpniRouterV1.itemSpec) = .ok m

/-- Endpoints that are found under their own ids, are valid and parse. -/
structure EndpointMap (lib : Parsers) (endpMap : GoMap String AlertEndpoint) : Prop where
  id_eq : ∀ k e, endpMap.lookup k = some e → e.id = k
  valid : ∀ k e, endpMap.lookup k = some e → e.validate lib = .ok ()
  parseable : ∀ k e, endpMap.lookup k = some e → e.Parseable lib

variable {endpMap : GoMap String AlertEndpoint} {c : AlertCondition} {endps : List AlertEndpoint}
  {lib : Parsers}

theorem items_convert {req : AttachedEndpoints} (hid : ∀ k e, endpMap.lookup k = some e → e.id = k)
    (hnd : (req.items.map (·.endpointId)).Nodup)
    (hrel : List.Forall₂ (fun item e => endpMap.lookup item.endpointId = some e) req.items endps) :
    (convertEndpointIdsToRoutingNode endps req).items =
      endps.map fun e => ⟨e.id, some e, req.details⟩ := by
  rw [convertEndpointIdsToRoutingNode, ← List.flatMap_pure_eq_map]
  apply List.flatMap_congr
  intro e he
  obtain ⟨item, hitem, hlookup⟩ := exists_left_of_forall₂ hrel he
  have hfilter := filter_key_eq hnd hitem
  rw [← hid _ _ hlookup] at hfilter
  rw [hfilter]
  rfl

/-- What is computed for a condition whose endpoints have been found. -/
structure Specs (endpMap : GoMap String AlertEndpoint) (c : AlertCondition)
    (endps : List AlertEndpoint) (details : EndpointImplementation)
    (specs : FullAttachedEndpoints) :
    Prop where
  eq_ok : conditionSpecs endpMap c = .ok specs
  details_eq : specs.details = some details
  details_valid : details.validate = .ok ()
  attached_details : c.attachedEndpoints.bind (·.details) = some details
  items : specs.items = endps.map fun e => ⟨e.id, some e, some details⟩
  ids_ne : ∀ e ∈ endps, e.id ≠ ""
  ids_nodup : (endps.map (·.id)).Nodup

theorem exists_specs (hid : ∀ k e, endpMap.lookup k = some e → e.id = k)
    (hvalid : c.Valid) (hrel : EndpointsFor endpMap c endps) (hne : c.attached ≠ []) :
    ∃ details specs, Specs endpMap c endps details specs := by
  cases hreq : c.attachedEndpoints with
  | none => exact absurd (by simp [AlertCondition.attached, hreq]) hne
  | some req =>
    simp only [EndpointsFor, AlertCondition.attached, hreq, Option.map_some, Option.getD_some]
      at hrel hne
    have hmapM : req.items.mapM (findEndpoint endpMap) = .ok endps := by
      rw [mapM_eq_ok_iff]
      refine hrel.imp fun item e hlookup => ?_
      rw [findEndpoint, hlookup]
    have hreqvalid := hvalid.attached_valid req hreq
    obtain ⟨details, hdetails, hdvalid⟩ := hreqvalid.details
    have hids : req.items.map (·.endpointId) = endps.map (·.id) := by
      rw [← List.forall₂_eq_eq_eq, List.forall₂_map_left_iff, List.forall₂_map_right_iff]
      exact hrel.imp fun item e hlookup => (hid _ _ hlookup).symm
    refine ⟨details, convertEndpointIdsToRoutingNode endps req, ?_, hdetails, hdvalid, ?_, ?_, ?_,
      ?_⟩
    · simp only [conditionSpecs, hreq, List.length_eq_zero_iff, hne, hmapM]
      rfl
    · simp [hreq, hdetails]
    · rw [items_convert hid hreqvalid.ids_nodup hrel, hdetails]
    · intro e he
      obtain ⟨item, hitem, hlookup⟩ := exists_left_of_forall₂ hrel he
      rw [hid _ _ hlookup]
      exact hreqvalid.ids_ne item hitem
    · rw [← hids]
      exact hreqvalid.ids_nodup

/-- A valid condition whose endpoints are found gets a map of receivers. -/
theorem exists_receiversFor (hmap : EndpointMap lib endpMap) (hvalid : c.Valid)
    (hfound : ∀ item ∈ c.attached, ∃ e, endpMap.lookup item.endpointId = some e) :
    ∃ m, ReceiversFor lib endpMap c m := by
  by_cases hne : c.attached = []
  · -- the route is registered without receivers
    have hspecs : conditionSpecs endpMap c = .ok {} := by
      unfold conditionSpecs
      split
      · rfl
      next req hreq =>
        have hitems : req.items = [] := by simpa [AlertCondition.attached, hreq] using hne
        rw [if_pos (by simp [hitems])]
    exact ⟨_, {}, hspecs, by simp, rfl⟩
  · obtain ⟨endps, hrel⟩ := exists_forall₂ hfound
    obtain ⟨details, specs, hspecs⟩ := exists_specs hmap.id_eq hvalid hrel hne
    have hendps : ∀ e ∈ endps, e.validate lib = .ok () ∧ e.Parseable lib := by
      intro e he
      obtain ⟨item, hitem, hlookup⟩ := exists_left_of_forall₂ hrel he
      exact ⟨hmap.valid _ _ hlookup, hmap.parseable _ _ hlookup⟩
    obtain ⟨m, hm⟩ : ∃ m, fillReceivers lib (some details)
        (specs.items.map OpniRouterV1.itemSpec) = .ok m := by
      refine exists_fillReceivers fun s hs => ?_
      rw [hspecs.items, List.map_map] at hs
      obtain ⟨e, he, rfl⟩ := List.mem_map.mp hs
      exact newReceiverImplementationFromEndpoint_ok (hendps e he).1 (hendps e he).2 details
    refine ⟨m, specs, hspecs.eq_ok, fun item hmem => ?_, hspecs.details_eq ▸ hm⟩
    rw [hspecs.items] at hmem
    obtain ⟨e, he, rfl⟩ := List.mem_map.mp hmem
    simp [FullAttachedEndpoint.validate, hspecs.ids_ne e he, (hendps e he).1, hspecs.details_valid]

theorem ReceiversFor.values {m : GoMap String OpniReceiver} (h : ReceiversFor lib endpMap c m)
    (hid : ∀ k e, endpMap.lookup k = some e → e.id = k) (hvalid : c.Valid)
    (hfound : ∀ item ∈ c.attached, ∃ e, endpMap.lookup item.endpointId = some e)
    (hne : c.attached ≠ []) :
    ∃ rs, (m.entries.map Sigma.snd).Perm rs ∧
      List.Forall₂ (fun item r => ∃ e, endpMap.lookup item.endpointId = some e ∧
        newReceiverImplementationFromEndpoint lib e (c.attachedEndpoints.bind (·.details)) = .ok r)
        c.attached rs := by
  obtain ⟨endps, hrel⟩ := exists_forall₂ hfound
  obtain ⟨details, specs, hspecs⟩ := exists_specs hid hvalid hrel hne
  obtain ⟨specs', hspecs', -, hfill⟩ := h
  obtain rfl : specs = specs' := Except.ok.inj (hspecs.eq_ok.symm.trans hspecs')
  have hpairs : specs.items.map OpniRouterV1.itemSpec = endps.map fun e => (e.id, e) := by
    rw [hspecs.items, List.map_map]
    rfl
  rw [hpairs, hspecs.details_eq] at hfill
  obtain ⟨rs, hrs, hperm⟩ := values_of_fillReceivers hfill
    (by rw [List.map_map]; exact hspecs.ids_nodup)
  rw [List.forall₂_map_left_iff] at hrs
  refine ⟨rs, hperm, ?_⟩
  rw [hspecs.attached_details]
  exact forall₂_comp hrel hrs

/-- What routing conditions does to a router: every condition gets a route under
    its own namespace and id, with its own receivers. -/
structure Routed (env : RouterEnv) (endpMap : GoMap String AlertEndpoint)
    (conds : List AlertCondition) (o o' : OpniRouterV1) : Prop where
  reachable : Reachable env o'
  synced : o'.syncedConfig = o.syncedConfig
  namespaces : ∀ ns ∈ o'.namespacedSpecs, (∃ c ∈ conds, c.ns = ns) ∨ ns ∈ o.namespacedSpecs
  routes : ∀ ns r, r ∈ o'.routes ns ↔ (∃ c ∈ conds, c.ns = ns ∧ c.id = r) ∨ r ∈ o.routes ns
  receivers : ∀ c ∈ conds, ReceiversFor env.lib endpMap c (o'.endpoints c.ns c.id)
  frame : ∀ ns r, (∀ c ∈ conds, c.id ≠ r) → o'.endpoints ns r = o.endpoints ns r

/-- The loop over conditions with distinct ids routes each of them. -/
theorem exists_routeConditions {env : RouterEnv}
    {conds : List AlertCondition} (hids : (conds.map (·.id)).Nodup) (hne : ∀ c ∈ conds, c.id ≠ "")
    (hrecv : ∀ c ∈ conds, ∃ m, ReceiversFor env.lib endpMap c m) {o : OpniRouterV1}
    (ho : Reachable env o) :
    ∃ o', routeConditions env.lib endpMap conds o = .ok o' ∧ Routed env endpMap conds o o' := by
  induction conds generalizing o with
  | nil => exact ⟨o, rfl, ho, rfl, fun ns hns => .inr hns, by simp, by simp, by simp⟩
  | cons c conds ih =>
    rw [List.map_cons, List.nodup_cons] at hids
    obtain ⟨m, specs, hspecs, hitems, hfill⟩ := hrecv c (by simp)
    -- one call of `SetNamespaceSpec` for this condition, then the rest of the loop
    have hns : c.ns ≠ "" := (AlertCondition.namespaces_spec _ c.ns_mem_namespaces).1
    have hdefault : c.ns ≠ defaultSubTreeLabel :=
      (AlertCondition.namespaces_spec _ c.ns_mem_namespaces).2.1
    obtain ⟨o₁, ho₁⟩ : ∃ o₁, o.setNamespaceSpec env.lib c.ns c.id specs = .ok o₁ := by
      rw [OpniRouterV1.setNamespaceSpec, if_neg hns, if_neg hdefault,
        validateAll_eq_ok_iff.mpr hitems, hfill]
      exact ⟨_, rfl⟩
    obtain ⟨-, -, m', hfill', hinsert, -, hsynced, -⟩ := OpniRouterV1.setNamespaceSpec_eq_ok ho₁
    obtain rfl : m = m' := Except.ok.inj (hfill.symm.trans hfill')
    obtain ⟨o', hrest, hrouted⟩ := ih hids.2 (fun c hc => hne c (.tail _ hc))
      (fun c hc => hrecv c (.tail _ hc)) (.setNamespaceSpec ho ho₁)
    have hothers : ∀ c' ∈ conds, c'.id ≠ c.id := fun c' hc' heq =>
      hids.1 (List.mem_map.mpr ⟨c', hc', heq⟩)
    refine ⟨o', ?_, hrouted.reachable, hrouted.synced.trans hsynced, ?_, ?_, ?_, ?_⟩
    · rw [routeConditions]
      simp only [if_neg (hne c (by simp)), hspecs, ho₁]
      exact hrest
    · -- a namespace comes from the rest, from this call, or was there
      intro ns hns
      rcases hrouted.namespaces ns hns with ⟨c', hc', hns'⟩ | hold
      · exact .inl ⟨c', .tail _ hc', hns'⟩
      · rw [hinsert, AList.mem_insert] at hold
        exact hold.imp_left fun heq => ⟨c, by simp, heq.symm⟩
    · intro ns r
      rw [hrouted.routes, OpniRouterV1.mem_routes_insert hinsert]
      grind
    · intro c' hc'
      rcases List.mem_cons.mp hc' with rfl | hc'
      · -- the later conditions have other ids
        rw [hrouted.frame _ _ hothers, OpniRouterV1.endpoints_insert_self hinsert]
        exact ⟨specs, hspecs, hitems, hfill⟩
      · exact hrouted.receivers c' hc'
    · intro ns r hr
      rw [hrouted.frame ns r fun c' hc' => hr c' (.tail _ hc')]
      exact OpniRouterV1.endpoints_insert_ne hinsert fun h => hr c (by simp) h.2.symm

structure AlertingEnv where
  lib : AlertingLibs
  hook : String
  hookURL : String
  parse_hook : lib.parseURL hook = .ok hookURL

variable (env : AlertingEnv)

def AlertingEnv.router : RouterEnv where
  lib := env.lib.toParsers
  hook := env.hook
  hookURL := env.hookURL
  parse_hook := env.parse_hook

/-- All endpoints attached to stored conditions are stored. -/
def Stores.EndpointsExist (st : Stores) : Prop :=
  ∀ p c, st.conditions.kv.lookup p = some c → ∀ item ∈ c.attached,
    ∃ q e, st.endpoints.kv.lookup q = some e ∧ e.id = item.endpointId

/-- A router that `ForceSync` has computed from the stores. -/
structure SyncedFrom (st : Stores) (o : OpniRouterV1) : Prop where
  valid : ∀ p c, st.conditions.kv.lookup p = some c →
    PlainName c.id ∧ p = st.conditions.key c.id ∧ c.Valid
  reachable : Reachable env.router o
  not_synced : o.syncedConfig = none
  namespaces : ∀ ns ∈ o.namespacedSpecs, ns ∈ AlertCondition.namespaces
  routes : ∀ ns r, r ∈ o.routes ns ↔
    ∃ p c, st.conditions.kv.lookup p = some c ∧ c.ns = ns ∧ c.id = r
  receivers : ∀ p c, st.conditions.kv.lookup p = some c → c.attached ≠ [] →
    ∃ rs, ((o.endpoints c.ns c.id).entries.map Sigma.snd).Perm rs ∧
      List.Forall₂ (fun item r => ∃ q e, st.endpoints.kv.lookup q = some e ∧
        e.id = item.endpointId ∧ newReceiverImplementationFromEndpoint env.lib.toParsers e
          (c.attachedEndpoints.bind (·.details)) = .ok r) c.attached rs

/-! ## What has been listed -/

section Listed

variable {env : AlertingEnv} {st : Stores} {endps : List AlertEndpoint}
  (hmem : ∀ e, e ∈ endps ↔ ∃ q, st.endpoints.kv.lookup q = some e) (hids : (endps.map (·.id)).Nodup)

include hmem hids

theorem lookup_endpMap {k : String} {e : AlertEndpoint} :
    (GoMap.ofList AlertEndpoint.id id endps).lookup k = some e ↔
      e.id = k ∧ ∃ q, st.endpoints.kv.lookup q = some e := by
  rw [GoMap.lookup_ofList_eq_some hids]
  constructor
  · rintro ⟨e', he', rfl, rfl⟩
    exact ⟨rfl, (hmem _).mp he'⟩
  · rintro ⟨rfl, he⟩
    exact ⟨e, (hmem e).mpr he, rfl, rfl⟩

theorem endpointMap_of_listed (hst : st.Consistent env.lib) :
    EndpointMap env.lib.toParsers (GoMap.ofList AlertEndpoint.id id endps) := by
  have hstored : ∀ k e, (GoMap.ofList AlertEndpoint.id id endps).lookup k = some e →
      e.validate env.lib.toParsers = .ok () ∧ e.Parseable env.lib.toParsers := by
    intro k e hlookup
    obtain ⟨-, q, hq⟩ := (lookup_endpMap hmem hids).mp hlookup
    exact (hst.endpoint q e hq).2.2
  exact ⟨fun k e h => ((lookup_endpMap hmem hids).mp h).1, fun k e h => (hstored k e h).1,
    fun k e h => (hstored k e h).2⟩

theorem found_of_listed (hexist : st.EndpointsExist) {p : Path} {c : AlertCondition}
    (hc : st.conditions.kv.lookup p = some c) :
    ∀ item ∈ c.attached,
      ∃ e, (GoMap.ofList AlertEndpoint.id id endps).lookup item.endpointId = some e := by
  intro item hitem
  obtain ⟨q, e, he, hid⟩ := hexist p c hc item hitem
  exact ⟨e, (lookup_endpMap hmem hids).mpr ⟨hid, q, he⟩⟩

/-- A router on which the listed conditions have been routed is synced from the
    stores; `SetDefaultNamespaceConfig` does not touch the routes. -/
theorem Routed.syncedFrom {conds : List AlertCondition} {notified : List AlertEndpoint}
    {o₁ o : OpniRouterV1}
    (h : Routed env.router (GoMap.ofList AlertEndpoint.id id endps) conds (.new env.hook) o₁)
    (hdefault : o₁.setDefaultNamespaceConfig env.router.lib notified = .ok o)
    (hst : st.Consistent env.lib) (hexist : st.EndpointsExist)
    (hconds : ∀ c, c ∈ conds ↔ ∃ p, st.conditions.kv.lookup p = some c) : SyncedFrom env st o := by
  obtain ⟨hspecs, hsynced, -, -⟩ := OpniRouterV1.setDefaultValues_eq_ok hdefault
  have hroutes : ∀ ns, o.routes ns = o₁.routes ns := fun ns => by
    rw [OpniRouterV1.routes, hspecs, OpniRouterV1.routes]
  refine ⟨hst.condition, .setDefaultNamespaceConfig h.reachable hdefault, hsynced.trans h.synced,
    ?_, ?_, ?_⟩
  · intro ns hns
    rcases h.namespaces ns (hspecs ▸ hns) with ⟨c, -, rfl⟩ | hold
    · exact c.ns_mem_namespaces
    · exact absurd hold (AList.notMem_empty ns)
  · intro ns r
    have hnew : r ∉ (OpniRouterV1.new env.hook).routes ns := AList.notMem_empty r
    rw [hroutes, h.routes]
    constructor
    · rintro (⟨c, hc, hns, hr⟩ | hold)
      · obtain ⟨p, hp⟩ := (hconds c).mp hc
        exact ⟨p, c, hp, hns, hr⟩
      · exact absurd hold hnew
    · rintro ⟨p, c, hp, hns, hr⟩
      exact .inl ⟨c, (hconds c).mpr ⟨p, hp⟩, hns, hr⟩
  · intro p c hp hne
    have hreceivers := h.receivers c ((hconds c).mpr ⟨p, hp⟩)
    rw [OpniRouterV1.endpoints, ← hroutes, ← OpniRouterV1.endpoints] at hreceivers
    obtain ⟨rs, hperm, hrel⟩ := hreceivers.values (endpointMap_of_listed hmem hids hst).id_eq
      (hst.condition p c hp).2.2 (found_of_listed hmem hids hexist hp) hne
    refine ⟨rs, hperm, hrel.imp fun item r hr => ?_⟩
    obtain ⟨e, he, hnew⟩ := hr
    obtain ⟨hid, q, hq⟩ := (lookup_endpMap hmem hids).mp he
    exact ⟨q, e, hq, hid, hnew⟩

end Listed

/-- `ForceSync` succeeds on consistent stores. -/
theorem exists_forceSync {env : AlertingEnv} {st : Stores} (hst : st.Consistent env.lib)
    (hexist : st.EndpointsExist) (sync : SyncOrders) :
    ∃ o, forceSync env.lib.toParsers sync st (.new env.hook) = .ok o ∧ SyncedFrom env st o := by
  have hcondKey := fun p c h => (hst.condition p c h).imp_right And.left
  have hendpKey := fun p e h => (hst.endpoint p e h).imp_right And.left
  -- the stores are listed twice: once for the hash, once for the router
  obtain ⟨_, hhashConds, -⟩ := AlertingStorage.list_by_id hcondKey sync.hashConditions
  obtain ⟨_, hhashEndps, -⟩ := AlertingStorage.list_by_id hendpKey sync.hashEndpoints
  obtain ⟨conds, hconds, hmemConds, hcondIds⟩ :=
    AlertingStorage.list_by_id hcondKey sync.conditions
  obtain ⟨endps, hendps, hmemEndps, hendpIds⟩ :=
    AlertingStorage.list_by_id hendpKey sync.endpoints
  have hmap := endpointMap_of_listed hmemEndps hendpIds hst
  -- every condition is routed
  have hne : ∀ c ∈ conds, c.id ≠ "" := by
    intro c hc
    obtain ⟨p, hp⟩ := (hmemConds c).mp hc
    exact (hst.condition p c hp).1.ne_empty
  have hrecv : ∀ c ∈ conds, ∃ m, ReceiversFor env.router.lib
      (GoMap.ofList AlertEndpoint.id id endps) c m := by
    intro c hc
    obtain ⟨p, hp⟩ := (hmemConds c).mp hc
    exact exists_receiversFor hmap (hst.condition p c hp).2.2
      (found_of_listed hmemEndps hendpIds hexist hp)
  obtain ⟨o₁, hroute, hrouted⟩ :=
    exists_routeConditions hcondIds hne hrecv (.new : Reachable env.router _)
  -- the endpoints tagged for notifications become the default receivers
  have hendpValid : ∀ e ∈ endps, e.validate env.lib.toParsers = .ok () ∧
      e.Parseable env.lib.toParsers := by
    intro e he
    obtain ⟨q, hq⟩ := (hmemEndps e).mp he
    exact (hst.endpoint q e hq).2.2
  obtain ⟨o, hdefault⟩ : ∃ o, o₁.setDefaultNamespaceConfig env.router.lib
      (endps.filter fun a => decide (endpointTagNotifications ∈ a.properties)) = .ok o := by
    refine OpniRouterV1.exists_setDefaultValues ?_ ?_ _ o₁
    · exact fun e he => (hendpValid e (List.mem_of_mem_filter he)).1
    · exact fun e he => (hendpValid e (List.mem_of_mem_filter he)).2
  refine ⟨o, ?_, hrouted.syncedFrom hmemEndps hendpIds hdefault hst hexist hmemConds⟩
  have hroute' : routeConditions env.lib.toParsers (GoMap.ofList AlertEndpoint.id id endps) conds
      (.new env.hook) = .ok o₁ := hroute
  simp only [forceSync, hhashConds, hhashEndps, calculateRouters, hconds, hendps, hroute']
  exact hdefault

end Opni.Alerting
