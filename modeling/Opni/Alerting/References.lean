/-
  Opni.Alerting.References

  The calls that change and delete endpoints
  (`plugins/alerting/pkg/alerting/api_endpoints.go`) and the references
  between the two alerting stores.
-/

import Opni.Alerting.ForceSync
import Opni.Alerting.Secrets

namespace Opni.Alerting

open Lib

/-! ## The calls -/

variable (list : Scheduler Path)

/-- `ListRoutingRelationships`: the endpoints of every condition that has some. -/
def listRoutingRelationships (st : Stores) :
    Except Failure (GoMap String (List String)) :=
  (st.conditions.list list).map fun conds =>
    GoMap.ofList AlertCondition.id (fun c => c.attached.map (·.endpointId))
      ((sortFunc (fun c d => decide (c.name < d.name)) conds).filter fun c => 0 < c.attached.length)

variable (range : Scheduler String)

def getInvolvedConditions (relationships : GoMap String (List String))
    (endpointId : String) : List String :=
  (range.order relationships.keys).filter fun conditionId =>
    endpointId ∈ (relationships.lookup conditionId).getD []

def involved (st : Stores)
    (endpointId : String) : Except Failure (List String) :=
  (listRoutingRelationships list st).map fun relationships =>
    getInvolvedConditions range relationships endpointId

def AlertCondition.detach (c : AlertCondition) (endpointId : String) : AlertCondition :=
  { c with attachedEndpoints := c.attachedEndpoints.map fun a =>
      { a with items := a.items.filter fun item => item.endpointId ≠ endpointId } }

/-- The function that `DeleteAlertEndpoint` runs for each condition.  Errors of `Get` and
    `Put` end it without a trace. -/
def detachFrom (fails : String → Bool) (endpointId : String)
    (conditions : AlertingStorage AlertCondition) (condId : String) :
    AlertingStorage AlertCondition :=
  if fails condId then conditions
  else match conditions.get condId with
    | .error _ => conditions
    | .ok cond => conditions.put condId (cond.detach endpointId)

/-- The API calls on both stores.  A call that goes over the conditions has the orders in
    which the bucket is listed and the relationships are ranged over; a deletion has the
    conditions for which `Get` or `Put` fails. -/
inductive ApiCall where
  | alarm (call : Call)
  | updateAlertEndpoint (list : Scheduler Path) (range : Scheduler String)
      (id : Option String) (updateAlert : AlertEndpoint) (forceUpdate : Bool)
  | deleteAlertEndpoint (list : Scheduler Path) (range : Scheduler String)
      (fails : String → Bool) (id : Option String) (forceDelete : Bool)

section Calls

variable (lib : AlertingLibs) (list : Scheduler Path) (range : Scheduler String)

/-- `UpdateAlertEndpoint`.  The request names the endpoint by a reference. -/
def updateAlertEndpoint (st : Stores)
    (id : Option String) (updateAlert : AlertEndpoint) (forceUpdate : Bool) :
    Except Failure Stores :=
  match id with
  | none => nilDereference
  | some id =>
    match st.endpoints.get id with
    | .error err => .error err
    | .ok unredacted =>
      match updateAlert.unredactSecrets unredacted with
      | .error err => .error err
      | .ok updateAlert =>
        match updateAlert.validate lib.toParsers with
        | .error err => .error (.status err)
        | .ok () =>
          match involved list range st id with
          | .error err => .error err
          | .ok refList =>
            if 0 < refList.length ∧ !forceUpdate then .ok st
            else
              let updateAlert := { updateAlert with id := id }
              .ok { st with endpoints := st.endpoints.put id updateAlert }

def deleteAlertEndpoint
    (fails : String → Bool) (st : Stores) (id : Option String) (forceDelete : Bool) :
    Except Failure Stores :=
  match id with
  | none => nilDereference
  | some id =>
    match st.endpoints.get id with
    | .error err => .error err
    | .ok _ =>
      match involved list range st id with
      | .error err => .error err
      | .ok refList =>
        if 0 < refList.length ∧ !forceDelete then .ok st
        else .ok
          { endpoints := st.endpoints.delete id
            conditions := refList.foldl (detachFrom fails id) st.conditions }

def Stores.api (st : Stores) : ApiCall → Except Failure Stores
  | .alarm call => st.step lib call
  | .updateAlertEndpoint list range id updateAlert forceUpdate =>
    updateAlertEndpoint lib list range st id updateAlert forceUpdate
  | .deleteAlertEndpoint list range fails id forceDelete =>
    deleteAlertEndpoint list range fails st id forceDelete

end Calls

variable {st st' : Stores} {lib : AlertingLibs} {list : Scheduler Path} {range : Scheduler String}
  {id : Option String} {c : AlertCondition} {endpointId : String} {item : AttachedEndpoint}

/-! ## Detaching an endpoint -/

theorem AlertCondition.mem_attached_detach :
    item ∈ (c.detach endpointId).attached ↔
      item ∈ c.attached ∧ item.endpointId ≠ endpointId := by
  cases h : c.attachedEndpoints with
  | none | some a => simp [detach, attached, h]

section Detach

variable {fails : String → Bool} {endpointId : String}

variable {cs : AlertingStorage AlertCondition} {p : Path} {c' : AlertCondition}

theorem lookup_detachFrom {condId : String}
    (h : (detachFrom fails endpointId cs condId).kv.lookup p = some c') :
    ∃ c, cs.kv.lookup p = some c ∧ c'.attached ⊆ c.attached ∧
      (p = cs.key condId → fails condId = false →
        ∀ item ∈ c'.attached, item.endpointId ≠ endpointId) := by
  unfold detachFrom at h
  split at h
  next hfails => exact ⟨c', h, List.Subset.refl _, fun _ hok => absurd hfails (by simp [hok])⟩
  · split at h
    next err hget =>
      refine ⟨c', h, List.Subset.refl _, fun hp _ => ?_⟩
      rw [hp, ← AlertingStorage.get_eq_ok_iff, hget] at h
      cases h
    next c hget =>
      rcases GoMap.lookup_insert_eq_some.mp h with ⟨hp, rfl⟩ | ⟨hp, h⟩
      · refine ⟨c, hp ▸ AlertingStorage.get_eq_ok_iff.mp hget, ?_, ?_⟩
        · exact fun item hitem => (AlertCondition.mem_attached_detach.mp hitem).1
        · exact fun _ _ item hitem => (AlertCondition.mem_attached_detach.mp hitem).2
      · exact ⟨c', h, List.Subset.refl _, fun hp' => absurd hp' hp⟩

@[simp] theorem key_detachFrom (cs : AlertingStorage AlertCondition) (condId k : String) :
    (detachFrom fails endpointId cs condId).key k = cs.key k := by
  unfold detachFrom
  split
  · rfl
  · split <;> rfl

theorem lookup_foldl_detachFrom {refList : List String}
    (h : (refList.foldl (detachFrom fails endpointId) cs).kv.lookup p = some c') :
    ∃ c, cs.kv.lookup p = some c ∧ c'.attached ⊆ c.attached ∧
      ∀ condId ∈ refList, p = cs.key condId → fails condId = false →
        ∀ item ∈ c'.attached, item.endpointId ≠ endpointId := by
  induction refList generalizing cs with
  | nil => exact ⟨c', h, List.Subset.refl _, fun condId hmem => absurd hmem (by simp)⟩
  | cons condId refList ih =>
    obtain ⟨c₁, hc₁, hsub₁, hrest⟩ := ih h
    obtain ⟨c, hc, hsub, hfirst⟩ := lookup_detachFrom hc₁
    refine ⟨c, hc, List.Subset.trans hsub₁ hsub, ?_⟩
    intro condId' hmem hp hok item hitem
    rcases List.mem_cons.mp hmem with rfl | hmem
    · -- what the first turn has removed does not come back
      exact hfirst hp hok item (hsub₁ hitem)
    · exact hrest condId' hmem (by simpa using hp) hok item hitem

end Detach

/-! ## The conditions of an endpoint -/

/-- Conditions with endpoints are filed under their own ids. -/
def Stores.ConditionsFiled (st : Stores) : Prop :=
  ∀ p c, st.conditions.kv.lookup p = some c → c.attached ≠ [] →
    PlainName c.id ∧ p = st.conditions.key c.id

/-- Every condition that has the endpoint is found. -/
theorem mem_involved {refList : List String} (h : involved list range st endpointId = .ok refList)
    (hfiled : st.ConditionsFiled) {p : Path} (hc : st.conditions.kv.lookup p = some c)
    (hitem : item ∈ c.attached) (hid : item.endpointId = endpointId) : c.id ∈ refList := by
  obtain ⟨relationships, hrel, rfl⟩ := map_eq_ok_iff.mp h
  obtain ⟨conds, hlist, rfl⟩ := map_eq_ok_iff.mp hrel
  have hne : ∀ {c : AlertCondition}, 0 < c.attached.length ↔ c.attached ≠ [] :=
    List.length_pos_iff
  obtain ⟨hplain, hp⟩ := hfiled p c hc (List.ne_nil_of_mem hitem)
  have hmem : c ∈ (sortFunc (fun c d => decide (c.name < d.name)) conds).filter
      fun c => 0 < c.attached.length := by
    rw [List.mem_filter, mem_sortFunc]
    exact ⟨AlertingStorage.mem_list_of_plain hlist hplain (hp ▸ hc),
      by simpa [hne] using List.ne_nil_of_mem hitem⟩
  have hkey : c.id ∈ GoMap.ofList AlertCondition.id (fun c => c.attached.map (·.endpointId))
      ((sortFunc (fun c d => decide (c.name < d.name)) conds).filter
        fun c => 0 < c.attached.length) :=
    GoMap.mem_ofList.mpr ⟨c, hmem, rfl⟩
  refine List.mem_filter.mpr ⟨((range.perm _).mem_iff).mpr (AList.mem_keys.mp hkey), ?_⟩
  obtain ⟨ids, hids⟩ := GoMap.mem_iff.mp hkey
  obtain ⟨c', hc', hid', rfl⟩ := GoMap.exists_of_lookup_ofList hids
  -- the entry may have been written for another condition, but not for one with this id
  have hsame : c' = c := by
    rw [List.mem_filter, mem_sortFunc] at hc'
    obtain ⟨p', hp'⟩ := AlertingStorage.exists_lookup_of_mem_list hlist hc'.1
    obtain ⟨-, hpath⟩ := hfiled p' c' hp' (by simpa [hne] using hc'.2)
    rw [hpath, hid', ← hp, hc] at hp'
    exact (Option.some.inj hp').symm
  rw [hids, hsame]
  simpa using ⟨item, hitem, hid⟩

/-! ## References stay intact -/

def Stores.HasEndpoints (st : Stores) (items : List AttachedEndpoint) : Prop :=
  ∀ item ∈ items, ∃ q e, st.endpoints.kv.lookup q = some e ∧ e.id = item.endpointId

/-- The attached endpoints of stored conditions are stored, and endpoints are filed under
    their ids. -/
structure Stores.Intact (st : Stores) : Prop where
  filed : ∀ q e, st.endpoints.kv.lookup q = some e → PlainName e.id ∧ q = st.endpoints.key e.id
  exist : st.EndpointsExist

/-- The id of the request is that of the endpoint it is for. -/
def Stores.NamesEndpoint (st : Stores) (id : Option String) : Prop :=
  ∀ k e, id = some k → st.endpoints.get k = .ok e → e.id = k

/-- A call that keeps the references intact: it attaches only endpoints that are stored.  A
    call on an endpoint names it by its id; and when an endpoint is deleted, conditions are
    filed under their ids and those that have the endpoint can be read and written. -/
def ApiCall.KeepsReferences (st : Stores) : ApiCall → Prop
  | .alarm call => st.HasEndpoints call.attached
  | .updateAlertEndpoint _ _ id _ _ => st.NamesEndpoint id
  | .deleteAlertEndpoint _ _ fails id _ =>
    st.NamesEndpoint id ∧ st.ConditionsFiled ∧
      ∀ p c, st.conditions.kv.lookup p = some c → ∀ item ∈ c.attached,
        id = some item.endpointId → fails c.id = false

namespace Stores.Intact

variable {lib : AlertingLibs} {st st' : Stores} {e : AlertEndpoint}

theorem empty : Stores.empty.Intact where
  filed q e h := absurd h (by simp [Stores.empty, AlertingStorage.empty])
  exist p c h := absurd h (by simp [Stores.empty, AlertingStorage.empty])

theorem putCondition (h : st.Intact) {id : String} (hc : st.HasEndpoints c.attached) :
    ({ st with conditions := st.conditions.put id c } : Stores).Intact where
  filed := h.filed
  exist p c' hlookup := by
    rcases AlertingStorage.lookup_put hlookup with ⟨-, rfl⟩ | hold
    · exact hc
    · exact h.exist p c' hold

theorem putEndpoint (h : st.Intact) (hplain : PlainName e.id) :
    ({ st with endpoints := st.endpoints.put e.id e } : Stores).Intact where
  filed q e' hlookup := by
    rcases AlertingStorage.lookup_put hlookup with ⟨rfl, rfl⟩ | hold
    · exact ⟨hplain, rfl⟩
    · exact h.filed q e' hold
  exist p c hc item hitem := by
    obtain ⟨q, e', he', hid⟩ := h.exist p c hc item hitem
    by_cases hq : q = st.endpoints.key e.id
    · -- the endpoint that is overwritten had the same id
      obtain ⟨hplain', hq'⟩ := h.filed q e' he'
      have hsame : e'.id = e.id := (st.endpoints.key_inj hplain' hplain).mp (hq' ▸ hq)
      exact ⟨q, e, by rw [hq]; exact AList.lookup_insert _, hsame ▸ hid⟩
    · exact ⟨q, e', (AList.lookup_insert_ne hq).trans he', hid⟩

theorem removeEndpoint (h : st.Intact) (hget : st.endpoints.get e.id = .ok e)
    {cs : AlertingStorage AlertCondition}
    (hcs : ∀ p c', cs.kv.lookup p = some c' → ∃ c, st.conditions.kv.lookup p = some c ∧
      c'.attached ⊆ c.attached ∧ ∀ item ∈ c'.attached, item.endpointId ≠ e.id) :
    ({ endpoints := st.endpoints.delete e.id, conditions := cs } : Stores).Intact where
  filed q e' hlookup := h.filed q e' (GoMap.lookup_erase_eq_some.mp hlookup).2
  exist p c' hc' item hitem := by
    obtain ⟨c, hc, hsub, hother⟩ := hcs p c' hc'
    obtain ⟨q, e', he', hid⟩ := h.exist p c hc item (hsub hitem)
    have hq : q ≠ st.endpoints.key e.id := by
      rintro rfl
      rw [AlertingStorage.get_eq_ok_iff, he'] at hget
      exact hother item hitem (Option.some.inj hget ▸ hid.symm)
    exact ⟨q, e', (AList.lookup_erase_ne hq).trans he', hid⟩

/-- A call on the alarms that attaches only stored endpoints. -/
theorem step (h : st.Intact) {call : Call} (hcall : st.HasEndpoints call.attached)
    (hstep : st.step lib call = .ok st') : st'.Intact := by
  refine (Stores.step_rule (P := fun st => st.Intact ∧ st.HasEndpoints call.attached) ⟨h, hcall⟩
    ?_ ?_ (fun id => ⟨?_, hcall⟩) hstep).1
  · rintro newId req rfl -
    exact ⟨h.putEndpoint (e := { req with id := newId.1 }) newId.2, nofun⟩
  · rintro st id c ⟨h, hcall⟩ hput
    exact ⟨h.putCondition (hput.attached ▸ hcall), hcall⟩
  · exact ⟨h.filed, fun p c hlookup => h.exist p c (GoMap.lookup_erase_eq_some.mp hlookup).2⟩

theorem api (h : st.Intact) {call : ApiCall} (hcall : call.KeepsReferences st)
    (hstep : st.api lib call = .ok st') : st'.Intact := by
  cases call with
  | alarm call => exact h.step hcall hstep
  | updateAlertEndpoint list range id updateAlert forceUpdate =>
    revert hstep
    rw [Stores.api]
    fun_cases Alerting.updateAlertEndpoint lib list range st id updateAlert forceUpdate with
    | case6 =>
      rintro ⟨⟩
      exact h
    | case7 k e hget updateAlert =>
      intro hstep
      obtain rfl := Except.ok.inj hstep
      have hid : e.id = k := hcall k e rfl hget
      have hplain : PlainName e.id := (h.filed _ e (AlertingStorage.get_eq_ok_iff.mp hget)).1
      exact h.putEndpoint (e := { updateAlert with id := k }) (hid ▸ hplain)
    | _ => exact nofun
  | deleteAlertEndpoint list range fails id forceDelete =>
    obtain ⟨hnames, hfiled, hfails⟩ := hcall
    revert hstep
    rw [Stores.api]
    fun_cases Alerting.deleteAlertEndpoint list range fails st id forceDelete with
    | case4 =>
      rintro ⟨⟩
      exact h
    | case5 k e hget refList hrefs =>
      intro hstep
      obtain rfl := Except.ok.inj hstep
      obtain rfl : e.id = k := hnames k e rfl hget
      refine h.removeEndpoint hget fun p c' hc' => ?_
      obtain ⟨c, hc, hsub, hgone⟩ := lookup_foldl_detachFrom hc'
      refine ⟨c, hc, hsub, fun item hitem hid => ?_⟩
      -- a condition that has the endpoint is one of those the loop goes over
      have hmem := mem_involved hrefs hfiled hc (hsub hitem) hid
      have hp := (hfiled p c hc (List.ne_nil_of_mem (hsub hitem))).2
      exact hgone c.id hmem hp (hfails p c hc item (hsub hitem) (hid ▸ rfl)) item hitem hid
    | _ => exact nofun

end Stores.Intact

/-! ## The router of intact stores -/

section NotFound

variable {lib : Parsers}

variable {err : Status} {endpMap : GoMap String AlertEndpoint}

theorem EmailEndpoint.code_of_validate {e : EmailEndpoint}
    (h : e.validate lib = .error err) : err.code ≠ .notFound := by
  have hsender : ∀ err, e.validateSender lib = .error err → err.code ≠ .notFound := by
    grind [validateSender, validationError]
  have hhost : ∀ err, e.validateSmartHost = .error err → err.code ≠ .notFound := by
    grind [validateSmartHost, validationError]
  grind [validate, validationError]

theorem AlertEndpoint.code_of_validate {e : AlertEndpoint}
    (h : e.validate lib = .error err) : err.code ≠ .notFound := by
  unfold AlertEndpoint.validate at h
  grind [validationError, SlackEndpoint.validate, EmailEndpoint.code_of_validate,
    PagerDutyEndpoint.validate, WebhookEndpoint.validate]

theorem validateAll_error {α : Type} {check : α → Except Status Unit} {l : List α}
    (h : validateAll check l = .error err) : ∃ x ∈ l, check x = .error err := by
  induction l with
  | nil => simp [validateAll] at h
  | cons x l ih =>
    rw [validateAll] at h
    split at h
    next err' hx => exact ⟨x, by simp, Except.error.inj h ▸ hx⟩
    · obtain ⟨y, hy, herr⟩ := ih h
      exact ⟨y, .tail _ hy, herr⟩

theorem setDefaultValues_ne_notFound (endps : List AlertEndpoint) (vals : List DefaultRouteValues)
    (o : OpniRouterV1) (msg : String) :
    OpniRouterV1.setDefaultValues lib endps vals o ≠ .error (.status ⟨.notFound, msg⟩) := by
  induction vals generalizing o with
  | nil => simp [OpniRouterV1.setDefaultValues]
  | cons val vals ih =>
    intro h
    rw [OpniRouterV1.setDefaultValues] at h
    split at h
    · cases h
    split at h
    next err hvalidate =>
      obtain ⟨e, -, he⟩ := validateAll_error hvalidate
      refine AlertEndpoint.code_of_validate he ?_
      rw [Failure.status.inj (Except.error.inj h)]
    · split at h
      · cases h
      · exact ih _ h

theorem exists_conditionSpecs
    (hfound : ∀ item ∈ c.attached, ∃ e, endpMap.lookup item.endpointId = some e) :
    ∃ specs, conditionSpecs endpMap c = .ok specs := by
  unfold conditionSpecs
  split
  · exact ⟨_, rfl⟩
  next endpoints hendpoints =>
    split
    · exact ⟨_, rfl⟩
    · have hitems : ∀ item ∈ endpoints.items, ∃ e, findEndpoint endpMap item = .ok e := by
        intro item hitem
        obtain ⟨e, he⟩ := hfound item (by simpa [AlertCondition.attached, hendpoints] using hitem)
        exact ⟨e, by rw [findEndpoint, he]⟩
      obtain ⟨endps, hendps, -⟩ := exists_mapM hitems
      exact ⟨_, by rw [hendps]; rfl⟩

theorem routeConditions_ne_notFound {conds : List AlertCondition}
    (hfound : ∀ c ∈ conds, ∀ item ∈ c.attached, ∃ e, endpMap.lookup item.endpointId = some e)
    (o : OpniRouterV1) (msg : String) :
    routeConditions lib endpMap conds o ≠ .error (.status ⟨.notFound, msg⟩) := by
  induction conds generalizing o with
  | nil => simp [routeConditions]
  | cons c conds ih =>
    intro h
    rw [routeConditions] at h
    generalize hc' : (if c.id = "" then { c with id := c.clusterId } else c) = c' at h
    have hattached : c'.attached = c.attached := by
      rw [← hc']
      split <;> rfl
    split at h
    next err hspecs =>
      obtain ⟨specs, hok⟩ := exists_conditionSpecs fun item hitem =>
        hfound c (by simp) item (hattached ▸ hitem)
      rw [hok] at hspecs
      cases hspecs
    · split at h
      next err hset =>
        cases h
        revert hset
        fun_cases OpniRouterV1.setNamespaceSpec <;> simp
      · exact ih (fun c hc => hfound c (.tail _ hc)) _ h

end NotFound

theorem Stores.Intact.calculateRouters_ne_notFound {lib : Parsers} (h : st.Intact)
    (sync : SyncOrders) (router : OpniRouterV1) (msg : String) :
    calculateRouters lib sync st router ≠ .error (.status ⟨.notFound, msg⟩) := by
  intro hcalc
  obtain ⟨endps, hendps, hmem, hids⟩ := AlertingStorage.list_by_id h.filed sync.endpoints
  unfold calculateRouters at hcalc
  split at hcalc
  next err hconds =>
    cases hcalc
    obtain ⟨k, -, hget⟩ := exists_of_mapM_eq_error hconds
    rw [AlertingStorage.get] at hget
    split at hget <;> cases hget
  next conds hconds =>
    rw [hendps] at hcalc
    simp only at hcalc
    split at hcalc
    next err hroute =>
      cases hcalc
      refine routeConditions_ne_notFound ?_ _ _ hroute
      intro c hc
      obtain ⟨p, hp⟩ := AlertingStorage.exists_lookup_of_mem_list hconds hc
      exact found_of_listed hmem hids h.exist hp
    · exact setDefaultValues_ne_notFound _ _ _ _ hcalc

def KeepingCall (lib : AlertingLibs) (st st' : Stores) : Prop :=
  ∃ call : ApiCall, call.KeepsReferences st ∧ st.api lib call = .ok st'

/-- After every sequence of successful calls that meet their conditions, the endpoints of all
    stored conditions are stored, and the router is not missing any. -/
theorem endpointsExist_of_reachable {lib : AlertingLibs} {st : Stores}
    (h : Relation.ReflTransGen (KeepingCall lib) Stores.empty st) :
    st.EndpointsExist ∧ ∀ sync router msg,
      calculateRouters lib.toParsers sync st router ≠ .error (.status ⟨.notFound, msg⟩) := by
  have hintact : st.Intact := by
    induction h with
    | refl => exact .empty
    | tail _ hstep ih =>
      obtain ⟨call, hcall, hapi⟩ := hstep
      exact ih.api hcall hapi
  exact ⟨hintact.exist, hintact.calculateRouters_ne_notFound⟩

/-! ## Two runs -/

def acceptingLibs : AlertingLibs where
  parseRequestURI _ := .ok ()
  parseURL url := .ok url
  parseAddress _ := .ok ()
  showEndpoint _ := ""
  parseExpr _ := .ok ()
  showAlertType _ := ""

def alarmWith (endpointId : String) : AlertCondition where
  name := "disconnected"
  alertType := some (.system (some "cluster"))
  attachedEndpoints := some
    { items := [⟨endpointId⟩], details := some { title := "title", body := "body" } }

def pagerEndpoint : AlertEndpoint where
  name := "pager"
  endpoint := some (.pagerDuty { integrationKey := "key" })

def withEndpoint : Stores :=
  { Stores.empty with
    endpoints := Stores.empty.endpoints.put "endpoint" { pagerEndpoint with id := "endpoint" } }

def withAlarm : Stores :=
  { withEndpoint with
    conditions := withEndpoint.conditions.put "alarm" { alarmWith "endpoint" with id := "alarm" } }

/-- An endpoint is created, an alarm that has it, and the endpoint is deleted by force. -/
theorem endpointsExist_forced_delete :
    ∃ st, st.EndpointsExist ∧ withAlarm.api acceptingLibs
      (.deleteAlertEndpoint (.inOrder _) (.inOrder _) (fun _ => false) (some "endpoint") true) =
        .ok st := by
  have hfirst : KeepingCall acceptingLibs Stores.empty withEndpoint :=
    ⟨.alarm (.createAlertEndpoint ⟨"endpoint", by decide⟩ pagerEndpoint),
      fun item hitem => absurd hitem (by simp [Call.attached]), rfl⟩
  have hsecond : KeepingCall acceptingLibs withEndpoint withAlarm := by
    refine ⟨.alarm (.createAlertCondition ⟨"alarm", by decide⟩ (alarmWith "endpoint")), ?_, rfl⟩
    intro item hitem
    obtain rfl : item = ⟨"endpoint"⟩ := List.mem_singleton.mp hitem
    exact ⟨withEndpoint.endpoints.key "endpoint", _, rfl, rfl⟩
  have hdelete : (ApiCall.deleteAlertEndpoint (.inOrder _) (.inOrder _) (fun _ => false)
      (some "endpoint") true).KeepsReferences withAlarm := by
    refine ⟨?_, ?_, fun _ _ _ _ _ _ => rfl⟩
    · intro k e hk hget
      cases hk
      exact Except.ok.inj hget ▸ rfl
    · intro p c hc _
      rcases AlertingStorage.lookup_put hc with ⟨rfl, rfl⟩ | hold
      · exact ⟨by decide, rfl⟩
      · simp [withEndpoint, Stores.empty, AlertingStorage.empty] at hold
  exact ⟨_, (endpointsExist_of_reachable
    (((Relation.ReflTransGen.single hfirst).tail hsecond).tail ⟨_, hdelete, rfl⟩)).1, rfl⟩

/-- An alarm is created with an endpoint that does not exist: the call succeeds, and the
    router cannot be computed any more. -/
theorem createAlertCondition_dangling :
    ∃ st, Stores.empty.api acceptingLibs
        (.alarm (.createAlertCondition ⟨"alarm", by decide⟩ (alarmWith "missing"))) = .ok st ∧
      ¬st.EndpointsExist ∧
      calculateRouters acceptingLibs.toParsers ⟨.inOrder _, .inOrder _, .inOrder _, .inOrder _⟩
        st (.new "") = .error (.status ⟨.notFound, "endpoint not found"⟩) := by
  refine ⟨_, rfl, ?_, rfl⟩
  intro h
  obtain ⟨q, e, he, -⟩ := h (Stores.empty.conditions.key "alarm") _ (AList.lookup_insert _)
    ⟨"missing"⟩ (List.mem_singleton_self _)
  simp [Stores.empty, AlertingStorage.empty] at he

end Opni.Alerting
