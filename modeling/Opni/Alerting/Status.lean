/-
  Opni.Alerting.Status

  The status of an alarm and of the Cortex backend: `statusFromAlertGroup`
  (`plugins/alerting/pkg/alerting/util.go`) and `reduceCortexAdminStates`
  (`condition_handlers.go`).
-/

import Opni.Alerting.Config

namespace Opni.Alerting

open Lib

/-! ## Alarms -/

/-- `AlertConditionState`, as far as it is computed here. -/
inductive AlertConditionState where
  | ok | pending | silenced | firing | invalidated
deriving DecidableEq

structure AlertStatusResponse where
  state : AlertConditionState
  reason : String := ""
deriving DecidableEq

/-- `backend.GettableAlert`, with the state that Alertmanager has to give. -/
structure GettableAlert where
  labels : LabelSet
  state : String

variable (re : Regexps)

/-- `Matches` of a matcher. -/
def Matcher.matchesValue (m : Matcher) (s : String) : Bool :=
  match m.type with
  | .equal => s == m.value
  | .notEqual => s != m.value
  | .regexp => re m.value s
  | .notRegexp => !re m.value s

variable (matchers : List Matcher)

/-- All matchers find their label.  One that is absent never matches, also not for an
    inequality. -/
def GettableAlert.matchesAll (alert : GettableAlert) : Bool :=
  matchers.all fun m => alert.labels.entries.any fun l => m.name == l.1 && m.matchesValue re l.2

variable (alert : GettableAlert)

/-- The `switch` on the state of the alert that was found. -/
def stateOfAlert : AlertConditionState :=
  if alert.state = "suppressed" then .silenced
  else if alert.state = "active" then .firing
  else if alert.state = "unprocessed" then .firing
  else .ok

/-- The loop over the alerts: it returns at the first one that matches. -/
def statusOfFirst (re : Regexps) (matchers : List Matcher) :
    List GettableAlert → AlertStatusResponse
  | [] => { state := .ok }
  | alert :: alertGroup =>
    if !alert.matchesAll re matchers then statusOfFirst re matchers alertGroup
    else { state := stateOfAlert alert }

def statusFromAlertGroup (alertGroup : List GettableAlert) : AlertStatusResponse :=
  if matchers.length = 0 then
    { state := .pending, reason := "alarm dependencies are updating" }
  else statusOfFirst re matchers alertGroup

/-- The alert is active or unprocessed. -/
def GettableAlert.Fires : Prop :=
  alert.state = "active" ∨ alert.state = "unprocessed"

theorem stateOfAlert_eq_firing {alert : GettableAlert} :
    stateOfAlert alert = .firing ↔ alert.Fires := by
  unfold stateOfAlert GettableAlert.Fires
  split
  next h => simp [h]
  next =>
    split
    next h' => simp [h']
    next h' =>
      split
      next h'' => simp [h'']
      next h'' => simp [h', h'']

section Group

variable {re : Regexps} {matchers : List Matcher} {alertGroup : List GettableAlert}
  {a : GettableAlert} {group : List GettableAlert}

variable (re matchers alertGroup) in
theorem statusOfFirst_cases : (statusOfFirst re matchers alertGroup).state = .ok ∧
      (∀ a ∈ alertGroup, a.matchesAll re matchers = false) ∨
    ∃ a ∈ alertGroup, a.matchesAll re matchers = true ∧
      (statusOfFirst re matchers alertGroup).state = stateOfAlert a := by
  induction alertGroup with
  | nil => exact .inl ⟨rfl, by simp⟩
  | cons a rest ih =>
    rw [statusOfFirst]
    cases hmatches : a.matchesAll re matchers with
    | true => exact .inr ⟨a, by simp, hmatches, rfl⟩
    | false =>
      -- the loop goes on, and `a` adds nothing to either case
      rcases ih with ⟨hok, hnone⟩ | ⟨b, hb, hmatch, hstate⟩
      · exact .inl ⟨hok, by simpa [hmatches] using hnone⟩
      · exact .inr ⟨b, by simp [hb], hmatch, hstate⟩

theorem statusOfFirst_front (ha : a ∈ alertGroup) (hmatches : a.matchesAll re matchers = true) :
    ∃ group, group.Perm alertGroup ∧
      (statusOfFirst re matchers group).state = stateOfAlert a := by
  obtain ⟨before, after, rfl⟩ := List.append_of_mem ha
  refine ⟨a :: (before ++ after), List.perm_middle.symm, ?_⟩
  rw [statusOfFirst, hmatches]
  rfl

/-- The matching alerts give one state. -/
def StatesAgree (re : Regexps) (matchers : List Matcher) (alertGroup : List GettableAlert) : Prop :=
  ∀ a ∈ alertGroup, ∀ b ∈ alertGroup, a.matchesAll re matchers = true →
    b.matchesAll re matchers = true → stateOfAlert a = stateOfAlert b

theorem StatesAgree.status_eq (h : StatesAgree re matchers alertGroup)
    (hperm : group.Perm alertGroup) (ha : a ∈ alertGroup)
    (hmatches : a.matchesAll re matchers = true) :
    (statusOfFirst re matchers group).state = stateOfAlert a := by
  rcases statusOfFirst_cases re matchers group with ⟨-, hnone⟩ | ⟨b, hb, hmatch, hstate⟩
  · have hfalse := hnone a (hperm.mem_iff.mpr ha)
    rw [hmatches] at hfalse
    cases hfalse
  · rw [hstate]
    exact h b (hperm.mem_iff.mp hb) a ha hmatch hmatches

theorem StatesAgree.status_eq_status (h : StatesAgree re matchers alertGroup)
    {group' : List GettableAlert} (hperm : group.Perm alertGroup)
    (hperm' : group'.Perm alertGroup) :
    (statusOfFirst re matchers group).state = (statusOfFirst re matchers group').state := by
  rcases statusOfFirst_cases re matchers group with ⟨hok, hnone⟩ | ⟨a, ha, hmatch, hstate⟩
  · -- then no alert of the other order matches either
    rcases statusOfFirst_cases re matchers group' with ⟨hok', -⟩ | ⟨b, hb, hmatch, -⟩
    · rw [hok, hok']
    · have hfalse := hnone b (hperm.mem_iff.mpr (hperm'.mem_iff.mp hb))
      rw [hmatch] at hfalse
      cases hfalse
  · rw [hstate, h.status_eq hperm' (hperm.mem_iff.mp ha) hmatch]

/-- The state does not depend on the order of the alerts, and it is firing if some matching
    alert fires. -/
def StatusReliable (re : Regexps) (matchers : List Matcher) (alertGroup : List GettableAlert) :
    Prop :=
  ∀ group group', group.Perm alertGroup → group'.Perm alertGroup →
    (statusFromAlertGroup re matchers group).state =
        (statusFromAlertGroup re matchers group').state ∧
      ((∃ a ∈ group, a.matchesAll re matchers = true ∧ a.Fires) →
        (statusFromAlertGroup re matchers group).state = .firing)

/-- The status of an alarm is reliable exactly if the matching alerts agree; without
    matchers, which every alert matches, exactly if none of the alerts fires. -/
theorem statusFromAlertGroup_reliable_iff (re : Regexps) (matchers : List Matcher)
    (alertGroup : List GettableAlert) :
    StatusReliable re matchers alertGroup ↔
      if matchers = [] then ∀ a ∈ alertGroup, ¬a.Fires
      else StatesAgree re matchers alertGroup := by
  by_cases hmatchers : matchers = []
  · subst hmatchers
    constructor
    · intro h a ha hfires
      have hpending := (h alertGroup alertGroup (.refl _) (.refl _)).2 ⟨a, ha, rfl, hfires⟩
      simp [statusFromAlertGroup] at hpending
    · intro h group group' hperm _
      refine ⟨rfl, ?_⟩
      rintro ⟨a, ha, -, hfires⟩
      exact absurd hfires (h a (hperm.mem_iff.mp ha))
  · have hloop : ∀ group,
        statusFromAlertGroup re matchers group = statusOfFirst re matchers group :=
      fun group => if_neg (by simpa using hmatchers)
    rw [if_neg hmatchers]
    simp only [StatusReliable, hloop]
    constructor
    · intro h a ha b hb hmatch hmatch'
      -- each of the two alerts decides the state if it is listed first
      obtain ⟨group, hperm, hstate⟩ := statusOfFirst_front ha hmatch
      obtain ⟨group', hperm', hstate'⟩ := statusOfFirst_front hb hmatch'
      rw [← hstate, ← hstate']
      exact (h group group' hperm hperm').1
    · intro h group group' hperm hperm'
      refine ⟨h.status_eq_status hperm hperm', ?_⟩
      rintro ⟨a, ha, hmatch, hfires⟩
      rw [h.status_eq hperm (hperm.mem_iff.mp ha) hmatch]
      exact stateOfAlert_eq_firing.mpr hfires

end Group

/-- An alarm and two of its alerts, of which one is silenced. -/
theorem statusFromAlertGroup_mixed :
    let matchers : List Matcher := [⟨.equal, "opni_uuid", "a"⟩]
    let alert : String → GettableAlert := fun state => ⟨AList.singleton "opni_uuid" "a", state⟩
    (statusFromAlertGroup (fun _ _ => false) matchers [alert "suppressed", alert "active"]).state =
        .silenced ∧
      (statusFromAlertGroup (fun _ _ => false) matchers
        [alert "active", alert "suppressed"]).state = .firing := by
  decide

/-! ## The Cortex backend -/

/-- The components of Cortex. -/
inductive CortexComponent where
  | distributor | ingester | ruler | purger | compactor | storeGateway | queryFrontend | querier
deriving DecidableEq

namespace CortexComponent

/-- The names by which `componentsToTrack` calls them. -/
def name : CortexComponent → String
  | distributor => "distributor"
  | ingester => "ingester"
  | ruler => "ruler"
  | purger => "purger"
  | compactor => "compactor"
  | storeGateway => "store-gateway"
  | queryFrontend => "query-frontend"
  | querier => "querier"

def all : List CortexComponent :=
  [distributor, ingester, ruler, purger, compactor, storeGateway, queryFrontend, querier]

/-- The `switch` on a tracked name; other names are passed over. -/
def ofName (cmp : String) : Option CortexComponent := all.find? (·.name = cmp)

/-- The components whose status has a memberlist. -/
def hasMemberlist : CortexComponent → Bool
  | ingester | ruler | compactor | storeGateway | querier => true
  | _ => false

/-- The components whose `case` loops over the memberlist.  Those of the store gateway and the
    querier do not look at theirs. -/
def loopsOverMembers : CortexComponent → Bool
  | ingester | ruler | compactor => true
  | _ => false

end CortexComponent

structure ServiceStatus where
  name : String
  status : String

/-- `MemberlistStatus`: `Members` with the names of its items. -/
structure MemberlistStatus where
  enabled : Bool
  members : Option (List String)

/-- `IngesterStatus`, and the other components. -/
structure ComponentStatus where
  services : List ServiceStatus
  memberlist : Option MemberlistStatus := none

structure CortexStatus where
  component : CortexComponent → Option ComponentStatus
  timestamp : Option Int

/-- Why the loop over the components is left. -/
inductive ReduceExit where
  | unhealthy
  | nilDereference
deriving DecidableEq

/-- The loop over the services of a component. -/
def reportServices (reports : GoMap String Bool) :
    List ServiceStatus → Except ReduceExit (GoMap String Bool)
  | [] => .ok reports
  | svc :: services =>
    if svc.status ≠ "Running" then .error .unhealthy
    else reportServices (reports.insert svc.name true) services

variable (reports : GoMap String Bool)

/-- The loop over the members of a memberlist.  Each is entered as reported. -/
def reportMembers (members : List String) : GoMap String Bool :=
  members.foldl (fun reports m => if m ∈ reports then reports else reports.insert m true) reports

/-- A `case` of the `switch`, for a component that has a status. -/
def reduceStatus (k : CortexComponent) (status : ComponentStatus) (reports : GoMap String Bool) :
    Except ReduceExit (GoMap String Bool) :=
  if k.loopsOverMembers then
    match status.memberlist.bind MemberlistStatus.members with
    -- `Memberlist.Members.Items` of a nil memberlist, or of nil members
    | none => .error .nilDereference
    | some members => reportServices (reportMembers reports members) status.services
  else reportServices reports status.services

/-- One component of `componentsToTrack`. -/
def reduceComponent (cStatus : CortexStatus) (reports : GoMap String Bool) (cmp : String) :
    Except ReduceExit (GoMap String Bool) :=
  match CortexComponent.ofName cmp with
  | none => .ok reports
  | some k =>
    match cStatus.component k with
    | none => .error .unhealthy
    | some status => reduceStatus k status reports

/-- `strings.Contains`. -/
def containsText (s substr : String) : Bool := s.toList.tails.any (substr.toList.isPrefixOf ·)

variable (now : Int)

/-- `reduceCortexAdminStates`, with the time of the call. -/
def reduceCortexAdminStates (componentsToTrack : List String)
    (cStatus : Option CortexStatus) : Except ReduceExit (Bool × Option Int) :=
  match cStatus with
  | none => .ok (false, some now)
  | some cStatus =>
    match componentsToTrack.foldlM (reduceComponent cStatus) ∅ with
    | .error .unhealthy => .ok (false, cStatus.timestamp)
    | .error .nilDereference => .error .nilDereference
    | .ok reports =>
      let unreported := componentsToTrack.any fun component =>
        reports.entries.any fun r => containsText r.1 component && !r.2
      .ok (!unreported, cStatus.timestamp)

/-! ### When it is healthy -/

/-- All that the reduction looks at in a status: the memberlist that it loops over is there, and
    the services run. -/
def StatusUp (k : CortexComponent) (status : ComponentStatus) : Prop :=
  (k.loopsOverMembers = true → (status.memberlist.bind MemberlistStatus.members).isSome) ∧
    ∀ svc ∈ status.services, svc.status = "Running"

def ComponentUp (cStatus : CortexStatus) (cmp : String) : Prop :=
  ∀ k, CortexComponent.ofName cmp = some k →
    ∃ status, cStatus.component k = some status ∧ StatusUp k status

/-- No entry says that a member has not reported. -/
def AllReported : Prop := ∀ m r, reports.lookup m = some r → r = true

variable {reports : GoMap String Bool}

theorem AllReported.insert (h : AllReported reports) (m : String) :
    AllReported (reports.insert m true) := by
  intro m' r hr
  rcases GoMap.lookup_insert_eq_some.mp hr with ⟨-, rfl⟩ | ⟨-, hr⟩
  · rfl
  · exact h m' r hr

theorem AllReported.members (h : AllReported reports)
    (members : List String) : AllReported (reportMembers reports members) := by
  induction members generalizing reports with
  | nil => exact h
  | cons m members ih =>
    apply ih
    show AllReported (if m ∈ reports then reports else reports.insert m true)
    split
    · exact h
    · exact h.insert m

theorem reportServices_spec (h : AllReported reports) (services : List ServiceStatus) :
    (∃ reports', reportServices reports services = .ok reports' ∧ AllReported reports' ∧
        ∀ svc ∈ services, svc.status = "Running") ∨
      reportServices reports services = .error .unhealthy ∧
        ∃ svc ∈ services, svc.status ≠ "Running" := by
  induction services generalizing reports with
  | nil => exact .inl ⟨reports, rfl, h, by simp⟩
  | cons svc services ih =>
    rw [reportServices]
    by_cases hrunning : svc.status = "Running"
    · rw [if_neg (not_not_intro hrunning)]
      rcases ih (h.insert svc.name) with ⟨reports', hok, hall, hrest⟩ | ⟨herr, s, hs, hdown⟩
      · exact .inl ⟨reports', hok, hall, List.forall_mem_cons.mpr ⟨hrunning, hrest⟩⟩
      · exact .inr ⟨herr, s, .tail _ hs, hdown⟩
    · exact .inr ⟨if_pos hrunning, svc, .head _, hrunning⟩

theorem reduceStatus_spec (k : CortexComponent) (status : ComponentStatus)
    (h : AllReported reports) :
    (∃ reports', reduceStatus k status reports = .ok reports' ∧ AllReported reports' ∧
        StatusUp k status) ∨
      (∃ exit, reduceStatus k status reports = .error exit) ∧ ¬StatusUp k status := by
  -- once the memberlist is there, the services decide
  have hservices : ∀ {reports}, AllReported reports →
      (k.loopsOverMembers = true → (status.memberlist.bind MemberlistStatus.members).isSome) →
      (∃ reports', reportServices reports status.services = .ok reports' ∧
          AllReported reports' ∧ StatusUp k status) ∨
        (∃ exit, reportServices reports status.services = .error exit) ∧ ¬StatusUp k status := by
    intro reports hreports hlist
    rcases reportServices_spec hreports status.services with
      ⟨r, hok, hall, hrun⟩ | ⟨herr, svc, hsvc, hdown⟩
    · exact .inl ⟨r, hok, hall, hlist, hrun⟩
    · exact .inr ⟨⟨_, herr⟩, fun hup => hdown (hup.2 svc hsvc)⟩
  unfold reduceStatus
  cases hlist : k.loopsOverMembers with
  | false =>
    exact hservices h (by simp [hlist])
  | true =>
    cases hmembers : status.memberlist.bind MemberlistStatus.members with
    | none =>
      refine .inr ⟨⟨.nilDereference, rfl⟩, fun hup => ?_⟩
      have hsome := hup.1 hlist
      rw [hmembers] at hsome
      cases hsome
    | some members => exact hservices (h.members members) (by simp [hmembers])

variable (cStatus : CortexStatus)

theorem reduceComponent_spec (h : AllReported reports) (cmp : String) :
    (∃ reports', reduceComponent cStatus reports cmp = .ok reports' ∧ AllReported reports' ∧
        ComponentUp cStatus cmp) ∨
      (∃ exit, reduceComponent cStatus reports cmp = .error exit) ∧ ¬ComponentUp cStatus cmp := by
  unfold reduceComponent ComponentUp
  cases hname : CortexComponent.ofName cmp with
  | none => exact .inl ⟨reports, rfl, h, by simp⟩
  | some k =>
    simp only [Option.some.injEq, forall_eq']
    cases hstatus : cStatus.component k with
    | none => exact .inr ⟨⟨.unhealthy, rfl⟩, by simp⟩
    | some status =>
      simp only [Option.some.injEq, exists_eq_left']
      exact reduceStatus_spec k status h

theorem foldlM_reduceComponent (h : AllReported reports) (components : List String) :
    (∃ reports', components.foldlM (reduceComponent cStatus) reports = .ok reports' ∧
        AllReported reports' ∧ ∀ cmp ∈ components, ComponentUp cStatus cmp) ∨
      (∃ exit, components.foldlM (reduceComponent cStatus) reports = .error exit) ∧
        ¬∀ cmp ∈ components, ComponentUp cStatus cmp := by
  induction components generalizing reports with
  | nil => exact .inl ⟨reports, rfl, h, by simp⟩
  | cons cmp components ih =>
    rw [List.foldlM_cons, List.forall_mem_cons]
    rcases reduceComponent_spec cStatus h cmp with ⟨r, hok, hall, hup⟩ | ⟨⟨exit, herr⟩, hdown⟩
    · rw [hok]
      rcases ih hall with ⟨r', hok', hall', hrest⟩ | ⟨herr', hdown⟩
      · exact .inl ⟨r', hok', hall', hup, hrest⟩
      · exact .inr ⟨herr', fun hups => hdown hups.2⟩
    · rw [herr]
      exact .inr ⟨⟨exit, rfl⟩, fun hups => hdown hups.1⟩

variable (components : List String)

section

variable (cStatus : CortexStatus)

/-- It is healthy exactly if every tracked component is there with its services running: the
    last loop, over the members that have not reported, finds none. -/
theorem reduceCortexAdminStates_healthy_iff :
    (∃ ts, reduceCortexAdminStates now components (some cStatus) = .ok (true, ts)) ↔
      ∀ cmp ∈ components, ComponentUp cStatus cmp := by
  have hempty : AllReported ∅ := fun m r hr => absurd hr (by simp)
  unfold reduceCortexAdminStates
  rcases foldlM_reduceComponent cStatus hempty components with
    ⟨reports, hok, hall, hup⟩ | ⟨⟨exit, herr⟩, hdown⟩
  · have hnone : (components.any fun component =>
        reports.entries.any fun r => containsText r.1 component && !r.2) = false := by
      rw [List.any_eq_false]
      intro component _
      rw [Bool.not_eq_true, List.any_eq_false]
      rintro ⟨m, r⟩ hr
      have hreported : r = true := hall m r (GoMap.mem_entries.mp hr)
      simp [hreported]
    simp only [hok, hnone]
    exact iff_of_true ⟨_, rfl⟩ hup
  · simp only [herr]
    refine iff_of_false ?_ hdown
    rintro ⟨ts, hts⟩
    cases exit <;> simp at hts

/-- The members of a tracked component are all reporting: each member that its memberlist has
    for it is in an enabled memberlist, and has services, which run. -/
def MembersReporting (components : List String) : Prop :=
  ∀ cmp ∈ components, ∀ k status list, CortexComponent.ofName cmp = some k →
    k.hasMemberlist = true → cStatus.component k = some status → status.memberlist = some list →
    ∀ m ∈ list.members.getD [], containsText m cmp = true →
      list.enabled = true ∧ (∃ svc ∈ status.services, svc.name = m) ∧
        ∀ svc ∈ status.services, svc.name = m → svc.status = "Running"

/-- No service of a tracked component is in another state. -/
def ServicesRunning (components : List String) : Prop :=
  ∀ cmp ∈ components, ∀ k status, CortexComponent.ofName cmp = some k →
    cStatus.component k = some status → ∀ svc ∈ status.services, svc.status = "Running"

/-- The backend is healthy only with all members reporting and all services running, exactly
    if a tracked component is missing or has a service that does not run, or all members are
    reporting.  Without a status it is not healthy. -/
theorem reduceCortexAdminStates_sound_iff :
    (((∃ ts, reduceCortexAdminStates now components (some cStatus) = .ok (true, ts)) →
        MembersReporting cStatus components ∧ ServicesRunning cStatus components) ↔
      (∃ cmp ∈ components, ¬ComponentUp cStatus cmp) ∨ MembersReporting cStatus components) ∧
    ∀ ts, reduceCortexAdminStates now components none ≠ .ok (true, ts) := by
  refine ⟨?_, fun ts => by simp [reduceCortexAdminStates]⟩
  rw [reduceCortexAdminStates_healthy_iff]
  constructor
  · intro h
    by_cases hup : ∀ cmp ∈ components, ComponentUp cStatus cmp
    · exact .inr (h hup).1
    · push Not at hup
      exact .inl hup
  · rintro (⟨cmp, hcmp, hdown⟩ | hmembers) hup
    · exact absurd (hup cmp hcmp) hdown
    · refine ⟨hmembers, ?_⟩
      intro cmp hcmp k status hname hstatus
      obtain ⟨status', hstatus', -, hrun⟩ := hup cmp hcmp k hname
      cases hstatus.symm.trans hstatus'
      exact hrun

end

/-- A component whose memberlist is not enabled and has a member without services: the ingester,
    whose members the reduction enters as reported, and the store gateway, whose members it does
    not see. -/
theorem reduceCortexAdminStates_unreported_member :
    let cStatus (k : CortexComponent) (member : String) : CortexStatus :=
      { component := fun k' =>
          if k' = k then some ⟨[⟨"server", "Running"⟩], some ⟨false, some [member]⟩⟩ else none
        timestamp := some 1 }
    (reduceCortexAdminStates 2 ["ingester"] (some (cStatus .ingester "cortex-ingester-1")) =
        .ok (true, some 1) ∧
      ¬MembersReporting (cStatus .ingester "cortex-ingester-1") ["ingester"]) ∧
    (reduceCortexAdminStates 2 ["store-gateway"]
        (some (cStatus .storeGateway "cortex-store-gateway-0")) = .ok (true, some 1) ∧
      ¬MembersReporting (cStatus .storeGateway "cortex-store-gateway-0") ["store-gateway"]) := by
  refine ⟨⟨rfl, fun h => ?_⟩, rfl, fun h => ?_⟩
  · have hmember := h "ingester" (by simp) .ingester _ _ rfl rfl rfl rfl "cortex-ingester-1"
      (by simp) (by decide)
    exact absurd hmember.1 (by simp)
  · have hmember := h "store-gateway" (by simp) .storeGateway _ _ rfl rfl rfl rfl
      "cortex-store-gateway-0" (by simp) (by decide)
    exact absurd hmember.1 (by simp)

end Opni.Alerting
