/-
  Opni.Objectives.SharedRequest

  Calls of the plugin that run at the same time (`plugins/slo/pkg/slo/api.go`,
  `impl.go`, `interfaces.go`).
-/

import Opni.Objectives.Groups

namespace Opni.Objectives.SharedRequest

open Lib Lib.Goroutines

variable {β : Type}

/-! ## Messages -/

inductive Message (β : Type) where
  /-- `CreateSLORequest`. -/
  | createSLO (slo : ServiceLevelObjective β)
  /-- `SLOData`, the request of `UpdateSLO`. -/
  | updateSLO (req : SLOData β)
  /-- `Reference`, the request of `DeleteSLO`. -/
  | reference (id : String)
  | listServices (datasource clusterId : String)
  | listMetrics (datasource clusterId serviceId : String)
  | listEvents (datasource clusterId serviceId metricId : String)
deriving DecidableEq

/-- `ListEventsRequest.Validate`. -/
def validateListEvents (datasource clusterId serviceId metricId : String) : Option Status :=
  if datasource = "" then some ⟨.invalidArgument, "datasource must be set"⟩
  else if datasource ≠ "monitoring" ∧ datasource ≠ "logging" then some errInvalidDatasource
  else if serviceId = "" then some ⟨.invalidArgument, "serviceId must be set"⟩
  else if clusterId = "" then some ⟨.invalidArgument, "clusterId must be set"⟩
  else if metricId = "" then some ⟨.invalidArgument, "metricId must be set"⟩
  else none

inductive Query where
  /-- `Query` for the jobs of a tenant. -/
  | services (tenant : String)
  /-- `GetSeriesMetrics`. -/
  | series (tenant jobId : String)
  /-- `GetMetricLabelSets`. -/
  | labels (tenant jobId metricName : String)
deriving DecidableEq

/-- The query that a method of the service backend makes: the method is that of the message
    `own`, and it finds the message `found`.  None if the type assertion panics. -/
def listing (own found : Message β) : Option Query :=
  match own, found with
  | .listServices .., .listServices _ clusterId => some (.services clusterId)
  | .listMetrics .., .listMetrics _ clusterId serviceId => some (.series clusterId serviceId)
  | .listEvents .., .listEvents _ clusterId serviceId metricId =>
    some (.labels clusterId serviceId metricId)
  | _, _ => none

/-! ## Calls -/

/-- The backends that are registered for the datasource. -/
inductive Backend where
  /-- `SLOMonitoring`. -/
  | slo
  /-- `MonitoringServiceBackend`. -/
  | service
deriving DecidableEq

inductive Ref where
  /-- The request of a call. -/
  | request (n : Nat)
  /-- The reference that `Update` makes, when it deletes the objective from its old cluster. -/
  | deletion (id : String)
deriving DecidableEq

/-- What `Create` and `Update` work on. -/
structure Work (β : Type) where
  source : Ref
  id : String
  clusterId : String
  toApply : List RuleGroup
  existing : Option (SLOData β)
deriving DecidableEq

inductive Task (β : Type) where
  | create
  | update (existing : SLOData β)
  /-- `Delete`, of `DeleteSLO` itself or of the `DeleteSLO` that an `Update` calls. -/
  | delete (id : String) (existing : SLOData β) (within : Option (Work β))
  | list
deriving DecidableEq

inductive Pc (β : Type) where
  | idle
  /-- Before `WithCurrentRequest`. -/
  | ready (task : Task β)
  /-- Before the method. -/
  | written (task : Task β)
  /-- Loading rule groups. -/
  | loading (work : Work β) (left : List RuleGroup) (errs : List Status)
  /-- Deleting them again after an error. -/
  | undoing (work : Work β) (names : List String) (errs : List Status)
  /-- In the `DeleteSLO` of an `Update`, before `Get`. -/
  | finding (work : Work β) (existing : SLOData β)
  /-- Deleting the rules of an objective. -/
  | deleting (id clusterId : String) (within : Option (Work β)) (names : List String)
      (errs : List Status)
  /-- Before the objective is deleted from the store. -/
  | erasing (id : String) (within : Option (Work β))
  /-- Before the objective is put into the store. -/
  | storing (work : Work β)
  | returned (result : Except (List Status) (Option String))
  | panicked
deriving DecidableEq

/-- A `LoadRules` request, and its error. -/
structure Load where
  clusterId : String
  group : RuleGroup
  fault : Option Status
deriving DecidableEq

/-- A call, with the request as it came in, the message that its method has found, and what it
    has asked Cortex and the store for. -/
structure Call (β : Type) where
  request : Option (Message β) := none
  pc : Pc β := .idle
  read : Option Ref := none
  loads : List Load := []
  puts : List (String × SLOData β) := []
  queries : List Query := []

/-- The plugin, the requests that the backends hold, the messages, and the calls. -/
structure Calls (β : Type) where
  plugin : Plugin β := {}
  current : Backend → Option Ref := fun _ => none
  messages : Nat → Message β := fun _ => .reference ""
  calls : Nat → Call β := fun _ => {}

/-- What happens; the faults are those of the request to Cortex or to the store. -/
inductive Event (β : Type) where
  /-- A call begins, with the answer of `ListClusters`; its checks and its `Get`. -/
  | call (n : Nat) (request : Message β) (clusters : Except Status (List String))
      (fault : Option Status)
  /-- `WithCurrentRequest`. -/
  | write (n : Nat)
  /-- The method of the backend is called, with the id that it may make. -/
  | read (n : Nat) (newId : String)
  | load (n : Nat) (fault : Option Status)
  | deleteRule (n : Nat) (fault : Option Status)
  /-- The end of a loop. -/
  | next (n : Nat)
  /-- `Get` in the `DeleteSLO` of an `Update`. -/
  | find (n : Nat) (fault : Option Status)
  /-- `Put` or `Delete` of the store. -/
  | store (n : Nat) (fault : Option Status)

def Event.number : Event β → Nat
  | .call n .. | .write n | .read n _ | .load n _ | .deleteRule n _ | .next n | .find n _
  | .store n _ => n

/-! ## Steps -/

def Task.backend : Task β → Backend
  | .create | .update _ | .delete .. => .slo
  | .list => .service

/-- What `WithCurrentRequest` writes for a call. -/
def Task.ref (n : Nat) : Task β → Ref
  | .delete id _ (some _) => .deletion id
  | .create | .update _ | .delete _ _ none | .list => .request n

/-- The call returns, or the `Update` goes on, which only logs an error. -/
def Pc.afterDelete (errs : List Status) : Option (Work β) → Pc β
  | none => .returned (if errs = [] then .ok none else .error errs)
  | some work => .storing work

namespace Calls

variable (s : Calls β) (n : Nat)

def setCall (c : Call β) : Calls β :=
  { s with calls := Function.update s.calls n c }

def setPc (pc : Pc β) : Calls β := s.setCall n { s.calls n with pc }

def message : Ref → Message β
  | .request n => s.messages n
  | .deletion id => .reference id

def found (backend : Backend) : Option (Ref × Message β) :=
  (s.current backend).map fun ref => (ref, s.message ref)

variable (message : Message β)

def rewrite : Ref → Calls β
  | .request n => { s with messages := Function.update s.messages n message }
  | .deletion _ => s

/-- The method of call `n` has found a request that it cannot convert. -/
def abort (found : Option (Ref × Message β)) : Calls β :=
  s.setCall n { s.calls n with read := found.map Prod.fst, pc := .panicked }

/-- The method of call `n` goes on with the request at `work.source`, which becomes `message`. -/
def begin (work : Work β) : Calls β :=
  (s.rewrite message work.source).setCall n
    { s.calls n with read := some work.source, pc := .loading work work.toApply [] }

def setGroup (clusterId name : String) (group : Option RuleGroup) : Calls β :=
  { s with plugin :=
      { s.plugin with groups := Function.update s.plugin.groups (clusterId, name) group } }

end Calls

section Step

variable (texts : Texts β)

/-- What a call does before `WithCurrentRequest`. -/
def accept (p : Plugin β) (clusters : Except Status (List String)) (fault : Option Status) :
    Message β → Pc β
  | .createSLO slo =>
    match checkRequest texts clusters slo with
    | some err => .returned (.error [err])
    | none =>
      if registered slo.datasource = false then .returned (.error [nilStore])
      else .ready .create
  | .updateSLO req =>
    match checkRequest texts clusters req.slo with
    | some err => .returned (.error [err])
    | none =>
      match p.get fault req.id with
      | .error err => .returned (.error [err])
      | .ok existing =>
        if registered req.slo.datasource = false then .returned (.error [nilStore])
        else .ready (.update existing)
  | .reference id =>
    match p.get fault id with
    | .error err => .returned (.error [err])
    | .ok existing =>
      if registered existing.slo.datasource = false then
        .returned (.error [errInvalidDatasource])
      else .ready (.delete id existing none)
  | .listServices datasource _ | .listMetrics datasource _ _ =>
    if registered datasource = false then .returned (.error [errInvalidDatasource])
    else .ready .list
  | .listEvents datasource clusterId serviceId metricId =>
    match validateListEvents datasource clusterId serviceId metricId with
    | some err => .returned (.error [err])
    | none =>
      if registered datasource = false then .returned (.error [errInvalidDatasource])
      else .ready .list

/-- The work of `Create`, on a request whose events match. -/
def createWork (source : Ref) (newId : String) (slo : ServiceLevelObjective β) : Work β where
  source
  id := newId
  clusterId := slo.clusterId
  toApply := constructCortexRules texts.text (createSLORequestToStruct newId slo)
  existing := none

/-- The work of `Update`, on a request whose events match. -/
def updateWork (source : Ref) (newId : String) (existing incoming : SLOData β) : Work β where
  source
  id := incoming.id
  clusterId := incoming.slo.clusterId
  toApply := constructCortexRules texts.text (sloDataToStruct newId incoming)
  existing := some existing

variable (s : Calls β) (n : Nat)

/-- The method of a backend is called, and reads the request there. -/
def Calls.invoke (newId : String) : Task β → Calls β
  | .create =>
    match s.found .slo with
    | some (ref, .createSLO slo) =>
      let slo := texts.matched slo
      s.begin n (.createSLO slo) (createWork texts ref newId slo)
    | found => s.abort n found
  | .update existing =>
    match s.found .slo with
    | some (ref, .updateSLO data) =>
      let incoming := ⟨data.id, texts.matched data.slo⟩
      s.begin n (.updateSLO incoming) (updateWork texts ref newId existing incoming)
    | found => s.abort n found
  | .delete id existing within =>
    -- the request is not read
    s.setPc n (.deleting id existing.slo.clusterId within
      (ruleNames (constructCortexRules texts.text
        (sloDataToStruct newId ⟨existing.id, texts.matched existing.slo⟩))) [])
  | .list =>
    match s.found .service with
    | some (ref, message) =>
      match listing (s.messages n) message with
      | some query => s.setCall n { s.calls n with
          read := some ref
          pc := .returned (.ok none)
          queries := (s.calls n).queries ++ [query] }
      | none => s.abort n (some (ref, message))
    | none => s.abort n none

variable (work : Work β)

/-- What a call puts into the store, and what it then returns. -/
def Calls.stored :
    Option (String × SLOData β × Option String) :=
  match s.messages n, s.message work.source with
  -- `CreateSLO` stores its own request, under the id that `Create` returns
  | .createSLO slo, _ => some (work.id, ⟨work.id, slo⟩, some work.id)
  -- `UpdateSLO` stores what `Update` returns, under its own id
  | .updateSLO req, .updateSLO incoming => some (req.id, incoming, none)
  | _, _ => none

/-- `LoadRules` of a group. -/
def Calls.loadRules (rules : RuleGroup)
    (left : List RuleGroup) (errs : List Status) (fault : Option Status) : Calls β :=
  let c := s.calls n
  let loads := c.loads ++ [⟨work.clusterId, rules, fault⟩]
  match fault with
  | none => (s.setGroup work.clusterId rules.name (some rules)).setCall n
      { c with loads, pc := .loading work left errs }
  | some err => s.setCall n { c with loads, pc := .loading work left (errs ++ [err]) }

/-- `DeleteRule` of a group, with what comes after it. -/
def Calls.deleteRule (clusterId name : String) (errs : List Status)
    (fault : Option Status) (pc : List Status → Pc β) : Calls β :=
  match fault with
  | none => (s.setGroup clusterId name none).setPc n (pc errs)
  -- a group that is not there is no error
  | some err => s.setPc n (pc (if err.code = .notFound then errs else errs ++ [err]))

def Pc.afterLoad (errs : List Status) : Pc β :=
  if errs ≠ [] then .undoing work (work.toApply.map (·.name)) errs
  else match work.existing with
    | none => .storing work
    | some existing =>
      if existing.slo.clusterId ≠ work.clusterId then .finding work existing else .storing work

def step (e : Event β) : Option (Calls β) :=
  match e, (s.calls e.number).pc with
  | .call n request clusters fault, .idle =>
    some ({ s with messages := Function.update s.messages n request }.setCall n
      { request := some request, pc := accept texts s.plugin clusters fault request })
  | .write n, .ready task =>
    some { s.setPc n (.written task) with
      current := Function.update s.current task.backend (some (task.ref n)) }
  | .read n newId, .written task => some (s.invoke texts n newId task)
  | .load n fault, .loading work (rules :: left) errs =>
    some (s.loadRules n work rules left errs fault)
  | .next n, .loading work [] errs => some (s.setPc n (.afterLoad work errs))
  | .deleteRule n fault, .undoing work (name :: names) errs =>
    some (s.deleteRule n work.clusterId name errs fault (.undoing work names))
  | .next n, .undoing _ [] errs => some (s.setPc n (.returned (.error errs)))
  | .find n fault, .finding work existing =>
    match s.plugin.get fault existing.id with
    | .error _ => some (s.setPc n (.storing work))
    | .ok found =>
      if registered found.slo.datasource = false then some (s.setPc n (.storing work))
      else some (s.setPc n (.ready (.delete existing.id found (some work))))
  | .deleteRule n fault, .deleting id clusterId within (name :: names) errs =>
    some (s.deleteRule n clusterId name errs fault (.deleting id clusterId within names))
  | .next n, .deleting id _ within [] errs =>
    some (s.setPc n (if errs = [] then .erasing id within else .afterDelete errs within))
  | .store n (some err), .erasing _ within => some (s.setPc n (.afterDelete [err] within))
  | .store n none, .erasing id within =>
    some { s.setPc n (.afterDelete [] within) with
      plugin := { s.plugin with slos := Function.update s.plugin.slos (sloKey id) none } }
  | .store n (some err), .storing _ => some (s.setPc n (.returned (.error [err])))
  | .store n none, .storing work =>
    match s.stored n work with
    | some (key, data, result) => some { s.setCall n { s.calls n with
          puts := (s.calls n).puts ++ [(key, data)]
          pc := .returned (.ok result) } with plugin := s.plugin.put key data }
    | none => none
  | _, _ => none

end Step

/-! ## Calls that act on their own request -/

/-- What a request asks for: groups on a cluster, and an objective under a key. -/
structure Plan (β : Type) where
  clusterId : String
  toApply : List RuleGroup
  key : String
  data : SLOData β

section

variable (texts : Texts β)

/-- What `CreateSLO` is asked for. -/
def createPlan (id : String) (slo : ServiceLevelObjective β) : Plan β where
  clusterId := slo.clusterId
  toApply := rulesOf texts ⟨id, texts.matched slo⟩
  key := id
  data := ⟨id, texts.matched slo⟩

/-- What `UpdateSLO` is asked for. -/
def updatePlan (newId : String) (req : SLOData β) : Plan β where
  clusterId := req.slo.clusterId
  toApply := constructCortexRules texts.text
    (sloDataToStruct newId ⟨req.id, texts.matched req.slo⟩)
  key := req.id
  data := ⟨req.id, texts.matched req.slo⟩

/-- The plan is one that the request asks for; ids are made by the calls. -/
def Message.Asks (plan : Plan β) : Message β → Prop
  | .createSLO slo => ∃ id, plan = createPlan texts id slo
  | .updateSLO req => ∃ newId, plan = updatePlan texts newId req
  | .reference _ | .listServices .. | .listMetrics .. | .listEvents .. => False

/-- The call has loaded all of the groups, and has stored the objective. -/
def Call.Carried (plan : Plan β) (c : Call β) : Prop :=
  c.loads = plan.toApply.map (⟨plan.clusterId, ·, none⟩) ∧ c.puts = [(plan.key, plan.data)]

/-- What a call that returns without an error has done. -/
def Call.Done (result : Option String) (c : Call β) : Message β → Prop
  | .createSLO slo => ∃ id, result = some id ∧ c.Carried (createPlan texts id slo)
  | .updateSLO req => ∃ newId, c.Carried (updatePlan texts newId req)
  | .reference _ => c.loads = [] ∧ c.puts = []
  | r@(.listServices ..) | r@(.listMetrics ..) | r@(.listEvents ..) =>
    ∃ query, listing r r = some query ∧ c.queries = [query]

/-- A call acts on its own request: what its method finds is that, it asks Cortex and the store
    for nothing else, and if it returns without an error then it has asked for all of it. -/
structure Call.Own (n : Nat) (c : Call β) : Prop where
  read : ∀ ref, c.read = some ref → ref = .request n
  running : c.pc ≠ .panicked
  loads : ∀ l ∈ c.loads, ∃ r plan, c.request = some r ∧ r.Asks texts plan ∧
    l.clusterId = plan.clusterId ∧ l.group ∈ plan.toApply
  puts : ∀ put ∈ c.puts, ∃ r plan, c.request = some r ∧ r.Asks texts plan ∧
    put = (plan.key, plan.data)
  queries : ∀ query ∈ c.queries, ∃ r, c.request = some r ∧ listing r r = some query
  done : ∀ r result, c.request = some r → c.pc = .returned (.ok result) → c.Done texts result r

def ActOnOwnRequest (s : Calls β) : Prop := ∀ n, (s.calls n).Own texts n

end

def Task.reads : Task β → Bool
  | .create | .update _ | .list => true
  | .delete .. => false

/-- A method that reads the request finds the one of its call. -/
def ReadsOwn (s : Calls β) : Event β → Prop
  | .read n _ =>
    match (s.calls n).pc with
    | .written task => task.reads = true → s.current task.backend = some (.request n)
    | _ => True
  | _ => True

instance (s : Calls β) (e : Event β) : Decidable (ReadsOwn s e) := by
  unfold ReadsOwn
  split
  · split <;> infer_instance
  · infer_instance

end Opni.Objectives.SharedRequest
