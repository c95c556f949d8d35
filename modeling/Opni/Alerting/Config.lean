/-
  Opni.Alerting.Config

  The Alertmanager configuration that Opni generates: label matchers, the
  routing tree, receivers with their integrations, and `BuildReceiver`
  (`pkg/alerting/drivers/config`, `pkg/alerting/shared`).
-/

import Opni.Lib.DispatchTree
import Opni.Lib.GoStrings

namespace Opni.Alerting

open Lib

/-! ## Names shared by the packages -/

def opniDatasourceLabel : String := "OpniDatasource"

def opniSeverityLabel : String := "OpniSeverity"

def opniDatasourceMetrics : String := "metrics"

def backendConditionIdLabel : String := "conditionId"

def alertingHookReceiverName : String := "opni.default.hook"

structure OpniReceiverId where
  ns : String
  receiverId : String
deriving DecidableEq, Repr

def newOpniReceiverName (id : OpniReceiverId) : String :=
  ".".intercalate ["opni", id.ns, id.receiverId]

def extractReceiverId (receiverName : String) : Except String OpniReceiverId :=
  -- a dot in a namespace or an id makes four parts, which is an error
  match split '.' receiverName with
  | [_, ns, receiverId] => .ok ⟨ns, receiverId⟩
  | _ => .error ("invalid receiver name format: " ++ receiverName)

theorem newOpniReceiverName_eq (ns receiverId : String) :
    newOpniReceiverName ⟨ns, receiverId⟩ = "opni" ++ "." ++ ns ++ "." ++ receiverId := rfl

theorem newOpniReceiverName_inj {id id' : OpniReceiverId} :
    newOpniReceiverName id = newOpniReceiverName id' ↔
      id.ns ++ "." ++ id.receiverId = id'.ns ++ "." ++ id'.receiverId := by
  obtain ⟨ns, r⟩ := id
  obtain ⟨ns', r'⟩ := id'
  simp only [newOpniReceiverName_eq, String.append_assoc, String.append_right_inj]

/-! ## Matchers -/

/-- A `time.Duration`, in nanoseconds. -/
abbrev Duration := Int

def second : Duration := 1000000000

def minute : Duration := 60 * second

def hour : Duration := 60 * minute

abbrev LabelSet := GoMap String String

/-- The value of a label; an absent label equals the empty string. -/
def LabelSet.get (ls : LabelSet) (name : String) : String := (ls.lookup name).getD ""

/-- Whether a string matches an (anchored) regular expression: the `regexp`
    package is a parameter. -/
abbrev Regexps := String → String → Bool

inductive MatchType where
  | equal | notEqual | regexp | notRegexp
deriving DecidableEq, Repr

structure Matcher where
  type : MatchType
  name : String
  value : String
deriving DecidableEq, Repr

def Matcher.accepts (re : Regexps) (ls : LabelSet) (m : Matcher) : Bool :=
  match m.type with
  | .equal => ls.get m.name == m.value
  | .notEqual => ls.get m.name != m.value
  | .regexp => re m.value (ls.get m.name)
  | .notRegexp => !re m.value (ls.get m.name)

/-! ## Routes -/

/-- A `config.Route` without its `Routes`. -/
structure RouteNode where
  receiver : String := ""
  groupBy : List String := []
  /-- The deprecated field `Match`. -/
  matchLabels : GoMap String String := ∅
  /-- The deprecated field `MatchRE`. -/
  matchRE : GoMap String String := ∅
  matchers : List Matcher := []
  continues : Bool := false
  groupWait : Option Duration := none
  groupInterval : Option Duration := none
  repeatInterval : Option Duration := none
deriving DecidableEq

/-- A `config.Route` with its `Routes`. -/
abbrev Route := DispatchTree RouteNode

def RouteNode.accepts (re : Regexps) (ls : LabelSet) (n : RouteNode) : Bool :=
  n.matchLabels.entries.all (fun e => ls.get e.1 == e.2) &&
    n.matchRE.entries.all (fun e => re e.2 (ls.get e.1)) &&
    n.matchers.all (Matcher.accepts re ls)

theorem RouteNode.accepts_eq {re : Regexps} {ls : LabelSet} {n : RouteNode}
    (h : n.matchLabels = ∅) (h' : n.matchRE = ∅) :
    n.accepts re ls = n.matchers.all (Matcher.accepts re ls) := by
  rw [RouteNode.accepts, h, h']
  simp

/-- The nodes of a routing tree that an alert is delivered to. -/
def Route.deliver (re : Regexps) (ls : LabelSet) (r : Route) : List (DispatchTree.Hit RouteNode) :=
  r.select (RouteNode.accepts re ls) RouteNode.continues

/-- The receiver of a selected node: its own, or the one of the nearest node
    above it that has one. -/
def selectedReceiver (h : DispatchTree.Hit RouteNode) : String :=
  h.chain.foldl (fun r n => if n.receiver = "" then r else n.receiver) ""

/-! ## Receivers -/

/-- `SlackConfig`, with the parsed URL as text. -/
structure SlackConfig where
  sendResolved : Bool := false
  apiURL : String := ""
  channel : String := ""
  title : String := ""
  text : String := ""
deriving DecidableEq

structure HostPort where
  host : String := ""
  port : String := ""
deriving DecidableEq

/-- `EmailConfig`; `To` and `From` are `recipient` and `sender`. -/
structure EmailConfig where
  sendResolved : Bool := false
  recipient : String := ""
  sender : String := ""
  smarthost : HostPort := {}
  authUsername : String := ""
  authPassword : String := ""
  authIdentity : String := ""
  headers : GoMap String String := ∅
  html : String := ""
deriving DecidableEq

structure PagerdutyConfig where
  sendResolved : Bool := false
  serviceKey : String := ""
  details : GoMap String String := ∅
  description : String := ""
deriving DecidableEq

/-- `WebhookConfig`, with the parsed URL as text. -/
structure WebhookConfig where
  sendResolved : Bool := false
  url : String := ""
deriving DecidableEq

/-- An `OpniReceiver`: one of the four kinds that endpoints are turned into. -/
inductive OpniReceiver where
  | slack (c : SlackConfig)
  | email (c : EmailConfig)
  | pagerduty (c : PagerdutyConfig)
  | webhook (c : WebhookConfig)
deriving DecidableEq

/-- A `config.Receiver`. -/
structure Receiver where
  name : String
  slackConfigs : List SlackConfig := []
  emailConfigs : List EmailConfig := []
  pagerdutyConfigs : List PagerdutyConfig := []
  webhookConfigs : List WebhookConfig := []
deriving DecidableEq

variable (r : Receiver)

def Receiver.integrations : List OpniReceiver :=
  r.slackConfigs.map .slack ++ r.emailConfigs.map .email ++
    r.pagerdutyConfigs.map .pagerduty ++ r.webhookConfigs.map .webhook

/-- One turn of the loop of `BuildReceiver`. -/
def Receiver.add : OpniReceiver → Receiver
  | .slack c => { r with slackConfigs := r.slackConfigs ++ [c] }
  | .email c => { r with emailConfigs := r.emailConfigs ++ [c] }
  | .pagerduty c => { r with pagerdutyConfigs := r.pagerdutyConfigs ++ [c] }
  | .webhook c => { r with webhookConfigs := r.webhookConfigs ++ [c] }

variable (receiverId : String) (recvs : List OpniReceiver)

def buildReceiver : Except String Receiver :=
  if recvs.length = 0 then .error "no receivers to build"
  else
    let r := recvs.foldl Receiver.add { name := receiverId }
    if r.slackConfigs.length + r.emailConfigs.length + r.pagerdutyConfigs.length +
        r.webhookConfigs.length = 0 then
      .error "no receivers to configs parsed"
    else .ok r

variable (o : OpniReceiver)

@[simp] theorem Receiver.name_add : (r.add o).name = r.name := by
  cases o <;> rfl

theorem Receiver.integrations_add : (r.add o).integrations.Perm (o :: r.integrations) := by
  cases o <;>
  · simp only [Receiver.add, Receiver.integrations, List.map_append, List.map_cons, List.map_nil]
    -- the kinds are listed one after the other, so only the numbers agree
    apply List.perm_iff_count.mpr
    simp only [List.count_append, List.count_cons, List.count_nil]
    omega

theorem Receiver.name_foldl_add : (recvs.foldl Receiver.add r).name = r.name := by
  induction recvs generalizing r with
  | nil => rfl
  | cons o recvs ih => rw [List.foldl_cons, ih, name_add]

theorem Receiver.integrations_foldl_add :
    (recvs.foldl Receiver.add r).integrations.Perm (recvs ++ r.integrations) := by
  induction recvs generalizing r with
  | nil => exact List.Perm.refl _
  | cons o recvs ih =>
    refine (ih (r.add o)).trans ?_
    refine ((r.integrations_add o).append_left recvs).trans ?_
    exact List.perm_middle

theorem Receiver.integrations_built :
    (recvs.foldl Receiver.add { name := receiverId }).integrations.Perm recvs := by
  have hempty : Receiver.integrations { name := receiverId } = [] := rfl
  have hfold := Receiver.integrations_foldl_add { name := receiverId } recvs
  rwa [hempty, List.append_nil] at hfold

theorem buildReceiver_eq {recvs : List OpniReceiver} (h : recvs ≠ []) :
    buildReceiver receiverId recvs = .ok (recvs.foldl Receiver.add { name := receiverId }) := by
  have hlen : recvs.length ≠ 0 := by simpa using h
  -- the second check of the source cannot fail: every argument has been filed
  have hcount := (Receiver.integrations_built receiverId recvs).length_eq
  simp only [Receiver.integrations, List.length_append, List.length_map] at hcount
  rw [buildReceiver, if_neg hlen]
  rw [if_neg (by omega)]

/-! ## Configurations -/

/-- A `config.Config`, as far as routing and receivers go. -/
structure Config where
  route : Route
  receivers : List Receiver

def Config.receiverNames (c : Config) : List String := c.receivers.map (·.name)

end Opni.Alerting
