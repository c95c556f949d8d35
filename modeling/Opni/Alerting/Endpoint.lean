/-
  Opni.Alerting.Endpoint

  Alert endpoints: their validation (`pkg/apis/alerting/v1/validate.go`) and
  how one is turned into a receiver integration (`Configure`, `StoreInfo`,
  `ExtractInfo` of `pkg/alerting/drivers/config/receiver.go` and
  `newReceiverImplementationFromEndpoint`).
-/

import Opni.Alerting.Config

namespace Opni.Alerting

open Lib

/-! ## Endpoints -/

/-- `EndpointImplementation`: the texts of a notification. -/
structure EndpointImplementation where
  title : String := ""
  body : String := ""
  sendResolved : Option Bool := none
deriving DecidableEq

structure SlackEndpoint where
  webhookUrl : String
  channel : String
deriving DecidableEq

/-- `EmailEndpoint`; `To` is `recipient`. -/
structure EmailEndpoint where
  recipient : String
  smtpFrom : Option String := none
  smtpSmartHost : Option String := none
  smtpAuthUsername : Option String := none
  smtpAuthIdentity : Option String := none
  smtpAuthPassword : Option String := none
  smtpRequireTLS : Option Bool := none
deriving DecidableEq

structure PagerDutyEndpoint where
  integrationKey : String := ""
  serviceKey : String := ""
deriving DecidableEq

structure BasicAuth where
  username : String := ""
  password : String := ""
  passwordFile : String := ""
deriving DecidableEq

structure Authorization where
  type : String := ""
  credentialsFile : String := ""
  credentials : String := ""
deriving DecidableEq

structure TLSConfig where
  caFile : String := ""
  certFile : String := ""
  keyFile : String := ""
  serverName : String := ""
  insecureSkipVerify : Bool := false
  minVersion : String := ""
  maxVersion : String := ""
deriving DecidableEq

structure OAuth2 where
  clientId : String := ""
  clientSecret : String := ""
  clientSecretFile : String := ""
  scopes : List String := []
  tokenUrl : String := ""
  endpointParams : GoMap String String := ∅
  proxyUrl : String := ""
  tlsConfig : Option TLSConfig := none
deriving DecidableEq

structure HTTPConfig where
  basicAuth : Option BasicAuth := none
  authorization : Option Authorization := none
  oauth2 : Option OAuth2 := none
  enabledHttp2 : Bool := false
  proxyUrl : String := ""
  followRedirects : Bool := false
  tlsConfig : Option TLSConfig := none
deriving DecidableEq

structure WebhookEndpoint where
  url : String
  httpConfig : Option HTTPConfig := none
  maxAlerts : Int := 0
deriving DecidableEq

/-- The `oneof` of an endpoint. -/
inductive EndpointKind where
  | slack (s : SlackEndpoint)
  | email (e : EmailEndpoint)
  | pagerDuty (p : PagerDutyEndpoint)
  | webhook (w : WebhookEndpoint)
deriving DecidableEq

structure AlertEndpoint where
  name : String
  description : String := ""
  id : String := ""
  properties : GoMap String String := ∅
  endpoint : Option EndpointKind
deriving DecidableEq

/-- The parsers of `net/url` and `net/mail`, with the text of their errors, and
    the unspecified text `%v` gives for a message. -/
structure Parsers where
  parseRequestURI : String → Except String Unit
  parseURL : String → Except String String
  parseAddress : String → Except String Unit
  showEndpoint : AlertEndpoint → String

variable (lib : Parsers)

/-! ## Validation -/

/-- `validation.Error`. -/
def validationError {α : Type} (msg : String) : Except Status α := .error ⟨.invalidArgument, msg⟩

def EndpointImplementation.validate (e : EndpointImplementation) : Except Status Unit :=
  if e.title = "" then validationError "Title must be set"
  else if e.body = "" then validationError "Body must be set"
  else .ok ()

variable (s : SlackEndpoint)

def SlackEndpoint.validate : Except Status Unit :=
  if s.webhookUrl = "" then validationError "webhook must be set"
  else match lib.parseRequestURI s.webhookUrl with
    | .error err => validationError ("webhook must be a valid url : " ++ err)
    | .ok () =>
      if s.channel = "" then validationError "channel must be set"
      else if s.channel.toList.head? ≠ some '#' then
        validationError "Slack channel invalid : must start with '#'"
      else .ok ()

variable (e : EmailEndpoint)

/-- The check `EmailEndpoint.Validate` makes of the sender. -/
def EmailEndpoint.validateSender : Except Status Unit :=
  match e.smtpFrom with
  | none => .ok ()
  | some sender =>
    -- an empty sender counts as unset
    if sender = "" then .ok ()
    else match lib.parseAddress sender with
      | .error err => validationError ("Invalid sender email " ++ err)
      | .ok () => .ok ()

/-- The check `EmailEndpoint.Validate` makes of the smart host. -/
def EmailEndpoint.validateSmartHost : Except Status Unit :=
  match e.smtpSmartHost with
  | none => .ok ()
  | some host =>
    if (split ':' host).length ≠ 2 then
      validationError
        ("SMTP smart host must be in the form <address>:<port>, but got : " ++ host)
    else .ok ()

def EmailEndpoint.validate : Except Status Unit :=
  if e.recipient = "" then validationError "email recipient must be set"
  else match lib.parseAddress e.recipient with
    | .error err => validationError ("Invalid recipient email " ++ err)
    | .ok () =>
      match e.validateSender lib with
      | .error err => .error err
      | .ok () => e.validateSmartHost

def PagerDutyEndpoint.validate (a : PagerDutyEndpoint) : Except Status Unit :=
  if a.integrationKey = "" ∧ a.serviceKey = "" then
    validationError "integration key or service key must be set for pager duty endpoint"
  else if a.serviceKey ≠ "" ∧ a.integrationKey ≠ "" then
    validationError "only one of integration key or service key must be set for pager duty endpoint"
  else .ok ()

variable (w : WebhookEndpoint)

def WebhookEndpoint.validate : Except Status Unit :=
  if w.url = "" then validationError "url must be set"
  else match lib.parseURL w.url with
    | .error err => validationError ("url must be a valid url : " ++ err)
    | .ok _ => .ok ()

def AlertEndpoint.validate (a : AlertEndpoint) : Except Status Unit :=
  if a.name = "" then validationError "AlertEndpoint name must be set"
  else match a.endpoint with
    | some (.slack s) => s.validate lib
    | some (.email e) => e.validate lib
    | some (.pagerDuty p) => p.validate
    | some (.webhook w) => w.validate lib
    | none =>
      .error ⟨.unimplemented, "AlertEndpoint type " ++ lib.showEndpoint a ++
        " not implemented yet"⟩

/-! ## Configuration -/

def headerTemplate : String :=
  "\x7b\x7b range .Alerts \x7d\x7d \x7b\x7b .Annotations.OpniHeader \x7d\x7d \n \x7b\x7b end \x7d\x7d"

def bodyTemplate : String :=
  "\x7b\x7b range .Alerts \x7d\x7d \x7b\x7b .Annotations.OpniSummary \x7d\x7d \n \x7b\x7b end \x7d\x7d"

def defaultPagerdutyDetails : List (String × String) :=
  [("firing", "\x7b\x7b template \"pagerduty.default.instances\" .Alerts.Firing \x7d\x7d"),
   ("resolved", "\x7b\x7b template \"pagerduty.default.instances\" .Alerts.Resolved \x7d\x7d"),
   ("num_firing", "\x7b\x7b .Alerts.Firing | len \x7d\x7d"),
   ("num_resolved", "\x7b\x7b .Alerts.Resolved | len \x7d\x7d")]

/-- `SlackConfig.Configure` on an empty configuration. -/
def SlackEndpoint.configure : Except String SlackConfig :=
  match lib.parseURL s.webhookUrl with
  | .error err => .error err
  | .ok url =>
    .ok { apiURL := url, channel := s.channel, title := headerTemplate, text := bodyTemplate }

/-- `EmailConfig.Configure` on an empty configuration. -/
def EmailEndpoint.configure : Except String EmailConfig :=
  let base : EmailConfig :=
    { recipient := e.recipient, sender := e.smtpFrom.getD "",
      authUsername := e.smtpAuthUsername.getD "", authPassword := e.smtpAuthPassword.getD "",
      authIdentity := e.smtpAuthIdentity.getD "",
      headers := AList.singleton "Subject" headerTemplate, html := bodyTemplate }
  match e.smtpSmartHost with
  | none => .ok base
  | some smartHost =>
    -- the source indexes the parts with [0] and [1]
    match split ':' smartHost with
    | host :: port :: _ => .ok { base with smarthost := ⟨host, port⟩ }
    | _ => .error "index out of range [1] with length 1"

/-- `PagerdutyConfig.Configure` on an empty configuration. -/
def PagerDutyEndpoint.configure (p : PagerDutyEndpoint) : PagerdutyConfig :=
  -- a non-empty integration key is stored over the service key
  { serviceKey := if p.integrationKey ≠ "" then p.integrationKey else p.serviceKey,
    details :=
      GoMap.ofList Prod.fst Prod.snd (defaultPagerdutyDetails ++ [("title", headerTemplate)]),
    description := headerTemplate ++ "\n" ++ bodyTemplate }

/-- `WebhookConfig.Configure` on an empty configuration. -/
def WebhookEndpoint.configure : Except String WebhookConfig :=
  match lib.parseURL w.url with
  | .error err => .error err
  | .ok url => .ok { url := url }

/-- `StoreInfo`.  The title is not stored in any kind of receiver, and the body
    only in the subject and text of mails. -/
def OpniReceiver.storeInfo (details : EndpointImplementation) : OpniReceiver → OpniReceiver
  | .slack c => .slack { c with sendResolved := details.sendResolved.getD false }
  | .email c =>
    .email { c with
      sendResolved := details.sendResolved.getD false
      headers := c.headers.insert "Subject" details.body
      html := details.body }
  | .pagerduty c => .pagerduty { c with sendResolved := details.sendResolved.getD false }
  | .webhook c => .webhook { c with sendResolved := details.sendResolved.getD false }

/-- `ExtractInfo`: the texts of the notification are not recovered. -/
def OpniReceiver.extractInfo : OpniReceiver → EndpointImplementation
  | .slack c => { sendResolved := some c.sendResolved }
  | .email c => { sendResolved := some c.sendResolved }
  | .pagerduty c => { sendResolved := some c.sendResolved }
  | .webhook c => { sendResolved := some c.sendResolved }

/-- The `Configure` method of the receiver for an endpoint. -/
def EndpointKind.configure : EndpointKind → Except String OpniReceiver
  | .slack s => (s.configure lib).map .slack
  | .email e => e.configure.map .email
  | .pagerDuty p => .ok (.pagerduty p.configure)
  | .webhook w => (w.configure lib).map .webhook

def newReceiverImplementationFromEndpoint (endp : AlertEndpoint)
    (details : Option EndpointImplementation) : Except String OpniReceiver :=
  match endp.endpoint with
  | none => .error ("no such endpoint type implemented " ++ lib.showEndpoint endp)
  | some kind =>
    match kind.configure lib with
    | .error err => .error err
    | .ok newConfig =>
      match details with
      | none => .error "invalid memory address or nil pointer dereference"
      | some details => .ok (newConfig.storeInfo details)

/-- An endpoint whose URL `url.Parse` accepts.  A validated Slack endpoint need
    not be one: its URL has been looked at by `url.ParseRequestURI`, which does
    not take a fragment apart. -/
def AlertEndpoint.Parseable (a : AlertEndpoint) : Prop :=
  match a.endpoint with
  | some (.slack s) => ∃ url, lib.parseURL s.webhookUrl = .ok url
  | _ => True

variable {lib}

theorem EmailEndpoint.smartHost_of_validate {e : EmailEndpoint} (h : e.validate lib = .ok ())
    {host : String} (hhost : e.smtpSmartHost = some host) : (split ':' host).length = 2 := by
  have hcheck : e.validateSmartHost = .ok () := by
    revert h
    fun_cases EmailEndpoint.validate lib e with
    | case4 => exact id
    | _ => exact nofun
  by_contra hne
  simp [EmailEndpoint.validateSmartHost, hhost, hne, validationError] at hcheck

/-- A validated endpoint with a URL that parses can be turned into a receiver. -/
theorem newReceiverImplementationFromEndpoint_ok {a : AlertEndpoint}
    (hvalid : a.validate lib = .ok ()) (hparse : a.Parseable lib)
    (details : EndpointImplementation) :
    ∃ r, newReceiverImplementationFromEndpoint lib a (some details) = .ok r := by
  have hconfigure : ∃ kind, a.endpoint = some kind ∧ ∃ r, kind.configure lib = .ok r := by
    unfold AlertEndpoint.validate at hvalid
    split at hvalid
    · simp [validationError] at hvalid
    · split at hvalid
      next s hs =>
        -- the one kind whose validation does not call `url.Parse`
        simp only [AlertEndpoint.Parseable, hs] at hparse
        obtain ⟨url, hurl⟩ := hparse
        exact ⟨_, hs, by simp [EndpointKind.configure, SlackEndpoint.configure, hurl, Except.map]⟩
      next e he =>
        refine ⟨_, he, ?_⟩
        cases hhost : e.smtpSmartHost with
        | none => simp [EndpointKind.configure, EmailEndpoint.configure, hhost, Except.map]
        | some host =>
          obtain ⟨x, y, hxy⟩ := List.length_eq_two.mp (e.smartHost_of_validate hvalid hhost)
          simp [EndpointKind.configure, EmailEndpoint.configure, hhost, hxy, Except.map]
      next p hp => exact ⟨_, hp, _, rfl⟩
      next w hw =>
        obtain ⟨url, hurl⟩ : ∃ url, lib.parseURL w.url = .ok url := by
          revert hvalid
          fun_cases w.validate lib with
          | case3 _ url hurl => exact fun _ => ⟨url, hurl⟩
          | _ => exact nofun
        exact ⟨_, hw, by simp [EndpointKind.configure, WebhookEndpoint.configure, hurl, Except.map]⟩
      next => cases hvalid
  obtain ⟨kind, hkind, r, hr⟩ := hconfigure
  exact ⟨r.storeInfo details, by simp [newReceiverImplementationFromEndpoint, hkind, hr]⟩

theorem AlertEndpoint.validate_id {a : AlertEndpoint} (id : String)
    (h : a.validate lib = .ok ()) :
    ({ a with id := id } : AlertEndpoint).validate lib = .ok () := by
  unfold AlertEndpoint.validate at h ⊢
  split at h
  · simp [validationError] at h
  next hname =>
    rw [if_neg hname]
    cases hendp : a.endpoint with
    | none =>
      rw [hendp] at h
      cases h
    | some kind =>
      rw [hendp] at h
      cases kind <;> exact h

end Opni.Alerting
