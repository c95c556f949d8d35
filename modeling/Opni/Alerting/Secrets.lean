/-
  Opni.Alerting.Secrets

  Redacting the credentials of alert endpoints, and putting them back
  (`pkg/apis/alerting/v1/secrets.go`).

  What is redacted comes back from a stored copy.  The credentials of webhooks
  are not redacted at all: `redactSecrets_iff` says that apart from them a
  redacted endpoint tells nothing about the credentials.
-/

import Opni.Alerting.Condition

namespace Opni.Alerting

open Lib

def redacted : String := "***"

/-- What `RedactSecrets` does to an endpoint of each kind. -/
def EndpointKind.redact : EndpointKind → EndpointKind
  | .slack s => .slack { s with webhookUrl := redacted }
  | .email e => .email { e with smtpAuthPassword := some redacted }
  | .pagerDuty p => .pagerDuty { p with integrationKey := redacted }
  -- `RedactSecrets` does not look at webhooks
  | .webhook w => .webhook w

namespace AlertEndpoint

def redactSecrets (e : AlertEndpoint) : AlertEndpoint :=
  { e with endpoint := e.endpoint.map EndpointKind.redact }

def hasSameImplementation (e other : AlertEndpoint) : Bool :=
  match e.endpoint, other.endpoint with
  | some (.slack _), some (.slack _) => true
  | some (.email _), some (.email _) => true
  | some (.pagerDuty _), some (.pagerDuty _) => true
  | _, _ => false

/-- `UnredactSecrets`.  The password of an email endpoint is read without looking
    whether there is one. -/
def unredactSecrets (e unredacted : AlertEndpoint) : Except Failure AlertEndpoint :=
  if !e.hasSameImplementation unredacted then .ok e
  else match e.endpoint, unredacted.endpoint with
    | some (.slack s), some (.slack s') =>
      if s.webhookUrl = redacted then
        .ok { e with endpoint := some (.slack { s with webhookUrl := s'.webhookUrl }) }
      else .ok e
    | some (.email m), some (.email m') =>
      match m.smtpAuthPassword with
      | none => nilDereference
      | some password =>
        if password = redacted then
          .ok { e with
            endpoint := some (.email { m with smtpAuthPassword := m'.smtpAuthPassword }) }
        else .ok e
    | some (.pagerDuty p), some (.pagerDuty p') =>
      if p.integrationKey = redacted then
        .ok { e with
          endpoint := some (.pagerDuty { p with integrationKey := p'.integrationKey }) }
      else .ok e
    | _, _ => .ok e

end AlertEndpoint

/-! ## Credentials -/

structure WebhookSecrets where
  password : Option String
  credentials : Option String
  clientSecret : Option String
deriving DecidableEq

def WebhookEndpoint.secrets (w : WebhookEndpoint) : WebhookSecrets where
  password := w.httpConfig.bind fun c => c.basicAuth.map (·.password)
  credentials := w.httpConfig.bind fun c => c.authorization.map (·.credentials)
  clientSecret := w.httpConfig.bind fun c => c.oauth2.map (·.clientSecret)

def HTTPConfig.withoutCredentials (c : HTTPConfig) : HTTPConfig :=
  { c with
    basicAuth := c.basicAuth.map fun a => { a with password := "" }
    authorization := c.authorization.map fun a => { a with credentials := "" }
    oauth2 := c.oauth2.map fun a => { a with clientSecret := "" } }

def WebhookEndpoint.withoutCredentials (w : WebhookEndpoint) : WebhookEndpoint :=
  { w with httpConfig := w.httpConfig.map HTTPConfig.withoutCredentials }

def EndpointKind.withoutCredentials : EndpointKind → EndpointKind
  | .slack s => .slack { s with webhookUrl := "" }
  | .email e => .email { e with smtpAuthPassword := none }
  | .pagerDuty p => .pagerDuty { p with integrationKey := "" }
  | .webhook w => .webhook w.withoutCredentials

def AlertEndpoint.withoutCredentials (e : AlertEndpoint) : AlertEndpoint :=
  { e with endpoint := e.endpoint.map EndpointKind.withoutCredentials }

/-- The secrets of a webhook endpoint. -/
def EndpointKind.webhookSecrets : EndpointKind → Option WebhookSecrets
  | .webhook w => some w.secrets
  | _ => none

@[inherit_doc EndpointKind.webhookSecrets]
def AlertEndpoint.webhookSecrets (e : AlertEndpoint) : Option WebhookSecrets :=
  e.endpoint.bind EndpointKind.webhookSecrets

/-! ## What redaction hides -/

theorem HTTPConfig.eq_of_withoutCredentials {c c' : HTTPConfig}
    (h : c.withoutCredentials = c'.withoutCredentials)
    (hpassword : c.basicAuth.map (·.password) = c'.basicAuth.map (·.password))
    (hcredentials : c.authorization.map (·.credentials) = c'.authorization.map (·.credentials))
    (hclientSecret : c.oauth2.map (·.clientSecret) = c'.oauth2.map (·.clientSecret)) : c = c' := by
  obtain ⟨basicAuth, authorization, oauth2, _, _, _, _⟩ := c
  obtain ⟨basicAuth', authorization', oauth2', _, _, _, _⟩ := c'
  simp only [HTTPConfig.withoutCredentials, HTTPConfig.mk.injEq] at h
  obtain ⟨hbasic, hauth, hoauth, rfl, rfl, rfl, rfl⟩ := h
  have hb : basicAuth = basicAuth' :=
    eq_of_map_secret (fun a a' _ _ => by cases a; cases a'; simp_all) hbasic hpassword
  have ha : authorization = authorization' :=
    eq_of_map_secret (fun a a' _ _ => by cases a; cases a'; simp_all) hauth hcredentials
  have ho : oauth2 = oauth2' :=
    eq_of_map_secret (fun a a' _ _ => by cases a; cases a'; simp_all) hoauth hclientSecret
  rw [hb, ha, ho]

theorem WebhookEndpoint.eq_iff_secrets {w w' : WebhookEndpoint}
    (h : w.withoutCredentials = w'.withoutCredentials) : w = w' ↔ w.secrets = w'.secrets := by
  refine ⟨fun heq => by rw [heq], fun hsecrets => ?_⟩
  obtain ⟨url, config, maxAlerts⟩ := w
  obtain ⟨_, config', _⟩ := w'
  simp only [withoutCredentials, WebhookEndpoint.mk.injEq] at h
  obtain ⟨rfl, hconfig, rfl⟩ := h
  simp only [secrets, WebhookSecrets.mk.injEq] at hsecrets
  obtain ⟨hpassword, hcredentials, hclientSecret⟩ := hsecrets
  cases config with
  | none => rw [Option.map_eq_none_iff.mp hconfig.symm]
  | some c =>
    obtain ⟨c', rfl, hc'⟩ := Option.map_eq_some_iff.mp hconfig.symm
    rw [HTTPConfig.eq_of_withoutCredentials hc'.symm hpassword hcredentials hclientSecret]

theorem EndpointKind.redact_eq_iff {k k' : EndpointKind}
    (h : k.withoutCredentials = k'.withoutCredentials) :
    k.redact = k'.redact ↔ k.webhookSecrets = k'.webhookSecrets := by
  cases k with
  | webhook w =>
    cases k' with
    | webhook w' =>
      have hrest : w.withoutCredentials = w'.withoutCredentials := EndpointKind.webhook.inj h
      simpa [redact, webhookSecrets] using WebhookEndpoint.eq_iff_secrets hrest
    | _ => cases h
  | slack s | email e | pagerDuty p =>
    cases k' <;> simp_all [withoutCredentials, redact, webhookSecrets]

theorem AlertEndpoint.redactSecrets_eq_iff {e e' : AlertEndpoint}
    (h : e.withoutCredentials = e'.withoutCredentials) :
    e.redactSecrets = e'.redactSecrets ↔ e.webhookSecrets = e'.webhookSecrets := by
  obtain ⟨name, description, id, properties, endpoint⟩ := e
  obtain ⟨_, _, _, _, endpoint'⟩ := e'
  simp only [withoutCredentials, AlertEndpoint.mk.injEq] at h
  obtain ⟨rfl, rfl, rfl, rfl, hkind⟩ := h
  simp only [redactSecrets, webhookSecrets, AlertEndpoint.mk.injEq, true_and]
  cases endpoint with
  | none =>
    obtain rfl := Option.map_eq_none_iff.mp hkind.symm
    simp
  | some k =>
    obtain ⟨k', rfl, hk'⟩ := Option.map_eq_some_iff.mp hkind.symm
    simpa using EndpointKind.redact_eq_iff hk'.symm

theorem AlertEndpoint.unredactSecrets_redactSecrets (e : AlertEndpoint) :
    e.redactSecrets.unredactSecrets e = .ok e := by
  obtain ⟨name, description, id, properties, endpoint⟩ := e
  cases endpoint with
  | none => rfl
  | some k =>
    -- redaction has left a password in every email, so reading it does not panic
    cases k <;> simp [redactSecrets, unredactSecrets, hasSameImplementation, EndpointKind.redact]

/-- Redaction is undone exactly, for every endpoint.  It hides the credentials of two
    endpoints that differ in nothing else just if these are not credentials of webhooks. -/
theorem redactSecrets_iff (e e' : AlertEndpoint)
    (h : e.withoutCredentials = e'.withoutCredentials) :
    (e.redactSecrets = e'.redactSecrets ↔ e.webhookSecrets = e'.webhookSecrets) ∧
      e.redactSecrets.unredactSecrets e = .ok e :=
  ⟨AlertEndpoint.redactSecrets_eq_iff h, e.unredactSecrets_redactSecrets⟩

/-- An email endpoint with this password, or with none. -/
def sampleEmail (password : Option String) : AlertEndpoint where
  name := "some-name"
  endpoint := some (.email { recipient := "alex@gmail.com", smtpAuthPassword := password })

def sampleWebhook (password : String) : AlertEndpoint where
  name := "some-name"
  endpoint := some (.webhook
    { url := "http://localhost:3000"
      httpConfig := some { basicAuth := some { username := "alex", password := password } } })

/-- An email with a password and one without cannot be told apart. -/
theorem redactSecrets_email :
    (sampleEmail (some "password")).redactSecrets = (sampleEmail none).redactSecrets ∧
      (sampleEmail none).redactSecrets.unredactSecrets (sampleEmail none) =
        .ok (sampleEmail none) := by
  have hfirst := redactSecrets_iff (sampleEmail (some "password")) (sampleEmail none) rfl
  have hsecond := redactSecrets_iff (sampleEmail none) (sampleEmail none) rfl
  exact ⟨hfirst.1.mpr rfl, hsecond.2⟩

/-- The password of a webhook is in what the redacted endpoint shows. -/
theorem redactSecrets_webhook :
    ∃ lib : Parsers,
      (sampleWebhook "one").validate lib = .ok () ∧
      (sampleWebhook "two").validate lib = .ok () ∧
      (sampleWebhook "one").withoutCredentials = (sampleWebhook "two").withoutCredentials ∧
      (sampleWebhook "one").redactSecrets ≠ (sampleWebhook "two").redactSecrets := by
  have hrest : (sampleWebhook "one").withoutCredentials =
      (sampleWebhook "two").withoutCredentials := rfl
  refine ⟨⟨fun _ => .ok (), fun s => .ok s, fun _ => .ok (), fun _ => ""⟩, rfl, rfl, hrest, ?_⟩
  intro h
  exact absurd ((AlertEndpoint.redactSecrets_eq_iff hrest).mp h) (by decide)

end Opni.Alerting
