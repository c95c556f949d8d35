/-
  Opni.Metrics.StorageSecrets

  Redacting the secrets of a storage spec, and putting them back
  (`pkg/apis/storage/v1/secrets.go`).
-/

import Opni.Lib.GoData

namespace Opni.Metrics

open Lib

/-! ## Storage specs -/

variable (ρ : Type)

structure SSEConfig where
  kmsEncryptionContext : String
  rest : ρ
deriving DecidableEq

structure S3StorageSpec where
  secretAccessKey : String
  sse : Option (SSEConfig ρ) := none
  rest : ρ
deriving DecidableEq

structure GCSStorageSpec where
  serviceAccount : String
  rest : ρ
deriving DecidableEq

structure AzureStorageSpec where
  storageAccountKey : String
  msiResource : String
  rest : ρ
deriving DecidableEq

structure SwiftStorageSpec where
  password : String
  rest : ρ
deriving DecidableEq

/-- `StorageSpec`, with the directory of `FilesystemStorageSpec`. -/
structure StorageSpec where
  backend : String
  s3 : Option (S3StorageSpec ρ) := none
  gcs : Option (GCSStorageSpec ρ) := none
  azure : Option (AzureStorageSpec ρ) := none
  swift : Option (SwiftStorageSpec ρ) := none
  filesystem : Option String := none
  /-- In nanoseconds. -/
  retentionPeriod : Option Int := none
deriving DecidableEq

def redacted : String := "***"

def redactField (v : String) : String := if v ≠ "" then redacted else v

/-- A secret is put back if it is redacted; `stored` is that of the other spec, if it has the
    section. -/
def unredactField (message v : String) (stored : Option String) : Except Status String :=
  if v = redacted then
    if stored.getD "" = "" then .error ⟨.failedPrecondition, message⟩ else .ok (stored.getD "")
  else .ok v

def unredactSection {α : Type} (unredact : α → Option α → Except Status α)
    (cfg unredacted : Option α) :
    Except Status (Option α) :=
  match cfg with
  | none => .ok none
  | some c => (unredact c unredacted).map some

section Specs

variable {ρ : Type}

namespace SSEConfig

variable (cfg : SSEConfig ρ)

def redactSecrets : SSEConfig ρ :=
  { cfg with kmsEncryptionContext := redactField cfg.kmsEncryptionContext }

def unredactSecrets (unredacted : Option (SSEConfig ρ)) :
    Except Status (SSEConfig ρ) := do
  let kmsEncryptionContext ← unredactField "no KMS encryption context provided"
    cfg.kmsEncryptionContext (unredacted.map (·.kmsEncryptionContext))
  return { cfg with kmsEncryptionContext }

end SSEConfig

namespace S3StorageSpec

def redactSecrets (cfg : S3StorageSpec ρ) : S3StorageSpec ρ :=
  { cfg with
    secretAccessKey := redactField cfg.secretAccessKey
    sse := cfg.sse.map SSEConfig.redactSecrets }

def unredactSecrets (cfg : S3StorageSpec ρ) (unredacted : Option (S3StorageSpec ρ)) :
    Except Status (S3StorageSpec ρ) := do
  let secretAccessKey ← unredactField "no secret access key provided" cfg.secretAccessKey
    (unredacted.map (·.secretAccessKey))
  let sse ← unredactSection SSEConfig.unredactSecrets cfg.sse (unredacted.bind (·.sse))
  return { cfg with secretAccessKey, sse }

end S3StorageSpec

namespace GCSStorageSpec

variable (cfg : GCSStorageSpec ρ)

def redactSecrets : GCSStorageSpec ρ :=
  { cfg with serviceAccount := redactField cfg.serviceAccount }

def unredactSecrets (unredacted : Option (GCSStorageSpec ρ)) :
    Except Status (GCSStorageSpec ρ) := do
  let serviceAccount ← unredactField "no service account provided" cfg.serviceAccount
    (unredacted.map (·.serviceAccount))
  return { cfg with serviceAccount }

end GCSStorageSpec

namespace AzureStorageSpec

variable (cfg : AzureStorageSpec ρ)

def redactSecrets : AzureStorageSpec ρ :=
  { cfg with
    storageAccountKey := redactField cfg.storageAccountKey
    msiResource := redactField cfg.msiResource }

def unredactSecrets (unredacted : Option (AzureStorageSpec ρ)) :
    Except Status (AzureStorageSpec ρ) := do
  let storageAccountKey ← unredactField "no storage account key provided" cfg.storageAccountKey
    (unredacted.map (·.storageAccountKey))
  let msiResource ← unredactField "no MSI resource provided" cfg.msiResource
    (unredacted.map (·.msiResource))
  return { cfg with storageAccountKey, msiResource }

end AzureStorageSpec

namespace SwiftStorageSpec

variable (cfg : SwiftStorageSpec ρ)

def redactSecrets : SwiftStorageSpec ρ :=
  { cfg with password := redactField cfg.password }

def unredactSecrets (unredacted : Option (SwiftStorageSpec ρ)) :
    Except Status (SwiftStorageSpec ρ) := do
  let password ← unredactField "no password provided" cfg.password (unredacted.map (·.password))
  return { cfg with password }

end SwiftStorageSpec

namespace StorageSpec

def redactSecrets (cfg : StorageSpec ρ) : StorageSpec ρ :=
  { cfg with
    s3 := cfg.s3.map S3StorageSpec.redactSecrets
    gcs := cfg.gcs.map GCSStorageSpec.redactSecrets
    azure := cfg.azure.map AzureStorageSpec.redactSecrets
    swift := cfg.swift.map SwiftStorageSpec.redactSecrets }

/-- `UnredactSecrets`; the other spec may be nil. -/
def unredactSecrets (cfg : StorageSpec ρ) (unredacted : Option (StorageSpec ρ)) :
    Except Status (StorageSpec ρ) := do
  let s3 ← unredactSection S3StorageSpec.unredactSecrets cfg.s3 (unredacted.bind (·.s3))
  let gcs ← unredactSection GCSStorageSpec.unredactSecrets cfg.gcs (unredacted.bind (·.gcs))
  let azure ← unredactSection AzureStorageSpec.unredactSecrets cfg.azure (unredacted.bind (·.azure))
  let swift ← unredactSection SwiftStorageSpec.unredactSecrets cfg.swift (unredacted.bind (·.swift))
  return { cfg with s3, gcs, azure, swift }

end StorageSpec

/-! ## Secrets -/

inductive Secret where
  | secretAccessKey
  | kmsEncryptionContext
  | serviceAccount
  | storageAccountKey
  | msiResource
  | password
deriving DecidableEq

variable (s : StorageSpec ρ)

def StorageSpec.secret : Secret → Option String
  | .secretAccessKey => s.s3.map (·.secretAccessKey)
  | .kmsEncryptionContext => (s.s3.bind (·.sse)).map (·.kmsEncryptionContext)
  | .serviceAccount => s.gcs.map (·.serviceAccount)
  | .storageAccountKey => s.azure.map (·.storageAccountKey)
  | .msiResource => s.azure.map (·.msiResource)
  | .password => s.swift.map (·.password)

def StorageSpec.withoutSecrets : StorageSpec ρ :=
  { s with
    s3 := s.s3.map fun c => { c with
      secretAccessKey := "", sse := c.sse.map fun c => { c with kmsEncryptionContext := "" } }
    gcs := s.gcs.map fun c => { c with serviceAccount := "" }
    azure := s.azure.map fun c => { c with storageAccountKey := "", msiResource := "" }
    swift := s.swift.map fun c => { c with password := "" } }

variable {α : Type} {unredact : α → Option α → Except Status α} {s s' cfg cfg' : StorageSpec ρ}
  {message v v' : String} {st : Option α}

/-- A spec is made up of its secrets and the rest. -/
theorem eq_of_withoutSecrets (h : s.withoutSecrets = s'.withoutSecrets)
    (hsecret : ∀ k, s.secret k = s'.secret k) : s = s' := by
  obtain ⟨backend, s3, gcs, azure, swift, filesystem, retention⟩ := s
  obtain ⟨backend', s3', gcs', azure', swift', filesystem', retention'⟩ := s'
  simp only [StorageSpec.withoutSecrets, StorageSpec.mk.injEq] at h
  obtain ⟨rfl, hs3, hgcs, hazure, hswift, rfl, rfl⟩ := h
  have hs3' : s3 = s3' := by
    -- the configuration of the encryption is a section of its own
    have hkey := hsecret .secretAccessKey
    have hcontext := hsecret .kmsEncryptionContext
    cases s3 with
    | none => exact (Option.map_eq_none_iff.mp hs3.symm).symm
    | some c =>
      obtain ⟨c', rfl, hc'⟩ := Option.map_eq_some_iff.mp hs3.symm
      obtain ⟨key, sse, rest⟩ := c
      obtain ⟨key', sse', rest'⟩ := c'
      simp only [S3StorageSpec.mk.injEq, true_and] at hc'
      obtain ⟨hsse, rfl⟩ := hc'
      obtain rfl : key = key' := Option.some.inj hkey
      obtain rfl : sse = sse' :=
        eq_of_map_secret (fun a a' _ _ => by cases a; cases a'; simp_all) hsse.symm hcontext
      rfl
  have hgcs' : gcs = gcs' :=
    eq_of_map_secret (fun a a' _ _ => by cases a; cases a'; simp_all) hgcs (hsecret .serviceAccount)
  have hazure' : azure = azure' := by
    have hpair : azure.map (fun c => (c.storageAccountKey, c.msiResource)) =
        azure'.map fun c => (c.storageAccountKey, c.msiResource) := by
      have hkey := hsecret .storageAccountKey
      have hmsi := hsecret .msiResource
      cases azure <;> cases azure' <;> simp_all [StorageSpec.secret]
    exact eq_of_map_secret (fun a a' _ _ => by cases a; cases a'; simp_all) hazure hpair
  have hswift' : swift = swift' :=
    eq_of_map_secret (fun a a' _ _ => by cases a; cases a'; simp_all) hswift (hsecret .password)
  subst hs3' hgcs' hazure' hswift'
  rfl

/-! ## Redaction -/

theorem secret_redactSecrets (s : StorageSpec ρ) (k : Secret) :
    s.redactSecrets.secret k = (s.secret k).map redactField := by
  obtain ⟨backend, s3, gcs, azure, swift, filesystem, retention⟩ := s
  cases k with
  | secretAccessKey => cases s3 <;> rfl
  | kmsEncryptionContext =>
    cases s3 with
    | none => rfl
    | some c =>
      obtain ⟨key, sse, rest⟩ := c
      cases sse <;> rfl
  | serviceAccount => cases gcs <;> rfl
  | storageAccountKey | msiResource => cases azure <;> rfl
  | password => cases swift <;> rfl

theorem withoutSecrets_redactSecrets (s : StorageSpec ρ) :
    s.redactSecrets.withoutSecrets = s.withoutSecrets := by
  simp only [StorageSpec.redactSecrets, StorageSpec.withoutSecrets, Option.map_map,
    StorageSpec.mk.injEq, true_and, and_true]
  refine ⟨Option.map_congr fun c _ => ?_, rfl, rfl, rfl⟩
  simp only [Function.comp_apply, S3StorageSpec.redactSecrets, Option.map_map]
  rfl

/-- The two specs differ in secrets only, and where they do both have one. -/
structure DifferInSecrets (s s' : StorageSpec ρ) : Prop where
  rest : s.withoutSecrets = s'.withoutSecrets
  secrets : ∀ k, s.secret k = s'.secret k ∨
    ∃ v v', s.secret k = some v ∧ v ≠ "" ∧ s'.secret k = some v' ∧ v' ≠ ""

theorem redactSecrets_eq (h : DifferInSecrets s s') : s.redactSecrets = s'.redactSecrets := by
  refine eq_of_withoutSecrets ?_ fun k => ?_
  · rw [withoutSecrets_redactSecrets, withoutSecrets_redactSecrets, h.rest]
  · rw [secret_redactSecrets, secret_redactSecrets]
    rcases h.secrets k with heq | ⟨v, v', hv, hne, hv', hne'⟩
    · rw [heq]
    · rw [hv, hv', Option.map_some, Option.map_some, redactField, if_pos hne, redactField,
        if_pos hne']

theorem unredactField_redactField (message v : String) :
    unredactField message (redactField v) (some v) = .ok v := by
  unfold redactField
  split
  next hne =>
    rw [unredactField, if_pos rfl, Option.getD_some, if_neg hne]
  next hempty =>
    have hv : v = "" := not_not.mp hempty
    have hplain : v ≠ redacted := by
      rw [hv]
      decide
    rw [unredactField, if_neg hplain]

theorem unredactSection_redact {redact : α → α} (h : ∀ c, unredact (redact c) (some c) = .ok c)
    (o : Option α) : unredactSection unredact (o.map redact) o = .ok o := by
  cases o with
  | none => rfl
  | some c =>
    rw [Option.map_some, unredactSection, h c]
    rfl

/-- A redacted copy of a spec gets its secrets back from the spec. -/
theorem unredactSecrets_redactSecrets (s : StorageSpec ρ) :
    s.redactSecrets.unredactSecrets (some s) = .ok s := by
  have hsse (c : SSEConfig ρ) : c.redactSecrets.unredactSecrets (some c) = .ok c := by
    simp only [SSEConfig.unredactSecrets, SSEConfig.redactSecrets, Option.map_some,
      unredactField_redactField]
    rfl
  have hs3 (c : S3StorageSpec ρ) : c.redactSecrets.unredactSecrets (some c) = .ok c := by
    simp only [S3StorageSpec.unredactSecrets, S3StorageSpec.redactSecrets, Option.map_some,
      Option.bind_some, unredactField_redactField, unredactSection_redact hsse]
    rfl
  have hgcs (c : GCSStorageSpec ρ) : c.redactSecrets.unredactSecrets (some c) = .ok c := by
    simp only [GCSStorageSpec.unredactSecrets, GCSStorageSpec.redactSecrets, Option.map_some,
      unredactField_redactField]
    rfl
  have hazure (c : AzureStorageSpec ρ) : c.redactSecrets.unredactSecrets (some c) = .ok c := by
    simp only [AzureStorageSpec.unredactSecrets, AzureStorageSpec.redactSecrets, Option.map_some,
      unredactField_redactField]
    rfl
  have hswift (c : SwiftStorageSpec ρ) : c.redactSecrets.unredactSecrets (some c) = .ok c := by
    simp only [SwiftStorageSpec.unredactSecrets, SwiftStorageSpec.redactSecrets, Option.map_some,
      unredactField_redactField]
    rfl
  simp only [StorageSpec.unredactSecrets, StorageSpec.redactSecrets, Option.bind_some,
    unredactSection_redact hs3, unredactSection_redact hgcs, unredactSection_redact hazure,
    unredactSection_redact hswift]
  rfl

/-! ## Secrets that are put back -/

/-- What becomes of a secret: a redacted one is what the other spec has, which is not empty. -/
def PutBack (v stored v' : Option String) : Prop :=
  if v = some redacted then v' = stored ∧ ∃ w, stored = some w ∧ w ≠ "" else v' = v

theorem putBack_unredactField {stored : Option String}
    (h : unredactField message v stored = .ok v') : PutBack (some v) stored (some v') := by
  unfold unredactField at h
  split at h
  next hv =>
    split at h
    · cases h
    next hne =>
      cases h
      rw [PutBack, if_pos (congrArg some hv)]
      cases stored with
      | none => exact absurd rfl hne
      | some w => exact ⟨rfl, w, rfl, hne⟩
  next hv =>
    cases h
    rw [PutBack, if_neg fun heq => hv (Option.some.inj heq)]

theorem map_eq_bind_some (o : Option α) (f : α → String) :
    o.map f = o.bind fun c => some (f c) := by
  cases o <;> rfl

theorem putBack_of_field {field : α → String}
    (h : unredactField message v (st.map field) = .ok v') :
    PutBack (some v) (st.bind fun c => some (field c)) (some v') := by
  rw [← map_eq_bind_some]
  exact putBack_unredactField h

theorem putBack_unredactSection {get : α → Option String} {cfg cfg' : Option α}
    (hsection : ∀ c c', unredact c st = .ok c' → PutBack (get c) (st.bind get) (get c'))
    (h : unredactSection unredact cfg st = .ok cfg') :
    PutBack (cfg.bind get) (st.bind get) (cfg'.bind get) := by
  cases cfg with
  | none =>
    cases h
    simp [PutBack]
  | some c =>
    obtain ⟨c', hc', rfl⟩ := map_eq_ok_iff.mp h
    exact hsection c c' hc'

theorem putBack_secret (get : StorageSpec ρ → Option α) {secret : α → Option String}
    {st : Option (StorageSpec ρ)} {k : Secret}
    (hk : ∀ s : StorageSpec ρ, s.secret k = (get s).bind secret)
    (hsection : ∀ st c c', unredact c st = .ok c' → PutBack (secret c) (st.bind secret) (secret c'))
    (h : unredactSection unredact (get cfg) (st.bind get) = .ok (get cfg')) :
    PutBack (cfg.secret k) (st.bind (·.secret k)) (cfg'.secret k) := by
  have hst : st.bind (·.secret k) = (st.bind get).bind secret := by
    rw [Option.bind_assoc]
    simp only [hk]
  rw [hk, hk, hst]
  exact putBack_unredactSection (hsection _) h

theorem putBack_s3 {c c' : S3StorageSpec ρ} {st : Option (S3StorageSpec ρ)}
    (h : c.unredactSecrets st = .ok c') :
    PutBack (some c.secretAccessKey) (st.bind fun c => some c.secretAccessKey)
        (some c'.secretAccessKey) ∧
      PutBack (c.sse.bind fun c => some c.kmsEncryptionContext)
        (st.bind fun c => c.sse.bind fun c => some c.kmsEncryptionContext)
        (c'.sse.bind fun c => some c.kmsEncryptionContext) := by
  obtain ⟨key, hkey, h⟩ := bind_eq_ok_iff.mp h
  obtain ⟨sse, hsse, h⟩ := bind_eq_ok_iff.mp h
  cases h
  refine ⟨putBack_of_field hkey, ?_⟩
  rw [← Option.bind_assoc]
  refine putBack_unredactSection (fun c c' hc => ?_) hsse
  obtain ⟨context, hcontext, hc⟩ := bind_eq_ok_iff.mp hc
  cases hc
  exact putBack_of_field hcontext

theorem putBack_azure {c c' : AzureStorageSpec ρ} {st : Option (AzureStorageSpec ρ)}
    (h : c.unredactSecrets st = .ok c') :
    PutBack (some c.storageAccountKey) (st.bind fun c => some c.storageAccountKey)
        (some c'.storageAccountKey) ∧
      PutBack (some c.msiResource) (st.bind fun c => some c.msiResource) (some c'.msiResource) := by
  obtain ⟨key, hkey, h⟩ := bind_eq_ok_iff.mp h
  obtain ⟨msi, hmsi, h⟩ := bind_eq_ok_iff.mp h
  cases h
  exact ⟨putBack_of_field hkey, putBack_of_field hmsi⟩

/-- Each redacted secret is put back, and the others stay. -/
theorem putBack_unredactSecrets {st : Option (StorageSpec ρ)}
    (h : cfg.unredactSecrets st = .ok cfg') (k : Secret) :
    PutBack (cfg.secret k) (st.bind (·.secret k)) (cfg'.secret k) := by
  obtain ⟨s3, hs3, h⟩ := bind_eq_ok_iff.mp h
  obtain ⟨gcs, hgcs, h⟩ := bind_eq_ok_iff.mp h
  obtain ⟨azure, hazure, h⟩ := bind_eq_ok_iff.mp h
  obtain ⟨swift, hswift, h⟩ := bind_eq_ok_iff.mp h
  cases h
  cases k with
  | secretAccessKey =>
    exact putBack_secret StorageSpec.s3 (fun s => map_eq_bind_some _ _)
      (fun st c c' hc => (putBack_s3 hc).1) hs3
  | kmsEncryptionContext =>
    refine putBack_secret StorageSpec.s3 (fun s => ?_)
      (fun st c c' hc => (putBack_s3 hc).2) hs3
    rw [← Option.bind_assoc]
    exact map_eq_bind_some _ _
  | serviceAccount =>
    refine putBack_secret StorageSpec.gcs (fun s => map_eq_bind_some _ _)
      (fun st c c' hc => ?_) hgcs
    obtain ⟨account, haccount, hc⟩ := bind_eq_ok_iff.mp hc
    cases hc
    exact putBack_of_field haccount
  | storageAccountKey =>
    exact putBack_secret StorageSpec.azure (fun s => map_eq_bind_some _ _)
      (fun st c c' hc => (putBack_azure hc).1) hazure
  | msiResource =>
    exact putBack_secret StorageSpec.azure (fun s => map_eq_bind_some _ _)
      (fun st c c' hc => (putBack_azure hc).2) hazure
  | password =>
    refine putBack_secret StorageSpec.swift (fun s => map_eq_bind_some _ _)
      (fun st c c' hc => ?_) hswift
    obtain ⟨password, hpassword, hc⟩ := bind_eq_ok_iff.mp hc
    cases hc
    exact putBack_of_field hpassword

end Specs

end Opni.Metrics
