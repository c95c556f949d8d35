/-
  Opni.Metrics.ConfigureCluster

  Concurrent calls of `ConfigureCluster` on one monitoring cluster object
  (`plugins/metrics/pkg/gateway/drivers/opni_manager.go`).
-/

import Mathlib.Data.Fintype.Basic
import Opni.Lib.Goroutines
import Opni.Metrics.StorageSecrets

namespace Opni.Metrics.ConfigureCluster

open Lib

/-! ## Requests and objects -/

structure GrafanaConfig where
  enabled : Option Bool
  hostname : String
deriving DecidableEq

variable (ρ : Type)

structure ClusterConfiguration where
  mode : Int := 0
  storage : Option (StorageSpec ρ)
  grafana : Option GrafanaConfig := none

/-- `MonitoringCluster`, with the fields of its spec that a call sets. -/
structure MonitoringCluster where
  resourceVersion : Nat := 0
  cortexEnabled : Bool := false
  storage : Option (StorageSpec ρ) := none
  deploymentMode : String := ""
  grafanaEnabled : Bool := false
  grafanaHostname : String := ""
  gateway : String := ""

/-- `DeploymentMode_name`. -/
def deploymentModeName (mode : Int) : String :=
  if mode = 0 then "AllInOne" else if mode = 1 then "HighlyAvailable" else ""

/-- Errors of the API server, and what a call makes of them. -/
inductive ConfigError where
  | notFound
  | conflict
  | alreadyExists
  | message (text : String)
  | status (err : Status)
  | wrapped (text : String) (err : ConfigError)
deriving DecidableEq

structure Env where
  /-- `gatewayRef.Name`. -/
  gateway : String
  /-- `Calculate` finds no difference between the object and the clone. -/
  noChanges : MonitoringCluster ρ → MonitoringCluster ρ → Bool

section Calls

variable {ρ : Type}

/-- The defaults of a request, for the hostname of the gateway. -/
def withDefaults (hostname : String) (conf : ClusterConfiguration ρ) : ClusterConfiguration ρ :=
  let grafana := conf.grafana.getD ⟨some true, ""⟩
  { conf with
    grafana := some
      { enabled := some (grafana.enabled.getD true)
        hostname := if grafana.hostname = "" then "grafana." ++ hostname else grafana.hostname } }

def retentionTooShort (conf : ClusterConfiguration ρ) : Bool :=
  ((conf.storage.bind (·.retentionPeriod)).map fun r => decide (0 < r ∧ r < 2 * 3600 * 10 ^ 9)).getD
    false

def withDirectory (storage : StorageSpec ρ) : StorageSpec ρ :=
  { storage with
    filesystem := storage.filesystem.map fun directory =>
      if directory = "" then "/data" else directory }

/-- `mutator`: the request, which it changes, and the object; none if it panics. -/
def mutator (gateway : String) (conf : ClusterConfiguration ρ) (cluster : MonitoringCluster ρ) :
    Option (Except Status (ClusterConfiguration ρ × MonitoringCluster ρ)) :=
  match conf.storage with
  | none => none -- `UnredactSecrets` has nothing to do, but the storage is then dereferenced
  | some storage =>
    match storage.unredactSecrets cluster.storage with
    | .error err => some (.error err)
    | .ok storage =>
      let conf := { conf with storage := some (withDirectory storage) }
      let grafana := conf.grafana.getD ⟨none, ""⟩
      some (.ok (conf, { cluster with
        cortexEnabled := true
        storage := conf.storage
        deploymentMode := deploymentModeName conf.mode
        grafanaEnabled := grafana.enabled.getD false
        grafanaHostname := grafana.hostname
        gateway }))

/-! ## Calls -/

inductive Pc (ρ : Type) where
  | idle
  | called
  | found (present : Bool)
  /-- Before the read of an attempt, with so many after it. -/
  | attempting (left : Nat)
  | updating (clone : MonitoringCluster ρ) (left : Nat)
  | creating (cluster : MonitoringCluster ρ)
  | returned (err : Option ConfigError)
  | panicked

structure Call (ρ : Type) where
  /-- The request as it came. -/
  request : ClusterConfiguration ρ
  /-- The request as it is now. -/
  conf : ClusterConfiguration ρ
  /-- The storage that the attempts have read. -/
  reads : List (Option (StorageSpec ρ))
  pc : Pc ρ

structure StoredWrite (ρ : Type) where
  request : ClusterConfiguration ρ
  before : Option (StorageSpec ρ)
  after : Option (StorageSpec ρ)

structure Store (ρ : Type) where
  object : Option (MonitoringCluster ρ)
  writes : List (StoredWrite ρ) := []

/-- `retry.DefaultBackoff` has four steps: three attempts after the first. -/
def retries : Nat := 3

def attempted (left : Nat) (err : ConfigError) : Pc ρ :=
  match err, left with
  | .conflict, left + 1 => .attempting left
  | _, _ => .returned (some (.wrapped "failed to update monitoring cluster: " err))

variable (object : Option (MonitoringCluster ρ))

def firstRead (fault : Option ConfigError) : Pc ρ :=
  match fault with
  | none => .found object.isSome
  | some .notFound => .found false
  | some err => .returned (some (.wrapped "failed to get monitoring cluster: " err))

variable (env : Env ρ)

/-- After the gateway has been looked up, for the hostname of its spec. -/
def gatewayRead (present : Bool) (answer : Except ConfigError String) (c : Call ρ) :
    Call ρ :=
  match answer with
  | .error err => { c with pc := .returned (some (.wrapped "failed to get gateway: " err)) }
  | .ok hostname =>
    let conf := withDefaults hostname c.conf
    if retentionTooShort conf then
      { c with
        conf
        pc := .returned (some (.message "storage retention period must be at least 2 hours")) }
    else if present then
      { c with conf, pc := .attempting retries }
    else
      match mutator env.gateway conf {} with
      | none => { c with conf, pc := .panicked }
      | some (.error err) => { c with conf, pc := .returned (some (.status err)) }
      | some (.ok (conf, cluster)) => { c with conf, pc := .creating cluster }

def attempt (object : Option (MonitoringCluster ρ)) (left : Nat)
    (fault : Option ConfigError) (c : Call ρ) : Call ρ :=
  match fault, object with
  | some err, _ => { c with pc := attempted left err }
  | none, none => { c with pc := attempted left .notFound }
  | none, some existing =>
    let c := { c with reads := c.reads ++ [existing.storage] }
    match mutator env.gateway c.conf existing with
    | none => { c with pc := .panicked }
    | some (.error err) => { c with pc := attempted left (.status err) }
    | some (.ok (conf, clone)) =>
      { c with
        conf
        pc := if env.noChanges existing clone then
            attempted left (.status ⟨.failedPrecondition, "no changes to apply"⟩)
          else .updating clone left }

variable (store : Store ρ)

/-- The update of an attempt: it succeeds if nobody has written since the read. -/
def update (clone : MonitoringCluster ρ) (left : Nat) (fault : Option ConfigError)
    (c : Call ρ) : Store ρ × Call ρ :=
  match fault, store.object with
  | some err, _ => (store, { c with pc := attempted left err })
  | none, none => (store, { c with pc := attempted left .notFound })
  | none, some current =>
    if current.resourceVersion = clone.resourceVersion then
      ({ object := some { clone with resourceVersion := clone.resourceVersion + 1 }
         writes := store.writes ++ [⟨c.request, current.storage, clone.storage⟩] },
        { c with pc := .returned none })
    else (store, { c with pc := attempted left .conflict })

def create (store : Store ρ) (cluster : MonitoringCluster ρ) (fault : Option ConfigError)
    (c : Call ρ) : Store ρ × Call ρ :=
  let failed (err : ConfigError) : Store ρ × Call ρ :=
    (store, { c with
      pc := .returned (some (.wrapped "failed to create monitoring cluster: " err)) })
  match fault, store.object with
  | some err, _ => failed err
  | none, some _ => failed .alreadyExists
  | none, none =>
    ({ object := some { cluster with resourceVersion := 1 }
       writes := store.writes ++ [⟨c.request, none, cluster.storage⟩] },
      { c with pc := .returned none })

/-- What a call does next: each step is one request to the API server, which may fail. -/
inductive CallStep (ρ : Type) where
  | call (request : ClusterConfiguration ρ)
  | get (fault : Option ConfigError)
  | gateway (answer : Except ConfigError String)
  | read (fault : Option ConfigError)
  | write (fault : Option ConfigError)

variable (c : Call ρ)

def next : CallStep ρ → Option (Store ρ × Call ρ)
  | .call request =>
    match c.pc with
    | .idle => some (store, { request, conf := request, reads := [], pc := .called })
    | _ => none
  | .get fault =>
    match c.pc with
    | .called => some (store, { c with pc := firstRead store.object fault })
    | _ => none
  | .gateway answer =>
    match c.pc with
    | .found present => some (store, gatewayRead env present answer c)
    | _ => none
  | .read fault =>
    match c.pc with
    | .attempting left => some (store, attempt env store.object left fault c)
    | _ => none
  | .write fault =>
    match c.pc with
    | .updating clone left => some (update store clone left fault c)
    | .creating cluster => some (create store cluster fault c)
    | _ => none

structure State (ρ : Type) where
  store : Store ρ
  calls : Nat → Call ρ

variable (s : State ρ) (e : Nat × CallStep ρ)

/-- Call `e.1` takes a step. -/
def step : Option (State ρ) :=
  (next env s.store (s.calls e.1) e.2).map fun (store, c) =>
    { store, calls := Function.update s.calls e.1 c }

def State.new : State ρ where
  store := { object }
  calls _ :=
    { request := { storage := none }, conf := { storage := none }, reads := [], pc := .idle }

/-! ## Secrets that are kept -/

variable (storage : Option (StorageSpec ρ))

def secretOf (k : Secret) : Option String :=
  storage.bind (·.secret k)

def NoPlaceholder : Prop := ∀ k, secretOf storage k ≠ some redacted

/-- The secrets that a request has the placeholder for stay what they were just before the
    write. -/
def StoredWrite.Keeps (w : StoredWrite ρ) : Prop :=
  ∀ k, secretOf w.request.storage k = some redacted → secretOf w.after k = secretOf w.before k

/-- No call has panicked, every successful write keeps the secrets it has the placeholder for,
    and the placeholder is stored only if it was there in the beginning. -/
structure SecretsKept (initial : Option (StorageSpec ρ)) (s : State ρ) : Prop where
  running : ∀ n, (s.calls n).pc ≠ .panicked
  kept : ∀ w ∈ s.store.writes, w.Keeps
  hidden : NoPlaceholder initial → NoPlaceholder (s.store.object.bind (·.storage))

instance : Fintype Secret where
  elems := {.secretAccessKey, .kmsEncryptionContext, .serviceAccount, .storageAccountKey,
    .msiResource, .password}
  complete k := by cases k <;> decide

/-- The first secret that the attempts have read, the placeholder itself apart. -/
def firstSecret (reads : List (Option (StorageSpec ρ))) (k : Secret) : Option (Option String) :=
  (reads.map (secretOf · k)).find? (· ≠ some redacted)

/-- The update of a call keeps the secrets, if it succeeds: those that the request has the
    placeholder for are still what the first of its attempts has read. -/
def Call.FitsWrite : Prop :=
  match c.pc, object with
  | .updating clone _, some current =>
    current.resourceVersion = clone.resourceVersion →
      ∀ k, secretOf c.request.storage k = some redacted →
        ∀ v ∈ firstSecret c.reads k, v = secretOf current.storage k
  | _, _ => True

/-- The request has a storage section when the mutator runs, and the updates keep the secrets. -/
def Fits : Nat × CallStep ρ → Prop
  | (n, .gateway (.ok _)) =>
    match (s.calls n).pc with
    | .found false => (s.calls n).request.storage.isSome
    | _ => True
  | (n, .read none) => s.store.object.isSome → (s.calls n).request.storage.isSome
  | (n, .write none) => (s.calls n).FitsWrite s.store.object
  | _ => True

instance decidableFitsWrite :
    Decidable (c.FitsWrite object) := by
  unfold Call.FitsWrite
  split <;> infer_instance

instance decidableFits : Decidable (Fits s e) := by
  unfold Fits
  split
  · split <;> infer_instance
  · infer_instance
  · infer_instance
  · infer_instance

end Calls

end Opni.Metrics.ConfigureCluster
