/-
  Opni.Storage.Updates

  `UpdateCluster` and `UpdateToken` of the etcd and of the JetStream store
  (`pkg/storage/etcd`, `pkg/storage/jetstream`), as optimistic updates.
-/

import Opni.Lib.GoStrings
import Opni.Lib.OptimisticUpdate
import Opni.Storage.Objects

namespace Opni.Storage

open Lib Lib.OptimisticUpdate

/-! ## Objects -/

variable {δ : Type}

/-- The cluster as `GetCluster` returns it. -/
def readCluster (v : Versioned (Cluster δ)) : Cluster δ :=
  { v.value with resourceVersion := toString v.rev }

/-- A function of `strconv` that parses resource versions: it gives no other version than that
    of the text. -/
structure VersionParser where
  func : String
  parse : String → Except NumError Nat
  eq_of_parse : ∀ {n version}, parse (toString n) = .ok version → version = n

/-- `Atoi`.  The version of a cluster that was read has no sign. -/
def atoiParser : VersionParser where
  func := "Atoi"
  parse s := (atoi s).map Int.toNat
  eq_of_parse {n version} h := by
    rw [atoi, parseInt_toString] at h
    split at h
    · exact (Except.ok.inj h).symm
    · cases h

/-- `ParseUint`. -/
def parseUintParser : VersionParser where
  func := "ParseUint"
  parse := parseUint
  eq_of_parse {n version} h := by
    rw [parseUint_toString] at h
    split at h
    · exact (Except.ok.inj h).symm
    · cases h

/-! ## Clusters -/

/-- What both implementations of `UpdateCluster` do with the cluster that they have
    read. -/
def clusterAttempt (parser : VersionParser) (mutator : Cluster δ → Cluster δ)
    (v : Versioned (Cluster δ)) : Attempt (Cluster δ) (Cluster δ) Unit :=
  let cluster := readCluster v
  match parser.parse cluster.resourceVersion with
  | .error err =>
    .fail ("internal error: cluster has invalid resource version: " ++
      err.text parser.func cluster.resourceVersion)
  | .ok version =>
    let cluster := { mutator cluster with resourceVersion := "" }
    .write
      { expected := version
        store := fun _ => cluster
        result := fun rev => { cluster with resourceVersion := toString rev } }

def errRetry : String := "the object has been modified, retrying"

variable (mutator : Cluster δ → Cluster δ)

/-- `EtcdStore.UpdateCluster`.  The revision is that of the last modification of the
    key. -/
def etcdUpdateCluster :
    Updater (Cluster δ) (Cluster δ) Unit Unit where
  attempt _ := clusterAttempt atoiParser mutator
  notFound := "failed to get cluster: not found"
  readErr err := "failed to get cluster: failed to get cluster: " ++ err
  conflictErr := errRetry
  onWriteErr := .error
  -- the backoff is used up
  onStop last := last

/-- The error of a JetStream update when another one came first. -/
def wrongLastSequence : String := "nats: wrong last sequence"

/-- The error of the JetStream updates when their context is done. -/
def updateStopped (kind : String) : Option String → String
  | some err => "failed to update " ++ kind ++ ": " ++ err
  | none => "failed to update " ++ kind ++ ": (unknown error)"

/-- `JetStreamStore.UpdateCluster`.  The revision is the sequence number of the
    entry. -/
def jetStreamUpdateCluster :
    Updater (Cluster δ) (Cluster δ) Unit Unit where
  attempt _ := clusterAttempt parseUintParser mutator
  notFound := "not found"
  readErr err := "failed to get cluster: " ++ err
  conflictErr := wrongLastSequence
  onWriteErr := .ok
  onStop last := some (updateStopped "cluster" last)

/-! ## Tokens -/

structure LeasedToken (δ : Type) where
  token : BootstrapToken δ
  lease : Int

/-- `addLeaseMetadata`, with the time to live of the lease. -/
def addLeaseMetadata (t : LeasedToken δ) (ttl : Int) : BootstrapToken δ :=
  if t.lease ≠ 0 then { t.token with leaseID := t.lease, ttl := ttl } else t.token

variable (mutator : BootstrapToken δ → BootstrapToken δ) {ι : Type}

/-- `EtcdStore.UpdateToken`.  The revision is the version of the key; the read learns
    the time to live of the lease. -/
def etcdUpdateToken :
    Updater (BootstrapToken δ) (LeasedToken δ) (Except String Int) Unit where
  attempt timeToLive v :=
    let update := fun token : BootstrapToken δ =>
      Attempt.write
        { expected := v.rev
          store := fun _ => ⟨mutator token, v.value.lease⟩
          result := fun _ => mutator token }
    match timeToLive with
    | .ok ttl => update (addLeaseMetadata v.value ttl)
    | .error err =>
      -- without a lease nothing is looked up
      if v.value.lease ≠ 0 then .fail ("failed to get lease: " ++ err)
      else update v.value.token
  notFound := "not found"
  readErr err := "failed to get token: " ++ err
  conflictErr := errRetry
  onWriteErr := .error
  onStop last := last

/-- A token and the time at which its entry was written, in seconds. -/
structure StampedToken (δ : Type) where
  token : BootstrapToken δ
  created : Int

def patchTTL (now : Int) (t : StampedToken δ) : BootstrapToken δ :=
  let newTtl := t.token.ttl - (now - t.created)
  { t.token with ttl := if newTtl < 0 then 0 else newTtl }

/-- `JetStreamStore.UpdateToken`.  The read learns the time, and so does the write. -/
def jetStreamUpdateToken :
    Updater (BootstrapToken δ) (StampedToken δ) Int Int where
  attempt now v :=
    let token := patchTTL now v.value
    if token.ttl ≤ 0 then .expired "not found"
    else
      let token := mutator { token with resourceVersion := toString v.rev }
      -- the version is taken from what the mutator has returned
      match parseUint token.resourceVersion with
      | .error err =>
        .fail ("failed to parse resource version: " ++ err.text "ParseUint" token.resourceVersion)
      | .ok version =>
        .write
          { expected := version
            store := fun created => ⟨token, created⟩
            result := fun rev => { token with resourceVersion := toString rev } }
  notFound := "not found"
  readErr err := "failed to get token: " ++ err
  conflictErr := wrongLastSequence
  onWriteErr := .ok
  onStop last := some (updateStopped "token" last)

/-! ## What an update does -/

/-- A cluster is updated: the mutator is applied to the cluster as it is read, and the
    call returns what is stored, as it is read. -/
def ClusterUpdated (mutator : Cluster δ → Cluster δ) (v v' : Versioned (Cluster δ))
    (r : Cluster δ) : Prop :=
  v.rev < v'.rev ∧ v'.value = { mutator (readCluster v) with resourceVersion := "" } ∧
    r = readCluster v'

/-- An etcd token is updated: the mutator is applied to the token with the lease of
    its key and some time to live. -/
def LeasedTokenUpdated (v v' : Versioned (LeasedToken δ)) (r : BootstrapToken δ) : Prop :=
  v.rev < v'.rev ∧ v'.value.lease = v.value.lease ∧ r = v'.value.token ∧
    ∃ ttl, v'.value.token = mutator (addLeaseMetadata v.value ttl)

/-- A JetStream token is updated: the mutator is applied to the token with the time
    that it has left. -/
def StampedTokenUpdated (v v' : Versioned (StampedToken δ)) (r : BootstrapToken δ) : Prop :=
  v.rev < v'.rev ∧ r = { v'.value.token with resourceVersion := toString v'.rev } ∧
    ∃ now, 0 < (patchTTL now v.value).ttl ∧
      v'.value.token = mutator { patchTTL now v.value with resourceVersion := toString v.rev }

section

variable {parser : VersionParser} {mutator : Cluster δ → Cluster δ} {v : Versioned (Cluster δ)}

theorem clusterAttempt_write {w : Write (Cluster δ) (Cluster δ) Unit}
    (h : clusterAttempt parser mutator v = .write w) :
    w = { expected := v.rev
          store := fun _ => { mutator (readCluster v) with resourceVersion := "" }
          result := fun rev =>
            { mutator (readCluster v) with resourceVersion := toString rev } } := by
  simp only [clusterAttempt] at h
  split at h
  · cases h
  next version hversion =>
    obtain rfl : version = v.rev := parser.eq_of_parse hversion
    exact (Attempt.write.inj h).symm

theorem clusterAttempt_ne_expired (err : String) :
    clusterAttempt parser mutator v ≠ .expired err := by
  simp only [clusterAttempt]
  split <;> simp

end

theorem clusterUpdated_of_applies {u : Updater (Cluster δ) (Cluster δ) Unit Unit}
    {parser : VersionParser} {mutator : Cluster δ → Cluster δ}
    (hu : ∀ t v, u.attempt t v = clusterAttempt parser mutator v)
    {v v' : Versioned (Cluster δ)} {r : Cluster δ} (h : Applies u v v' r) :
    ClusterUpdated mutator v v' r := by
  obtain ⟨t, k, w, hattempt, hstore, hrev, hresult⟩ := h
  rw [hu] at hattempt
  obtain rfl := clusterAttempt_write hattempt
  refine ⟨hrev, hstore, ?_⟩
  rw [hresult]
  show _ = { v'.value with resourceVersion := toString v'.rev }
  rw [hstore]

theorem clusterUpdates_serial [DecidableEq ι] {us : ι → Updater (Cluster δ) (Cluster δ) Unit Unit}
    (parser : VersionParser) {mutators : ι → Cluster δ → Cluster δ}
    (hus : ∀ i t v, (us i).attempt t v = clusterAttempt parser (mutators i) v)
    (v₀ : Versioned (Cluster δ)) (events : List (ι × Choice Unit Unit)) :
    NoLostUpdates us (fun i => ClusterUpdated (mutators i)) v₀ events := by
  refine noLostUpdates ?_ (fun i v v' r => clusterUpdated_of_applies (hus i)) (not_expired ?_ _ _)
  · intro i t v w hattempt
    rw [hus] at hattempt
    rw [clusterAttempt_write hattempt]
  · intro i t v err
    rw [hus]
    exact clusterAttempt_ne_expired err

theorem etcdUpdateToken_write {t : Except String Int} {v : Versioned (LeasedToken δ)}
    {w : Write (BootstrapToken δ) (LeasedToken δ) Unit}
    (h : (etcdUpdateToken mutator).attempt t v = .write w) :
    ∃ ttl, w =
      { expected := v.rev
        store := fun _ => ⟨mutator (addLeaseMetadata v.value ttl), v.value.lease⟩
        result := fun _ => mutator (addLeaseMetadata v.value ttl) } := by
  simp only [etcdUpdateToken] at h
  split at h
  · exact ⟨_, (Attempt.write.inj h).symm⟩
  · split at h
    · cases h
    next hlease =>
      refine ⟨0, (Attempt.write.inj h).symm.trans ?_⟩
      simp [addLeaseMetadata, not_not.mp hlease]

theorem etcdTokenUpdates_serial [DecidableEq ι] (mutators : ι → BootstrapToken δ → BootstrapToken δ)
    (v₀ : Versioned (LeasedToken δ)) (events : List (ι × Choice (Except String Int) Unit)) :
    NoLostUpdates (fun i => etcdUpdateToken (mutators i)) (fun i => LeasedTokenUpdated (mutators i))
      v₀ events := by
  refine noLostUpdates ?_ ?_ (not_expired ?_ _ _)
  · intro i t v w hattempt
    obtain ⟨ttl, rfl⟩ := etcdUpdateToken_write _ hattempt
    rfl
  · rintro i v v' r ⟨t, k, w, hattempt, hstore, hrev, hresult⟩
    obtain ⟨ttl, rfl⟩ := etcdUpdateToken_write _ hattempt
    refine ⟨hrev, by rw [hstore], ?_, ttl, by rw [hstore]⟩
    rw [hresult, hstore]
  · intro i t v err hattempt
    simp only [etcdUpdateToken] at hattempt
    split at hattempt
    · cases hattempt
    · split at hattempt <;> cases hattempt

def KeepsVersion : Prop :=
  ∀ token, (mutator token).resourceVersion = token.resourceVersion

theorem jetStreamUpdateToken_write {mutator : BootstrapToken δ → BootstrapToken δ} {now : Int}
    {v : Versioned (StampedToken δ)} {w : Write (BootstrapToken δ) (StampedToken δ) Int}
    (h : (jetStreamUpdateToken mutator).attempt now v = .write w) :
    let token := mutator { patchTTL now v.value with resourceVersion := toString v.rev }
    0 < (patchTTL now v.value).ttl ∧ ∃ version, parseUint token.resourceVersion = .ok version ∧
      w = { expected := version
            store := fun created => ⟨token, created⟩
            result := fun rev => { token with resourceVersion := toString rev } } := by
  simp only [jetStreamUpdateToken] at h
  split at h
  · cases h
  next =>
    split at h
    · cases h
    next version hversion => exact ⟨by omega, version, hversion, (Attempt.write.inj h).symm⟩

theorem jetStreamTokenUpdates_serial [DecidableEq ι]
    {mutators : ι → BootstrapToken δ → BootstrapToken δ}
    (hmutators : ∀ i, KeepsVersion (mutators i)) {v₀ : Versioned (StampedToken δ)}
    {events : List (ι × Choice Int Int)}
    (hexpired : ¬Expired (fun i => jetStreamUpdateToken (mutators i)) v₀ events) :
    NoLostUpdates (fun i => jetStreamUpdateToken (mutators i))
      (fun i => StampedTokenUpdated (mutators i)) v₀ events := by
  refine noLostUpdates ?_ ?_ hexpired
  · intro i now v w hattempt
    obtain ⟨-, version, hversion, rfl⟩ := jetStreamUpdateToken_write hattempt
    rw [hmutators i] at hversion
    exact parseUintParser.eq_of_parse hversion
  · rintro i v v' r ⟨now, k, w, hattempt, hstore, hrev, hresult⟩
    obtain ⟨httl, version, -, rfl⟩ := jetStreamUpdateToken_write hattempt
    refine ⟨hrev, ?_, now, httl, by rw [hstore]⟩
    rw [hresult, hstore]

/-! ## No lost updates -/

/-- Concurrent updates of a cluster or of a token lose nothing.  The mutator of each
    successful call is applied to the object as it is read after the call before it:
    with the resource version of that entry, an etcd token with the lease of its key
    and its time to live, and a JetStream token with the time that it has left.
    Mutators of JetStream tokens have to leave the resource version alone, and no call
    may find the token expired. -/
theorem update_serial (δ : Type) :
    (∀ (ι : Type) [DecidableEq ι] (mutators : ι → Cluster δ → Cluster δ)
      (v₀ : Versioned (Cluster δ)) (events : List (ι × Choice Unit Unit)),
      NoLostUpdates (fun i => etcdUpdateCluster (mutators i))
        (fun i => ClusterUpdated (mutators i)) v₀ events ∧
      NoLostUpdates (fun i => jetStreamUpdateCluster (mutators i))
        (fun i => ClusterUpdated (mutators i)) v₀ events) ∧
    (∀ (ι : Type) [DecidableEq ι] (mutators : ι → BootstrapToken δ → BootstrapToken δ)
      (v₀ : Versioned (LeasedToken δ)) (events : List (ι × Choice (Except String Int) Unit)),
      NoLostUpdates (fun i => etcdUpdateToken (mutators i))
        (fun i => LeasedTokenUpdated (mutators i)) v₀ events) ∧
    ∀ (ι : Type) [DecidableEq ι] (mutators : ι → BootstrapToken δ → BootstrapToken δ)
      (v₀ : Versioned (StampedToken δ)) (events : List (ι × Choice Int Int)),
      (∀ i, KeepsVersion (mutators i)) →
      ¬Expired (fun i => jetStreamUpdateToken (mutators i)) v₀ events →
      NoLostUpdates (fun i => jetStreamUpdateToken (mutators i))
        (fun i => StampedTokenUpdated (mutators i)) v₀ events := by
  refine ⟨?_, ?_, ?_⟩
  · intro ι _ mutators v₀ events
    have hetcd (i : ι) (t : Unit) (v : Versioned (Cluster δ)) :
        (etcdUpdateCluster (mutators i)).attempt t v =
          clusterAttempt atoiParser (mutators i) v := by rw [etcdUpdateCluster]
    have hjetStream (i : ι) (t : Unit) (v : Versioned (Cluster δ)) :
        (jetStreamUpdateCluster (mutators i)).attempt t v =
          clusterAttempt parseUintParser (mutators i) v := by rw [jetStreamUpdateCluster]
    exact ⟨clusterUpdates_serial atoiParser hetcd v₀ events,
      clusterUpdates_serial parseUintParser hjetStream v₀ events⟩
  · intro ι _ mutators v₀ events
    exact etcdTokenUpdates_serial mutators v₀ events
  · intro ι _ mutators v₀ events hmutators hexpired
    exact jetStreamTokenUpdates_serial hmutators hexpired

def countUse (t : BootstrapToken Nat) : BootstrapToken Nat := { t with data := t.data + 1 }

/-- A token with a time to live of 100 seconds, written at time 0. -/
def sampleToken : BootstrapToken Nat := { data := 0, leaseID := -1, ttl := 100 }

/-- The second call writes between the read and the write of the first, which tries again. -/
def twoUpdates : List (Bool × Choice Int Int) :=
  [] ++ [(true, .read 10)] ++ [(false, .read 12)] ++ [(false, .write 15 0)] ++
    [(true, .write 16 0)] ++ [(true, .read 20)] ++ [(true, .write 20 0)]

theorem update_serial_retried :
    NoLostUpdates (fun _ => jetStreamUpdateToken countUse)
        (fun _ => StampedTokenUpdated countUse) ⟨⟨sampleToken, 0⟩, 1⟩ twoUpdates ∧
      (runUpdates (fun _ => jetStreamUpdateToken countUse) ⟨⟨sampleToken, 0⟩, 1⟩
        twoUpdates).shared.map (·.value.token.data) = some 2 := by
  have hexpired : ¬Expired (fun _ => jetStreamUpdateToken countUse) ⟨⟨sampleToken, 0⟩, 1⟩
      twoUpdates := by
    rintro ⟨i, h⟩
    simp only [twoUpdates, Interleave.happened_concat, Interleave.not_happened_nil, false_or] at h
    -- each of the three reads finds time left
    rcases h with ((((h | h) | h) | h) | h) | h <;>
      obtain ⟨-, -, now, v, err, hx, hentry, hattempt⟩ := h <;> cases hx <;> cases hentry <;>
      cases hattempt
  refine ⟨?_, by decide +kernel⟩
  exact (update_serial Nat).2.2 Bool (fun _ => countUse) ⟨⟨sampleToken, 0⟩, 1⟩ twoUpdates
    (fun _ _ => rfl) hexpired

/-- One update of a JetStream token ten seconds after it was written: the stored time
    to live is 90, although the mutator leaves it alone. -/
theorem updateToken_rewrites_ttl :
    (runUpdates (fun _ : Unit => jetStreamUpdateToken countUse) ⟨⟨sampleToken, 0⟩, 1⟩
        [((), .read 10), ((), .write 10 0)]).procs () =
      .returned (.ok { data := 1, leaseID := -1, ttl := 90, resourceVersion := "2" }) ∧
    (runUpdates (fun _ : Unit => jetStreamUpdateToken countUse) ⟨⟨sampleToken, 0⟩, 1⟩
        [((), .read 10), ((), .write 10 0)]).shared.map
        (fun v => (v.value.token.data, v.value.token.ttl)) = some (1, 90) ∧
    (countUse sampleToken).ttl = 100 := ⟨rfl, rfl, rfl⟩

end Opni.Storage
