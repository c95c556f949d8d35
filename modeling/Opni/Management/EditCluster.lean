/-
  Opni.Management.EditCluster

  `EditCluster` of the management server (`pkg/management/clusters.go`) among
  other updates of the cluster.  It reads the cluster to check the immutable
  labels (`IsLabelMutable`), and then replaces all labels in an
  `UpdateCluster` of its own.
-/

import Opni.Storage.Updates

namespace Opni.Management

open Lib Lib.OptimisticUpdate Lib.Interleave Storage

/-! ## Labels -/

abbrev Labels := GoMap String String

def isLabelInternal (key : String) : Bool := hasPrefix key "opni.io/"

/-- `IsLabelMutable`; the name label is internal, and still mutable. -/
def isLabelMutable (key : String) : Bool :=
  if key = "opni.io/name" then true else !isLabelInternal key

/-- The labels that `lo.PickBy` keeps. -/
def pickImmutable (labels : Labels) : Labels :=
  labels.filterMap fun k v => if !isLabelMutable k then some v else none

/-- `ClusterMetadata`: the labels, and the rest. -/
structure ClusterMetadata (ρ : Type) where
  labels : Labels := ∅
  rest : ρ

/-- A stored cluster, whose metadata may be nil. -/
abbrev StoredCluster (ρ : Type) := Cluster (Option (ClusterMetadata ρ))

variable {ρ : Type} [Inhabited ρ]

/-- `GetMetadata().GetLabels()`. -/
def getLabels (c : StoredCluster ρ) : Labels :=
  match c.data with
  | some metadata => metadata.labels
  | none => ∅

/-- The mutator of `EditCluster`. -/
def setLabels (labels : Labels) (c : StoredCluster ρ) : StoredCluster ρ :=
  { c with data := some { c.data.getD { rest := default } with labels := labels } }

/-! ## Calls -/

inductive ClusterCall (ρ : Type) where
  /-- `EditCluster`, with the labels of the request. -/
  | edit (labels : Labels)
  /-- Another `UpdateCluster`, which does not touch the labels. -/
  | update (mutator : StoredCluster ρ → StoredCluster ρ)
      (keeps : ∀ c, getLabels (mutator c) = getLabels c)

def ClusterCall.mutator : ClusterCall ρ → StoredCluster ρ → StoredCluster ρ
  | .edit labels => setLabels labels
  | .update mutator _ => mutator

inductive CallPc (ρ : Type) where
  /-- `EditCluster`, about to resolve its reference. -/
  | resolving
  | failed (err : String)
  /-- In `UpdateCluster`. -/
  | updating (p : CallState (StoredCluster ρ) (StoredCluster ρ) Unit)

def ClusterCall.start : ClusterCall ρ → CallPc ρ
  | .edit _ => .resolving
  | .update .. => .updating (.ready none)

inductive CallChoice where
  /-- The reference resolves to the cluster as it is stored. -/
  | resolve
  /-- The request is not valid, or its reference is not resolved. -/
  | fails (err : String)
  | update (x : Choice Unit Unit)

/-- The two storage backends. -/
inductive UpdateBackend where
  | etcd | jetStream

def UpdateBackend.updateCluster : UpdateBackend → (StoredCluster ρ → StoredCluster ρ) →
    Updater (StoredCluster ρ) (StoredCluster ρ) Unit Unit
  | .etcd => etcdUpdateCluster
  | .jetStream => jetStreamUpdateCluster

/-- The check of `EditCluster`. -/
def checkLabels (labels : Labels) (oldCluster : StoredCluster ρ) : CallPc ρ :=
  if !(pickImmutable (getLabels oldCluster)).equal (pickImmutable labels) then
    .failed "cannot change immutable labels"
  else .updating (.ready none)

/-- A step of a call.  A choice that does not fit leaves the call where it is. -/
def nextClusterCall (b : UpdateBackend) (call : ClusterCall ρ) (x : CallChoice)
    (entry : Option (Versioned (StoredCluster ρ))) (pc : CallPc ρ) :
    Option (Versioned (StoredCluster ρ)) × CallPc ρ :=
  match pc, x, call, entry with
  | .resolving, .resolve, .edit labels, some v => (some v, checkLabels labels v.value)
  | .resolving, .fails err, _, entry => (entry, .failed err)
  | .updating p, .update x, call, entry =>
    let next := nextCall (b.updateCluster call.mutator) x entry p
    (next.1, .updating next.2)
  | pc, _, _, entry => (entry, pc)

variable {ι : Type}

def runClusterCalls [DecidableEq ι] (b : UpdateBackend) (calls : ι → ClusterCall ρ)
    (v₀ : Versioned (StoredCluster ρ)) (events : List (ι × CallChoice)) :
    Config ι (Option (Versioned (StoredCluster ρ))) (CallPc ρ) :=
  run (fun i => nextClusterCall b (calls i)) ⟨some v₀, fun i => (calls i).start⟩ events

/-! ## The labels that are stored -/

/-- The value of a label, if it is immutable. -/
def immutableLabel (labels : Labels) (key : String) : Option String :=
  if isLabelMutable key then none else labels.lookup key

theorem immutableLabel_eq_of_equal {labels labels' : Labels}
    (h : (pickImmutable labels).equal (pickImmutable labels') = true) :
    immutableLabel labels = immutableLabel labels' := by
  have hpick : ∀ (labels : Labels) key,
      (pickImmutable labels).lookup key = immutableLabel labels key := by
    intro labels key
    rw [pickImmutable, GoMap.lookup_filterMap, immutableLabel]
    cases isLabelMutable key <;> cases labels.lookup key <;> rfl
  funext key
  rw [← hpick, ← hpick]
  exact GoMap.lookup_eq_of_equal h key

variable (calls : ι → ClusterCall ρ)

/-- Labels that may be stored: the immutable ones are those at the creation, and all of them
    are those at the creation or those of a request. -/
def Storable (created labels : Labels) : Prop :=
  immutableLabel labels = immutableLabel created ∧
    (labels = created ∨ ∃ i, ∃ req, calls i = .edit req ∧ labels = req)

/-- What a call has to keep to: past the check the labels of its request may be stored, and so
    may what it is about to write. -/
def CallOk (created : Labels) (call : ClusterCall ρ) (pc : CallPc ρ) :
    Prop :=
  ∀ p, pc = .updating p →
    (∀ req, call = .edit req → Storable calls created req) ∧
    (∀ w, p = .writing w → ∀ k, Storable calls created (getLabels (w.store k))) ∧
    ∀ err, p ≠ .collecting err

section

variable {b : UpdateBackend} {calls : ι → ClusterCall ρ} {created : Labels} {call : ClusterCall ρ}
  {v : Versioned (StoredCluster ρ)} (hv : Storable calls created (getLabels v.value))

omit [Inhabited ρ] in
theorem UpdateBackend.exists_attempt (mutator : StoredCluster ρ → StoredCluster ρ) (t : Unit) :
    ∃ parser, (b.updateCluster mutator).attempt t v = clusterAttempt parser mutator v := by
  cases b with
  | etcd => exact ⟨atoiParser, by rw [updateCluster, etcdUpdateCluster]⟩
  | jetStream => exact ⟨parseUintParser, by rw [updateCluster, jetStreamUpdateCluster]⟩

include hv in
theorem storable_attempt (hcall : ∀ req, call = .edit req → Storable calls created req)
    {w : Write (StoredCluster ρ) (StoredCluster ρ) Unit}
    (h : (b.updateCluster call.mutator).attempt () v = .write w) (k : Unit) :
    Storable calls created (getLabels (w.store k)) := by
  obtain ⟨parser, hattempt⟩ := UpdateBackend.exists_attempt (b := b) (v := v) call.mutator ()
  obtain rfl := clusterAttempt_write (hattempt.symm.trans h)
  cases call with
  | edit req => exact hcall req rfl
  | update mutator keeps =>
    show Storable calls created (getLabels (mutator (readCluster v)))
    rw [keeps]
    exact hv

include hv

/-- A step of `UpdateCluster` stores only what may be stored. -/
theorem nextCall_ok {p : CallState (StoredCluster ρ) (StoredCluster ρ) Unit}
    (hp : CallOk calls created call (.updating p)) (x : Choice Unit Unit) :
    let next := nextCall (b.updateCluster call.mutator) x (some v) p
    (∃ v', next.1 = some v' ∧ Storable calls created (getLabels v'.value)) ∧
      CallOk calls created call (.updating next.2) := by
  intro next
  obtain ⟨hcall, hwrite, hcollect⟩ := hp p rfl
  have hstep := callStep_nextCall (b.updateCluster call.mutator) x (some v) p
  generalize next.1 = entry', next.2 = p' at hstep ⊢
  cases hstep with
  | stays _ _ hwriting hcollecting =>
    refine ⟨⟨v, rfl, hv⟩, ?_⟩
    rintro _ ⟨⟩
    refine ⟨hcall, fun w hw => hwrite w ((hwriting w hw).symm.trans hw), fun err herr => ?_⟩
    exact hcollect err ((hcollecting err herr).symm.trans herr)
  | done =>
    refine ⟨⟨v, rfl, hv⟩, ?_⟩
    rintro _ ⟨⟩
    exact ⟨hcall, by simp, by simp⟩
  | reads hsome hattempt =>
    cases hsome
    refine ⟨⟨v, rfl, hv⟩, ?_⟩
    rintro _ ⟨⟩
    refine ⟨hcall, ?_, by simp⟩
    rintro _ ⟨⟩
    exact storable_attempt hv hcall hattempt
  | expires hfinds =>
    obtain ⟨-, t, v', err, -, hsome, hexpired⟩ := hfinds
    obtain ⟨parser, hattempt⟩ := UpdateBackend.exists_attempt (b := b) (v := v') call.mutator t
    exact absurd (hattempt.symm.trans hexpired) (clusterAttempt_ne_expired err)
  | writes k bump _ _ =>
    refine ⟨⟨_, rfl, hwrite _ rfl k⟩, ?_⟩
    rintro _ ⟨⟩
    exact ⟨hcall, by simp, by simp⟩
  | collects => exact absurd rfl (hcollect _)

omit [Inhabited ρ] in
/-- The check lets only those requests pass whose labels may be stored. -/
theorem checkLabels_ok {i : ι} {req : Labels} (hi : calls i = .edit req) :
    CallOk calls created (.edit req) (checkLabels req v.value) := by
  unfold checkLabels
  split
  · rintro p ⟨⟩
  next hequal =>
    rintro p ⟨⟩
    refine ⟨?_, by simp, by simp⟩
    rintro _ ⟨⟩
    have hsame := immutableLabel_eq_of_equal (by simpa using hequal)
    exact ⟨hsame.symm.trans hv.1, .inr ⟨i, req, hi, rfl⟩⟩

theorem nextClusterCall_ok (i : ι) (x : CallChoice) {pc : CallPc ρ}
    (hpc : CallOk calls created (calls i) pc) :
    let next := nextClusterCall b (calls i) x (some v) pc
    (∃ v', next.1 = some v' ∧ Storable calls created (getLabels v'.value)) ∧
      CallOk calls created (calls i) next.2 := by
  dsimp only
  generalize hcall : calls i = call at hpc ⊢
  -- most choices change neither the store nor the call
  have hkeep : ∀ pc, CallOk calls created call pc →
      (∃ v', some v = some v' ∧ Storable calls created (getLabels v'.value)) ∧
        CallOk calls created call pc := fun pc hpc => ⟨⟨v, rfl, hv⟩, hpc⟩
  generalize hentry : some v = entry
  fun_cases nextClusterCall b call x entry pc with
  | case1 =>
    cases hentry
    exact hkeep _ (checkLabels_ok hv hcall)
  | case2 => exact hentry ▸ hkeep _ (by rintro p ⟨⟩)
  | case3 =>
    subst hentry
    exact nextCall_ok hv hpc _
  | case4 => exact hentry ▸ hkeep _ hpc

end

/-- Whatever the interleaving, the immutable labels of the stored cluster are those that it was
    created with, and its labels are those or the labels of an `EditCluster` request. -/
theorem editCluster_keeps_immutable [DecidableEq ι] (b : UpdateBackend) (calls : ι → ClusterCall ρ)
    (v₀ : Versioned (StoredCluster ρ)) (events : List (ι × CallChoice)) :
    ∃ v, (runClusterCalls b calls v₀ events).shared = some v ∧
      immutableLabel (getLabels v.value) = immutableLabel (getLabels v₀.value) ∧
      (getLabels v.value = getLabels v₀.value ∨
        ∃ i, ∃ req, calls i = .edit req ∧ getLabels v.value = req) := by
  -- the invariant: the stored labels may be stored, and each call keeps to its part
  have hinv : (∃ v, (runClusterCalls b calls v₀ events).shared = some v ∧
      Storable calls (getLabels v₀.value) (getLabels v.value)) ∧
      ∀ i, CallOk calls (getLabels v₀.value) (calls i)
        ((runClusterCalls b calls v₀ events).procs i) := by
    induction events using List.reverseRecOn with
    | nil =>
      refine ⟨⟨v₀, rfl, rfl, .inl rfl⟩, fun i p hp => ?_⟩
      have hstart : (calls i).start = .updating p := hp
      cases hcall : calls i with
      | edit req =>
        rw [hcall] at hstart
        simp [ClusterCall.start] at hstart
      | update mutator keeps =>
        rw [hcall] at hstart
        obtain rfl := CallPc.updating.inj hstart
        exact ⟨by simp, by simp, by simp⟩
    | append_singleton events e ih =>
      obtain ⟨⟨v, hshared, hv⟩, hprocs⟩ := ih
      have hnext := nextClusterCall_ok (b := b) hv e.1 e.2 (hprocs e.1)
      simp only [runClusterCalls, run_concat] at hshared hprocs ⊢
      rw [← hshared] at hnext
      refine ⟨hnext.1, fun i => ?_⟩
      by_cases hi : i = e.1
      · subst hi
        rw [procs_step_self]
        exact hnext.2
      · rw [procs_step_of_ne _ _ _ hi]
        exact hprocs i
  obtain ⟨v, hshared, himmutable, hlabels⟩ := hinv.1
  exact ⟨v, hshared, himmutable, hlabels⟩

end Opni.Management
