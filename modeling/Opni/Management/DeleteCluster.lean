/-
  Opni.Management.DeleteCluster

  `DeleteCluster` of the management server (`pkg/management/clusters.go`)
  among calls that add and remove capabilities: the check, the deletion of the
  keyring and that of the cluster are three storage operations, and each may
  fail.
-/

import Opni.Capabilities.Backends
import Opni.Lib.Goroutines

namespace Opni.Management

open Lib.Goroutines Capabilities Function

/-- Where `DeleteCluster` is. -/
inductive DeletePc where
  | resolving
  /-- It has found no capabilities on the cluster of the id. -/
  | deletingKeyring (id : String)
  | deletingCluster
  | deleted
  | failed (err : String)
deriving DecidableEq

/-- It is between its check and the deletion of the cluster. -/
def DeletePc.pastCheck : DeletePc → Bool
  | .deletingKeyring _ | .deletingCluster => true
  | _ => false

/-- The record of the cluster, and whether there is a keyring for it. -/
structure ClusterStorage where
  cluster : Option Cluster
  keyring : Bool
deriving DecidableEq

/-- `errors.Is(err, storage.ErrNotFound)`. -/
def errNotFound : String := "not found"

def errHasCapabilities : String :=
  "cannot delete a cluster with capabilities; uninstall the capabilities first"

/-- The next storage operation of `DeleteCluster`, which may fail with an error. -/
def nextDelete (st : ClusterStorage) (fails : Option String) :
    DeletePc → ClusterStorage × DeletePc
  | .resolving =>
    match fails, st.cluster with
    | some err, _ => (st, .failed err)
    | none, none => (st, .failed errNotFound)
    | none, some cluster =>
      if cluster.capabilities.length > 0 then (st, .failed errHasCapabilities)
      else (st, .deletingKeyring cluster.id)
  | .deletingKeyring id =>
    match fails with
    | some err =>
      (st, .failed ("failed to delete keyring store for cluster " ++ id ++ ": " ++ err))
    -- a keyring that is not found is passed over
    | none => ({ st with keyring := false }, .deletingCluster)
  | .deletingCluster =>
    match fails, st.cluster with
    | some err, _ => (st, .failed err)
    | none, none => (st, .failed errNotFound)
    | none, some _ => ({ st with cluster := none }, .deleted)
  | pc => (st, pc)

/-- A call of `DeleteCluster`, and whether its operations have changed the storage. -/
structure DeleteCall where
  pc : DeletePc := .resolving
  changed : Bool := false

structure DeleteState (ι : Type) where
  storage : ClusterStorage
  calls : ι → DeleteCall := fun _ => {}

inductive DeleteEvent (ι : Type) where
  | next (i : ι) (fails : Option String)
  /-- `UpdateCluster` with `NewAddCapabilityMutator`. -/
  | add (capability : ClusterCapability)
  /-- `UpdateCluster` with `NewRemoveCapabilityMutator`. -/
  | remove (capability : ClusterCapability)

variable {ι : Type} [DecidableEq ι]

namespace DeleteState

variable (s : DeleteState ι)

def mutate (mutator : Cluster → Cluster) : DeleteState ι :=
  { s with storage := { s.storage with cluster := s.storage.cluster.map mutator } }

def step : DeleteEvent ι → Option (DeleteState ι)
  | .next i fails =>
    let next := nextDelete s.storage fails (s.calls i).pc
    some
      { storage := next.1
        calls := update s.calls i
          ⟨next.2, (s.calls i).changed || decide (next.1 ≠ s.storage)⟩ }
  | .add capability => some (s.mutate (newAddCapabilityMutator capability))
  | .remove capability => some (s.mutate (newRemoveCapabilityMutator capability))

/-- The cluster is removed only without capabilities, and a call that fails has changed
    nothing. -/
def Safe (e : DeleteEvent ι) : Prop :=
  ∀ s', s.step e = some s' →
    (∀ c, s.storage.cluster = some c → s'.storage.cluster = none → c.capabilities = []) ∧
      ∀ i err, (s'.calls i).pc = .failed err → (s'.calls i).changed = false

/-- No capability is added while a call is between its check and the deletion, and the cluster
    is deleted without an error once the keyring is gone. -/
def Undisturbed : DeleteEvent ι → Prop
  | .add _ => ∀ i, (s.calls i).pc.pastCheck = false
  | .next i fails => (s.calls i).pc = .deletingCluster → (s.calls i).changed = true →
      fails = none ∧ s.storage.cluster.isSome
  | .remove _ => True

/-- Past the check there are no capabilities, and a call that has changed something is about to
    delete the cluster, or has done so. -/
structure Inv : Prop where
  empty : ∀ i, (s.calls i).pc.pastCheck = true →
    ∀ c, s.storage.cluster = some c → c.capabilities = []
  changed : ∀ i, (s.calls i).changed = true →
    (s.calls i).pc = .deletingCluster ∨ (s.calls i).pc = .deleted

/-- What an operation of `DeleteCluster` can do. -/
theorem nextDelete_cases (st : ClusterStorage) (fails : Option String) (pc : DeletePc) :
    (∃ err, nextDelete st fails pc = (st, .failed err) ∧
        (pc = .deletingCluster → ¬(fails = none ∧ st.cluster.isSome))) ∨
      (pc = .resolving ∧ ∃ c, nextDelete st fails pc = (st, .deletingKeyring c.id) ∧
        st.cluster = some c ∧ c.capabilities = []) ∨
      ((∃ id, pc = .deletingKeyring id) ∧
        nextDelete st fails pc = ({ st with keyring := false }, .deletingCluster)) ∨
      (pc = .deletingCluster ∧ nextDelete st fails pc = ({ st with cluster := none }, .deleted)) ∨
      (pc.pastCheck = false ∧ nextDelete st fails pc = (st, pc)) := by
  fun_cases nextDelete st fails pc with
  | case4 cluster hcluster hcaps =>
    have hnil : cluster.capabilities = [] := List.length_eq_zero_iff.mp (by omega)
    exact .inr (.inl ⟨rfl, cluster, rfl, hcluster, hnil⟩)
  | case6 id => exact .inr (.inr (.inl ⟨⟨id, rfl⟩, rfl⟩))
  | case8 hcluster => exact .inl ⟨_, rfl, by simp [hcluster]⟩
  | case9 => exact .inr (.inr (.inr (.inl ⟨rfl, rfl⟩)))
  | case10 pc hresolving hkeyring hcluster =>
    cases pc <;> simp_all [DeletePc.pastCheck]
  | _ => exact .inl ⟨_, rfl, by simp⟩

omit [DecidableEq ι] in
theorem Inv.mutate {s : DeleteState ι} (h : s.Inv) {mutator : Cluster → Cluster}
    (hm : ∀ i, (s.calls i).pc.pastCheck = true → ∀ c, c.capabilities = [] →
      (mutator c).capabilities = []) : (s.mutate mutator).Inv := by
  refine ⟨fun i hi c hc => ?_, h.changed⟩
  obtain ⟨c', hc', rfl⟩ := Option.map_eq_some_iff.mp hc
  exact hm i hi c' (h.empty i hi c' hc')

theorem Inv.step {s s' : DeleteState ι} {e : DeleteEvent ι} (h : s.Inv) (hok : s.Undisturbed e)
    (hstep : s.step e = some s') : s'.Inv := by
  cases e with
  | add capability =>
    cases hstep
    exact h.mutate fun i hi => absurd hi (by simp [hok i])
  | remove capability =>
    cases hstep
    exact h.mutate fun _ _ c hc => by simp [newRemoveCapabilityMutator, hc]
  | next i fails =>
    cases hstep
    -- the other calls are as they were; it remains to look at the one that moves
    have hrest : ∀ {st : ClusterStorage} {call : DeleteCall},
        (∀ c, st.cluster = some c → s.storage.cluster = some c) →
        (call.pc.pastCheck = true → ∀ c, st.cluster = some c → c.capabilities = []) →
        (call.changed = true → call.pc = .deletingCluster ∨ call.pc = .deleted) →
        Inv { storage := st, calls := update s.calls i call } := by
      intro st call hst hempty hchanged
      constructor
      · refine (forall_update_iff s.calls fun _ call => call.pc.pastCheck = true →
          ∀ c, st.cluster = some c → c.capabilities = []).mpr ⟨hempty, fun j _ hj c hc => ?_⟩
        exact h.empty j hj c (hst c hc)
      · exact (forall_update_iff s.calls fun _ call => call.changed = true →
          call.pc = .deletingCluster ∨ call.pc = .deleted).mpr ⟨hchanged, fun j _ => h.changed j⟩
    rcases nextDelete_cases s.storage fails (s.calls i).pc with
      ⟨err, hnext, hfails⟩ | ⟨hpc, c, hnext, hc, hnil⟩ | ⟨⟨id, hpc⟩, hnext⟩ | ⟨hpc, hnext⟩ |
      ⟨hpc, hnext⟩
    all_goals simp only [hnext, ne_eq, not_true_eq_false, decide_false, Bool.or_false]
    · refine hrest (fun _ hc => hc) (by simp [DeletePc.pastCheck]) fun hch => ?_
      -- a call that has changed something does not fail
      rcases h.changed i hch with hpc | hpc
      · exact absurd (hok hpc hch) (hfails hpc)
      · rw [hpc] at hnext
        simp [nextDelete] at hnext
    · refine hrest (fun _ hc => hc) (fun _ c' hc' => ?_) fun hch => ?_
      · rw [← Option.some.inj (hc.symm.trans hc')]
        exact hnil
      · rcases h.changed i hch with hpc' | hpc' <;> cases hpc.symm.trans hpc'
    · exact hrest (fun _ hc => hc) (fun _ => h.empty i (by rw [hpc]; rfl)) fun _ => .inl rfl
    · exact hrest (by simp) (by simp) fun _ => .inr rfl
    · exact hrest (fun _ hc => hc) (fun hp => absurd hp (by simp [hpc])) (h.changed i)

theorem Inv.safe {s : DeleteState ι} {e : DeleteEvent ι} (h : s.Inv) (hok : s.Undisturbed e) :
    s.Safe e := by
  intro s' hstep
  have hafter := h.step hok hstep
  refine ⟨fun c hc hgone => ?_, fun i err hfailed => ?_⟩
  · cases e with
    | add capability | remove capability =>
      cases hstep
      simp [DeleteState.mutate, hc] at hgone
    | next i fails =>
      cases hstep
      rcases nextDelete_cases s.storage fails (s.calls i).pc with
        ⟨err, hnext, -⟩ | ⟨-, c, hnext, -⟩ | ⟨-, hnext⟩ | ⟨hpc, -⟩ | ⟨-, hnext⟩
      case inr.inr.inr.inl => exact h.empty i (by rw [hpc]; rfl) c hc
      all_goals
        simp only [hnext] at hgone
        cases hc.symm.trans hgone
  · cases hchanged : (s'.calls i).changed with
    | false => rfl
    | true =>
      rcases hafter.changed i hchanged with hpc | hpc <;>
        cases hfailed.symm.trans hpc

end DeleteState

/-- In every interleaving in which nothing comes between the check and the deletions, the
    cluster is removed only without capabilities, and a call that fails has changed nothing. -/
theorem deleteCluster_safe (storage : ClusterStorage) (events : List (DeleteEvent ι))
    (h : Throughout DeleteState.step DeleteState.Undisturbed { storage := storage } events) :
    Throughout DeleteState.step DeleteState.Safe { storage := storage } events := by
  refine h.imp_of_invariant (I := DeleteState.Inv) ⟨?_, ?_⟩ ?_ ?_
  · exact fun i hi => absurd hi (by simp [DeletePc.pastCheck])
  · exact fun i hi => absurd hi (by simp)
  · exact fun s e s' hs hok hstep => hs.step hok hstep
  · exact fun s e hs hok => hs.safe hok

instance {n : Nat} (s : DeleteState (Fin n)) : ∀ e, Decidable (s.Undisturbed e)
  | .add _ => inferInstanceAs (Decidable (∀ i, (s.calls i).pc.pastCheck = false))
  | .next i fails => inferInstanceAs (Decidable ((s.calls i).pc = .deletingCluster →
      (s.calls i).changed = true → fails = none ∧ s.storage.cluster.isSome))
  | .remove _ => isTrue trivial

/-- A call that finds a capability, which is then removed, a call that cannot delete the keyring,
    and one that deletes the cluster. -/
theorem deleteCluster_safe_third :
    let events : List (DeleteEvent (Fin 3)) := [.add ⟨"metrics", none⟩, .next 0 none,
      .remove ⟨"metrics", none⟩, .next 1 none, .next 1 (some "deadline exceeded"), .next 2 none,
      .next 2 none, .next 2 none]
    let start : DeleteState (Fin 3) := { storage := ⟨some ⟨"c", [], ""⟩, true⟩ }
    Throughout DeleteState.step DeleteState.Safe start events ∧
      (run DeleteState.step start events).map (fun s => (s.storage, (s.calls 0).pc)) =
        some (⟨none, false⟩, .failed errHasCapabilities) := by
  intro events start
  exact ⟨deleteCluster_safe _ events (by decide), rfl⟩

/-- A capability is added after the check, and the cluster is removed with it; and when the
    cluster cannot be deleted, the keyring is gone. -/
theorem deleteCluster_races :
    let start : DeleteState Unit := { storage := ⟨some ⟨"c", [], ""⟩, true⟩ }
    let raced := run DeleteState.step start [.next () none, .add ⟨"metrics", none⟩, .next () none]
    raced.map (·.storage.cluster) = some (some ⟨"c", [⟨"metrics", none⟩], ""⟩) ∧
      (raced.bind fun s => s.step (.next () none)).map (·.storage.cluster) = some none ∧
      (run DeleteState.step start
          [.next () none, .next () none, .next () (some "deadline exceeded")]).map
        (fun s => (s.storage, (s.calls ()).pc)) =
        some (⟨some ⟨"c", [], ""⟩, false⟩, .failed "deadline exceeded") := by
  exact ⟨rfl, rfl, rfl⟩

end Opni.Management
