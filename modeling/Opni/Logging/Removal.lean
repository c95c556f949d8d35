/-
  Opni.Logging.Removal

  Removing the logging capability from a cluster, with its Kubernetes objects
  (`plugins/logging/pkg/gateway/uninstall.go`), and removing the OpenSearch
  cluster (`admin_v2.go` and `admin.go` there).
-/

import Opni.Logging.OpensearchCluster

namespace Opni.Logging

/-! ## The objects of a cluster -/

/-- The objects that are labelled with the id of the cluster, and its capability. -/
structure ClusterObjects where
  loggingClusters : Nat
  secrets : Nat
  capability : Bool
deriving DecidableEq

/-- How a run ends; the last is a `Delete` of a nil object, for which the client returns an error
    or panics. -/
inductive Removal where
  | ok
  | failed (err : String)
  | nilDeleted
deriving DecidableEq

/-- The calls of an uninstall run that fail; the first deletes the stored data, if it is to be. -/
structure UninstallFaults where
  deleteData : Option String := none
  listClusters : Option String := none
  listSecrets : Option String := none
  deleteCluster : Option String := none
  deleteSecret : Option String := none
  updateCluster : Option String := none

variable (id : String) (f : UninstallFaults) (o : ClusterObjects)

def errDeleteClusterInvalidList : String :=
  "listing cluster " ++ id ++ " failed: list did not return exactly 1 result"

/-- The items of a list, which is empty if the call fails: the error is not returned. -/
def listed (fails : Option String) (items : Nat) : Nat := if fails.isSome then 0 else items

def deleteKubernetesObjects : ClusterObjects × Removal :=
  let clusters := listed f.listClusters o.loggingClusters
  let secrets := listed f.listSecrets o.secrets
  if 1 < clusters ∨ 1 < secrets then (o, .failed (errDeleteClusterInvalidList id))
  else
    match f.deleteCluster, clusters with
    | some err, 1 => (o, .failed err)
    | _, clusters =>
      let o' := { o with loggingClusters := o.loggingClusters - clusters }
      -- a secret that was not found is a nil pointer
      if secrets = 0 then (o', .nilDeleted)
      else
        match f.deleteSecret with
        | some err => (o', .failed err)
        | none => ({ o' with secrets := o.secrets - 1 }, .ok)

def onTaskRunning : ClusterObjects × Removal :=
  match f.deleteData, deleteKubernetesObjects id f o with
  | some err, _ => (o, .failed err)
  | none, (o', .ok) =>
    match f.updateCluster with
    | some err => (o', .failed err)
    | none => ({ o' with capability := false }, .ok)
  | none, r => r

/-- No object that is missing is deleted, and nil is returned only when both objects are gone, and
    then if no call fails. -/
@[mk_iff]
structure Retryable : Prop where
  found : (deleteKubernetesObjects id f o).2 ≠ .nilDeleted
  gone : (deleteKubernetesObjects id f o).2 = .ok →
    (deleteKubernetesObjects id f o).1.loggingClusters = 0 ∧
      (deleteKubernetesObjects id f o).1.secrets = 0
  again : o.loggingClusters = 0 → o.secrets = 0 → f = {} →
    (deleteKubernetesObjects id f o).2 = .ok

/-- The logging cluster is not found because listing them fails. -/
def Overlooked : Prop := f.listClusters ≠ none ∧ o.loggingClusters = 1

section Runs

variable {id f o}

theorem deleteKubernetesObjects_eq_ok (hsecrets : o.secrets ≤ 1)
    (h : (deleteKubernetesObjects id f o).2 = .ok) :
    o.secrets = 1 ∧ (deleteKubernetesObjects id f o).1 =
      { o with loggingClusters := o.loggingClusters - listed f.listClusters o.loggingClusters
               secrets := 0 } := by
  revert h
  fun_cases deleteKubernetesObjects id f o with
  | case5 clusters secrets hlists hfound hdelete o' =>
    intro _
    have hlisted : secrets ≤ o.secrets := by
      unfold secrets listed
      split <;> omega
    have hone : o.secrets = 1 := by omega
    refine ⟨hone, ?_⟩
    simp [o', hone, clusters]
  | _ => exact nofun

variable (hclusters : o.loggingClusters ≤ 1) (hsecrets : o.secrets ≤ 1)
include hclusters hsecrets

theorem retryable_iff_found : Retryable id f o ↔
    f.listClusters = none ∧ o.loggingClusters = 1 ∧ f.deleteCluster ≠ none ∨
      f.listSecrets = none ∧ o.secrets = 1 ∧ (Overlooked f o → f.deleteSecret ≠ none) := by
  obtain ⟨_, listClusters, listSecrets, deleteCluster, deleteSecret, _⟩ := f
  obtain ⟨clusters, secrets, _⟩ := o
  -- the objects that are there, and the calls that fail
  rcases Nat.le_one_iff_eq_zero_or_eq_one.mp hclusters with rfl | rfl <;>
  rcases Nat.le_one_iff_eq_zero_or_eq_one.mp hsecrets with rfl | rfl <;>
  cases listClusters <;> cases listSecrets <;> cases deleteCluster <;> cases deleteSecret <;>
  simp [deleteKubernetesObjects, listed, Overlooked, retryable_iff]

/-- A call deletes no missing object, and succeeds when both are gone, exactly if the secret is
    found and the logging cluster not overlooked, or if the deletion of the latter fails.  A run of
    the task can complete only while the secret is there; it leaves nothing behind unless the
    logging cluster was overlooked. -/
theorem uninstall_retryable_iff :
    (Retryable id f o ↔
      f.listClusters = none ∧ o.loggingClusters = 1 ∧ f.deleteCluster ≠ none ∨
        f.listSecrets = none ∧ o.secrets = 1 ∧ (Overlooked f o → f.deleteSecret ≠ none)) ∧
    ((∃ f, (onTaskRunning id f o).2 = .ok) ↔ o.secrets = 1) ∧
    ((onTaskRunning id f o).2 = .ok →
      ((onTaskRunning id f o).1 = ⟨0, 0, false⟩ ↔ ¬Overlooked f o)) := by
  have hok : ∀ f, (onTaskRunning id f o).2 = .ok → (deleteKubernetesObjects id f o).2 = .ok ∧
      (onTaskRunning id f o).1 =
        { (deleteKubernetesObjects id f o).1 with capability := false } := by
    intro f
    fun_cases onTaskRunning id f o with
    | case3 o' hdelete => simp [hdelete]
    | case4 hdata hne => exact fun h => (hne _ (Prod.ext rfl h)).elim
    | _ => exact nofun
  refine ⟨retryable_iff_found hclusters hsecrets, ⟨?_, ?_⟩, ?_⟩
  · rintro ⟨f, h⟩
    exact (deleteKubernetesObjects_eq_ok hsecrets (hok f h).1).1
  · intro h
    refine ⟨{}, ?_⟩
    simp [onTaskRunning, deleteKubernetesObjects, listed, not_lt.mpr hclusters, h]
  · intro h
    obtain ⟨hdelete, heq⟩ := hok f h
    rw [heq, (deleteKubernetesObjects_eq_ok hsecrets hdelete).2]
    cases hlist : f.listClusters <;> simp [listed, Overlooked, hlist]
    omega

end Runs

/-- Both objects are there and nothing fails. -/
theorem uninstall_retryable_completes : (onTaskRunning "a" {} ⟨1, 1, true⟩).2 = .ok ∧
    (onTaskRunning "a" {} ⟨1, 1, true⟩).1 = ⟨0, 0, false⟩ := by
  have hok : (onTaskRunning "a" {} ⟨1, 1, true⟩).2 = .ok := rfl
  have hiff := @uninstall_retryable_iff "a" {} ⟨1, 1, true⟩ le_rfl le_rfl
  exact ⟨hok, (hiff.2.2 hok).mpr (by simp [Overlooked])⟩

/-- The first run deletes both objects and fails to update the cluster: the next one deletes a nil
    secret. -/
theorem uninstall_deletes_nil_again :
    let o := (onTaskRunning "a" { updateCluster := some "conflict" } ⟨1, 1, true⟩).1
    o = ⟨0, 0, true⟩ ∧ (onTaskRunning "a" {} o).2 = .nilDeleted := ⟨rfl, rfl⟩

/-! ## The OpenSearch cluster -/

/-- What deleting the OpenSearch cluster reads and changes. -/
structure Deployment (γ : Type) where
  opensearch : Bool
  loggingClusters : Nat
  client : Option γ
  initialAdmin : Option String
  userSecret : Bool

structure DeletionFaults where
  deleteState : Option String := none
  list : Option String := none
  delete : Option String := none
  deleteSecret : Option String := none

def errLoggingCapabilityExists : String :=
  "at least one cluster has logging capability installed"

section Deletion

variable {γ : Type} (f : DeletionFaults) (d : Deployment γ)

/-- The check that no cluster has the capability, and the deletion of the object. -/
def deleteUnused : Deployment γ × Option String :=
  match f.list, f.delete with
  | some err, _ => (d, some err)
  | none, err =>
    if 0 < d.loggingClusters then (d, some errLoggingCapabilityExists)
    else if err.isSome then (d, err)
    else if d.opensearch then ({ d with opensearch := false }, none)
    else (d, some "not found")

def Plugin.deleteOpensearchCluster : Deployment γ × Option String :=
  deleteUnused f { d with client := none }

def LoggingManagerV2.deleteOpensearchCluster : Deployment γ × Option String :=
  match f.deleteState with
  | some err => ({ d with client := none }, some err)
  | none =>
    match deleteUnused f { d with client := none, initialAdmin := none } with
    | (d', some err) => (d', some err)
    -- that the secret is not deleted is only logged
    | (d', none) => ({ d' with userSecret := d'.userSecret && f.deleteSecret.isSome }, none)

/-- A call that returns an error changes nothing. -/
def RefusedUnchanged (result : Deployment γ × Option String) : Prop :=
  result.2 ≠ none → result.1 = d

variable {f d}

theorem deleteUnused_of_error (h : (deleteUnused f d).2 ≠ none) : (deleteUnused f d).1 = d := by
  revert h
  fun_cases deleteUnused f d <;> simp

/-- A refused deletion changes nothing exactly if there was no client and, in the second version,
    no state of the initial admin that could be deleted. -/
theorem refusedDeletion_unchanged_iff :
    (RefusedUnchanged d (Plugin.deleteOpensearchCluster f d) ↔
      ((Plugin.deleteOpensearchCluster f d).2 ≠ none → d.client = none)) ∧
    (RefusedUnchanged d (LoggingManagerV2.deleteOpensearchCluster f d) ↔
      ((LoggingManagerV2.deleteOpensearchCluster f d).2 ≠ none →
        d.client = none ∧ (f.deleteState = none → d.initialAdmin = none))) := by
  obtain ⟨opensearch, loggingClusters, client, initialAdmin, userSecret⟩ := d
  refine ⟨forall_congr' fun h => ?_, forall_congr' fun h => ?_⟩
  · rw [Plugin.deleteOpensearchCluster, deleteUnused_of_error h]
    simp [eq_comm]
  · revert h
    fun_cases LoggingManagerV2.deleteOpensearchCluster f _ with
    | case1 err hfails => simp [hfails, eq_comm]
    | case2 hfails d' err hdelete =>
      have hsame := deleteUnused_of_error (by rw [hdelete]; exact Option.some_ne_none err)
      rw [hdelete] at hsame
      obtain rfl : d' = _ := hsame
      simp [hfails, eq_comm]
    | case3 => exact fun h => absurd rfl h

end Deletion

/-- Some cluster still has the capability. -/
theorem refused_deletion_unsets_client :
    let d : Deployment Unit := ⟨true, 1, some (), some "created", true⟩
    LoggingManagerV2.deleteOpensearchCluster {} d =
      (⟨true, 1, none, none, true⟩, some errLoggingCapabilityExists) ∧
    Plugin.deleteOpensearchCluster {} d =
      (⟨true, 1, none, some "created", true⟩, some errLoggingCapabilityExists) := ⟨rfl, rfl⟩

end Opni.Logging
