/-
  Opni.Rbac.Objects

  Roles, role bindings and clusters, the calls that create and delete them,
  and what these calls are for: the abstract store is the set of the objects
  that are in it.
-/

import Opni.Lib.GoStrings
import Opni.Rbac.Selection

namespace Opni.Rbac

open Lib

/-! ## Objects -/

structure Role where
  id : String
  clusterIDs : List String := []
  matchLabels : Option LabelSelector := none
deriving DecidableEq

structure RoleBinding where
  id : String
  roleId : String
  subjects : List String := []
  taints : List String := []
deriving DecidableEq

inductive ObjectKind where
  | roles | roleBindings | clusters
deriving DecidableEq

inductive RbacObject where
  | role (r : Role)
  | roleBinding (rb : RoleBinding)
  | cluster (c : Cluster)
deriving DecidableEq

namespace RbacObject

def kind : RbacObject → ObjectKind
  | .role _ => .roles
  | .roleBinding _ => .roleBindings
  | .cluster _ => .clusters

def id : RbacObject → String
  | .role r => r.id
  | .roleBinding rb => rb.id
  | .cluster c => c.id

end RbacObject

/-! ## Validation -/

/-- The characters of `idRegex`. -/
def isIdChar (c : Char) : Bool :=
  c.isAlphanum || c ∈ ['-', '_', '.', '(', ')']

def validateID (id : String) : Bool :=
  id.toList.all isIdChar && 1 ≤ id.length && id.length ≤ 128 && !id.toList.all (· = '.')

theorem plainName_of_validateID {id : String} (h : validateID id = true) : PlainName id := by
  simp only [validateID, Bool.and_eq_true, Bool.not_eq_true', decide_eq_true_eq] at h
  obtain ⟨⟨⟨hchars, hlen⟩, -⟩, hdots⟩ := h
  refine ⟨?_, ?_, ?_, ?_⟩
  · rintro rfl
    cases hlen
  · rintro rfl
    cases hdots
  · rintro rfl
    cases hdots
  · intro hslash
    cases List.all_eq_true.mp hchars '/' hslash

/-- What the stores rely on of the objects that are created.  The `Create` calls of
    `pkg/management` let less through: `Role.Validate` and `RoleBinding.Validate` also look at the
    cluster ids, the label selector and the subjects. -/
def RbacObject.accepted : RbacObject → Bool
  | .role r => validateID r.id
  | .roleBinding rb => validateID rb.id && validateID rb.roleId && rb.taints.length = 0
  | .cluster c => validateID c.id

theorem RbacObject.validateID_of_accepted {o : RbacObject} (h : o.accepted = true) :
    validateID o.id = true := by
  cases o with
  | role r | cluster c => exact h
  | roleBinding rb =>
    rw [accepted, Bool.and_eq_true, Bool.and_eq_true] at h
    exact h.1.1

/-! ## Calls -/

inductive RbacCall where
  | create (o : RbacObject)
  | delete (kind : ObjectKind) (id : String)

def RbacCall.id : RbacCall → String
  | .create o => o.id
  | .delete _ id => id

/-! ## The abstract store -/

abbrev RbacData := Set RbacObject

namespace RbacData

variable (data : RbacData)

def Has (kind : ObjectKind) (id : String) : Prop :=
  ∃ o ∈ data, o.kind = kind ∧ o.id = id

/-- A call on the abstract store: an object is added unless there is one of its
    kind and id, and removed by its kind and id. -/
def step : RbacCall → RbacData
  | .create o => { o' | o' ∈ data ∨ (o' = o ∧ o.accepted = true ∧ ¬data.Has o.kind o.id) }
  | .delete kind id =>
    { o' | o' ∈ data ∧ ¬(o'.kind = kind ∧ o'.id = id ∧ validateID id = true) }

def run (calls : List RbacCall) (data : RbacData) : RbacData := calls.foldl step data

def Accepted : Prop := ∀ o ∈ data, o.accepted = true

end RbacData

def RbacData.empty : RbacData := (∅ : Set RbacObject)

theorem RbacData.accepted_empty : RbacData.empty.Accepted := fun _ ho => absurd ho (by simp [empty])

end Opni.Rbac
