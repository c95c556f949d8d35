/-
  Opni.Capabilities.Mutators

  The mutators of capabilities and `Has`, for clusters and for bootstrap
  tokens (`pkg/storage/mutators.go`, `pkg/capabilities/capabilities.go`,
  `pkg/apis/core/v1/comparator.go`).
-/

import Opni.Capabilities.Backends
import Opni.Rbac.Objects

namespace Opni.Capabilities

/-! ## Comparing -/

/-- `equalNonzeroOperator`, at strings. -/
def equalNonzeroOperator (a b : String) : Bool := a ≠ "" && b ≠ "" && a = b

/-- `Reference.Equal`; a reference is its id. -/
def Reference.equal (r other : Option String) : Bool :=
  match r, other with
  | some r, some other => equalNonzeroOperator r other
  | none, none => true
  | _, _ => false

/-- `equalNonzeroFunc`, at references: the zero value is the nil reference. -/
def equalNonzeroFunc (a b : Option String) : Bool :=
  if Reference.equal a none || Reference.equal b none then false else Reference.equal a b

structure TokenCapability where
  type : String
  reference : Option String
deriving DecidableEq

def TokenCapability.equal (c other : TokenCapability) : Bool :=
  equalNonzeroOperator c.type other.type && equalNonzeroFunc c.reference other.reference

/-- `TokenCapability.Validate` succeeds. -/
def TokenCapability.Valid (tc : TokenCapability) : Prop :=
  tc.type ≠ "" ∧ ∀ ref, tc.reference = some ref → Rbac.validateID ref = true

/-- `ClusterCapability.Validate` succeeds. -/
def ClusterCapability.Valid (cc : ClusterCapability) : Prop := cc.name ≠ ""

/-! ## Mutators -/

/-- `MetadataAccessor`, as far as it is about capabilities. -/
structure MetadataAccessor (O T : Type) where
  getCapabilities : O → List T
  setCapabilities : List T → O → O
  get_set : ∀ l obj, getCapabilities (setCapabilities l obj) = l

namespace MetadataAccessor

variable {O T : Type} (acc : MetadataAccessor O T) (equal : T → T → Bool) (capability : T) (obj : O)

def has : Bool := (acc.getCapabilities obj).any (equal · capability)

def newAddCapabilityMutator : O :=
  if (acc.getCapabilities obj).any (equal · capability) then obj
  else acc.setCapabilities (acc.getCapabilities obj ++ [capability]) obj

def newRemoveCapabilityMutator : O :=
  acc.setCapabilities ((acc.getCapabilities obj).filter fun c => !equal c capability) obj

/-- Adding is idempotent and gives the capability; removing afterwards leaves the other
    capabilities, and all that there were if it was not there before. -/
structure MutatorLaws : Prop where
  idempotent : acc.newAddCapabilityMutator equal capability
      (acc.newAddCapabilityMutator equal capability obj) =
    acc.newAddCapabilityMutator equal capability obj
  has : acc.has equal capability (acc.newAddCapabilityMutator equal capability obj) = true
  removes : acc.getCapabilities (acc.newRemoveCapabilityMutator equal capability
      (acc.newAddCapabilityMutator equal capability obj)) =
    (acc.getCapabilities obj).filter fun c => !equal c capability
  restores : acc.has equal capability obj = false →
    acc.getCapabilities (acc.newRemoveCapabilityMutator equal capability
      (acc.newAddCapabilityMutator equal capability obj)) = acc.getCapabilities obj

variable {acc equal capability obj}

theorem mutatorLaws_of_refl (hrefl : equal capability capability = true) :
    acc.MutatorLaws equal capability obj := by
  have hhas :
      acc.has equal capability (acc.newAddCapabilityMutator equal capability obj) = true := by
    unfold has newAddCapabilityMutator
    split
    next hany => exact hany
    · rw [acc.get_set, List.any_append]
      simp [hrefl]
  have hremoves : acc.getCapabilities (acc.newRemoveCapabilityMutator equal capability
      (acc.newAddCapabilityMutator equal capability obj)) =
      (acc.getCapabilities obj).filter fun c => !equal c capability := by
    unfold newRemoveCapabilityMutator newAddCapabilityMutator
    rw [acc.get_set]
    split
    · rfl
    · -- the capability that was added is the one that goes
      rw [acc.get_set, List.filter_append]
      simp [hrefl]
  refine ⟨if_pos hhas, hhas, hremoves, fun hnot => ?_⟩
  rw [hremoves, List.filter_eq_self]
  intro c hc
  have hne := List.any_eq_false.mp hnot c hc
  simpa using hne

end MetadataAccessor

/-- Clusters have capabilities. -/
def clusterAccessor : MetadataAccessor Cluster ClusterCapability where
  getCapabilities := Cluster.capabilities
  setCapabilities l c := { c with data := l }
  get_set _ _ := rfl

theorem TokenCapability.equal_self_iff {tc : TokenCapability} (h : tc.Valid) :
    tc.equal tc = true ↔ tc.reference ≠ none := by
  obtain ⟨htype, href⟩ := h
  cases hreference : tc.reference with
  | none => simp [equal, equalNonzeroFunc, Reference.equal, hreference]
  | some ref =>
    have hid : ref ≠ "" := (Rbac.plainName_of_validateID (href ref hreference)).ne_empty
    simp [equal, equalNonzeroFunc, Reference.equal, equalNonzeroOperator, hreference, htype, hid]

/-- The laws hold for every valid capability of a cluster, on every object, and for a valid
    capability of a token exactly if it has a reference: without one it is not equal even to
    itself. -/
theorem capabilityMutators_laws_iff {O : Type} :
    (∀ (acc : MetadataAccessor O ClusterCapability) (obj : O) (cc : ClusterCapability), cc.Valid →
      acc.MutatorLaws ClusterCapability.equal cc obj) ∧
    ∀ (acc : MetadataAccessor O TokenCapability) (obj : O) (tc : TokenCapability), tc.Valid →
      (acc.MutatorLaws TokenCapability.equal tc obj ↔ tc.reference ≠ none) := by
  constructor
  · intro acc obj cc hvalid
    have hname : cc.name ≠ "" := hvalid
    apply MetadataAccessor.mutatorLaws_of_refl
    simp [ClusterCapability.equal, hname]
  · intro acc obj tc hvalid
    constructor
    · intro hlaws hreference
      obtain ⟨c, -, hequal⟩ := List.any_eq_true.mp hlaws.has
      simp [TokenCapability.equal, equalNonzeroFunc, hreference, Reference.equal] at hequal
    · intro hreference
      exact MetadataAccessor.mutatorLaws_of_refl
        ((TokenCapability.equal_self_iff hvalid).mpr hreference)

/-- The capabilities of a token, as an object of their own. -/
def capabilityList : MetadataAccessor (List TokenCapability) TokenCapability where
  getCapabilities := id
  setCapabilities l _ := l
  get_set _ _ := rfl

theorem capabilityMutators_laws_sample :
    clusterAccessor.MutatorLaws ClusterCapability.equal ⟨"metrics", none⟩ ⟨"c", [], ""⟩ ∧
      capabilityList.MutatorLaws TokenCapability.equal ⟨"join_existing_cluster", some "c"⟩ [] := by
  have hname : ClusterCapability.Valid ⟨"metrics", none⟩ := by
    show "metrics" ≠ ""
    decide
  refine ⟨capabilityMutators_laws_iff.1 clusterAccessor _ _ hname, ?_⟩
  have hvalid : TokenCapability.Valid ⟨"join_existing_cluster", some "c"⟩ :=
    ⟨by decide, by rintro ref ⟨⟩; decide⟩
  exact (capabilityMutators_laws_iff.2 capabilityList [] _ hvalid).mpr (by simp)

/-- A capability without a reference is valid; it is added twice, is not there afterwards, and
    is not removed. -/
theorem capabilityMutators_without_reference :
    let tc : TokenCapability := ⟨"join_existing_cluster", none⟩
    let add := capabilityList.newAddCapabilityMutator TokenCapability.equal tc
    tc.Valid ∧ add (add []) = [tc, tc] ∧
      capabilityList.has TokenCapability.equal tc (add []) = false ∧
      capabilityList.newRemoveCapabilityMutator TokenCapability.equal tc (add []) = [tc] := by
  refine ⟨⟨by decide, by rintro ref ⟨⟩⟩, by decide, by decide, by decide⟩

end Opni.Capabilities
