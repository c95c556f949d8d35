/-
  Opni.AgentHealth.ConditionTracker

  `defaultConditionTracker` (`pkg/health/condition_tracker.go`) against the
  map that it is for.
-/

import Opni.AgentHealth.Monitor
import Opni.Lib.GoStrings
import Opni.Lib.Interleave

namespace Opni.AgentHealth

open Lib Function

/-- `ConditionStatus`; the zero value is the first. -/
inductive ConditionStatus where
  | pending | failure | disabled
deriving DecidableEq

def ConditionStatus.string : ConditionStatus → String
  | .pending => "Pending"
  | .failure => "Failure"
  | .disabled => "Disabled"

def condConfigSync : String := "config Sync"

/-- `defaultConditionTracker`, with the number of times that it has called the listeners. -/
structure ConditionTracker where
  conditions : GoMap String ConditionStatus
  modTime : Timestamp
  notified : Nat

inductive TrackerOp where
  | set (key : String) (value : ConditionStatus) (now : Timestamp)
  | clear (key : String) (now : Timestamp)

/-- A line of `List`. -/
def conditionLine (key : String) (value : ConditionStatus) : String := key ++ " " ++ value.string

namespace ConditionTracker

/-- `NewDefaultConditionTracker`. -/
def newDefault (now : Timestamp) : ConditionTracker :=
  ⟨AList.singleton condConfigSync .pending, now, 0⟩

variable (ct : ConditionTracker)

/-- `Set` and `Clear`. -/
def apply : TrackerOp → ConditionTracker
  | .set key value now =>
    match ct.conditions.lookup key with
    -- another value is logged, and not stored
    | some _ => ct
    | none =>
      -- the value of an absent key is the zero status
      if ConditionStatus.pending ≠ value then
        ⟨ct.conditions.insert key value, now, ct.notified + 1⟩
      else ct
  | .clear key now =>
    match ct.conditions.lookup key with
    | some _ => ⟨ct.conditions.erase key, now, ct.notified + 1⟩
    | none => ct

def run (start : Timestamp) (ops : List TrackerOp) : ConditionTracker :=
  ops.foldl apply (newDefault start)

/-- `List`, in the order of `Range`. -/
def list (order : Scheduler String) : List String :=
  (order.order ct.conditions.keys).filterMap fun key =>
    (ct.conditions.lookup key).map (conditionLine key)

end ConditionTracker

/-! ## The map that is tracked -/

/-- The status of each key after its last operation, when this has last changed and how
    often. -/
structure Tracked where
  status : String → Option ConditionStatus
  modTime : Timestamp
  changes : Nat

namespace Tracked

variable (m : Tracked)

def write (key : String) (value : Option ConditionStatus) (now : Timestamp) :
    Tracked :=
  if m.status key = value then m else ⟨update m.status key value, now, m.changes + 1⟩

def apply : TrackerOp → Tracked
  | .set key value now => m.write key (some value) now
  | .clear key now => m.write key none now

def run (start : Timestamp) (ops : List TrackerOp) : Tracked :=
  ops.foldl apply ⟨update (fun _ => none) condConfigSync (some .pending), start, 0⟩

/-- A `Set` that the tracker does not lose: the key has the status already, or it is absent and
    the status is not pending. -/
def Kept : TrackerOp → Prop
  | .set key value _ => m.status key = some value ∨ m.status key = none ∧ value ≠ .pending
  | .clear _ _ => True

end Tracked

/-- `List` has exactly the lines of the map, `LastModified` is when it changed last, and the
    listeners have been called once for each change. -/
def Reports (ct : ConditionTracker) (m : Tracked) : Prop :=
  (∀ order line, line ∈ ct.list order ↔ ∃ key v, m.status key = some v ∧
    line = conditionLine key v) ∧
    ct.modTime = m.modTime ∧ ct.notified = m.changes

theorem conditionLine_inj {key key' : String} {v v' : ConditionStatus}
    (h : conditionLine key v = conditionLine key' v') : key = key' ∧ v = v' := by
  -- the status is what comes after the last space
  have hspace : ∀ v : ConditionStatus, ' ' ∉ v.string.toList := by
    intro v
    cases v <;> decide
  have hsplit := congrArg (fun s => (split ' ' s).getLast?) h
  have hlast : ∀ (key : String) (v : ConditionStatus),
      (split ' ' (conditionLine key v)).getLast? = some v.string := by
    intro key v
    have hline : conditionLine key v = key ++ String.singleton ' ' ++ v.string := rfl
    rw [hline, split_append_sep, split_eq_singleton (hspace v), List.getLast?_append]
    rfl
  simp only [hlast, Option.some.injEq] at hsplit
  have hv : v = v' := by
    revert hsplit
    cases v <;> cases v' <;> decide
  subst hv
  exact ⟨String.append_left_inj _ |>.mp (String.append_left_inj _ |>.mp h), rfl⟩

variable {ct : ConditionTracker} {m : Tracked}

theorem mem_list {order : Scheduler String} {line : String} :
    line ∈ ct.list order ↔
      ∃ key v, ct.conditions.lookup key = some v ∧ line = conditionLine key v := by
  rw [ConditionTracker.list, List.mem_filterMap]
  refine exists_congr fun key => ?_
  rw [Option.map_eq_some_iff, (order.perm _).mem_iff]
  constructor
  · rintro ⟨-, v, hv, rfl⟩
    exact ⟨v, hv, rfl⟩
  · rintro ⟨v, hv, rfl⟩
    exact ⟨GoMap.mem_iff.mpr ⟨_, hv⟩, v, hv, rfl⟩

theorem reports_iff : Reports ct m ↔
    (∀ key, ct.conditions.lookup key = m.status key) ∧ ct.modTime = m.modTime ∧
      ct.notified = m.changes := by
  apply and_congr_left'
  simp only [mem_list]
  constructor
  · intro h key
    apply Option.ext
    intro v
    have hline := h (Scheduler.inOrder String) (conditionLine key v)
    constructor
    · intro hv
      obtain ⟨key', v', hv', heq⟩ := hline.mp ⟨key, v, hv, rfl⟩
      obtain ⟨rfl, rfl⟩ := conditionLine_inj heq
      exact hv'
    · intro hv
      obtain ⟨key', v', hv', heq⟩ := hline.mpr ⟨key, v, hv, rfl⟩
      obtain ⟨rfl, rfl⟩ := conditionLine_inj heq
      exact hv'
  · intro h order line
    simp only [h]

/-- One operation: the tracker reports the map afterwards exactly if it was not a lost `Set`. -/
theorem reports_apply_iff (h : Reports ct m) (op : TrackerOp) :
    Reports (ct.apply op) (m.apply op) ↔ m.Kept op := by
  obtain ⟨hstatus, htime, hcount⟩ := reports_iff.mp h
  rw [reports_iff]
  cases op with
  | clear key now =>
    refine iff_of_true ?_ trivial
    simp only [ConditionTracker.apply, Tracked.apply, Tracked.write, hstatus]
    cases hkey : m.status key with
    | none => exact ⟨hstatus, htime, hcount⟩
    | some v =>
      refine ⟨fun key' => ?_, rfl, congrArg (· + 1) hcount⟩
      simp [GoMap.lookup_erase_eq, update_apply, hstatus]
  | set key value now =>
    simp only [ConditionTracker.apply, Tracked.apply, Tracked.write, Tracked.Kept, hstatus]
    cases hkey : m.status key with
    | some v =>
      by_cases hv : v = value
      · subst hv
        simpa using ⟨hstatus, htime, hcount⟩
      · -- the new status is not in the tracker
        refine iff_of_false (fun hafter => ?_) (by simp [hv])
        have hlost := hafter.1 key
        simp only [Option.some.injEq, hv, if_false, update_self, hstatus, hkey] at hlost
    | none =>
      by_cases hv : value = .pending
      · subst hv
        refine iff_of_false (fun hafter => ?_) (by simp)
        have hlost := hafter.1 key
        simp [hstatus, hkey] at hlost
      · refine iff_of_true ?_ (by simp [hv])
        rw [if_pos (Ne.symm hv), if_neg (by simp)]
        refine ⟨fun key' => ?_, rfl, congrArg (· + 1) hcount⟩
        simp [GoMap.lookup_insert_eq, update_apply, hstatus]

/-- Throughout a sequence of operations the tracker reports the map exactly if no `Set` gives a
    present key another status, or an absent key the status pending. -/
theorem conditionTracker_reports_iff (start : Timestamp) (ops : List TrackerOp) :
    (∀ before, before <+: ops → Reports (.run start before) (.run start before)) ↔
      ∀ before op, before ++ [op] <+: ops → (Tracked.run start before).Kept op := by
  induction ops using List.reverseRecOn with
  | nil =>
    refine iff_of_true (fun before hbefore => ?_) Interleave.forall_prefix_nil
    rw [List.prefix_nil.mp hbefore, reports_iff]
    refine ⟨fun key => ?_, rfl, rfl⟩
    by_cases hkey : key = condConfigSync
    · subst hkey
      rfl
    · simp [ConditionTracker.run, ConditionTracker.newDefault, Tracked.run, hkey,
        Option.eq_none_iff_forall_ne_some, GoMap.lookup_singleton_eq_some]
  | append_singleton ops op ih =>
    rw [Interleave.forall_prefix_concat, ← ih]
    have hlast : ∀ h : Reports (.run start ops) (.run start ops),
        Reports (.run start (ops ++ [op])) (.run start (ops ++ [op])) ↔
          (Tracked.run start ops).Kept op := by
      intro h
      rw [ConditionTracker.run, Tracked.run, List.foldl_concat, List.foldl_concat]
      exact reports_apply_iff h op
    constructor
    · intro h
      have hbefore : ∀ before, before <+: ops → Reports (.run start before) (.run start before) :=
        fun before hpre => h before (hpre.trans (List.prefix_append _ _))
      exact ⟨hbefore, (hlast (hbefore ops List.prefix_rfl)).mp (h _ List.prefix_rfl)⟩
    · rintro ⟨h, hkept⟩ before hpre
      rcases List.prefix_concat_iff.mp hpre with rfl | hpre
      · exact (hlast (h ops List.prefix_rfl)).mpr hkept
      · exact h before hpre

/-- A status that is changed, and a pending one that is set, are both lost. -/
theorem conditionTracker_loses_status :
    let ct := ConditionTracker.run 0
      [.set condConfigSync .failure 1, .set "Backend" .pending 2]
    ct.list (Scheduler.inOrder String) = ["config Sync Pending"] ∧ ct.modTime = 0 ∧
      ct.notified = 0 ∧
      (Tracked.run 0 [.set condConfigSync .failure 1, .set "Backend" .pending 2]).changes = 2 := by
  decide

end Opni.AgentHealth
