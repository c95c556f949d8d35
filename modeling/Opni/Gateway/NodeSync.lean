/-
  Opni.Gateway.NodeSync

  `doSync` of the metrics and the logging node: calls that ask the gateway for
  the configuration of the node, and apply what it answers
  (`plugins/metrics/pkg/agent/node.go`, `plugins/logging/pkg/agent/node.go`;
  `Sync` in `plugins/metrics/pkg/backend/metrics.go`).
-/

import Opni.Lib.Goroutines
import Mathlib.Data.Fintype.Basic

namespace Opni.Gateway

open Lib.Goroutines

/-- `buildResponse`: the configuration that is sent when the node needs an update. -/
def buildResponse {γ : Type} [DecidableEq γ] (old new : γ) : Option γ :=
  if old = new then none else some new

/-- How far a call of `doSync` has come. -/
inductive SyncPc (γ : Type) where
  | start
  | waiting (currentConfig : γ)
  /-- The answer, computed at the given revision, is on its way. -/
  | answered (revision : Nat) (updatedConfig : Option γ)
  /-- In `updateConfig`, before it has the lock. -/
  | updating (revision : Nat) (config : γ)
  | finished
deriving DecidableEq

/-- `configMu` is read locked until the answer comes. -/
def SyncPc.reads {γ : Type} : SyncPc γ → Bool
  | .waiting _ | .answered _ _ => true
  | .start | .updating _ _ | .finished => false

/-- The answer that a call has still to receive or to apply. -/
def SyncPc.answer {γ : Type} : SyncPc γ → Option (Nat × Option γ)
  | .answered revision updatedConfig => some (revision, updatedConfig)
  | .updating revision config => some (revision, some config)
  | .start | .waiting _ | .finished => none

/-- The gateway and a node, with the calls of the node. -/
structure NodeSync (ι γ : Type) where
  /-- The configuration that the gateway has for the node, and how often it has changed. -/
  desired : γ
  revision : Nat := 0
  config : γ
  calls : ι → SyncPc γ := fun _ => .start
  /-- What the latest answer was computed from; before the first one, what the node has. -/
  latest : Nat × γ := (0, config)
  /-- The newest revision of which the node has received an answer. -/
  received : Nat := 0

inductive SyncEvent (ι γ : Type) where
  /-- The configuration of the gateway changes. -/
  | change (desired : γ)
  | send (i : ι)
  | answer (i : ι)
  /-- There is no client, or `Sync` returns an error. -/
  | fail (i : ι)
  | receive (i : ι)
  | update (i : ι)

namespace NodeSync

variable {ι γ : Type}

def setCall [DecidableEq ι] (s : NodeSync ι γ) (i : ι) (pc : SyncPc γ) : NodeSync ι γ :=
  { s with calls := Function.update s.calls i pc }

/-- A step of a call, or a change of the gateway; none if it is blocked. -/
def step [Fintype ι] [DecidableEq ι] [DecidableEq γ] (s : NodeSync ι γ) :
    SyncEvent ι γ → Option (NodeSync ι γ)
  | .change desired => some { s with desired, revision := s.revision + 1 }
  | .send i => if s.calls i = .start then some (s.setCall i (.waiting s.config)) else none
  | .answer i =>
    match s.calls i with
    | .waiting currentConfig =>
      some ({ s with latest := (s.revision, s.desired) }.setCall i
        (.answered s.revision (buildResponse currentConfig s.desired)))
    | _ => none
  | .fail i =>
    match s.calls i with
    | .start | .waiting _ => some (s.setCall i .finished)
    | _ => none
  | .receive i =>
    match s.calls i with
    | .answered revision updatedConfig =>
      some ({ s with received := max s.received revision }.setCall i
        (updatedConfig.elim .finished (.updating revision)))
    | _ => none
  | .update i =>
    match s.calls i with
    | .updating _ config =>
      if ∀ j, (s.calls j).reads = false then some ({ s with config }.setCall i .finished) else none
    | _ => none

/-- No answer is applied that is older than one that the node has received. -/
def InOrder (s : NodeSync ι γ) : SyncEvent ι γ → Prop
  | .update i => ∀ revision config, s.calls i = .updating revision config → s.received ≤ revision
  | _ => True

/-- The configuration is that of the latest answer when no call is under way. -/
def EndsNewest (s : NodeSync ι γ) : Prop :=
  (∀ i, s.calls i = .start ∨ s.calls i = .finished) → s.config = s.latest.2

/-- The gateway answers a call only when the answers to the others have been applied. -/
def OneAnswer (s : NodeSync ι γ) : SyncEvent ι γ → Prop
  | .answer _ => ∀ j, (s.calls j).answer = none
  | _ => True

/-- The latest answer is what the one call that has it will apply, or what the node has. -/
structure Newest (s : NodeSync ι γ) : Prop where
  /-- The configuration does not change while a call waits. -/
  waiting : ∀ i currentConfig, s.calls i = .waiting currentConfig → currentConfig = s.config
  pending : ∀ i revision updatedConfig, (s.calls i).answer = some (revision, updatedConfig) →
    s.latest = (revision, updatedConfig.getD s.config) ∧ ∀ j ≠ i, (s.calls j).answer = none
  settled : (∀ i, (s.calls i).answer = none) → s.config = s.latest.2
  received : s.received ≤ s.latest.1
  revision : s.latest.1 ≤ s.revision

section Steps

variable {s s' : NodeSync ι γ} {e : SyncEvent ι γ} {i : ι} {pc : SyncPc γ}

theorem Newest.inOrder (h : s.Newest) (e : SyncEvent ι γ) : s.InOrder e := by
  cases e with
  | update i =>
    intro revision config hi
    have hlatest := (h.pending i revision (some config) (by rw [hi]; rfl)).1
    have hreceived := h.received
    rwa [hlatest] at hreceived
  | _ => trivial

variable [DecidableEq ι]

theorem calls_setCall (j : ι) : (s.setCall i pc).calls j = if j = i then pc else s.calls j :=
  Function.update_apply ..

/-- A call moves on with the answer that it has, or without one. -/
theorem Newest.setCall (h : s.Newest) (hsame : pc.answer = (s.calls i).answer)
    (hwaiting : ∀ currentConfig, pc = .waiting currentConfig → currentConfig = s.config) :
    (s.setCall i pc).Newest := by
  have hanswer (j : ι) : ((s.setCall i pc).calls j).answer = (s.calls j).answer := by
    rw [calls_setCall]
    split
    next hj => rw [hj, hsame]
    · rfl
  refine ⟨fun j currentConfig hj => ?_, ?_, ?_, h.received, h.revision⟩
  · rw [calls_setCall] at hj
    split at hj
    · exact hwaiting currentConfig hj
    · exact h.waiting j currentConfig hj
  · simp only [hanswer]
    exact h.pending
  · simp only [hanswer]
    exact h.settled

/-- The call that has the latest answer is done with it. -/
theorem Newest.finish (h : s.Newest) {revision : Nat} {updatedConfig : Option γ}
    (hi : (s.calls i).answer = some (revision, updatedConfig))
    (hreads : updatedConfig = none ∨ ∀ j, (s.calls j).reads = false) :
    ({ s with config := updatedConfig.getD s.config }.setCall i .finished).Newest := by
  obtain ⟨hlatest, hothers⟩ := h.pending i revision updatedConfig hi
  refine ⟨fun j currentConfig hj => ?_, fun j _ _ hj => ?_, fun _ => ?_, h.received, h.revision⟩
  · rw [calls_setCall] at hj
    split at hj
    · cases hj
    · rcases hreads with rfl | hreads
      · exact h.waiting j currentConfig hj
      · -- the lock is not free while a call waits
        have := hreads j
        rw [hj] at this
        cases this
  · rw [calls_setCall] at hj
    split at hj
    · cases hj
    next hji => cases (hothers j hji).symm.trans hj
  · exact (congrArg Prod.snd hlatest).symm

variable [Fintype ι] [DecidableEq γ]

theorem Newest.step (h : s.Newest) (hok : s.OneAnswer e) (hstep : s.step e = some s') :
    s'.Newest := by
  revert hstep
  fun_cases s.step e with
  | case1 desired =>
    rintro ⟨⟩
    exact ⟨h.waiting, h.pending, h.settled, h.received, Nat.le_succ_of_le h.revision⟩
  | case2 i hi =>
    rintro ⟨⟩
    exact h.setCall (by rw [hi]; rfl) (by rintro _ ⟨⟩; rfl)
  | case4 i currentConfig hi =>
    rintro ⟨⟩
    obtain rfl := h.waiting i currentConfig hi
    refine ⟨fun j currentConfig hj => ?_, fun j revision updatedConfig hj => ?_, fun hnone => ?_,
      h.received.trans h.revision, le_rfl⟩
    · rw [calls_setCall] at hj
      split at hj
      · cases hj
      · exact h.waiting j currentConfig hj
    · rw [calls_setCall] at hj
      split at hj
      next hji =>
        cases hj
        refine ⟨?_, fun k hk => ?_⟩
        · unfold buildResponse
          split
          next heq => rw [← heq]; rfl
          · rfl
        · rw [calls_setCall, if_neg (hji ▸ hk)]
          exact hok k
      · cases (hok j).symm.trans hj
    · have hi := hnone i
      rw [calls_setCall, if_pos rfl] at hi
      cases hi
  | case6 i hi | case7 i _ hi =>
    rintro ⟨⟩
    exact h.setCall (by rw [hi]; rfl) nofun
  | case9 i revision updatedConfig hi =>
    rintro ⟨⟩
    have hanswer : (s.calls i).answer = some (revision, updatedConfig) := by rw [hi]; rfl
    have hlatest := (h.pending i revision updatedConfig hanswer).1
    have hreceived : { s with received := max s.received revision }.Newest :=
      ⟨h.waiting, h.pending, h.settled, max_le h.received (by rw [hlatest]), h.revision⟩
    cases updatedConfig with
    | none => exact hreceived.finish hanswer (.inl rfl)
    | some config => exact hreceived.setCall hanswer.symm nofun
  | case11 i revision config hi hreads =>
    rintro ⟨⟩
    exact h.finish (by rw [hi]; rfl) (.inr hreads)
  | _ => exact nofun

end Steps

variable [Fintype ι] [DecidableEq ι] [DecidableEq γ]

/-- When the gateway answers only when the answers to the others have been applied, no answer is
    applied after a newer one, and the node ends with the configuration of the latest. -/
theorem doSync_newest (desired config : γ) (events : List (SyncEvent ι γ)) (s : NodeSync ι γ)
    (hrun : run step { desired, config } events = some s)
    (hok : Throughout step OneAnswer { desired, config } events) :
    Throughout step InOrder { desired, config } events ∧ s.EndsNewest := by
  have hinit : Newest (ι := ι) { desired, config } :=
    ⟨nofun, nofun, fun _ => rfl, le_rfl, le_rfl⟩
  have hstep (s : NodeSync ι γ) (e : SyncEvent ι γ) (s' : NodeSync ι γ) :
      s.Newest → s.OneAnswer e → s.step e = some s' → s'.Newest := Newest.step
  constructor
  · exact hok.imp_of_invariant hinit hstep fun s e h _ => h.inOrder e
  · refine fun hdone => ((hok.reaches hrun).invariant hinit hstep).settled fun i => ?_
    rcases hdone i with hi | hi
    · rw [hi]; rfl
    · rw [hi]; rfl

instance : ∀ (s : NodeSync ι γ) e, Decidable (s.OneAnswer e)
  | s, .answer _ => inferInstanceAs (Decidable (∀ j, (s.calls j).answer = none))
  | _, .change _ | _, .send _ | _, .fail _ | _, .receive _ | _, .update _ => isTrue trivial

/-- After a first call two calls are sent, and the configuration changes between their answers. -/
theorem doSync_newest_of_three :
    let events : List (SyncEvent (Fin 3) Nat) := [.send 0, .answer 0, .receive 0, .update 0,
      .send 1, .send 2, .answer 1, .receive 1, .change 2, .answer 2, .receive 2, .update 2]
    ∃ s : NodeSync (Fin 3) Nat, run step { desired := 1, config := 0 } events = some s ∧
      s.config = 2 ∧ s.EndsNewest := by
  intro events
  exact exists_run_of_isSome (by decide) fun hs =>
    ⟨by decide, (doSync_newest 1 0 events _ hs (by decide)).2⟩

/-- Two calls are answered while both hold the lock, and the older answer is applied last. -/
theorem doSync_applies_older : ∃ s s' : NodeSync (Fin 2) Nat,
    run step { desired := 1, config := 0 } [.send 0, .send 1, .answer 0, .change 2, .answer 1,
      .receive 0, .receive 1, .update 1] = some s ∧ ¬s.InOrder (.update 0) ∧
    s.step (.update 0) = some s' ∧ ¬s'.EndsNewest := by
  refine ⟨_, _, rfl, fun h => ?_, rfl, fun h => ?_⟩
  · cases h 0 1 rfl
  · cases h (by decide)

end NodeSync

end Opni.Gateway
