/-
  Opni.AgentHealth.Pipeline

  The listener and the monitor that reads its two queues, and what the monitor
  holds of an agent after any pattern of connections of it.
-/

import Opni.AgentHealth.Connections

namespace Opni.AgentHealth

open Lib (GoMap)
open Lib.Goroutines ConnectionPc

/-! ## The pipeline -/

structure Pipeline where
  monitor : Monitor := {}
  listener : Listener

variable (maxConnections updateQueueCap : Nat) (ids : Nat → String) (reqs : Nat → HealthUpdate)

/-- A new listener and a new monitor.  The connections and the calls to come have the ids of
    their contexts, and the calls their requests. -/
def newPipeline : Pipeline where
  listener :=
    { maxConnections := maxConnections
      updateQueueCap := updateQueueCap
      connections := fun i => { id := ids i }
      calls := fun k => { id := (reqs k).id, req := (reqs k).value } }

def MonitorEvent.receives : MonitorEvent → Bool
  | .recvHealth _ | .recvStatus _ => true
  | _ => false

/-- `Run` is waiting for an update. -/
def MonitorPc.ready : MonitorPc → Bool
  | .selecting => true
  | _ => false

inductive PipelineEvent where
  /-- `Run` receives from `HealthC`. -/
  | takeHealth
  /-- `Run` receives from `StatusC`. -/
  | takeStatus
  | monitor (e : MonitorEvent)
  | listener (e : ListenerEvent)

def Pipeline.step (p : Pipeline) : PipelineEvent → Option Pipeline
  | .takeHealth =>
    match p.listener.healthUpdate with
    | [] => none
    | u :: queue =>
      (p.monitor.step (.recvHealth u)).map fun m =>
        { monitor := m, listener := { p.listener with healthUpdate := queue } }
  | .takeStatus =>
    match p.listener.statusUpdate with
    | [] => none
    | u :: queue =>
      (p.monitor.step (.recvStatus u)).map fun m =>
        { monitor := m, listener := { p.listener with statusUpdate := queue } }
  | .monitor e =>
    if e.receives then none else (p.monitor.step e).map fun m => { p with monitor := m }
  | .listener e =>
    (p.listener.step p.monitor.pc.ready e).map fun l => { p with listener := l }

inductive Pipeline.Move (p : Pipeline) : PipelineEvent → Pipeline → Prop where
  | takeHealth {u : HealthUpdate} {queue : List HealthUpdate} :
      p.listener.healthUpdate = u :: queue → p.monitor.pc = .selecting →
      p.Move .takeHealth
        { monitor := { p.monitor with pc := .lockingHealth u }
          listener := { p.listener with healthUpdate := queue } }
  | takeStatus {u : StatusUpdate} {queue : List StatusUpdate} :
      p.listener.statusUpdate = u :: queue → p.monitor.pc = .selecting →
      p.Move .takeStatus
        { monitor := { p.monitor with pc := .lockingStatus u }
          listener := { p.listener with statusUpdate := queue } }
  | monitor {e : MonitorEvent} {m : Monitor} : e.receives = false → p.monitor.Move e m →
      p.Move (.monitor e) { p with monitor := m }
  | listener {e : ListenerEvent} {l : Listener} : p.listener.Move p.monitor.pc.ready e l →
      p.Move (.listener e) { p with listener := l }

variable {p p' : Pipeline} {e : PipelineEvent} {m m' : Monitor}

theorem Pipeline.move_of_step (h : p.step e = some p') : p.Move e p' := by
  revert h
  fun_cases p.step e with
  | case2 u queue hqueue =>
    intro h
    obtain ⟨m, hm, rfl⟩ := Option.map_eq_some_iff.mp h
    cases Monitor.move_of_step hm with
    | recvHealth _ hpc => exact .takeHealth hqueue hpc
  | case4 u queue hqueue =>
    intro h
    obtain ⟨m, hm, rfl⟩ := Option.map_eq_some_iff.mp h
    cases Monitor.move_of_step hm with
    | recvStatus _ hpc => exact .takeStatus hqueue hpc
  | case6 e hreceives =>
    intro h
    obtain ⟨m, hm, rfl⟩ := Option.map_eq_some_iff.mp h
    exact .monitor (by simpa using hreceives) (Monitor.move_of_step hm)
  | case7 e =>
    intro h
    obtain ⟨l, hl, rfl⟩ := Option.map_eq_some_iff.mp h
    exact .listener (Listener.move_of_step hl)
  | _ => exact nofun

theorem consistent_newPipeline :
    (newPipeline maxConnections updateQueueCap ids reqs).listener.Consistent where
  locks := by simp [Listener.LocksHeld, newPipeline, ConnectionPc.Locked, stage]
  channels := by simp [Listener.ChannelsRegistered, newPipeline]
  readers := ⟨List.nodup_nil, by simp [newPipeline], by simp [newPipeline]⟩
  writer := by simp [Listener.WriterWaiting, newPipeline]
  slots := ⟨List.nodup_nil, by simp [newPipeline]⟩
  own := fun _ => ⟨by simp [newPipeline], by simp [newPipeline]⟩
  mayEnd := by simp [Connection.MayEnd, newPipeline, ConnectionPc.Ending, stage]

theorem Pipeline.Move.consistent (hmove : p.Move e p')
    (h : p.listener.Consistent) : p'.listener.Consistent := by
  cases hmove with
  | takeHealth | takeStatus =>
    exact ⟨h.locks, h.channels, ⟨h.readers.nodup, h.readers.mem_iff, h.readers.target⟩, h.writer,
      ⟨h.slots.nodup, h.slots.slot⟩, h.own, h.mayEnd⟩
  | monitor _ _ => exact h
  | listener hl => exact hl.consistent h

/-! ## What the monitor will hold -/

def Health.getReady (h : Option Health) : Bool := (h.map Health.ready).getD false

def Status.getConnected (s : Option Status) : Bool := (s.map Status.connected).getD false

/-- The update `Run` has received and not recorded. -/
def MonitorPc.healthInHand : MonitorPc → List HealthUpdate
  | .lockingHealth u => [u]
  | _ => []

def MonitorPc.statusInHand : MonitorPc → List StatusUpdate
  | .lockingStatus u => [u]
  | _ => []

/-- The health the monitor holds when it has recorded what it has received. -/
def Monitor.nextHealth (m : Monitor) : GoMap String Health :=
  applyUpdates m.currentHealth m.pc.healthInHand

def Monitor.nextStatus (m : Monitor) : GoMap String Status :=
  applyUpdates m.currentStatus m.pc.statusInHand

theorem Monitor.Move.next_eq {e : MonitorEvent} (hmove : m.Move e m')
    (hreceives : e.receives = false) (hrun : m'.pc ≠ .returned) :
    m'.nextHealth = m.nextHealth ∧ m'.nextStatus = m.nextStatus := by
  cases hmove with
  | recvHealth | recvStatus => simp [MonitorEvent.receives] at hreceives
  | finish => exact absurd rfl hrun
  | lockHealth hpc | lockStatus hpc | sendHealth hpc _ | sendStatus hpc _ | unlockHealth hpc
  | unlockStatus hpc =>
    simp only [Monitor.nextHealth, Monitor.nextStatus, hpc]
    exact ⟨rfl, rfl⟩
  | watch | watcher | unwatch => exact ⟨rfl, rfl⟩

/-- The health of the id when all that is queued is recorded. -/
def Pipeline.healthOf (p : Pipeline) (id : String) : Option Health :=
  (applyUpdates p.monitor.nextHealth p.listener.healthUpdate).lookup id

/-- The status of the id when all that is queued is recorded. -/
def Pipeline.statusOf (p : Pipeline) (id : String) : Option Status :=
  (applyUpdates p.monitor.nextStatus p.listener.statusUpdate).lookup id

theorem Pipeline.Move.reportsOf_eq (hmove : p.Move e p')
    (hlistener : ∀ e', e ≠ .listener e') (hrun : p'.monitor.pc ≠ .returned) :
    p'.healthOf = p.healthOf ∧ p'.statusOf = p.statusOf := by
  unfold Pipeline.healthOf Pipeline.statusOf
  cases hmove with
  | takeHealth hqueue hpc | takeStatus hqueue hpc =>
    simp only [Monitor.nextHealth, Monitor.nextStatus, hqueue, hpc]
    exact ⟨rfl, rfl⟩
  | monitor hreceives hm =>
    obtain ⟨hhealth, hstatus⟩ := hm.next_eq hreceives hrun
    simp only [hhealth, hstatus, and_self]
  | listener _ => exact absurd rfl (hlistener _)

theorem lookup_applyUpdates_concat {α : Type} {m : GoMap String α} {updates : List (Update α)}
    {u : Update α} (id : String) : (applyUpdates m (updates ++ [u])).lookup id =
      if id = u.id then some u.value else (applyUpdates m updates).lookup id := by
  rw [applyUpdates_concat]
  exact GoMap.lookup_insert_eq ..

/-! ## Connections and what is sent for them -/

variable (pc : ConnectionPc)

/-- The connection is between its two sends of a status. -/
def ConnectionPc.Published : Prop := 7 ≤ pc.stage ∧ pc.stage ≤ 11

def ConnectionPc.MayBeReady : Prop := 7 ≤ pc.stage ∧ pc.stage ≤ 10

section Crosses

variable {j s s' : Nat} {e : ListenerEvent} (h : Crosses j e s s')

include h

theorem Crosses.published_iff
    (hstatus : ∀ now, e ≠ .publishStatus j now) : 7 ≤ s' ∧ s' ≤ 11 ↔ 7 ≤ s ∧ s ≤ 11 := by
  cases h with
  | connected | disconnected => exact absurd rfl (hstatus _)
  | _ => omega

theorem Crosses.mayBeReady_of (hhealth : ∀ now, e ≠ .publishHealth j now) :
    7 ≤ s ∧ s ≤ 10 → 7 ≤ s' ∧ s' ≤ 10 := by
  cases h with
  | cleared => exact absurd rfl (hhealth _)
  | _ => omega

theorem Crosses.statusSent_of (hstatus : ∀ now, e ≠ .publishStatus j now) :
    7 ≤ s' ∧ s' ≤ 16 → 7 ≤ s ∧ s ≤ 16 := by
  cases h with
  | connected | disconnected => exact absurd rfl (hstatus _)
  | _ => omega

theorem Crosses.healthSent_of (hhealth : ∀ now, e ≠ .publishHealth j now) :
    11 ≤ s' ∧ s' ≤ 16 → 11 ≤ s ∧ s ≤ 16 := by
  cases h with
  | cleared => exact absurd rfl (hhealth _)
  | _ => omega

end Crosses

/-- The last status sent for an id is connected exactly if a connection of the id is between
    its two sends; and there is one if a connection of the id has sent one. -/
structure Pipeline.StatusAccurate (p : Pipeline) : Prop where
  connected : ∀ id, Status.getConnected (p.statusOf id) = true ↔
    ∃ i, (p.listener.connections i).id = id ∧ (p.listener.connections i).pc.Published
  sent : ∀ i, 7 ≤ (p.listener.connections i).pc.stage ∧
    (p.listener.connections i).pc.stage ≤ 16 →
    (p.statusOf (p.listener.connections i).id).isSome

/-- The last health sent for an id is not ready if no connection of the id is before its last
    send; and there is one if a connection of the id has made its last send. -/
structure Pipeline.HealthAccurate (p : Pipeline) : Prop where
  ready : ∀ id, (∀ i, (p.listener.connections i).id = id →
    ¬(p.listener.connections i).pc.MayBeReady) → Health.getReady (p.healthOf id) = false
  sent : ∀ i, 11 ≤ (p.listener.connections i).pc.stage ∧
    (p.listener.connections i).pc.stage ≤ 16 →
    (p.healthOf (p.listener.connections i).id).isSome

section Listener

variable {p : Pipeline} {l : Listener} {ready : Bool} {e : ListenerEvent}

variable {pc : ConnectionPc} {now : Timestamp} {u : StatusUpdate} {i : Nat}

theorem Listener.connections_setPc_of_id_ne {j : Nat}
    (h : (l.connections j).id ≠ (l.connections i).id) :
    (l.setPc i pc).connections j = l.connections j := by
  refine Listener.connections_setPc_of_ne ?_
  rintro rfl
  exact h rfl

theorem Listener.LocksHeld.connected_iff (hlocks : l.LocksHeld)
    (hsend : (l.connections i).statusToSend now = some (u, pc)) :
    u.value.connected = true ↔ ∃ j,
      ((l.setPc i pc).connections j).id = (l.connections i).id ∧
      ((l.setPc i pc).connections j).pc.Published := by
  rcases Connection.statusToSend_eq_some hsend with ⟨hpc, rfl, rfl⟩ | ⟨hpc, rfl, rfl⟩
  · refine ⟨fun _ => ⟨i, ?_⟩, fun _ => rfl⟩
    rw [Listener.connections_setPc_self]
    exact ⟨rfl, by simp [ConnectionPc.Published, stage]⟩
  · refine ⟨fun h => absurd h (by simp), ?_⟩
    rintro ⟨j, hid, hpublished⟩
    rcases eq_or_ne j i with rfl | hne
    · exact absurd hpublished.2 (by simp [stage])
    · -- the other connection would have the lock, too
      rw [Listener.connections_setPc_of_ne hne] at hid hpublished
      have hi : (l.connections i).pc.Locked := by
        simp [hpc, ConnectionPc.Locked, stage]
      have hj : (l.connections j).pc.Locked := by
        obtain ⟨hlo, hhi⟩ := hpublished
        exact ⟨by omega, by omega⟩
      exact absurd (hlocks.eq hi hj hid) hne

theorem Listener.Move.statusAccurate (hmove : p.listener.Move ready e l)
    (hlocks : p.listener.LocksHeld) (h : p.StatusAccurate) :
    Pipeline.StatusAccurate { p with listener := l } := by
  have hids := hmove.id_eq
  have hcross := hmove.crosses
  -- all events but the sends of a status
  have hkeep : (∀ j now, e ≠ .publishStatus j now) →
      Pipeline.statusOf { p with listener := l } = p.statusOf →
      Pipeline.StatusAccurate { p with listener := l } := by
    intro hother hsame
    refine ⟨fun id => ?_, fun i hi => ?_⟩
    · rw [hsame, h.connected id]
      refine exists_congr fun i => ?_
      rw [hids i]
      exact and_congr_right fun _ => ((hcross i).published_iff (hother i)).symm
    · rw [hsame, hids i]
      exact h.sent i ((hcross i).statusSent_of (hother i) hi)
  cases hmove with
  | @publishStatus i now u pc hsend =>
    have hstatus : ∀ id, Pipeline.statusOf { p with listener := { p.listener.setPc i pc with
        statusUpdate := p.listener.statusUpdate ++ [u] } } id =
        if id = u.id then some u.value else p.statusOf id :=
      fun id => lookup_applyUpdates_concat id
    have hu : u.id = (p.listener.connections i).id := by
      rcases Connection.statusToSend_eq_some hsend with ⟨-, rfl, -⟩ | ⟨-, rfl, -⟩ <;> rfl
    refine ⟨fun id => ?_, fun j hj => ?_⟩
    · rw [hstatus id, hu]
      split
      next heq =>
        rw [heq]
        exact hlocks.connected_iff hsend
      next hne =>
        rw [h.connected id]
        refine exists_congr fun j => ?_
        rw [hids j]
        refine and_congr_right fun hj => ?_
        rw [← Listener.connections_setPc_of_id_ne (hj.trans_ne hne)]
    · rw [hstatus, hids j, hu]
      split
      · rfl
      next hne =>
        rw [Listener.connections_setPc_of_id_ne hne] at hj
        exact h.sent j hj
  | _ => exact hkeep (by simp) rfl

theorem Listener.Move.healthAccurate (hmove : p.listener.Move ready e l)
    (hown : ∀ i, (p.listener.connections i).OwnUpdates) (h : p.HealthAccurate) :
    Pipeline.HealthAccurate { p with listener := l } := by
  have hids := hmove.id_eq
  have hcross := hmove.crosses
  -- all events but the sends of a health
  have hkeep : (∀ j now, e ≠ .publishHealth j now) →
      Pipeline.healthOf { p with listener := l } = p.healthOf →
      Pipeline.HealthAccurate { p with listener := l } := by
    intro hother hsame
    refine ⟨fun id hnone => ?_, fun i hi => ?_⟩
    · rw [hsame]
      refine h.ready id fun i hi hready => ?_
      exact hnone i ((hids i).trans hi) ((hcross i).mayBeReady_of (hother i) hready)
    · rw [hsame, hids i]
      exact h.sent i ((hcross i).healthSent_of (hother i) hi)
  cases hmove with
  | @publishHealth i now u pc hsend =>
    have hhealth : ∀ id, Pipeline.healthOf { p with listener := { p.listener.setPc i pc with
        healthUpdate := p.listener.healthUpdate ++ [u] } } id =
        if id = u.id then some u.value else p.healthOf id :=
      fun id => lookup_applyUpdates_concat id
    have hu : u.id = (p.listener.connections i).id := by
      rcases Connection.healthToSend_eq_some hsend with ⟨_, -, rfl, -⟩ | ⟨hpc, -⟩ | ⟨-, rfl, -⟩
      · rfl
      · exact (hown i).forwarding u hpc
      · rfl
    refine ⟨fun id hnone => ?_, fun j hj => ?_⟩
    · rw [hhealth id, hu]
      split
      next heq =>
        have hi := hnone i ((hids i).trans heq.symm)
        rcases Connection.healthToSend_eq_some hsend with ⟨_, -, -, rfl⟩ | ⟨-, rfl⟩ |
          ⟨-, rfl, -⟩
        · exact absurd (by simp [ConnectionPc.MayBeReady, stage]) hi
        · exact absurd (by simp [ConnectionPc.MayBeReady, stage]) hi
        · rfl
      next hne =>
        refine h.ready id fun j hj hready => ?_
        refine hnone j ((hids j).trans hj) ?_
        rw [Listener.connections_setPc_of_id_ne (hj.trans_ne hne)]
        exact hready
    · rw [hhealth, hids j, hu]
      split
      · rfl
      next hne =>
        rw [Listener.connections_setPc_of_id_ne hne] at hj
        exact h.sent j hj
  | _ => exact hkeep (by simp) rfl

end Listener

/-! ## Runs -/

/-- What holds in every run as long as `Run` has not returned. -/
structure Pipeline.Accurate (p : Pipeline) : Prop where
  status : p.StatusAccurate
  health : p.HealthAccurate

theorem accurate_newPipeline : (newPipeline maxConnections updateQueueCap ids reqs).Accurate where
  status := by
    refine ⟨fun id => ⟨fun h => ?_, ?_⟩, fun i h => ?_⟩
    · exact absurd h (by simp [Status.getConnected, Pipeline.statusOf, newPipeline,
        Monitor.nextStatus, MonitorPc.statusInHand])
    · rintro ⟨i, -, hi⟩
      exact absurd hi.1 (by simp [newPipeline, stage])
    · exact absurd h.1 (by simp [newPipeline, stage])
  health := by
    refine ⟨fun id _ => rfl, fun i h => ?_⟩
    exact absurd h.1 (by simp [newPipeline, stage])

theorem Pipeline.Move.accurate (hmove : p.Move e p') (hl : p.listener.Consistent) (h : p.Accurate)
    (hrun : p'.monitor.pc ≠ .returned) : p'.Accurate := by
  have hreports := hmove.reportsOf_eq
  cases hmove with
  | listener hl' => exact ⟨hl'.statusAccurate hl.locks h.status, hl'.healthAccurate hl.own h.health⟩
  | _ =>
    obtain ⟨hhealth, hstatus⟩ := hreports (by simp) hrun
    refine ⟨⟨?_, ?_⟩, ⟨?_, ?_⟩⟩
    · rw [hstatus]
      exact h.status.connected
    · rw [hstatus]
      exact h.status.sent
    · rw [hhealth]
      exact h.health.ready
    · rw [hhealth]
      exact h.health.sent

theorem Pipeline.Move.returned (hmove : p.Move e p') (hpc : p.monitor.pc = .returned) :
    p'.monitor.pc = .returned := by
  cases hmove with
  | takeHealth _ hother | takeStatus _ hother =>
    cases hother.symm.trans hpc
  | monitor _ hm => exact hm.returned hpc
  | listener _ => exact hpc

section Reconnects

variable {maxConnections updateQueueCap : Nat} {ids : Nat → String} {reqs : Nat → HealthUpdate}
  {p : Pipeline}

theorem accurate_of_reaches (hrun : Reaches Pipeline.step (fun _ _ => True)
      (newPipeline maxConnections updateQueueCap ids reqs) p)
    (hpc : p.monitor.pc ≠ .returned) : p.Accurate := by
  have hinv : p.listener.Consistent ∧ (p.monitor.pc = .returned ∨ p.Accurate) := by
    apply hrun.invariant (I := fun p =>
      p.listener.Consistent ∧ (p.monitor.pc = .returned ∨ p.Accurate))
    · exact ⟨consistent_newPipeline .., .inr (accurate_newPipeline ..)⟩
    · rintro p e p' ⟨hl, h⟩ - hstep
      have hmove := Pipeline.move_of_step hstep
      refine ⟨hmove.consistent hl, ?_⟩
      rcases h with hret | h
      · exact .inl (hmove.returned hret)
      · exact or_iff_not_imp_left.mpr (hmove.accurate hl h)
  exact hinv.2.resolve_left hpc

/-- The connection is past its send of the status connected, and has not returned. -/
def ConnectionPc.PastConnected (pc : ConnectionPc) : Prop := 7 ≤ pc.stage ∧ pc.stage ≤ 15

/-- The connection is between its send of the status connected and its deferred calls. -/
def ConnectionPc.Serving (pc : ConnectionPc) : Prop := 7 ≤ pc.stage ∧ pc.stage ≤ 9

/-- In every run, when the two queues are drained: the monitor holds a status that is not
    connected and a health that is not ready of an id, if no connection of the id is past its
    send of the status connected; and it holds a status that is connected, if one is between
    that send and its deferred calls.  The monitor holds a health and a status of an id once a
    connection of it has returned; before that, what it does not hold reads as false. -/
theorem drained_accurate
    (hrun : Reaches Pipeline.step (fun _ _ => True)
      (newPipeline maxConnections updateQueueCap ids reqs) p)
    (hpc : p.monitor.pc = .selecting) (hhealth : p.listener.healthUpdate = [])
    (hstatus : p.listener.statusUpdate = []) (id : String) :
    ((∀ i, (p.listener.connections i).id = id → ¬(p.listener.connections i).pc.PastConnected) →
      Status.getConnected (p.monitor.getHealthStatus id).status = false ∧
      Health.getReady (p.monitor.getHealthStatus id).health = false ∧
      ((∃ i, (p.listener.connections i).id = id ∧ (p.listener.connections i).pc = .returned) →
        (p.monitor.getHealthStatus id).status.isSome ∧
        (p.monitor.getHealthStatus id).health.isSome)) ∧
    ((∃ i, (p.listener.connections i).id = id ∧ (p.listener.connections i).pc.Serving) →
      Status.getConnected (p.monitor.getHealthStatus id).status = true) := by
  obtain ⟨hs, hh⟩ := accurate_of_reaches hrun (by simp [hpc])
  -- nothing is queued, so what will be held is held
  have hstatusOf : ∀ id, p.statusOf id = (p.monitor.getHealthStatus id).status := by
    intro id
    rw [Pipeline.statusOf, Monitor.nextStatus, hpc, hstatus]
    rfl
  have hhealthOf : ∀ id, p.healthOf id = (p.monitor.getHealthStatus id).health := by
    intro id
    rw [Pipeline.healthOf, Monitor.nextHealth, hpc, hhealth]
    rfl
  rw [← hstatusOf, ← hhealthOf]
  refine ⟨fun hnone => ⟨?_, ?_, ?_⟩, ?_⟩
  · rw [← Bool.not_eq_true, hs.connected id]
    rintro ⟨i, hi, hlo, hhi⟩
    exact hnone i hi ⟨hlo, by omega⟩
  · refine hh.ready id fun i hi hready => ?_
    obtain ⟨hlo, hhi⟩ := hready
    exact hnone i hi ⟨hlo, by omega⟩
  · rintro ⟨i, rfl, hi⟩
    exact ⟨hs.sent i (by simp [hi, stage]),
      hh.sent i (by simp [hi, stage])⟩
  · rintro ⟨i, hi, hlo, hhi⟩
    exact (hs.connected id).mpr ⟨i, hi, hlo, by omega⟩

end Reconnects

/-- A connection comes to where it sends the status connected. -/
def connecting (i : Nat) : List PipelineEvent :=
  [.listener (.connect i), .listener (.acquire i), .listener (.find i), .listener (.lock i),
    .listener (.announce i), .listener (.register i), .listener (.publishStatus i 1)]

/-- A connection that waits for an answer of its agent is cancelled, and returns. -/
def disconnecting (i : Nat) : List PipelineEvent :=
  [.listener (.connection i (.answer none)), .listener (.connection i .cancel),
    .listener (.connection i .leave), .listener (.publishHealth i 2),
    .listener (.publishStatus i 2), .listener (.announce i), .listener (.unregister i),
    .listener (.unlock i), .listener (.release i)]

/-- `Run` handles an update. -/
def handling (e : PipelineEvent) : List PipelineEvent := [e, .monitor .lock, .monitor .unlock]

def reconnecting : List PipelineEvent :=
  connecting 0 ++ disconnecting 0 ++ connecting 1 ++
    handling .takeStatus ++ handling .takeStatus ++ handling .takeStatus ++ handling .takeHealth

def oneAgent : Pipeline :=
  newPipeline 2 1000 (fun _ => "agent") fun _ => ⟨"agent", { ready := true }⟩

theorem drained_accurate_reconnecting :
    ∃ p, Reaches Pipeline.step (fun _ _ => True) oneAgent p ∧
      Status.getConnected (p.monitor.getHealthStatus "agent").status = true := by
  obtain ⟨p, hp⟩ : ∃ p, run Pipeline.step oneAgent reconnecting = some p := ⟨_, rfl⟩
  have hreach : Reaches Pipeline.step (fun _ _ => True) oneAgent p :=
    Reaches.run .refl hp fun _ _ _ => trivial
  refine ⟨p, hreach, ?_⟩
  cases hp
  exact (drained_accurate hreach rfl rfl rfl "agent").2 ⟨1, rfl, by decide, by decide⟩

end Opni.AgentHealth
