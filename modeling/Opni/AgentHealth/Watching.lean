/-
  Opni.AgentHealth.Watching

  What a caller of `WatchHealthStatus` has been told once everything is
  processed.  A watcher knows what the monitor holds, up to the updates that
  are queued for it or are being sent (`InStep`).
-/

import Opni.AgentHealth.Monitor

namespace Opni.AgentHealth

open Lib (GoMap)
open Lib.Goroutines

/-! ## Events for an id -/

def HealthStatus.Present (hs : HealthStatus) : Prop := hs.health.isSome ∨ hs.status.isSome

variable (events : List ClusterHealthStatus) {id : String} {w w' : Watcher} {e : WatcherEvent}

def lastEvent (id : String) : Option ClusterHealthStatus :=
  events.reverse.find? (·.id == id)

theorem lastEvent_concat (e : ClusterHealthStatus)
    (id : String) : lastEvent (events ++ [e]) id =
      if e.id = id then some e else lastEvent events id := by
  rw [lastEvent, List.reverse_append, List.reverse_singleton, List.singleton_append,
    List.find?_cons]
  by_cases h : e.id = id
  · rw [if_pos h, beq_iff_eq.mpr h]
  · rw [if_neg h, beq_eq_false_iff_ne.mpr h]
    rfl

/-! ## What the watcher has reported -/

/-- The watcher's last event for an id is what it knows of it, if none is due and its
    context is not cancelled. -/
def Watcher.Reported (w : Watcher) : Prop :=
  w.cancelled = false → ∀ id, id ∉ w.pc.due → (w.report id).healthStatus.Present →
    lastEvent (w.received ++ w.ch) id = some (w.report id)

theorem Watcher.Reported.sent (h : w.Reported) {pc : WatcherPc}
    (hdue : ∀ id', id' ∉ pc.due → id' = id ∨ id' ∉ w.pc.due) :
    Watcher.Reported { w with pc := pc, ch := w.ch ++ [w.report id] } := by
  intro hlive id' hid' hpresent
  have hlast : lastEvent (w.received ++ (w.ch ++ [w.report id])) id' =
      if id = id' then some (w.report id) else lastEvent (w.received ++ w.ch) id' := by
    rw [← List.append_assoc, lastEvent_concat]
    rfl
  show lastEvent (w.received ++ (w.ch ++ [w.report id])) id' = some (w.report id')
  rw [hlast]
  by_cases heq : id = id'
  · rw [if_pos heq, heq]
  · rw [if_neg heq]
    exact h hlive id' ((hdue id' hid').resolve_left (Ne.symm heq)) hpresent

/-- Nothing is sent, and no other id falls due. -/
theorem Watcher.Reported.keep (h : w.Reported) (hlive : w'.cancelled = false → w.cancelled = false)
    (hevents : w'.received ++ w'.ch = w.received ++ w.ch)
    (hsame : ∀ id, id ∉ w'.pc.due → id ∉ w.pc.due ∧ w'.report id = w.report id) : w'.Reported := by
  intro hlive' id hid hpresent
  obtain ⟨hdue, hreport⟩ := hsame id hid
  rw [hreport] at hpresent ⊢
  rw [hevents]
  exact h (hlive hlive') id hdue hpresent

/-- The watcher keeps its reports up to date. -/
theorem Watcher.Move.reported (hmove : w.Move e w') (h : w.Reported) : w'.Reported := by
  cases hmove with
  | @snapshot rest id hpc hid =>
    apply h.sent
    intro id' hid'
    rw [hpc]
    by_cases heq : id' = id
    · exact .inl heq
    · exact .inr fun hmem => hid' ((List.mem_erase_of_ne heq).mpr hmem)
  | loop hpc => exact h.keep id rfl fun id hid => ⟨by rw [hpc]; exact hid, rfl⟩
  | @recvHealth u _ hpc htake | @recvStatus u _ hpc htake =>
    refine h.keep id rfl fun id hid => ⟨by simp [hpc, WatcherPc.due], ?_⟩
    have hne : id ≠ u.id := fun heq => hid (by simp [WatcherPc.due, heq])
    obtain ⟨queue, -, rfl⟩ := Inbox.take_eq_some htake
    simp only [Watcher.report, AList.lookup_insert_ne hne]
  | @send id hpc =>
    apply h.sent
    intro id' _
    rw [hpc]
    by_cases heq : id' = id
    · exact .inl heq
    · exact .inr (by simpa [WatcherPc.due] using heq)
  | skip hpc hcancelled =>
    intro hlive
    cases hlive.symm.trans hcancelled
  | breakLoop hpc hwhy => exact h.keep id rfl fun id _ => ⟨by simp [hpc, WatcherPc.due], rfl⟩
  | cancel =>
    intro hlive
    cases hlive
  | @read e ch hch =>
    refine h.keep id ?_ fun id hid => ⟨hid, rfl⟩
    rw [hch, List.append_assoc, List.singleton_append]

theorem Watcher.Move.registered (hmove : w.Move e w') : w'.pc.registered = w.pc.registered := by
  cases hmove with
  | snapshot hpc _ | loop hpc | recvHealth hpc _ | recvStatus hpc _ | send hpc | skip hpc _
  | breakLoop hpc _ => rw [hpc]; rfl
  | cancel => rfl
  | read _ => rfl

theorem Watcher.Move.ahead_eq (hmove : w.Move e w') :
    w'.health.ahead = w.health.ahead ∧ w'.status.ahead = w.status.ahead := by
  cases hmove with
  | recvHealth _ htake => exact ⟨Inbox.ahead_take htake, rfl⟩
  | recvStatus _ htake => exact ⟨rfl, Inbox.ahead_take htake⟩
  | _ => exact ⟨rfl, rfl⟩

/-! ## What the watchers will know -/

section Feed

variable {α : Type}

/-- What `Run` is about to send to the listener. -/
def pending (sending : Option (Update α × List Nat)) (i : Nat) : List (Update α) :=
  match sending with
  | some (u, rest) => if i ∈ rest then [u] else []
  | none => []

/-- One of the two maps with its listeners, where `box` is the watchers' part of it and
    `sending` the update `Run` is sending, with the listeners that have yet to get it. -/
structure InStep (box : Watcher → Inbox α) (current : GoMap String α) (listeners : List Nat)
    (sending : Option (Update α × List Nat)) (watchers : Nat → Watcher) : Prop where
  nodup : listeners.Nodup
  mem_iff : ∀ i, i ∈ listeners ↔ (watchers i).pc.registered = true
  sending_nodup : ∀ u rest, sending = some (u, rest) → rest.Nodup
  ahead : ∀ i, (watchers i).pc.registered = true → ∀ id,
    (applyUpdates (box (watchers i)).ahead (pending sending i)).lookup id = current.lookup id

variable {box : Watcher → Inbox α} {current : GoMap String α} {listeners rest : List Nat}
  {u : Update α} {sending : Option (Update α × List Nat)} {watchers : Nat → Watcher} {i : Nat}
  {w : Watcher}

theorem InStep.record (h : InStep box current listeners none watchers) :
    InStep box (current.insert u.id u.value) listeners (some (u, listeners)) watchers where
  nodup := h.nodup
  mem_iff := h.mem_iff
  sending_nodup := by
    intro u' rest heq
    simp only [Option.some.injEq, Prod.mk.injEq] at heq
    rw [← heq.2]
    exact h.nodup
  ahead := by
    intro i hi id
    have hpending : pending (some (u, listeners)) i = [u] := if_pos ((h.mem_iff i).mpr hi)
    rw [hpending, applyUpdates_cons, applyUpdates_nil, GoMap.lookup_insert_eq,
      GoMap.lookup_insert_eq]
    exact if_congr Iff.rfl rfl (h.ahead i hi id)

theorem InStep.unlock (h : InStep box current listeners (some (u, [])) watchers) :
    InStep box current listeners none watchers where
  nodup := h.nodup
  mem_iff := h.mem_iff
  sending_nodup := by simp
  ahead := h.ahead

/-- One watcher and what is kept about it change, for the others nothing does. -/
theorem InStep.set {listeners' : List Nat} {sending' : Option (Update α × List Nat)}
    (h : InStep box current listeners sending watchers) (hnodup : listeners'.Nodup)
    (hself : i ∈ listeners' ↔ w.pc.registered = true)
    (hothers : ∀ j, j ≠ i → (j ∈ listeners' ↔ j ∈ listeners) ∧
      pending sending' j = pending sending j)
    (hsending : ∀ u rest, sending' = some (u, rest) → rest.Nodup)
    (hahead : w.pc.registered = true → ∀ id,
      (applyUpdates (box w).ahead (pending sending' i)).lookup id = current.lookup id) :
    InStep box current listeners' sending' (Function.update watchers i w) where
  nodup := hnodup
  mem_iff := by
    intro j
    rcases eq_or_ne j i with rfl | hne
    · rw [Function.update_self, hself]
    · rw [Function.update_of_ne hne, (hothers j hne).1, h.mem_iff]
  sending_nodup := hsending
  ahead := by
    intro j hj id
    rcases eq_or_ne j i with rfl | hne
    · rw [Function.update_self] at hj ⊢
      exact hahead hj id
    · rw [Function.update_of_ne hne] at hj ⊢
      rw [(hothers j hne).2]
      exact h.ahead j hj id

theorem InStep.update (h : InStep box current listeners sending watchers)
    (hreg : w.pc.registered = (watchers i).pc.registered)
    (hahead : (box w).ahead = (box (watchers i)).ahead) :
    InStep box current listeners sending (Function.update watchers i w) := by
  refine h.set h.nodup (by rw [hreg, h.mem_iff]) (fun _ _ => ⟨Iff.rfl, rfl⟩) h.sending_nodup ?_
  rw [hreg, hahead]
  exact h.ahead i

/-- `Run` sends the update to the next listener. -/
theorem InStep.send (h : InStep box current listeners (some (u, i :: rest)) watchers)
    (hreg : w.pc.registered = (watchers i).pc.registered)
    (hbox : box w = (box (watchers i)).push u) :
    InStep box current listeners (some (u, rest)) (Function.update watchers i w) := by
  obtain ⟨hsent, hrest⟩ := List.nodup_cons.mp (h.sending_nodup u _ rfl)
  refine h.set h.nodup (by rw [hreg, h.mem_iff]) (fun j hne => ⟨Iff.rfl, ?_⟩) ?_ ?_
  · simp [pending, hne]
  · rintro _ _ ⟨⟩
    exact hrest
  · -- what was about to be sent to it is on its channel now
    intro hj id
    rw [← h.ahead i (hreg ▸ hj) id, hbox, Inbox.ahead_push]
    simp [pending, hsent]

variable (h : InStep box current listeners none watchers)

include h

theorem InStep.watch (hnew : (watchers i).pc.registered = false) (hreg : w.pc.registered = true)
    (hbox : box w = { cur := current }) :
    InStep box current (listeners ++ [i]) none (Function.update watchers i w) := by
  have hni : i ∉ listeners := by
    rw [h.mem_iff, hnew]
    simp
  refine h.set ?_ (by simp [hreg]) (fun j hne => ⟨by simp [hne], rfl⟩) (by simp) fun _ id => ?_
  · exact h.nodup.append (List.nodup_singleton i) (List.disjoint_singleton.mpr hni)
  · rw [hbox]
    rfl

theorem InStep.unwatch (hreg : w.pc.registered = false) :
    InStep box current (listeners.erase i) none (Function.update watchers i w) := by
  refine h.set (h.nodup.erase i) (by simp [h.nodup.mem_erase_iff, hreg]) (fun j hne => ?_)
    (by simp) fun hj => absurd (hreg.symm.trans hj) (by simp)
  exact ⟨List.mem_erase_of_ne hne, rfl⟩

theorem InStep.lookup_cur
    (hreg : (watchers i).pc.registered = true) (hqueue : (box (watchers i)).queue = [])
    (id : String) : (box (watchers i)).cur.lookup id = current.lookup id := by
  have hahead := h.ahead i hreg id
  rw [Inbox.ahead, hqueue] at hahead
  exact hahead

end Feed

/-! ## The invariant of the monitor -/

/-- The health update `Run` is sending. -/
def MonitorPc.sendingHealth? : MonitorPc → Option (HealthUpdate × List Nat)
  | .sendingHealth u rest => some (u, rest)
  | _ => none

/-- The status update `Run` is sending. -/
def MonitorPc.sendingStatus? : MonitorPc → Option (StatusUpdate × List Nat)
  | .sendingStatus u rest => some (u, rest)
  | _ => none

theorem MonitorPc.sending?_of_not_holdsMu {pc : MonitorPc} (h : pc.holdsMu = false) :
    pc.sendingHealth? = none ∧ pc.sendingStatus? = none := by
  cases pc with
  | sendingHealth u rest | sendingStatus u rest => simp [MonitorPc.holdsMu] at h
  | _ => exact ⟨rfl, rfl⟩

variable (m : Monitor)

/-- The health each watcher will know is what the monitor holds. -/
abbrev Monitor.HealthInStep : Prop :=
  InStep Watcher.health m.currentHealth m.healthListeners m.pc.sendingHealth? m.watchers

/-- The status each watcher will know is what the monitor holds. -/
abbrev Monitor.StatusInStep : Prop :=
  InStep Watcher.status m.currentStatus m.statusListeners m.pc.sendingStatus? m.watchers

/-- Every watcher will know what the monitor holds, and has reported what it knows. -/
structure Monitor.Converging : Prop where
  health : m.HealthInStep
  status : m.StatusInStep
  reported : ∀ i, (m.watchers i).Reported

theorem converging_start : Monitor.Converging {} where
  health := ⟨List.nodup_nil, by simp [WatcherPc.registered], by simp [MonitorPc.sendingHealth?],
    by simp [WatcherPc.registered]⟩
  status := ⟨List.nodup_nil, by simp [WatcherPc.registered], by simp [MonitorPc.sendingStatus?],
    by simp [WatcherPc.registered]⟩
  reported := by
    intro i _ id _ hpresent
    simp [HealthStatus.Present, Watcher.report] at hpresent

/-- Every id with a status has a health when a watch begins. -/
def StatusesHaveHealth : MonitorEvent → Prop
  | .watch _ => ∀ id, (m.currentStatus.lookup id).isSome → (m.currentHealth.lookup id).isSome
  | _ => True

theorem reported_watch {m : Monitor}
    (hall : ∀ id, (m.currentStatus.lookup id).isSome → (m.currentHealth.lookup id).isSome) :
    Watcher.Reported { w with
      pc := .snapshot m.currentHealth.keys
      health := { cur := m.currentHealth }
      status := { cur := m.currentStatus } } := by
  intro _ id hid hpresent
  -- an id that is not due has no health, hence no status either
  have hnone : ¬(m.currentHealth.lookup id).isSome := by
    intro hsome
    exact hid (AList.mem_keys.mpr (AList.lookup_isSome.mp hsome))
  rcases hpresent with hhealth | hstatus
  · exact absurd hhealth hnone
  · exact absurd (hall id hstatus) hnone

section Moves

variable {m m' : Monitor} {e : MonitorEvent}

theorem Monitor.Move.inStep (hmove : m.Move e m') (hh : m.HealthInStep) (hs : m.StatusInStep)
    (hrun : m'.pc ≠ .returned) : m'.HealthInStep ∧ m'.StatusInStep := by
  unfold Monitor.HealthInStep at hh ⊢
  unfold Monitor.StatusInStep at hs ⊢
  cases hmove with
  | recvHealth _ hpc | recvStatus _ hpc =>
    rw [hpc] at hh hs
    exact ⟨hh, hs⟩
  | lockHealth hpc =>
    rw [hpc] at hh hs
    exact ⟨hh.record, hs⟩
  | lockStatus hpc =>
    rw [hpc] at hh hs
    exact ⟨hh, hs.record⟩
  | sendHealth hpc _ =>
    rw [hpc] at hh hs
    refine ⟨hh.send ?_ ?_, hs.update ?_ ?_⟩ <;> rfl
  | sendStatus hpc _ =>
    rw [hpc] at hh hs
    refine ⟨hh.update ?_ ?_, hs.send ?_ ?_⟩ <;> rfl
  | unlockHealth hpc =>
    rw [hpc] at hh hs
    exact ⟨hh.unlock, hs⟩
  | unlockStatus hpc =>
    rw [hpc] at hh hs
    exact ⟨hh, hs.unlock⟩
  | finish _ => exact absurd rfl hrun
  | @watch i hmu hpc =>
    obtain ⟨hhealth, hstatus⟩ := MonitorPc.sending?_of_not_holdsMu hmu
    rw [hhealth] at hh
    rw [hstatus] at hs
    have hnew : (m.watchers i).pc.registered = false := by rw [hpc]; rfl
    refine ⟨?_, ?_⟩
    · show InStep Watcher.health m.currentHealth _ m.pc.sendingHealth? _
      rw [hhealth]
      exact hh.watch hnew rfl rfl
    · show InStep Watcher.status m.currentStatus _ m.pc.sendingStatus? _
      rw [hstatus]
      exact hs.watch hnew rfl rfl
  | watcher hw =>
    exact ⟨hh.update hw.registered hw.ahead_eq.1, hs.update hw.registered hw.ahead_eq.2⟩
  | @unwatch i hmu _ =>
    obtain ⟨hhealth, hstatus⟩ := MonitorPc.sending?_of_not_holdsMu hmu
    rw [hhealth] at hh
    rw [hstatus] at hs
    refine ⟨?_, ?_⟩
    · show InStep Watcher.health m.currentHealth _ m.pc.sendingHealth? _
      rw [hhealth]
      exact hh.unwatch rfl
    · show InStep Watcher.status m.currentStatus _ m.pc.sendingStatus? _
      rw [hstatus]
      exact hs.unwatch rfl

theorem Monitor.Move.reported (hmove : m.Move e m') (hok : StatusesHaveHealth m e)
    (h : ∀ i, (m.watchers i).Reported) : ∀ i, (m'.watchers i).Reported := by
  have hset : ∀ {i w}, Watcher.Reported w → ∀ j, ((m.setWatcher i w).watchers j).Reported :=
    fun hw => (Function.forall_update_iff _ fun _ => Watcher.Reported).mpr ⟨hw, fun j _ => h j⟩
  cases hmove with
  | recvHealth | recvStatus | lockHealth | lockStatus | unlockHealth | unlockStatus | finish =>
    exact h
  | @sendHealth _ i _ _ _ | @sendStatus _ i _ _ _ => exact hset (h i)
  | watch _ _ => exact hset (reported_watch hok)
  | @watcher i _ _ hw => exact hset (hw.reported (h i))
  | @unwatch i _ hpc =>
    refine hset ?_
    intro hlive id _ hpresent
    exact h i hlive id (by simp [hpc, WatcherPc.due]) hpresent

end Moves

theorem converging_of_reaches {m : Monitor}
    (hrun : Reaches Monitor.step StatusesHaveHealth {} m) (hpc : m.pc ≠ .returned) :
    m.Converging := by
  have hinv : m.pc = .returned ∨ m.Converging := by
    apply hrun.invariant (I := fun m => m.pc = .returned ∨ m.Converging)
    · exact .inr converging_start
    · intro m e m' h hok hstep
      have hmove := Monitor.move_of_step hstep
      rcases h with hret | h
      · exact .inl (hmove.returned hret)
      · refine or_iff_not_imp_left.mpr fun hrun => ?_
        have hstep := hmove.inStep h.health h.status hrun
        exact ⟨hstep.1, hstep.2, hmove.reported hok h.reported⟩
  exact hinv.resolve_left hpc

/-! ## Watches converge -/

/-- The watcher has processed all that was sent to it, and its caller has read its events. -/
structure Watcher.Quiet (w : Watcher) : Prop where
  pc : w.pc = .selecting
  health : w.health.queue = []
  status : w.status.queue = []
  ch : w.ch = []

/-- When everything is processed, the last event of a watch whose context is not cancelled
    is what `GetHealthStatus` returns, for every id with a health or a status; provided
    that no id had a status only when a watch began. -/
theorem watch_converges {m : Monitor} (hrun : Reaches Monitor.step StatusesHaveHealth {} m)
    (hpc : m.pc = .selecting) {i : Nat} (hlive : (m.watchers i).cancelled = false)
    (hquiet : (m.watchers i).Quiet) (id : String) (hid : (m.getHealthStatus id).Present) :
    lastEvent (m.watchers i).received id = some ⟨id, m.getHealthStatus id⟩ := by
  obtain ⟨hhealth, hstatus, hreported⟩ := converging_of_reaches hrun (by rw [hpc]; simp)
  have hreg : (m.watchers i).pc.registered = true := by
    rw [hquiet.pc]
    rfl
  rw [Monitor.HealthInStep, hpc] at hhealth
  rw [Monitor.StatusInStep, hpc] at hstatus
  -- the watcher knows what the monitor holds
  have hreport : (m.watchers i).report id = ⟨id, m.getHealthStatus id⟩ := by
    rw [Watcher.report, hhealth.lookup_cur hreg hquiet.health id,
      hstatus.lookup_cur hreg hquiet.status id, Monitor.getHealthStatus]
  have hlast := hreported i hlive id (by rw [hquiet.pc]; simp [WatcherPc.due])
    (by rw [hreport]; exact hid)
  rw [hquiet.ch, List.append_nil, hreport] at hlast
  exact hlast

/-- An agent that connects and then reports its health, with a watch from the start. -/
def reportingAgent : List MonitorEvent :=
  [.watcher 0 .loop,
    .recvStatus ⟨"agent", { connected := true }⟩, .lock, .send, .unlock,
    .watcher 0 .recvStatus, .watcher 0 .send, .watcher 0 .read,
    .recvHealth ⟨"agent", { ready := true }⟩, .lock, .send, .unlock,
    .watcher 0 .recvHealth, .watcher 0 .send, .watcher 0 .read]

theorem watch_converges_reporting : ∃ m, Reaches Monitor.step StatusesHaveHealth {} m ∧
    lastEvent (m.watchers 0).received "agent" =
      some ⟨"agent", ⟨some { ready := true }, some { connected := true }⟩⟩ := by
  have hwatch : Reaches Monitor.step StatusesHaveHealth {} (Monitor.watchHealthStatus {} 0) := by
    refine Relation.ReflTransGen.single ⟨.watch 0, ?_, rfl⟩
    intro id hid
    cases hid
  obtain ⟨m, hm⟩ : ∃ m, run Monitor.step (Monitor.watchHealthStatus {} 0) reportingAgent =
      some m := ⟨_, rfl⟩
  have hreach := hwatch.run hm (by simp [reportingAgent, StatusesHaveHealth])
  cases hm
  refine ⟨_, hreach, ?_⟩
  exact watch_converges hreach rfl rfl ⟨rfl, rfl, rfl, rfl⟩ "agent" (.inl rfl)

/-- The agent has connected, and has not reported its health when the watch begins. -/
def silentAgent : List MonitorEvent :=
  [.recvStatus ⟨"agent", { connected := true }⟩, .lock, .unlock, .watch 0, .watcher 0 .loop]

/-- The caller is not told of an id that has a status only. -/
theorem watch_misses_status : ∃ m, Reaches Monitor.step (fun _ _ => True) {} m ∧
    m.pc = .selecting ∧ (m.watchers 0).cancelled = false ∧ (m.watchers 0).Quiet ∧
    m.getHealthStatus "agent" = ⟨none, some { connected := true }⟩ ∧
    lastEvent (m.watchers 0).received "agent" = none := by
  exact exists_reaches_of_isSome silentAgent rfl ⟨rfl, rfl, ⟨rfl, rfl, rfl, rfl⟩, rfl, rfl⟩

end Opni.AgentHealth
