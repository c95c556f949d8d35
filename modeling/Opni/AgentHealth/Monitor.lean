/-
  Opni.AgentHealth.Monitor

  The health monitor: `Run`, `GetHealthStatus` and `WatchHealthStatus` of
  `pkg/health/monitor.go`.
-/

import Opni.Lib.GoData
import Opni.Lib.Goroutines

namespace Opni.AgentHealth

open Lib (GoMap)
open Lib.Goroutines

/-! ## Health, status and updates -/

abbrev Timestamp := Int

structure Health where
  timestamp : Option Timestamp := none
  ready : Bool
  conditions : List String := []
  annotations : GoMap String String := ∅

structure Status where
  timestamp : Option Timestamp := none
  connected : Bool
deriving DecidableEq

/-- A new value for an id: `HealthUpdate` and `StatusUpdate`, and `ClusterHealth` and
    `ClusterStatus` of the listeners. -/
structure Update (α : Type) where
  id : String
  value : α

abbrev HealthUpdate := Update Health

abbrev StatusUpdate := Update Status

structure HealthStatus where
  health : Option Health
  status : Option Status

structure ClusterHealthStatus where
  id : String
  healthStatus : HealthStatus

def applyUpdates {α : Type} (m : GoMap String α) (updates : List (Update α)) : GoMap String α :=
  updates.foldl (fun m u => m.insert u.id u.value) m

section ApplyUpdates

variable {α : Type} {m : GoMap String α} {u : Update α} {updates : List (Update α)}

@[simp] theorem applyUpdates_nil : applyUpdates m [] = m := rfl

@[simp] theorem applyUpdates_cons :
    applyUpdates m (u :: updates) = applyUpdates (m.insert u.id u.value) updates := rfl

theorem applyUpdates_concat : applyUpdates m (updates ++ [u]) =
    (applyUpdates m updates).insert u.id u.value := by
  rw [applyUpdates, List.foldl_concat, applyUpdates]

end ApplyUpdates

/-! ## The goroutine of a watch -/

/-- A channel from the monitor to a watcher, with the values the watcher knows. -/
structure Inbox (α : Type) where
  cur : GoMap String α := ∅
  queue : List (Update α) := []
  closed : Bool := false

section Inbox

variable {α : Type} (b : Inbox α)

def Inbox.push (u : Update α) : Inbox α := { b with queue := b.queue ++ [u] }

def Inbox.take : Option (Update α × Inbox α) :=
  match b.queue with
  | [] => none
  | u :: queue => some (u, { b with cur := b.cur.insert u.id u.value, queue := queue })

/-- Reading yields `ok = false`. -/
def Inbox.drained : Bool := b.closed && b.queue.isEmpty

/-- The values the watcher knows when it has read all there is. -/
def Inbox.ahead : GoMap String α := applyUpdates b.cur b.queue

theorem Inbox.ahead_push (u : Update α) :
    (b.push u).ahead = b.ahead.insert u.id u.value := applyUpdates_concat

theorem Inbox.take_eq_some {b b' : Inbox α} {u : Update α} (h : b.take = some (u, b')) :
    ∃ queue, b.queue = u :: queue ∧
      b' = { b with cur := b.cur.insert u.id u.value, queue := queue } := by
  unfold Inbox.take at h
  split at h
  · cases h
  next v queue hq =>
    obtain ⟨rfl, rfl⟩ := h
    exact ⟨queue, hq, rfl⟩

theorem Inbox.ahead_take {b b' : Inbox α} {u : Update α} (h : b.take = some (u, b')) :
    b'.ahead = b.ahead := by
  obtain ⟨queue, hq, rfl⟩ := b.take_eq_some h
  rw [Inbox.ahead, Inbox.ahead, hq, applyUpdates_cons]

end Inbox

inductive WatcherPc where
  /-- `WatchHealthStatus` has not been called. -/
  | idle
  /-- In the first loop, with the ids it has still to send. -/
  | snapshot (rest : List String)
  /-- At the `select` over the two channels. -/
  | selecting
  /-- At the `select` that sends what it knows of the id. -/
  | sending (id : String)
  /-- Out of `LOOP`, waiting for `mu`. -/
  | leaving
  | left
deriving DecidableEq

/-- Its channels are on the lists of the monitor, if `Run` has not returned. -/
def WatcherPc.registered : WatcherPc → Bool
  | .idle | .left => false
  | .snapshot _ | .selecting | .sending _ | .leaving => true

def WatcherPc.due : WatcherPc → List String
  | .snapshot rest => rest
  | .sending id => [id]
  | .idle | .selecting | .leaving | .left => []

/-- A call of `WatchHealthStatus`: its goroutine and its variables, whether its context is
    cancelled, the channel `ch`, and what the caller has read from it. -/
structure Watcher where
  pc : WatcherPc := .idle
  cancelled : Bool := false
  health : Inbox Health := {}
  status : Inbox Status := {}
  ch : List ClusterHealthStatus := []
  received : List ClusterHealthStatus := []

def Watcher.report (w : Watcher) (id : String) : ClusterHealthStatus :=
  ⟨id, w.health.cur.lookup id, w.status.cur.lookup id⟩

/-- What a watcher, its context and its caller do by themselves. -/
inductive WatcherEvent where
  /-- The first loop comes to the id and sends it. -/
  | snapshot (id : String)
  /-- The first loop ends. -/
  | loop
  | recvHealth
  | recvStatus
  | send
  /-- The context is cancelled while it waits for room on `ch`. -/
  | skip
  | breakLoop
  | cancel
  /-- The caller reads an event. -/
  | read

/-- The capacity of `ch`. -/
def chCap : Nat := 100

/-- The capacity of `hl` and `sl`. -/
def listenerCap : Nat := 10

def Watcher.step (w : Watcher) : WatcherEvent → Option Watcher
  | .snapshot id =>
    match w.pc with
    | .snapshot rest =>
      -- the context is not looked at here
      if id ∈ rest ∧ w.ch.length < chCap then
        some { w with pc := .snapshot (rest.erase id), ch := w.ch ++ [w.report id] }
      else none
    | _ => none
  | .loop => if w.pc = .snapshot [] then some { w with pc := .selecting } else none
  | .recvHealth =>
    match w.pc, w.health.take with
    | .selecting, some (u, health) => some { w with pc := .sending u.id, health := health }
    | _, _ => none
  | .recvStatus =>
    match w.pc, w.status.take with
    | .selecting, some (u, status) => some { w with pc := .sending u.id, status := status }
    | _, _ => none
  | .send =>
    match w.pc with
    | .sending id =>
      if w.ch.length < chCap then
        some { w with pc := .selecting, ch := w.ch ++ [w.report id] }
      else none
    | _ => none
  | .skip =>
    match w.pc with
    | .sending _ => if w.cancelled then some { w with pc := .selecting } else none
    | _ => none
  | .breakLoop =>
    if w.pc = .selecting ∧ (w.cancelled || w.health.drained || w.status.drained) = true then
      some { w with pc := .leaving }
    else none
  | .cancel => some { w with cancelled := true }
  | .read =>
    match w.ch with
    | [] => none
    | e :: ch => some { w with ch := ch, received := w.received ++ [e] }

inductive Watcher.Move (w : Watcher) : WatcherEvent → Watcher → Prop where
  | snapshot {rest : List String} {id : String} : w.pc = .snapshot rest → id ∈ rest →
      w.Move (.snapshot id)
        { w with pc := .snapshot (rest.erase id), ch := w.ch ++ [w.report id] }
  | loop : w.pc = .snapshot [] → w.Move .loop { w with pc := .selecting }
  | recvHealth {u : HealthUpdate} {health : Inbox Health} : w.pc = .selecting →
      w.health.take = some (u, health) →
      w.Move .recvHealth { w with pc := .sending u.id, health := health }
  | recvStatus {u : StatusUpdate} {status : Inbox Status} : w.pc = .selecting →
      w.status.take = some (u, status) →
      w.Move .recvStatus { w with pc := .sending u.id, status := status }
  | send {id : String} : w.pc = .sending id →
      w.Move .send { w with pc := .selecting, ch := w.ch ++ [w.report id] }
  | skip {id : String} : w.pc = .sending id → w.cancelled = true →
      w.Move .skip { w with pc := .selecting }
  | breakLoop : w.pc = .selecting →
      (w.cancelled || w.health.drained || w.status.drained) = true →
      w.Move .breakLoop { w with pc := .leaving }
  | cancel : w.Move .cancel { w with cancelled := true }
  | read {e : ClusterHealthStatus} {ch : List ClusterHealthStatus} : w.ch = e :: ch →
      w.Move .read { w with ch := ch, received := w.received ++ [e] }

theorem Watcher.move_of_step {w w' : Watcher} {e : WatcherEvent} (h : w.step e = some w') :
    w.Move e w' := by
  revert h
  fun_cases Watcher.step w e <;> grind [Watcher.Move]

/-! ## The monitor -/

/-- Where `Run` is. -/
inductive MonitorPc where
  | selecting
  /-- It has received an update and is about to lock `mu`. -/
  | lockingHealth (u : HealthUpdate)
  | lockingStatus (u : StatusUpdate)
  /-- It holds `mu` and has still to send the update to the listeners of `rest`. -/
  | sendingHealth (u : HealthUpdate) (rest : List Nat)
  | sendingStatus (u : StatusUpdate) (rest : List Nat)
  | returned

/-- `Run` holds `mu`. -/
def MonitorPc.holdsMu : MonitorPc → Bool
  | .sendingHealth .. | .sendingStatus .. => true
  | .selecting | .lockingHealth _ | .lockingStatus _ | .returned => false

structure Monitor where
  pc : MonitorPc := .selecting
  currentHealth : GoMap String Health := ∅
  currentStatus : GoMap String Status := ∅
  healthListeners : List Nat := []
  statusListeners : List Nat := []
  watchers : Nat → Watcher := fun _ => {}

def Monitor.getHealthStatus (m : Monitor) (id : String) : HealthStatus :=
  ⟨m.currentHealth.lookup id, m.currentStatus.lookup id⟩

def Monitor.setWatcher (m : Monitor) (i : Nat) (w : Watcher) : Monitor :=
  { m with watchers := Function.update m.watchers i w }

/-- `WatchHealthStatus`, up to where it starts the goroutine. -/
def Monitor.watchHealthStatus (m : Monitor) (i : Nat) : Monitor :=
  { m.setWatcher i { m.watchers i with
        pc := .snapshot m.currentHealth.keys
        health := { cur := m.currentHealth }
        status := { cur := m.currentStatus } } with
    healthListeners := m.healthListeners ++ [i]
    statusListeners := m.statusListeners ++ [i] }

/-- The end of the goroutine of a watch, with `mu` held: it takes its channels off the
    lists and closes them. -/
def Monitor.unwatch (m : Monitor) (i : Nat) : Monitor :=
  { m.setWatcher i { m.watchers i with pc := .left } with
    healthListeners := m.healthListeners.erase i
    statusListeners := m.statusListeners.erase i }

/-- The deferred function of `Run`. -/
def Monitor.finish (m : Monitor) : Monitor where
  pc := .returned
  watchers i :=
    let w := m.watchers i
    { w with
      health := { w.health with closed := w.health.closed || i ∈ m.healthListeners }
      status := { w.status with closed := w.status.closed || i ∈ m.statusListeners } }

inductive MonitorEvent where
  | recvHealth (u : HealthUpdate)
  | recvStatus (u : StatusUpdate)
  /-- `Run` locks `mu` and records the update. -/
  | lock
  /-- `Run` sends the update to the next listener. -/
  | send
  | unlock
  /-- `Run` returns: its context is cancelled, or a channel of the updater is closed. -/
  | finish
  /-- A call of `WatchHealthStatus`. -/
  | watch (i : Nat)
  | watcher (i : Nat) (e : WatcherEvent)
  | unwatch (i : Nat)

def Monitor.step (m : Monitor) : MonitorEvent → Option Monitor
  | .recvHealth u =>
    match m.pc with
    | .selecting => some { m with pc := .lockingHealth u }
    | _ => none
  | .recvStatus u =>
    match m.pc with
    | .selecting => some { m with pc := .lockingStatus u }
    | _ => none
  | .lock =>
    match m.pc with
    | .lockingHealth u =>
      some { m with
        pc := .sendingHealth u m.healthListeners
        currentHealth := m.currentHealth.insert u.id u.value }
    | .lockingStatus u =>
      some { m with
        pc := .sendingStatus u m.statusListeners
        currentStatus := m.currentStatus.insert u.id u.value }
    | _ => none
  | .send =>
    match m.pc with
    | .sendingHealth u (i :: rest) =>
      let w := m.watchers i
      if w.health.queue.length < listenerCap then
        some { m.setWatcher i { w with health := w.health.push u } with
          pc := .sendingHealth u rest }
      else none
    | .sendingStatus u (i :: rest) =>
      let w := m.watchers i
      if w.status.queue.length < listenerCap then
        some { m.setWatcher i { w with status := w.status.push u } with
          pc := .sendingStatus u rest }
      else none
    | _ => none
  | .unlock =>
    match m.pc with
    | .sendingHealth _ [] => some { m with pc := .selecting }
    | .sendingStatus _ [] => some { m with pc := .selecting }
    | _ => none
  | .finish =>
    match m.pc with
    | .selecting => some m.finish
    | _ => none
  | .watch i =>
    if m.pc.holdsMu = false ∧ (m.watchers i).pc = .idle then some (m.watchHealthStatus i)
    else none
  | .watcher i e => ((m.watchers i).step e).map (m.setWatcher i)
  | .unwatch i =>
    if m.pc.holdsMu = false ∧ (m.watchers i).pc = .leaving then some (m.unwatch i) else none

inductive Monitor.Move (m : Monitor) : MonitorEvent → Monitor → Prop where
  | recvHealth (u : HealthUpdate) : m.pc = .selecting →
      m.Move (.recvHealth u) { m with pc := .lockingHealth u }
  | recvStatus (u : StatusUpdate) : m.pc = .selecting →
      m.Move (.recvStatus u) { m with pc := .lockingStatus u }
  | lockHealth {u : HealthUpdate} : m.pc = .lockingHealth u →
      m.Move .lock { m with
        pc := .sendingHealth u m.healthListeners
        currentHealth := m.currentHealth.insert u.id u.value }
  | lockStatus {u : StatusUpdate} : m.pc = .lockingStatus u →
      m.Move .lock { m with
        pc := .sendingStatus u m.statusListeners
        currentStatus := m.currentStatus.insert u.id u.value }
  | sendHealth {u : HealthUpdate} {i : Nat} {rest : List Nat} :
      m.pc = .sendingHealth u (i :: rest) → (m.watchers i).health.queue.length < listenerCap →
      m.Move .send
        { m.setWatcher i { m.watchers i with health := (m.watchers i).health.push u } with
          pc := .sendingHealth u rest }
  | sendStatus {u : StatusUpdate} {i : Nat} {rest : List Nat} :
      m.pc = .sendingStatus u (i :: rest) → (m.watchers i).status.queue.length < listenerCap →
      m.Move .send
        { m.setWatcher i { m.watchers i with status := (m.watchers i).status.push u } with
          pc := .sendingStatus u rest }
  | unlockHealth {u : HealthUpdate} : m.pc = .sendingHealth u [] →
      m.Move .unlock { m with pc := .selecting }
  | unlockStatus {u : StatusUpdate} : m.pc = .sendingStatus u [] →
      m.Move .unlock { m with pc := .selecting }
  | finish : m.pc = .selecting → m.Move .finish m.finish
  | watch {i : Nat} : m.pc.holdsMu = false → (m.watchers i).pc = .idle →
      m.Move (.watch i) (m.watchHealthStatus i)
  | watcher {i : Nat} {e : WatcherEvent} {w : Watcher} : (m.watchers i).Move e w →
      m.Move (.watcher i e) (m.setWatcher i w)
  | unwatch {i : Nat} : m.pc.holdsMu = false → (m.watchers i).pc = .leaving →
      m.Move (.unwatch i) (m.unwatch i)

variable {m' : Monitor} {e : MonitorEvent} {m : Monitor}

theorem Monitor.move_of_step (h : m.step e = some m') : m.Move e m' := by
  revert h
  fun_cases Monitor.step m e with
  | case20 i e =>
    intro h
    obtain ⟨w, hw, rfl⟩ := Option.map_eq_some_iff.mp h
    exact .watcher (Watcher.move_of_step hw)
  | _ => grind [Monitor.Move]

theorem Monitor.Move.returned (h : m.Move e m') (hpc : m.pc = .returned) : m'.pc = .returned := by
  cases h with
  | recvHealth _ hother | recvStatus _ hother | lockHealth hother | lockStatus hother
  | sendHealth hother _ | sendStatus hother _ | unlockHealth hother | unlockStatus hother
  | finish hother => cases hother.symm.trans hpc
  | watch _ _ => exact hpc
  | watcher _ => exact hpc
  | unwatch _ _ => exact hpc

end Opni.AgentHealth
