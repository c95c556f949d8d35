/-
  Opni.AgentHealth.Connections

  What holds of the connections and of the locks of the listener in every run:
  who holds which lock, that a connection handles updates of its own agent
  only, and why a connection has left its loop.
-/

import Opni.AgentHealth.Listener

namespace Opni.AgentHealth

open Lib (GoMap)

/-! ## Stages -/

variable (pc : ConnectionPc)

def ConnectionPc.HoldsSlot : Prop := 2 ≤ pc.stage ∧ pc.stage ≤ 15

def ConnectionPc.Locked : Prop := 4 ≤ pc.stage ∧ pc.stage ≤ 14

/-- It is the next writer of `incomingHealthUpdatesMu`. -/
def ConnectionPc.NextWriter : Prop := pc.stage = 5 ∨ pc.stage = 13

def ConnectionPc.Registered : Prop := 6 ≤ pc.stage ∧ pc.stage ≤ 13

def ConnectionPc.Ending : Prop := 10 ≤ pc.stage ∧ pc.stage ≤ 15

section Connection

variable {closed : Bool} {c c' : Connection} {e : ConnectionEvent} (u : HealthUpdate)

@[simp] theorem Connection.receive_id : (c.receive u).id = c.id := by
  unfold Connection.receive
  split <;> rfl

@[simp] theorem Connection.receive_stage : (c.receive u).pc.stage = 9 := by
  unfold Connection.receive
  split <;> rfl

@[simp] theorem Connection.receive_incoming : (c.receive u).incoming = c.incoming := by
  unfold Connection.receive
  split <;> rfl

@[simp] theorem Connection.receive_cancelled : (c.receive u).cancelled = c.cancelled := by
  unfold Connection.receive
  split <;> rfl

theorem Connection.eq_of_receive_forwarding {u u' : HealthUpdate}
    (h : (c.receive u).pc = .forwarding u') : u' = u := by
  unfold Connection.receive at h
  split at h
  · exact (ConnectionPc.forwarding.inj h).symm
  · cases h

theorem Connection.Move.id_eq (h : c.Move closed e c') : c'.id = c.id := by
  cases h <;> simp

theorem Connection.Move.stage (h : c.Move closed e c') :
    c'.pc.stage = c.pc.stage ∨ c.pc.stage = 1 ∧ c'.pc.stage = 17 ∨
      c.pc.stage = 7 ∧ 8 ≤ c'.pc.stage ∧ c'.pc.stage ≤ 9 ∨
      e = .leave ∧ c.pc.stage = 9 ∧ c'.pc.stage = 10 := by
  cases h with
  | cancel => exact .inl rfl
  | giveUp hpc | answer hpc | answerError hpc | timer hpc | polledError hpc | leave hpc _ =>
    simp [hpc, ConnectionPc.stage]
  | polled hpc | takeIncoming hpc _ =>
    left
    rw [Connection.receive_stage, hpc]
    rfl

end Connection

/-- How the event of the listener takes the connection `j` from a stage to a stage. -/
inductive Crosses (j : Nat) : ListenerEvent → Nat → Nat → Prop where
  | same {e : ListenerEvent} {s : Nat} : Crosses j e s s
  | connect {e : ListenerEvent} : Crosses j e 0 1
  | refuse {e : ListenerEvent} {s : Nat} : s ≤ 1 → Crosses j e s 17
  | acquire : Crosses j (.acquire j) 1 2
  | find : Crosses j (.find j) 2 3
  | lock : Crosses j (.lock j) 3 4
  | announce : Crosses j (.announce j) 4 5
  | register : Crosses j (.register j) 5 6
  | connected {now : Timestamp} : Crosses j (.publishStatus j now) 6 7
  | serve {e : ListenerEvent} {s s' : Nat} : 7 ≤ s → s ≤ 8 → 8 ≤ s' → s' ≤ 9 → Crosses j e s s'
  | leave : Crosses j (.connection j .leave) 9 10
  | cleared {now : Timestamp} : Crosses j (.publishHealth j now) 10 11
  | disconnected {now : Timestamp} : Crosses j (.publishStatus j now) 11 12
  | announceLast : Crosses j (.announce j) 12 13
  | unregister : Crosses j (.unregister j) 13 14
  | unlock : Crosses j (.unlock j) 14 15
  | release : Crosses j (.release j) 15 16

section Crosses

variable {j s s' : Nat} {e : ListenerEvent} (h : Crosses j e s s')

include h

theorem Crosses.slot_iff (hacquire : e ≠ .acquire j)
    (hrelease : e ≠ .release j) : 2 ≤ s' ∧ s' ≤ 15 ↔ 2 ≤ s ∧ s ≤ 15 := by
  cases h <;> first | omega | contradiction

theorem Crosses.locked_iff (hlock : e ≠ .lock j)
    (hunlock : e ≠ .unlock j) : 4 ≤ s' ∧ s' ≤ 14 ↔ 4 ≤ s ∧ s ≤ 14 := by
  cases h <;> first | omega | contradiction

theorem Crosses.nextWriter_iff (hannounce : e ≠ .announce j)
    (hregister : e ≠ .register j) (hunregister : e ≠ .unregister j) :
    s' = 5 ∨ s' = 13 ↔ s = 5 ∨ s = 13 := by
  cases h <;> first | omega | contradiction

theorem Crosses.registered_iff (hregister : e ≠ .register j)
    (hunregister : e ≠ .unregister j) : 6 ≤ s' ∧ s' ≤ 13 ↔ 6 ≤ s ∧ s ≤ 13 := by
  cases h <;> first | omega | contradiction

theorem Crosses.ending_of (hleave : e ≠ .connection j .leave) :
    10 ≤ s' ∧ s' ≤ 15 → 10 ≤ s ∧ s ≤ 15 := by
  cases h <;> first | omega | contradiction

end Crosses

section Listener

variable {l l' : Listener} {ready : Bool} {e : ListenerEvent} {i : Nat} {c : Connection}
  {closed : Bool} {c' : Connection}

theorem crosses_setConnection {pc : ConnectionPc} (hpc : (l.connections i).pc = pc)
    (h : Crosses i e pc.stage c.pc.stage) (j : Nat) :
    Crosses j e (l.connections j).pc.stage ((l.setConnection i c).connections j).pc.stage := by
  subst hpc
  rcases eq_or_ne j i with rfl | hne
  · rw [Listener.connections_setConnection_self]
    exact h
  · rw [Listener.connections_setConnection_of_ne hne]
    exact .same

theorem Listener.Move.crosses (hmove : l.Move ready e l') (j : Nat) :
    Crosses j e (l.connections j).pc.stage (l'.connections j).pc.stage := by
  cases hmove with
  | @connect i hpc =>
    refine crosses_setConnection hpc ?_ j
    split
    · exact .refuse (Nat.zero_le _)
    · exact .connect
  | connection hc =>
    refine crosses_setConnection rfl ?_ j
    rcases hc.stage with heq | ⟨hone, hout⟩ | ⟨hseven, hlo, hhi⟩ | ⟨rfl, hnine, hten⟩
    · rw [heq]
      exact .same
    · rw [hone, hout]
      exact .refuse (Nat.le_refl _)
    · exact .serve hseven.ge (by omega) hlo hhi
    · rw [hnine, hten]
      exact .leave
  | acquire hpc | find hpc | lock hpc _ | announce hpc _ | register hpc _ =>
    exact crosses_setConnection hpc (by constructor) j
  | announceLast hpc _ => exact crosses_setConnection hpc .announceLast j
  | unregister hpc _ => exact crosses_setConnection hpc .unregister j
  | publishHealth hsend =>
    rcases Connection.healthToSend_eq_some hsend with ⟨health, hpc, -, rfl⟩ | ⟨hpc, rfl⟩ |
      ⟨hpc, -, rfl⟩
    · refine crosses_setConnection hpc ?_ j
      exact .serve (Nat.le_succ 7) (Nat.le_refl 8) (Nat.le_succ 8) (Nat.le_refl 9)
    · exact crosses_setConnection hpc .same j
    · exact crosses_setConnection hpc .cleared j
  | publishStatus hsend =>
    rcases Connection.statusToSend_eq_some hsend with ⟨hpc, -, rfl⟩ | ⟨hpc, -, rfl⟩
    · exact crosses_setConnection hpc .connected j
    · exact crosses_setConnection hpc .disconnected j
  | unlock hpc => exact crosses_setConnection hpc .unlock j
  | release hpc => exact crosses_setConnection hpc .release j
  | push _ _ =>
    refine crosses_setConnection rfl ?_ j
    exact .same
  | call | rlock | rlockMiss | close | closeQueues => exact .same

theorem Listener.Move.id_eq (hmove : l.Move ready e l') (j : Nat) :
    (l'.connections j).id = (l.connections j).id := by
  have hset : ∀ {i c}, c.id = (l.connections i).id →
      ((l.setConnection i c).connections j).id = (l.connections j).id := by
    intro i c h
    rcases eq_or_ne j i with rfl | hne
    · rw [Listener.connections_setConnection_self, h]
    · rw [Listener.connections_setConnection_of_ne hne]
  cases hmove with
  | connection hc => exact hset hc.id_eq
  | call | rlock | rlockMiss | close | closeQueues => rfl
  | _ => exact hset rfl

theorem Listener.Move.call_id_eq (hmove : l.Move ready e l') (k : Nat) :
    (l'.calls k).id = (l.calls k).id := by
  have hset : ∀ {k' pc}, ((l.setCall k' pc).calls k).id = (l.calls k).id := by
    intro k' pc
    rcases eq_or_ne k k' with rfl | hne
    · rw [Listener.calls_setCall_self]
    · rw [Listener.calls_setCall_of_ne hne]
  cases hmove with
  | call | rlock | rlockMiss | push => exact hset
  | _ => rfl

/-! ## Client locks -/

/-- A client lock is held by the connection of its id that has it. -/
def Listener.LocksHeld (l : Listener) : Prop :=
  ∀ id i, l.idLocks.lookup id = some (some i) ↔
    (l.connections i).id = id ∧ (l.connections i).pc.Locked

theorem Listener.LocksHeld.eq (h : l.LocksHeld) {j : Nat} (hi : (l.connections i).pc.Locked)
    (hj : (l.connections j).pc.Locked) (hid : (l.connections j).id = (l.connections i).id) :
    j = i := by
  have hlooki := (h _ i).mpr ⟨rfl, hi⟩
  have hlookj := (h _ j).mpr ⟨hid, hj⟩
  rw [hlooki] at hlookj
  simpa using hlookj.symm

theorem lookup_findLock {idLocks : GoMap String (Option Nat)} {id id' : String} :
    (findLock idLocks id).lookup id' = some (some i) ↔ idLocks.lookup id' = some (some i) := by
  unfold findLock
  split
  next hnone =>
    rcases eq_or_ne id' id with rfl | hne
    · rw [AList.lookup_insert, hnone]
      simp
    · rw [AList.lookup_insert_ne hne]
  · rfl

theorem Listener.Move.locksHeld (hmove : l.Move ready e l') (h : l.LocksHeld) : l'.LocksHeld := by
  have hids := hmove.id_eq
  have hcross := hmove.crosses
  intro id j
  rw [hids j]
  cases hmove with
  | @lock i hpc hfree =>
    rcases eq_or_ne id (l.connections i).id with rfl | hid
    · -- nobody had the lock before
      rw [AList.lookup_insert]
      refine ⟨?_, ?_⟩
      · intro heq
        obtain rfl : i = j := by simpa using heq
        simp [ConnectionPc.Locked, ConnectionPc.stage]
      · rintro ⟨hsame, hlocked⟩
        rcases eq_or_ne j i with rfl | hne
        · rfl
        · have hbefore : (l.connections j).pc.Locked := by simpa [hne] using hlocked
          have hheld := (h _ j).mpr ⟨hsame, hbefore⟩
          rw [hfree] at hheld
          cases hheld
    · rw [AList.lookup_insert_ne hid, h id j]
      refine and_congr_right fun hsame => ((hcross j).locked_iff ?_ (by simp)).symm
      rintro heq
      obtain rfl := ListenerEvent.lock.inj heq
      exact hid hsame.symm
  | @unlock i hpc =>
    have hi : (l.connections i).pc.Locked := by
      simp [hpc, ConnectionPc.Locked, ConnectionPc.stage]
    rcases eq_or_ne id (l.connections i).id with rfl | hid
    · -- nobody has the lock now
      refine ⟨by simp, ?_⟩
      rintro ⟨hsame, hlocked⟩
      rcases eq_or_ne j i with rfl | hne
      · simp [ConnectionPc.Locked, ConnectionPc.stage] at hlocked
      · have hbefore : (l.connections j).pc.Locked := by simpa [hne] using hlocked
        exact absurd (h.eq hi hbefore hsame) hne
    · rw [AList.lookup_insert_ne hid, h id j]
      refine and_congr_right fun hsame => ((hcross j).locked_iff (by simp) ?_).symm
      rintro heq
      obtain rfl := ListenerEvent.unlock.inj heq
      exact hid hsame.symm
  | find _ =>
    refine lookup_findLock.trans ((h id j).trans (and_congr_right fun _ => ?_))
    exact ((hcross j).locked_iff (by simp) (by simp)).symm
  | _ =>
    refine (h id j).trans (and_congr_right fun _ => ?_)
    exact ((hcross j).locked_iff (by simp) (by simp)).symm

/-! ## The map of channels and its lock -/

/-- The channel of an id is that of a registered connection of the id. -/
def Listener.ChannelsRegistered (l : Listener) : Prop :=
  ∀ id i, l.incomingHealthUpdates.lookup id = some i →
    (l.connections i).id = id ∧ (l.connections i).pc.Registered

theorem Listener.Move.channelsRegistered (hmove : l.Move ready e l')
    (h : l.ChannelsRegistered) : l'.ChannelsRegistered := by
  have hids := hmove.id_eq
  have hcross := hmove.crosses
  intro id j
  rw [hids j]
  cases hmove with
  | @register i hpc _ =>
    intro hlookup
    rcases GoMap.lookup_insert_eq_some.mp hlookup with ⟨rfl, rfl⟩ | ⟨hid, hlookup⟩
    · simp [ConnectionPc.Registered, ConnectionPc.stage]
    · obtain ⟨hsame, hreg⟩ := h id j hlookup
      refine ⟨hsame, ((hcross j).registered_iff ?_ (by simp)).mpr hreg⟩
      rintro heq
      obtain rfl := ListenerEvent.register.inj heq
      exact hid hsame.symm
  | @unregister i hpc _ =>
    intro hlookup
    obtain ⟨hid, hlookup⟩ := GoMap.lookup_erase_eq_some.mp hlookup
    obtain ⟨hsame, hreg⟩ := h id j hlookup
    refine ⟨hsame, ((hcross j).registered_iff (by simp) ?_).mpr hreg⟩
    rintro heq
    obtain rfl := ListenerEvent.unregister.inj heq
    exact hid hsame.symm
  | _ =>
    intro hlookup
    obtain ⟨hsame, hreg⟩ := h id j hlookup
    exact ⟨hsame, ((hcross j).registered_iff (by simp) (by simp)).mpr hreg⟩

/-- The readers of `incomingHealthUpdatesMu` are the calls that are sending, each to a
    registered connection of its id. -/
structure Listener.ReadersSending (l : Listener) : Prop where
  nodup : l.readers.Nodup
  mem_iff : ∀ k, k ∈ l.readers ↔ ∃ i, (l.calls k).pc = .sending i
  target : ∀ k i, (l.calls k).pc = .sending i →
    (l.connections i).id = (l.calls k).id ∧ (l.connections i).pc.Registered

theorem Listener.Move.sending_iff (hmove : l.Move ready e l') (k i : Nat) :
    (l'.calls k).pc = .sending i ↔
      (l.calls k).pc = .sending i ∧ e ≠ .push k ∨
      (l.calls k).pc = .locking ∧ e = .rlock k ∧
        l.incomingHealthUpdates.lookup (l.calls k).id = some i := by
  cases hmove with
  | @call k' hpc | @rlock k' _ hpc _ hlookup | @rlockMiss k' hpc hlookup | @push k' _ hpc _ =>
    rcases eq_or_ne k k' with rfl | hne
    · simp [Listener.setCall, *]
    · simp [Listener.setCall, hne, hne.symm]
  | _ => exact ⟨fun h => .inl ⟨h, by simp⟩, fun h => h.elim And.left fun h => by simp at h⟩

theorem Listener.Move.readersSending (hmove : l.Move ready e l') (hchannels : l.ChannelsRegistered)
    (h : l.ReadersSending) : l'.ReadersSending where
  nodup := by
    cases hmove with
    | @rlock k i hpc _ _ =>
      refine List.nodup_cons.mpr ⟨?_, h.nodup⟩
      rw [h.mem_iff, hpc]
      simp
    | push _ _ => exact h.nodup.erase _
    | _ => exact h.nodup
  mem_iff := by
    have hsending := hmove.sending_iff
    intro k
    simp only [hsending]
    cases hmove with
    | @rlock k' i hpc _ hlookup =>
      rcases eq_or_ne k k' with rfl | hne
      · simp [hpc, hlookup]
      · simp [hne, hne.symm, h.mem_iff]
    | @push k' i hpc _ =>
      rw [h.nodup.mem_erase_iff, h.mem_iff]
      simp [and_comm, eq_comm]
    | @rlockMiss k' hpc hlookup =>
      refine (h.mem_iff k).trans ?_
      rcases eq_or_ne k k' with rfl | hne
      · simp [hpc, hlookup]
      · simp [hne.symm]
    | _ => exact (h.mem_iff k).trans (by simp)
  target := by
    have hids := hmove.id_eq
    have hcalls := hmove.call_id_eq
    have hcross := hmove.crosses
    have hsending := hmove.sending_iff
    intro k i hpc
    rw [hids i, hcalls k]
    rcases (hsending k i).mp hpc with ⟨hbefore, -⟩ | ⟨-, rfl, hlookup⟩
    · obtain ⟨hsame, hreg⟩ := h.target k i hbefore
      have hreader : k ∈ l.readers := (h.mem_iff k).mpr ⟨i, hbefore⟩
      -- a connection that changes the map has waited for the readers
      cases hmove with
      | register _ hnone | unregister _ hnone => simp [hnone] at hreader
      | _ => exact ⟨hsame, ((hcross i).registered_iff (by simp) (by simp)).mpr hreg⟩
    · obtain ⟨hsame, hreg⟩ := hchannels _ i hlookup
      exact ⟨hsame, ((hcross i).registered_iff (by simp) (by simp)).mpr hreg⟩

/-- The next writer of `incomingHealthUpdatesMu` is a connection that waits as such. -/
def Listener.WriterWaiting (l : Listener) : Prop :=
  ∀ i, l.writer = some i → (l.connections i).pc.NextWriter

theorem Listener.Move.writerWaiting (hmove : l.Move ready e l') (h : l.WriterWaiting) :
    l'.WriterWaiting := by
  have hcross := hmove.crosses
  intro j hj
  cases hmove with
  | announce _ _ | announceLast _ _ =>
    cases hj
    simp [ConnectionPc.NextWriter, ConnectionPc.stage]
  | register _ _ | unregister _ _ => cases hj
  | _ => exact ((hcross j).nextWriter_iff (by simp) (by simp) (by simp)).mpr (h j hj)

/-! ## The semaphore -/

/-- The connections with a slot of the semaphore have not released it. -/
structure Listener.SlotsHeld (l : Listener) : Prop where
  nodup : l.holders.Nodup
  slot : ∀ i ∈ l.holders, (l.connections i).pc.HoldsSlot

theorem Listener.Move.slotsHeld (hmove : l.Move ready e l') (h : l.SlotsHeld) : l'.SlotsHeld where
  nodup := by
    cases hmove with
    | @acquire i hpc =>
      refine List.nodup_cons.mpr ⟨?_, h.nodup⟩
      intro hi
      have hslot := h.slot i hi
      rw [hpc] at hslot
      exact absurd hslot.1 (by decide)
    | release _ => exact h.nodup.erase _
    | _ => exact h.nodup
  slot := by
    have hcross := hmove.crosses
    intro j hj
    cases hmove with
    | @acquire i hpc =>
      rcases List.mem_cons.mp hj with rfl | hj
      · simp [ConnectionPc.HoldsSlot, ConnectionPc.stage]
      · refine ((hcross j).slot_iff ?_ (by simp)).mpr (h.slot j hj)
        rintro heq
        obtain rfl := ListenerEvent.acquire.inj heq
        have hslot := h.slot i hj
        rw [hpc] at hslot
        exact absurd hslot.1 (by decide)
    | @release i _ =>
      obtain ⟨hne, hj⟩ := h.nodup.mem_erase_iff.mp hj
      refine ((hcross j).slot_iff (by simp) ?_).mpr (h.slot j hj)
      rintro heq
      exact hne (ListenerEvent.release.inj heq).symm
    | _ => exact ((hcross j).slot_iff (by simp) (by simp)).mpr (h.slot j hj)

/-! ## The connections by themselves -/

/-- The updates a connection handles are for its own id. -/
structure Connection.OwnUpdates (c : Connection) : Prop where
  incoming : ∀ u ∈ c.incoming, u.id = c.id
  forwarding : ∀ u, c.pc = .forwarding u → u.id = c.id

theorem Connection.Move.ownUpdates {e : ConnectionEvent} (hmove : c.Move closed e c')
    (h : c.OwnUpdates) : c'.OwnUpdates := by
  cases hmove with
  | cancel => exact ⟨h.incoming, h.forwarding⟩
  | @polled health hpc =>
    refine ⟨?_, ?_⟩
    · intro u hu
      rw [Connection.receive_incoming] at hu
      rw [Connection.receive_id]
      exact h.incoming u hu
    · intro u hu
      rw [Connection.eq_of_receive_forwarding hu, Connection.receive_id]
  | @takeIncoming u incoming hpc hincoming =>
    refine ⟨?_, ?_⟩
    · intro v hv
      rw [Connection.receive_incoming] at hv
      rw [Connection.receive_id]
      exact h.incoming v (by rw [hincoming]; exact .tail _ hv)
    · intro v hv
      rw [Connection.eq_of_receive_forwarding hv, Connection.receive_id]
      exact h.incoming u (by rw [hincoming]; exact .head _)
  | _ => exact ⟨h.incoming, by simp⟩

/-- A connection is in its deferred calls because its context is cancelled or the listener
    is closed. -/
def Connection.MayEnd (closed : Bool) (c : Connection) : Prop :=
  c.pc.Ending → c.cancelled = true ∨ closed = true

theorem Connection.Move.mayEnd {e : ConnectionEvent} (hmove : c.Move closed e c') :
    c'.MayEnd closed := by
  intro hend
  cases hmove with
  | cancel => exact .inl rfl
  | leave _ hwhy => simpa using hwhy
  | polled _ | takeIncoming _ _ =>
    rw [ConnectionPc.Ending, Connection.receive_stage] at hend
    exact absurd hend.1 (by decide)
  | _ => simp [ConnectionPc.Ending, ConnectionPc.stage] at hend

theorem Listener.Move.cancelled_of (hmove : l.Move ready e l') (j : Nat)
    (h : (l.connections j).cancelled = true) : (l'.connections j).cancelled = true := by
  have hset : ∀ {i c}, (c.cancelled = true ∨ c.cancelled = (l.connections i).cancelled) →
      ((l.setConnection i c).connections j).cancelled = true := by
    intro i c hc
    rcases eq_or_ne j i with rfl | hne
    · rw [Listener.connections_setConnection_self]
      exact hc.elim id fun heq => heq.trans h
    · rw [Listener.connections_setConnection_of_ne hne, h]
  cases hmove with
  | connection hc =>
    refine hset ?_
    cases hc with
    | cancel => exact .inl rfl
    | polled | takeIncoming => exact .inr (Connection.receive_cancelled _)
    | _ => exact .inr rfl
  | call | rlock | rlockMiss | close | closeQueues => exact h
  | _ => exact hset (.inr rfl)

theorem Listener.Move.ownUpdates (hmove : l.Move ready e l') (hreaders : l.ReadersSending)
    (h : ∀ i, (l.connections i).OwnUpdates) : ∀ i, (l'.connections i).OwnUpdates := by
  have hset : ∀ {i c}, Connection.OwnUpdates c →
      ∀ j, ((l.setConnection i c).connections j).OwnUpdates :=
    fun hc => (Function.forall_update_iff _ fun _ => Connection.OwnUpdates).mpr
      ⟨hc, fun j _ => h j⟩
  cases hmove with
  | @connect i hpc =>
    refine hset ⟨(h i).incoming, ?_⟩
    intro u hu
    split at hu <;> cases hu
  | @connection i e c hc => exact hset (hc.ownUpdates (h i))
  | register _ _ => exact hset ⟨by simp, by simp⟩
  | @publishHealth i now u pc hsend =>
    refine hset ⟨(h i).incoming, ?_⟩
    rcases Connection.healthToSend_eq_some hsend with ⟨_, -, -, rfl⟩ | ⟨-, rfl⟩ | ⟨-, -, rfl⟩ <;>
      simp
  | @publishStatus i now u pc hsend =>
    refine hset ⟨(h i).incoming, ?_⟩
    rcases Connection.statusToSend_eq_some hsend with ⟨-, -, rfl⟩ | ⟨-, -, rfl⟩ <;> simp
  | @push k i hpc _ =>
    refine hset ⟨?_, (h i).forwarding⟩
    intro u hu
    rcases List.mem_append.mp hu with hu | hu
    · exact (h i).incoming u hu
    · rw [List.mem_singleton.mp hu]
      exact (hreaders.target k i hpc).1.symm
  | call | rlock | rlockMiss | close | closeQueues => exact h
  | @acquire i | @find i | @lock i | @announce i | @announceLast i | @unregister i | @unlock i
  | @release i => exact hset ⟨(h i).incoming, by simp⟩

theorem Listener.Move.mayEnd (hmove : l.Move ready e l')
    (h : ∀ i, (l.connections i).MayEnd l.closed) : ∀ i, (l'.connections i).MayEnd l'.closed := by
  have hcross := hmove.crosses
  have hcancelled := hmove.cancelled_of
  intro j hend
  cases hmove with
  | @connection i e c hc =>
    rcases eq_or_ne j i with rfl | hne
    · rw [Listener.connections_setConnection_self] at hend ⊢
      exact hc.mayEnd hend
    · rw [Listener.connections_setConnection_of_ne hne] at hend ⊢
      exact h j hend
  | close => exact .inr rfl
  | _ => exact (h j ((hcross j).ending_of (by simp) hend)).imp (hcancelled j) id

/-! ## All of it -/

structure Listener.Consistent (l : Listener) : Prop where
  locks : l.LocksHeld
  channels : l.ChannelsRegistered
  readers : l.ReadersSending
  writer : l.WriterWaiting
  slots : l.SlotsHeld
  own : ∀ i, (l.connections i).OwnUpdates
  mayEnd : ∀ i, (l.connections i).MayEnd l.closed

theorem Listener.Move.consistent (hmove : l.Move ready e l') (h : l.Consistent) :
    l'.Consistent where
  locks := hmove.locksHeld h.locks
  channels := hmove.channelsRegistered h.channels
  readers := hmove.readersSending h.channels h.readers
  writer := hmove.writerWaiting h.writer
  slots := hmove.slotsHeld h.slots
  own := hmove.ownUpdates h.readers h.own
  mayEnd := hmove.mayEnd h.mayEnd

end Listener

end Opni.AgentHealth
