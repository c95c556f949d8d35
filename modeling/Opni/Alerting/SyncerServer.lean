/-
  Opni.Alerting.SyncerServer

  The syncer next to an Alertmanager: it reads configurations from a stream of
  the gateway and writes them to a file
  (`pkg/alerting/extensions/syncer_server.go`).
-/

import Mathlib.Data.List.Chain

namespace Opni.Alerting

/-- The codes of gRPC that are told apart. -/
inductive StatusCode where
  | unimplemented | unavailable
  | other (code : Nat)
deriving DecidableEq

/-- What `Recv` returns: the configurations of a request, or an error. -/
inductive Received where
  | items (configs : List String)
  | eof
  | status (code : StatusCode)
  | failed (err : String)
deriving DecidableEq

namespace Received

def isError : Received → Bool
  | .items _ => false
  | _ => true

/-- The errors after which the syncer connects again. -/
def reconnects : Received → Bool
  | .eof | .status .unavailable => true
  | _ => false

end Received

/-- Where `recvMsgs` is, or the `connect` that it waits for. -/
inductive SyncerPc where
  | connecting | waiting | receiving | panicked
deriving DecidableEq

/-- The streams are numbered in the order of the connections; the calls of `Recv` are listed with
    the last one first. -/
structure SyncerServer where
  pc : SyncerPc := .connecting
  remoteSyncerClient : Option Nat := none
  file : Option String := none
  calls : List (Option Nat × Received) := []
deriving DecidableEq

inductive SyncerEvent where
  | connectRemoteSyncer (ok : Bool)
  | reconnectTimer
  | recv (received : Received)

section Syncer

variable (parses : String → Bool) (write : String → Option String → Option String)

/-- `PutConfig`: the file after it; the write may fail half-way. -/
def putConfig (file : Option String) (config : String) : Option String :=
  if parses config then write config file else file

/-- A step of `connect` and `recvMsgs`; the context is not cancelled. -/
def SyncerServer.step (a : SyncerServer) : SyncerEvent → SyncerServer
  | .connectRemoteSyncer true =>
    if a.pc = .connecting then
      { a with pc := .waiting, remoteSyncerClient := some (a.remoteSyncerClient.elim 0 (· + 1)) }
    else a
  | .connectRemoteSyncer false => a
  | .reconnectTimer => if a.pc = .waiting then { a with pc := .receiving } else a
  | .recv received =>
    if a.pc = .receiving then
      let a := { a with calls := (a.remoteSyncerClient, received) :: a.calls }
      match received with
      | .items configs => { a with file := configs.foldl (putConfig parses write) a.file }
      | .eof | .status .unavailable => { a with pc := .connecting }
      | .status .unimplemented => { a with pc := .panicked }
      | .status (.other _) | .failed _ => { a with pc := .waiting }
    else a

def SyncerServer.run (events : List SyncerEvent) : SyncerServer :=
  events.foldl (·.step parses write ·) {}

/-- After an error the next call is on a later stream. -/
def OnLaterStream (later earlier : Option Nat × Received) : Prop :=
  earlier.2.isError → ∃ s s', earlier.1 = some s ∧ later.1 = some s' ∧ s < s'

/-- The stream that the syncer has after a call. -/
def Follows (stream : Option Nat) (call : Option Nat × Received) : Prop :=
  ∃ s, call.1 = some s ∧ stream = some (if call.2.reconnects then s + 1 else s)

structure SyncerServer.Inv (a : SyncerServer) : Prop where
  connected : a.pc = .connecting ∨ a.remoteSyncerClient ≠ none
  streams : ∀ c ∈ a.calls, c.1 ≠ none
  follows : a.calls.IsChain fun later earlier => Follows later.1 earlier
  last : ∀ c ∈ a.calls.head?, if a.pc = .connecting then
    c.2.reconnects ∧ c.1 = a.remoteSyncerClient else Follows a.remoteSyncerClient c

variable {parses write} {a : SyncerServer}

/-- A call, and where it leaves the syncer. -/
theorem SyncerServer.Inv.recv (h : a.Inv) (hpc : a.pc = .receiving) {received : Received}
    {pc : SyncerPc} (hreconnects : pc = .connecting ↔ received.reconnects) (file : Option String) :
    SyncerServer.Inv
      ⟨pc, a.remoteSyncerClient, file, (a.remoteSyncerClient, received) :: a.calls⟩ := by
  have hstream : a.remoteSyncerClient ≠ none := by simpa [hpc] using h.connected
  refine ⟨.inr hstream, List.forall_mem_cons.mpr ⟨hstream, h.streams⟩, ?_, ?_⟩
  · refine h.follows.cons fun c hc => ?_
    simpa [hpc] using h.last c hc
  · rintro c ⟨⟩
    obtain ⟨s, hs⟩ := Option.ne_none_iff_exists'.mp hstream
    split
    next hconnecting => exact ⟨hreconnects.mp hconnecting, rfl⟩
    next hother => exact ⟨s, hs, by rw [hs, if_neg (mt hreconnects.mpr hother)]⟩

theorem SyncerServer.Inv.step (h : a.Inv) (event : SyncerEvent) :
    (a.step parses write event).Inv := by
  fun_cases SyncerServer.step parses write a event with
  | case1 hpc =>
    refine ⟨.inr (by simp), h.streams, h.follows, fun c hc => ?_⟩
    have hlast := h.last c hc
    rw [if_pos hpc] at hlast
    obtain ⟨s, hs⟩ := Option.ne_none_iff_exists'.mp (h.streams c (List.mem_of_mem_head? hc))
    rw [if_neg (by simp)]
    exact ⟨s, hs, by simp [← hlast.2, hs, hlast.1]⟩
  | case4 hpc =>
    refine ⟨.inr ?_, h.streams, h.follows, fun c hc => ?_⟩
    · simpa [hpc] using h.connected
    · simpa [hpc] using h.last c hc
  | case6 hpc configs a' => exact h.recv hpc (by simp [Received.reconnects, a', hpc]) _
  | case7 hpc | case8 hpc | case9 hpc | case10 hpc | case11 hpc =>
    exact h.recv hpc (by simp [Received.reconnects]) _
  | _ => exact h

theorem SyncerServer.Inv.run (events : List SyncerEvent) :
    (SyncerServer.run parses write events).Inv := by
  unfold SyncerServer.run
  induction events using List.reverseRecOn with
  | nil => exact ⟨.inl rfl, by simp, by simp, by simp⟩
  | append_singleton events event ih =>
    rw [List.foldl_append]
    exact ih.step event

variable (parses write) in
/-- No call is on a missing stream, and a configuration that does not parse leaves the file.  After
    an error the next call is on a later stream exactly if the error is one of those after which
    the syncer connects again. -/
theorem recvMsgs_onLaterStream_iff (events : List SyncerEvent) :
    let calls := (SyncerServer.run parses write events).calls
    (∀ c ∈ calls, c.1 ≠ none) ∧
    (calls.IsChain OnLaterStream ↔
      calls.IsChain fun _ earlier => earlier.2.isError → earlier.2.reconnects) ∧
    ∀ file config, parses config = false → putConfig parses write file config = file := by
  have hinv : (SyncerServer.run parses write events).Inv := .run events
  refine ⟨hinv.streams, ?_, fun file config h => by simp [putConfig, h]⟩
  have hfollows := List.isChain_iff_forall_rel_of_append_cons_cons.mp hinv.follows
  simp only [List.isChain_iff_forall_rel_of_append_cons_cons]
  refine forall₄_congr fun later earlier before after => forall_congr' fun hcalls => ?_
  obtain ⟨s, hs, hs'⟩ := hfollows hcalls
  refine imp_congr_right fun _ => ?_
  cases hreconnects : earlier.2.reconnects <;> simp [hs, hs', hreconnects]

end Syncer

/-- A stream that ended with another error is read again. -/
theorem recvMsgs_reads_dead_stream :
    let recv (err : String) : SyncerEvent := .recv (.failed err)
    (SyncerServer.run (fun _ => true) (fun c _ => some c)
      [.connectRemoteSyncer true, .reconnectTimer,
      recv "reset", .reconnectTimer, recv "reset"]).calls =
        [(some 0, .failed "reset"), (some 0, .failed "reset")] := by
  decide

end Opni.Alerting
