/-
  Opni.Gateway.Broadcast

  Requests that the gateway passes on to agents: `Request` and `Broadcast` of
  the `DelegateServer` (`pkg/gateway/delegate.go`), the client of both
  (`pkg/plugins/apis/apiextensions/stream/delegate.go`), and `Discover`, which
  aggregates the replies of a broadcast
  (`plugins/metrics/pkg/backend/metrics.go`).
-/

import Opni.Gateway.AgentConnections
import Opni.Lib.GoStrings
import Opni.Rbac.Selection

namespace Opni.Gateway

open Lib Lib.Goroutines Rbac

/-! ## Messages -/

/-- `totem.Response`; no status is OK. -/
structure Response where
  response : Bytes := []
  status : Option Status := none
deriving DecidableEq

/-- The content of a `totem.RPC`. -/
inductive Content where
  | request (bytes : Bytes)
  | response (r : Response)
deriving DecidableEq

structure RPC where
  tag : Nat := 0
  serviceName : String := ""
  methodName : String := ""
  content : Option Content := none
  metadata : List (String × List String) := []
deriving DecidableEq

/-- `GetResponse().GetResponse()`. -/
def RPC.payload (rpc : RPC) : Bytes :=
  match rpc.content with
  | some (.response r) => r.response
  | _ => []

/-- `proto.Unmarshal` of an `RPC`: no bytes are the empty message, and the bytes of a field are
    fewer than those of its message. -/
structure Wire where
  unmarshal : Bytes → Except Status RPC
  empty : unmarshal [] = .ok {}
  shorter : ∀ b rpc, unmarshal b = .ok rpc → rpc.payload = [] ∨ rpc.payload.length < b.length

theorem Wire.unmarshal_payload_iff (wire : Wire) (rpc : RPC) :
    wire.unmarshal rpc.payload = .ok rpc ↔ rpc = {} := by
  constructor
  · intro h
    rcases wire.shorter _ _ h with hempty | hshort
    · rw [hempty, wire.empty] at h
      exact (Except.ok.inj h).symm
    · omega
  · rintro rfl
    exact wire.empty

/-! ## Delegate server -/

structure BroadcastReply where
  ref : String
  reply : RPC
deriving DecidableEq

section Server

variable (wire : Wire) (forward : Nat → RPC → Except Status RPC) (s : AgentServer AgentInfo)

/-- `Request`; `forward` is `Invoke` of `totem.Forward` on a client. -/
def DelegateServer.delegate (targetId : String) (req : RPC) : Except Status RPC :=
  match DelegateServer.request s targetId with
  | some target =>
    match forward target req with
    | .error err => .error err
    | .ok fwdResp => wire.unmarshal fwdResp.payload
  | none => .error ⟨.notFound, "target not found"⟩

def AgentServer.matching (s : AgentServer AgentInfo) (sel : ClusterSelector) : List AgentInfo :=
  (s.activeAgents.entries.map Sigma.snd).filter fun a =>
    newSelectorPredicate sel { id := a.id, data := a.labels }

/-- The orders in which the map is gone through, and in which goroutines fail. -/
structure BroadcastOrders where
  agents : Scheduler AgentInfo
  errors : Scheduler Status

def DelegateServer.broadcast (orders : BroadcastOrders) (sel : ClusterSelector) (req : RPC) :
    Except Status (List BroadcastReply) :=
  let targets := orders.agents.order (s.matching sel)
  if targets.length = 0 then .error ⟨.notFound, "no targets found"⟩
  else
    let errors := targets.filterMap fun target =>
      match forward target.client req with
      | .error err => some err
      | .ok _ => none
    match orders.errors.order errors with
    -- `Wait` has the first error
    | err :: _ => .error err
    | [] => .ok (targets.filterMap fun target =>
      match forward target.client req with
      | .ok item => some ⟨target.id, item⟩
      | .error _ => none)

end Server

/-! ## Clients -/

variable (method : String)

def parseQualifiedMethod : Except Status (String × String) :=
  match split '/' method with
  | [_, service, name] => .ok (service, name)
  | _ => .error ⟨.unknown, "invalid method name: " ++ method⟩

/-- The request that `Invoke` makes of a method and its arguments. -/
def delegatedRequest (args : Bytes) : Except Status RPC :=
  match parseQualifiedMethod method with
  | .error err => .error err
  | .ok (serviceName, methodName) =>
    .ok { serviceName, methodName, content := some (.request args) }

section Clients

variable {μ : Type} (decode : Bytes → Except Status μ)

/-- `Invoke` with a target, after `Request`.  None if it panics. -/
def decodeTarget : Except Status RPC → Option (Except Status μ)
  | .error err => some (.error err)
  | .ok respMsg =>
    match respMsg.content with
    | some (.response resp) =>
      match resp.status with
      | some status => some (.error status)
      | none =>
        match decode resp.response with
        | .error err => some (.error
            ⟨.internal, "failed to unmarshal response: " ++ err.message⟩)
        | .ok reply => some (.ok reply)
    -- a field of a nil pointer
    | _ => none

/-- What an aggregator decodes of an entry, `Reply.GetResponse().Response`.  None if it panics. -/
def decodeEntry (entry : BroadcastReply) : Option (Except Status μ) :=
  match entry.reply.content with
  | some (.response resp) => some (decode resp.response)
  | _ => none

end Clients

/-- `Invoke` with a target. -/
def invokeTarget {μ : Type} (wire : Wire) (forward : Nat → RPC → Except Status RPC)
    (s : AgentServer AgentInfo) (decode : Bytes → Except Status μ) (target method : String)
    (args : Bytes) : Option (Except Status μ) :=
  match delegatedRequest method args with
  | .error err => some (.error err)
  | .ok rpc => decodeTarget decode (DelegateServer.delegate wire forward s target rpc)

structure DiscoveryEntry where
  clusterId : String
  name : String
deriving DecidableEq

/-- The aggregator of `Discover`: the id of the cluster is set, and the error of a reply that cannot
    be decoded is logged; the message is then taken to have no entries.  None if it panics. -/
def discoverAggregator (decode : Bytes → Except Status (List DiscoveryEntry)) :
    List BroadcastReply → Option (List DiscoveryEntry)
  | [] => some []
  | entry :: entries =>
    match decodeEntry decode entry, discoverAggregator decode entries with
    | some (.ok found), some rest =>
      some (found.map (fun e => { e with clusterId := entry.ref }) ++ rest)
    | some (.error _), some rest => some rest
    | _, _ => none

/-- `Discover`: `Invoke` with a selector. -/
def discover (forward : Nat → RPC → Except Status RPC) (orders : BroadcastOrders)
    (s : AgentServer AgentInfo) (decode : Bytes → Except Status (List DiscoveryEntry))
    (clusterIds : List String) (args : Bytes) : Option (Except Status (List DiscoveryEntry)) :=
  match delegatedRequest "/remoteread.RemoteReadAgent/Discover" args with
  | .error err => some (.error err)
  | .ok rpc =>
    let selector : ClusterSelector :=
      { clusterIDs := clusterIds, labelSelector := none, emptySelectorMatchesNone := false }
    match DelegateServer.broadcast forward s orders selector rpc with
    | .error err => some (.error err)
    | .ok entries => (discoverAggregator decode entries).map .ok

/-! ## Broadcasts that agree -/

section Agreement

variable (wire : Wire) (forward : Nat → RPC → Except Status RPC) (orders : BroadcastOrders)
  (s : AgentServer AgentInfo) (sel : ClusterSelector) (req : RPC)

def AllAnswer : Prop := ∀ a ∈ s.matching sel, ∃ rpc, forward a.client req = .ok rpc

def broadcastEntries : List BroadcastReply :=
  match DelegateServer.broadcast forward s orders sel req with
  | .ok entries => entries
  | .error _ => []

/-- There is one entry for each agent of the selector, with the reply of a request to the agent;
    and an aggregator decodes what the client of the request does. -/
structure SameReplies : Prop where
  entries : ((broadcastEntries forward orders s sel req).map BroadcastReply.ref).Perm
    ((s.matching sel).map AgentInfo.id)
  replies : ∀ entry ∈ broadcastEntries forward orders s sel req,
    DelegateServer.delegate wire forward s entry.ref req = .ok entry.reply
  messages : ∀ entry ∈ broadcastEntries forward orders s sel req,
    ∀ (μ : Type) (decode : Bytes → Except Status μ) (m : μ),
      decodeTarget decode (DelegateServer.delegate wire forward s entry.ref req) = some (.ok m) →
        decodeEntry decode entry = some (.ok m)

/-- If all agents answer, a broadcast has the replies of requests. -/
def BroadcastAgrees : Prop :=
  AllAnswer forward s sel req → SameReplies wire forward orders s sel req

/-- If all agents answer, they answer with the empty message. -/
def EmptyAnswers : Prop :=
  AllAnswer forward s sel req → ∀ a ∈ s.matching sel, forward a.client req = .ok {}

end Agreement

/-! ## Results -/

def AgentServer.Filed (s : AgentServer AgentInfo) : Prop :=
  ∀ id a, s.activeAgents.lookup id = some a → a.id = id

theorem AgentServer.Filed.step {ids : Nat → String} {ended : Nat → Bool}
    {s s' : AgentServer AgentInfo} {e : ServerEvent (Option (GoMap String String))} (h : s.Filed)
    (he : DelegateServer.step ids ended s e = some s') : s'.Filed := by
  cases AgentServer.move_of_step he with
  | lock | fail | lockAgain | rLock | rUnlock => exact h
  | @register n r a hpc hentry =>
    intro id a' hlookup
    obtain ⟨labels, -, rfl⟩ := Option.map_eq_some_iff.mp hentry
    rcases GoMap.lookup_insert_eq_some.mp hlookup with ⟨rfl, rfl⟩ | ⟨-, hlookup⟩
    · rfl
    · exact h id a' hlookup
  | @remove n hpc =>
    intro id a' hlookup
    exact h id a' (GoMap.lookup_erase_eq_some.mp hlookup).2

theorem filed_of_run {ids : Nat → String} {events : List ServersEvent} {g : Servers}
    (hrun : run (Servers.step ids) {} events = some g) : g.delegate.Filed := by
  have hreaches : Reaches (Servers.step ids) (fun _ _ => True) {} g :=
    Reaches.run .refl hrun fun _ _ _ => trivial
  have hfirst : ({} : Servers).delegate.Filed := fun id a hlookup => nomatch hlookup
  refine hreaches.invariant (I := fun g => g.delegate.Filed) hfirst ?_
  intro g e g' hfiled _ hstep
  cases e with
  | connectionEnds n =>
    cases hstep
    exact hfiled
  | delegate e =>
    obtain ⟨s, hs, rfl⟩ := Option.map_eq_some_iff.mp hstep
    exact hfiled.step hs
  | sync e =>
    obtain ⟨s, -, rfl⟩ := Option.map_eq_some_iff.mp hstep
    exact hfiled

section Results

variable {wire : Wire} {forward : Nat → RPC → Except Status RPC} {orders : BroadcastOrders}
  {s : AgentServer AgentInfo} {sel : ClusterSelector} {req : RPC}

theorem mem_matching {a : AgentInfo} (hfiled : s.Filed) (h : a ∈ s.matching sel) :
    DelegateServer.request s a.id = some a.client := by
  obtain ⟨⟨id, a'⟩, hentry, rfl⟩ := List.mem_map.mp (List.mem_filter.mp h).1
  have hlookup : s.activeAgents.lookup id = some a' := GoMap.mem_entries.mp hentry
  rw [DelegateServer.request, hfiled id a' hlookup, hlookup]
  rfl

section

variable (h : AllAnswer forward s sel req)

include h

theorem broadcastEntries_eq :
    broadcastEntries forward orders s sel req =
      (orders.agents.order (s.matching sel)).filterMap fun target =>
        match forward target.client req with
        | .ok item => some ⟨target.id, item⟩
        | .error _ => none := by
  have hanswer : ∀ a ∈ orders.agents.order (s.matching sel),
      ∃ rpc, forward a.client req = .ok rpc :=
    fun a ha => h a ((orders.agents.perm _).mem_iff.mp ha)
  unfold broadcastEntries DelegateServer.broadcast
  generalize orders.agents.order (s.matching sel) = targets at hanswer
  dsimp only
  by_cases htargets : targets.length = 0
  · rw [if_pos htargets, List.eq_nil_of_length_eq_zero htargets]
    rfl
  · rw [if_neg htargets]
    have herrors : targets.filterMap (fun target =>
        match forward target.client req with
        | .error err => some err
        | .ok _ => none) = [] := by
      rw [List.filterMap_eq_nil_iff]
      intro a ha
      obtain ⟨rpc, hrpc⟩ := hanswer a ha
      rw [hrpc]
    rw [herrors]
    have hnone : orders.errors.order [] = [] := (orders.errors.perm []).eq_nil
    rw [hnone]

theorem refs_broadcastEntries :
    ((broadcastEntries forward orders s sel req).map BroadcastReply.ref).Perm
      ((s.matching sel).map AgentInfo.id) := by
  have hperm := orders.agents.perm (s.matching sel)
  rw [broadcastEntries_eq h, List.map_filterMap]
  refine List.Perm.trans (List.Perm.of_eq ?_) (hperm.map AgentInfo.id)
  rw [← List.filterMap_eq_map]
  refine List.filterMap_congr fun a ha => ?_
  obtain ⟨rpc, hrpc⟩ := h a (hperm.mem_iff.mp ha)
  rw [hrpc]
  rfl

theorem mem_broadcastEntries {entry : BroadcastReply} :
    entry ∈ broadcastEntries forward orders s sel req ↔
      ∃ a ∈ s.matching sel, entry.ref = a.id ∧ forward a.client req = .ok entry.reply := by
  rw [broadcastEntries_eq h, List.mem_filterMap]
  constructor
  · rintro ⟨a, ha, hentry⟩
    refine ⟨a, (orders.agents.perm _).mem_iff.mp ha, ?_⟩
    split at hentry
    next item hitem =>
      cases hentry
      exact ⟨rfl, hitem⟩
    · cases hentry
  · rintro ⟨a, ha, href, hreply⟩
    refine ⟨a, (orders.agents.perm _).mem_iff.mpr ha, ?_⟩
    rw [hreply, ← href]

end

theorem decodeEntry_of_decodeTarget {μ : Type} {decode : Bytes → Except Status μ} {m : μ}
    {entry : BroadcastReply} (h : decodeTarget decode (.ok entry.reply) = some (.ok m)) :
    decodeEntry decode entry = some (.ok m) := by
  unfold decodeTarget at h
  unfold decodeEntry
  dsimp only at h
  split at h
  · split at h
    · cases h
    · split at h
      · cases h
      next reply hdecode =>
        cases h
        rw [hdecode]
  · cases h

/-- A broadcast gives the same replies as a request to each of the agents, just if the answers are
    empty. -/
theorem broadcast_agrees_iff (wire : Wire) (forward : Nat → RPC → Except Status RPC)
    (orders : BroadcastOrders) (ids : Nat → String) (events : List ServersEvent) (g : Servers)
    (sel : ClusterSelector) (req : RPC) (hrun : run (Servers.step ids) {} events = some g) :
    BroadcastAgrees wire forward orders g.delegate sel req ↔
      EmptyAnswers forward g.delegate sel req := by
  have hfiled := filed_of_run hrun
  refine forall_congr' fun hall => ?_
  -- the reply of a request is the payload of the answer
  have hdelegate {a : AgentInfo} {rpc : RPC} (ha : a ∈ g.delegate.matching sel)
      (hrpc : forward a.client req = .ok rpc) :
      DelegateServer.delegate wire forward g.delegate a.id req = wire.unmarshal rpc.payload := by
    rw [DelegateServer.delegate, mem_matching hfiled ha]
    dsimp only
    rw [hrpc]
  constructor
  · intro hsame a ha
    obtain ⟨rpc, hrpc⟩ := hall a ha
    have hentry : ⟨a.id, rpc⟩ ∈ broadcastEntries forward orders g.delegate sel req :=
      (mem_broadcastEntries hall).mpr ⟨a, ha, rfl, hrpc⟩
    have hreply := hsame.replies _ hentry
    rw [hdelegate ha hrpc, wire.unmarshal_payload_iff] at hreply
    rw [hrpc, hreply]
  · intro hempty
    have hreplies : ∀ entry ∈ broadcastEntries forward orders g.delegate sel req,
        DelegateServer.delegate wire forward g.delegate entry.ref req = .ok entry.reply := by
      intro entry hentry
      obtain ⟨a, ha, href, hrpc⟩ := (mem_broadcastEntries hall).mp hentry
      have hreply : entry.reply = {} := Except.ok.inj (hrpc.symm.trans (hempty a ha))
      rw [href, hdelegate ha hrpc, wire.unmarshal_payload_iff]
      exact hreply
    refine ⟨refs_broadcastEntries hall, hreplies, fun entry hentry μ decode m htarget => ?_⟩
    rw [hreplies entry hentry] at htarget
    exact decodeEntry_of_decodeTarget htarget

end Results

/-! ## Cases -/

/-- A wire format in which a response has one byte in front. -/
def tagWire : Wire where
  unmarshal
    | [] => .ok {}
    | _ :: response => .ok { content := some (.response { response }) }
  empty := rfl
  shorter b rpc h := by
    cases b with
    | nil =>
      cases h
      exact .inl rfl
    | cons tag response =>
      cases h
      exact .inr (Nat.lt_succ_self _)

def everyCluster : ClusterSelector := { labelSelector := none, emptySelectorMatchesNone := false }

def inOrders : BroadcastOrders := ⟨Scheduler.inOrder _, Scheduler.inOrder _⟩

def agentEvents : List ServersEvent := [.delegate (.lock 0), .delegate (.register 0 (some ∅))]

theorem broadcast_agrees_iff_empty :
    ∃ g, run (Servers.step fun _ => "a") {} agentEvents = some g ∧
      (g.delegate.matching everyCluster).map AgentInfo.id = ["a"] ∧
      BroadcastAgrees tagWire (fun _ _ => .ok {}) inOrders g.delegate everyCluster {} := by
  refine exists_run_of_isSome (by decide +kernel) fun hrun => ⟨by decide +kernel, ?_⟩
  exact (broadcast_agrees_iff tagWire _ inOrders _ _ _ everyCluster {} hrun).mpr fun _ _ _ => rfl

/-- The reply of an agent, and the answer that wraps it. -/
def agentReply : RPC := { content := some (.response { response := [7] }) }

def wrappedAnswer : RPC := { content := some (.response { response := [0, 7] }) }

def decodeSeven (b : Bytes) : Except Status (List DiscoveryEntry) :=
  if b = [7] then .ok [⟨"a", "prometheus"⟩]
  else .error ⟨.unknown, "cannot parse invalid wire-format"⟩

/-- The client of a request decodes the message, and an aggregator the wrapping: `Discover` finds
    nothing. -/
theorem broadcast_not_unwrapped :
    ∃ g, run (Servers.step fun _ => "a") {} agentEvents = some g ∧
      DelegateServer.delegate tagWire (fun _ _ => .ok wrappedAnswer) g.delegate "a" {} =
        .ok agentReply ∧
      broadcastEntries (fun _ _ => .ok wrappedAnswer) inOrders g.delegate everyCluster {} =
        [⟨"a", wrappedAnswer⟩] ∧
      invokeTarget tagWire (fun _ _ => .ok wrappedAnswer) g.delegate decodeSeven "a"
        "/remoteread.RemoteReadAgent/Discover" [] = some (.ok [⟨"a", "prometheus"⟩]) ∧
      discover (fun _ _ => .ok wrappedAnswer) inOrders g.delegate decodeSeven ["a"] [] =
        some (.ok []) ∧
      ¬BroadcastAgrees tagWire (fun _ _ => .ok wrappedAnswer) inOrders g.delegate everyCluster
        {} := by
  refine exists_run_of_isSome (by decide +kernel) fun _ => ⟨by decide +kernel, by decide +kernel,
    by decide +kernel, by decide +kernel, fun hagrees => ?_⟩
  have hsame := hagrees fun _ _ => ⟨_, rfl⟩
  exact absurd (hsame.replies ⟨"a", wrappedAnswer⟩ (by decide +kernel)) (by decide +kernel)

end Opni.Gateway
