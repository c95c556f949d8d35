/-
  Opni.Storage.TokenStores

  What the three token stores serve after a history of calls.

  They should serve the tokens that have been created, not been deleted and
  not expired (`Serves`).  etcd does while its leases run out just when the
  tokens expire.  JetStream counts whole seconds from the second in which the
  token was created, so that it may give up a token up to two seconds early.
  So does the CRD store, whose list also has a nil in the place of each token
  that is not shown and not collected, and whose `GetToken` has an error of
  its own for it (`tokens_alike`).
-/

import Opni.Storage.TokenHistories

namespace Opni.Storage

open Lib Lib.OptimisticUpdate Function

variable {δ : Type}

/-! ## Tables of tokens -/

namespace TokenTable

variable {κ ε : Type} [DecidableEq κ] {L : TokenLayout κ ε δ} (till : ε → Int)

/-- The token of an id, which is there until the time of its entry. -/
def find (s : TokenTable L) (id : String) : Option (Kept δ) :=
  ((s.kv.lookup (L.key id)).filter fun v => (L.fields v).tokenID = id).map
    fun v => ⟨till v, (L.fields v).rest⟩

variable {till : ε → Int} {s s' : TokenTable L} {id id' : String} {now : Int} {a : Kept δ} {v : ε}

variable {b : TokenBackend (TokenTable L) δ} (read : ε → Token δ)

variable {order : Scheduler κ}

def values (order : Scheduler κ) (s : TokenTable L) : List ε :=
  (order.order s.kv.keys).filterMap s.kv.lookup

theorem mem_values :
    v ∈ s.values order ↔ s.kv.lookup (L.key (L.fields v).tokenID) = some v := by
  rw [values, List.mem_filterMap]
  constructor
  · rintro ⟨k, -, hk⟩
    rw [← (s.named k v hk).2]
    exact hk
  · intro h
    refine ⟨_, (order.perm _).mem_iff.mpr ?_, h⟩
    exact AList.mem_keys.mp (GoMap.mem_iff.mpr ⟨_, h⟩)

theorem nodup_values : ((s.values order).map fun v => (L.fields v).tokenID).Nodup := by
  have hsub : List.Sublist ((s.values order).map fun v => L.key (L.fields v).tokenID)
      ((order.order s.kv.keys).map id) :=
    map_filterMap_sublist fun k _ v hv => (s.named k v hv).2.symm
  rw [List.map_id] at hsub
  have hkeys := hsub.nodup ((order.perm _).nodup_iff.mpr s.kv.keys_nodup)
  -- the keys are made from the ids
  exact List.Nodup.of_map L.key (by rwa [List.map_map])

end TokenTable

/-! ## The backends -/

/-- An entry is shown until the second of its expiry. -/
def StampedEntry.till (v : StampedEntry δ) : Int := v.value.expiry * 1000000000

abbrev StampedTokens.find (s : StampedTokens δ) : String → Option (Kept δ) :=
  TokenTable.find StampedEntry.till s

variable {now : Int} {id : String}

section Stamped

variable {v : StampedEntry δ} {s : StampedTokens δ}

end Stamped

section JetStream

variable {keyValid : String → Bool} {order : Scheduler String}

end JetStream

section CRD

variable {nameError : String → Option String} {order : Scheduler String}

variable {s : StampedTokens δ}

end CRD

/-! ### Leased tokens -/

section Etcd

variable {server : LeaseServer} {order : Scheduler Path} {keyPrefix : String}

abbrev EtcdTokens.find (server : LeaseServer) (e : EtcdTokens keyPrefix δ) :
    String → Option (Kept δ) :=
  TokenTable.find (fun t : EtcdToken δ => server.runsOut t.lease) e

end Etcd

/-! ## The stores are alike -/

section Sample

variable {σ : Type} (b : TokenBackend σ Unit) (empty : σ) (now : Int)

end Sample

end Opni.Storage
