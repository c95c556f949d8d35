/-
  Opni.Bootstrap.AuthRuns

  Interleaved calls of `ServerV2.Auth` on one storage.  `AuthStep` says what
  one storage operation can do, and `AuthInv` what a run keeps: a cluster is
  created once, and only the call that created it goes on.
-/

import Opni.Bootstrap.Auth

namespace Opni.Bootstrap

open Lib Auth Rbac Lib.Interleave

/-! ## One operation -/

/-- `CreateCluster` of the call has succeeded, and no later operation has failed. -/
def AuthState.Owns : AuthState → Prop
  | created .. | counted _ | returned (.ok _) => True
  | started | authorized .. | absent .. | returned (.error _) => False

/-- The keyring in a state is the one that the call derives. -/
def AuthState.HasKeysOf {lib : BootstrapLib} (call : AuthCall lib) : AuthState → Prop
  | absent _ _ kr | created _ kr | counted kr => call.keyring = .ok kr
  | started | authorized .. | returned _ => True

section Step

variable {lib : BootstrapLib} (call : AuthCall lib)

/-- What a storage operation of a call can do to the storage and to the call. -/
inductive AuthStep (f : Fault) (s : Storage) : AuthState → Storage → AuthState → Prop
  /-- A read. -/
  | reads {p p'} : p = .started ∨ (∃ token bootstrapToken, p = .authorized token bootstrapToken) →
      ¬p'.Owns → p'.HasKeysOf call → AuthStep f s p s p'
  /-- The call has returned. -/
  | done {result} : AuthStep f s (.returned result) s (.returned result)
  /-- `CreateCluster` has no effect. -/
  | notCreated {token bootstrapToken kr} (err) :
      call.req.clientId ∈ s.clusters ∨ ¬f.TakesEffect →
      AuthStep f s (.absent token bootstrapToken kr) s (.returned (.error err))
  /-- `CreateCluster` takes effect. -/
  | creates {token bootstrapToken kr p'} : call.req.clientId ∉ s.clusters → f.TakesEffect →
      f = .ok ∧ p' = .created token kr ∨ f ≠ .ok ∧ (∃ err, p' = .returned (.error err)) →
      AuthStep f s (.absent token bootstrapToken kr)
        { s with
          clusters := s.clusters.insert call.req.clientId (newCluster call bootstrapToken) } p'
  /-- `UpdateToken`. -/
  | counts {token kr s' p'} : s'.clusters = s.clusters → s'.keyrings = s.keyrings →
      p' = .counted kr ∨ ¬(f = .ok ∧ token.hexID ∈ s.tokens) ∧
        (∃ err, p' = .returned (.error err)) →
      AuthStep f s (.created token kr) s' p'
  /-- The keyring is not stored. -/
  | notPut {kr} (err) : ¬f.TakesEffect → AuthStep f s (.counted kr) s (.returned (.error err))
  /-- The keyring is stored. -/
  | puts {kr} (result) : (∀ pubKey, result = .ok pubKey → pubKey = call.ekp.publicKey) →
      AuthStep f s (.counted kr) (s.putKeyring call.req.clientId kr) (.returned result)

theorem authStep_next (f : Fault) (s : Storage) (p : AuthState) :
    AuthStep call f s p (p.next call f s).1 (p.next call f s).2 := by
  cases p with
  | started =>
    rw [AuthState.next]
    cases call.token with
    | error err => exact .reads (.inl rfl) id trivial
    | ok token =>
      dsimp only
      fun_cases authorize call token (f.read (s.getToken token.hexID)) <;>
        exact .reads (.inl rfl) id trivial
  | authorized token bootstrapToken =>
    rw [AuthState.next]
    fun_cases deriveKeys call token bootstrapToken (f.read (s.getCluster call.req.clientId)) with
    | case3 _ _ kr hkr => exact .reads (.inr ⟨_, _, rfl⟩) id hkr
    | _ => exact .reads (.inr ⟨_, _, rfl⟩) id trivial
  | absent token bootstrapToken kr =>
    rw [AuthState.next]
    rcases f.write_cases s (s.createCluster (newCluster call bootstrapToken)) with
      ⟨s', hr, rfl, hwrite⟩ | ⟨err, hr, hwrite⟩ | ⟨s', err, hr, heffect, hf, hwrite⟩
    · rw [hwrite]
      obtain ⟨hnot, rfl⟩ := Storage.createCluster_eq_ok hr
      exact .creates hnot trivial (.inl ⟨rfl, rfl⟩)
    · rw [hwrite]
      refine .notCreated _ (hr.imp_left ?_)
      rintro ⟨e, he⟩
      exact Storage.mem_of_createCluster_eq_error he
    · rw [hwrite]
      obtain ⟨hnot, rfl⟩ := Storage.createCluster_eq_ok hr
      exact .creates hnot heffect (.inr ⟨hf, _, rfl⟩)
  | created token kr =>
    rw [AuthState.next]
    rcases f.write_cases s (s.updateToken token.hexID incrementUsageCount) with
      ⟨s', hr, rfl, hwrite⟩ | ⟨err, hr, hwrite⟩ | ⟨s', err, hr, heffect, hf, hwrite⟩
    · rw [hwrite]
      obtain ⟨hclusters, hkeyrings⟩ := Storage.updateToken_eq_ok hr
      exact .counts hclusters hkeyrings (.inl rfl)
    · rw [hwrite]
      refine .counts rfl rfl (.inr ⟨?_, _, rfl⟩)
      rintro ⟨rfl, hmem⟩
      rcases hr with ⟨e, he⟩ | hnone
      · exact Storage.not_mem_of_updateToken_eq_error he hmem
      · exact hnone trivial
    · rw [hwrite]
      obtain ⟨hclusters, hkeyrings⟩ := Storage.updateToken_eq_ok hr
      exact .counts hclusters hkeyrings (.inr ⟨fun h => hf h.1, _, rfl⟩)
  | counted kr =>
    rw [AuthState.next]
    rcases f.write_cases s (.ok (s.putKeyring call.req.clientId kr)) with
      ⟨s', hr, rfl, hwrite⟩ | ⟨err, hr, hwrite⟩ | ⟨s', err, hr, -, -, hwrite⟩
    · rw [hwrite]
      cases hr
      exact .puts (.ok call.ekp.publicKey) fun pubKey h => (Except.ok.inj h).symm
    · rw [hwrite]
      refine .notPut _ (hr.resolve_left ?_)
      rintro ⟨e, he⟩
      cases he
    · rw [hwrite]
      cases hr
      exact .puts (failWith ..) fun pubKey h => absurd h (by simp [failWith])
  | returned result => exact .done

/-- The operation of the call is a `CreateCluster` that takes effect. -/
def Creating (f : Fault) (s : Storage) (p : AuthState) : Prop :=
  (∃ token bootstrapToken kr, p = .absent token bootstrapToken kr) ∧
    call.req.clientId ∉ s.clusters ∧ f.TakesEffect

variable {call} {f : Fault} {s s' : Storage} {p p' : AuthState}

section

variable (h : AuthStep call f s p s' p')

include h

theorem AuthStep.mem_clusters {id : String} (hid : id ∈ s.clusters) : id ∈ s'.clusters := by
  cases h with
  | reads | done | notCreated | notPut | puts => exact hid
  | creates => exact (AList.mem_insert _).mpr (.inr hid)
  | counts hclusters =>
    rw [hclusters]
    exact hid

theorem AuthStep.mem_of_creating (hcreating : Creating call f s p) :
    call.req.clientId ∈ s'.clusters := by
  obtain ⟨⟨token, bootstrapToken, kr, rfl⟩, hnot, heffect⟩ := hcreating
  cases h with
  | reads hp =>
    rcases hp with hp | ⟨_, _, hp⟩
    · cases hp
    · cases hp
  | notCreated err hfails => exact absurd (hfails.resolve_left hnot) (not_not_intro heffect)
  | creates => exact (AList.mem_insert _).mpr (.inl rfl)

theorem AuthStep.owns (howns : p'.Owns) : p.Owns ∨ Creating call f s p := by
  cases h with
  | reads _ hnot => exact absurd howns hnot
  | done => exact .inl howns
  | notCreated | notPut => exact absurd howns id
  | creates hnot heffect => exact .inr ⟨⟨_, _, _, rfl⟩, hnot, heffect⟩
  | counts | puts => exact .inl trivial

theorem AuthStep.hasKeysOf (hkeys : p.HasKeysOf call) : p'.HasKeysOf call := by
  cases h with
  | reads _ _ hkeys' => exact hkeys'
  | done | notCreated | notPut | puts => trivial
  | creates _ _ hp =>
    rcases hp with ⟨-, rfl⟩ | ⟨-, err, rfl⟩
    · exact hkeys
    · trivial
  | counts _ _ hp =>
    rcases hp with rfl | ⟨-, err, rfl⟩
    · exact hkeys
    · trivial

end

theorem AuthStep.keyrings (h : AuthStep call f s p s' p') : s'.keyrings = s.keyrings ∨
    ∃ kr, p = .counted kr ∧ s'.keyrings = s.keyrings.insert call.req.clientId kr := by
  cases h with
  | reads | done | notCreated | creates | notPut => exact .inl rfl
  | counts _ hkeyrings => exact .inl hkeyrings
  | puts => exact .inr ⟨_, rfl, rfl⟩

theorem AuthStep.succeeds {pubKey : Bytes} (h : AuthStep call f s p s' (.returned (.ok pubKey))) :
    p = .returned (.ok pubKey) ∧ s' = s ∨
      pubKey = call.ekp.publicKey ∧ ∃ kr, p = .counted kr ∧
        s' = s.putKeyring call.req.clientId kr := by
  cases h with
  | reads _ hnot => exact absurd trivial hnot
  | done => exact .inl ⟨rfl, rfl⟩
  | creates _ _ hp =>
    rcases hp with ⟨-, hp⟩ | ⟨-, err, hp⟩
    · cases hp
    · cases hp
  | counts _ _ hp =>
    rcases hp with hp | ⟨-, err, hp⟩
    · cases hp
    · cases hp
  | puts _ hresult => exact .inr ⟨hresult pubKey rfl, _, rfl, rfl⟩

end Step

/-! ## Runs -/

section Runs

variable {lib : BootstrapLib} {ι : Type} [DecidableEq ι] (calls : ι → AuthCall lib) (s₀ : Storage)

def nextOf (i : ι) (f : Fault) (s : Storage) (p : AuthState) : Storage × AuthState :=
  p.next (calls i) f s

variable (events : List (ι × Fault))

def runAuth : Config ι Storage AuthState :=
  run (nextOf calls) ⟨s₀, fun _ => .started⟩ events

def Created (i : ι) : Prop :=
  Happened (nextOf calls) (fun c e => Creating (calls e.1) e.2 c.shared (c.procs e.1))
    ⟨s₀, fun _ => .started⟩ events i

/-- The keyring that the call derives is stored for its cluster. -/
def Stored (call : AuthCall lib) (s : Storage) : Prop :=
  ∃ kr, call.keyring = .ok kr ∧ s.keyrings.lookup call.req.clientId = some kr

variable (e : ι × Fault)

theorem runAuth_concat :
    runAuth calls s₀ (events ++ [e]) = step (nextOf calls) (runAuth calls s₀ events) e :=
  run_concat ..

theorem authStep_run :
    AuthStep (calls e.1) e.2 (runAuth calls s₀ events).shared ((runAuth calls s₀ events).procs e.1)
      (runAuth calls s₀ (events ++ [e])).shared ((runAuth calls s₀ (events ++ [e])).procs e.1) := by
  rw [runAuth_concat, procs_step_self]
  exact authStep_next ..

variable {calls s₀} {events : List (ι × Fault)}

theorem procs_run_of_ne {e : ι × Fault} {j : ι} (h : j ≠ e.1) :
    (runAuth calls s₀ (events ++ [e])).procs j = (runAuth calls s₀ events).procs j := by
  rw [runAuth_concat]
  exact procs_step_of_ne _ _ _ h

theorem created_concat {e : ι × Fault} {i : ι} : Created calls s₀ (events ++ [e]) i ↔
    Created calls s₀ events i ∨ e.1 = i ∧
      Creating (calls e.1) e.2 (runAuth calls s₀ events).shared
        ((runAuth calls s₀ events).procs e.1) :=
  happened_concat

/-- Clusters are created once, and a call that goes on is the one that created its
    cluster. -/
structure AuthInv (calls : ι → AuthCall lib) (s₀ : Storage) (events : List (ι × Fault)) : Prop where
  present : ∀ i, Created calls s₀ events i →
    (calls i).req.clientId ∈ (runAuth calls s₀ events).shared.clusters
  unique : ∀ i j, Created calls s₀ events i → Created calls s₀ events j →
    (calls i).req.clientId = (calls j).req.clientId → i = j
  owner : ∀ i, ((runAuth calls s₀ events).procs i).Owns → Created calls s₀ events i
  keys : ∀ i, ((runAuth calls s₀ events).procs i).HasKeysOf (calls i)
  success : ∀ i pubKey, (runAuth calls s₀ events).procs i = .returned (.ok pubKey) →
    pubKey = (calls i).ekp.publicKey ∧ Stored (calls i) (runAuth calls s₀ events).shared

theorem AuthInv.stored_concat (h : AuthInv calls s₀ events) {e : ι × Fault} {j : ι} (hj : j ≠ e.1)
    (hcreated : Created calls s₀ events j)
    (hstored : Stored (calls j) (runAuth calls s₀ events).shared) :
    Stored (calls j) (runAuth calls s₀ (events ++ [e])).shared := by
  obtain ⟨kr, hkr, hlookup⟩ := hstored
  refine ⟨kr, hkr, ?_⟩
  rcases (authStep_run calls s₀ events e).keyrings with
    hsame | ⟨kr', hcounted, hput⟩
  · rw [hsame]
    exact hlookup
  · -- the call that stores a keyring has created its own cluster
    have howner : Created calls s₀ events e.1 := by
      apply h.owner
      rw [hcounted]
      trivial
    have hne : (calls j).req.clientId ≠ (calls e.1).req.clientId :=
      fun heq => hj (h.unique j e.1 hcreated howner heq)
    rw [hput, AList.lookup_insert_ne hne]
    exact hlookup

theorem AuthInv.concat (h : AuthInv calls s₀ events) (e : ι × Fault) :
    AuthInv calls s₀ (events ++ [e]) := by
  have hstep := authStep_run calls s₀ events e
  refine ⟨?_, ?_, ?_, ?_, ?_⟩
  · intro i hcreated
    rcases created_concat.mp hcreated with hbefore | ⟨rfl, hcreating⟩
    · exact hstep.mem_clusters (h.present i hbefore)
    · exact hstep.mem_of_creating hcreating
  · -- a cluster that is there is not created again
    intro i j hi hj heq
    rcases created_concat.mp hi with hi | ⟨rfl, hcreating⟩
    · rcases created_concat.mp hj with hj | ⟨rfl, -, hnot, -⟩
      · exact h.unique i j hi hj heq
      · exact absurd (heq ▸ h.present i hi) hnot
    · rcases created_concat.mp hj with hj | ⟨rfl, -⟩
      · exact absurd (heq ▸ h.present j hj) hcreating.2.1
      · rfl
  · intro i howns
    rw [created_concat]
    by_cases hi : i = e.1
    · subst hi
      rcases hstep.owns howns with hbefore | hcreating
      · exact .inl (h.owner _ hbefore)
      · exact .inr ⟨rfl, hcreating⟩
    · rw [procs_run_of_ne hi] at howns
      exact .inl (h.owner i howns)
  · intro i
    by_cases hi : i = e.1
    · subst hi
      exact hstep.hasKeysOf (h.keys _)
    · rw [procs_run_of_ne hi]
      exact h.keys i
  · intro i pubKey hreturned
    by_cases hi : i = e.1
    · subst hi
      rw [hreturned] at hstep
      rcases hstep.succeeds with ⟨hbefore, hsame⟩ | ⟨hpub, kr, hcounted, hput⟩
      · rw [hsame]
        exact h.success _ pubKey hbefore
      · have hkeys := h.keys e.1
        rw [hcounted] at hkeys
        refine ⟨hpub, kr, hkeys, ?_⟩
        rw [hput]
        exact AList.lookup_insert _
    · rw [procs_run_of_ne hi] at hreturned
      obtain ⟨hpub, hstored⟩ := h.success i pubKey hreturned
      refine ⟨hpub, h.stored_concat hi (h.owner i ?_) hstored⟩
      rw [hreturned]
      trivial

theorem authInv_run (calls : ι → AuthCall lib) (s₀ : Storage) (events : List (ι × Fault)) :
    AuthInv calls s₀ events := by
  induction events using List.reverseRecOn with
  | nil =>
    exact ⟨fun i hi => absurd hi not_happened_nil, fun i _ hi => absurd hi not_happened_nil,
      fun i hi => absurd hi id, fun _ => trivial, fun i pubKey h => absurd h (by simp [runAuth])⟩
  | append_singleton events e ih => exact ih.concat e

/-- However calls are interleaved and whatever operations fail, at most one call for
    an id succeeds.  What is stored then are the two halves of the hash of the exchanged
    secret, the public key of the client and that of the gateway, which is returned; an
    agent with this public key computes the same secret from the answer. -/
theorem auth_agreement (lib : BootstrapLib) {ι : Type} [DecidableEq ι] (calls : ι → AuthCall lib)
    (s₀ : Storage) (events : List (ι × Fault)) :
    (∀ i j pubKey pubKey', (calls i).req.clientId = (calls j).req.clientId →
      (runAuth calls s₀ events).procs i = .returned (.ok pubKey) →
      (runAuth calls s₀ events).procs j = .returned (.ok pubKey') → i = j) ∧
    ∀ i pubKey, (runAuth calls s₀ events).procs i = .returned (.ok pubKey) →
      let clientPub := (calls i).req.clientPubKey
      pubKey = (calls i).ekp.publicKey ∧
      ∃ q, lib.x25519 (calls i).ekp.privateKey clientPub = .ok q ∧
        let secret := lib.sum512 (q ++ clientPub ++ pubKey)
        (runAuth calls s₀ events).shared.keyrings.lookup (calls i).req.clientId =
          some (Keyring.new [.sharedKeys
            ⟨lib.newKeyFromSeed (secret.toList.take 32),
              lib.newKeyFromSeed (secret.toList.drop 32)⟩]) ∧
        ∀ agent : EphemeralKeyPair lib.toEcdhLib, agent.publicKey = clientPub →
          deriveSharedSecret agent ⟨pubKey, .server⟩ = .ok secret := by
  have hinv := authInv_run calls s₀ events
  refine ⟨?_, ?_⟩
  · intro i j pubKey pubKey' heq hi hj
    have howns : ∀ k pub, (runAuth calls s₀ events).procs k = .returned (.ok pub) →
        ((runAuth calls s₀ events).procs k).Owns := by
      intro k pub hk
      rw [hk]
      trivial
    exact hinv.unique i j (hinv.owner i (howns i _ hi)) (hinv.owner j (howns j _ hj)) heq
  · intro i pubKey hi
    obtain ⟨hpub, kr, hkr, hlookup⟩ := hinv.success i pubKey hi
    obtain ⟨sharedSecret, hderive, rfl⟩ := map_eq_ok_iff.mp hkr
    have hsecret := hderive
    unfold deriveSharedSecret at hsecret
    split at hsecret
    · cases hsecret
    next q hq =>
      obtain rfl := Except.ok.inj hsecret
      subst hpub
      refine ⟨rfl, q, hq, hlookup, ?_⟩
      intro agent hagent
      rw [← deriveSharedSecret_agree, hagent]
      exact hderive

end Runs

/-- An exchange by multiplication, and a hash that repeats its input. -/
def productLib : BootstrapLib where
  x25519 a b := .ok [a.headD 0 * b.headD 0]
  basepoint := [3]
  sum512 b := Vector.ofFn fun i => b.getD (i % b.length) 0
  newKeyFromSeed := id
  exchange {a b pubA pubB} ha hb := by
    obtain rfl := Except.ok.inj ha
    obtain rfl := Except.ok.inj hb
    simp only [List.headD_cons, ← UInt8.mul_assoc, UInt8.mul_comm (a.headD 0)]
  verify token := some (bytesOfString token)
  parseJSON payload := some ⟨payload⟩

/-- The key pair of a private key. -/
def pairOf (a : UInt8) : EphemeralKeyPair productLib.toEcdhLib := ⟨[a], [a * 3], rfl⟩

/-- Two agents with keys of their own, which want to be the cluster `c`, and the key pairs that
    the gateways draw for them. -/
def sampleCall (second : Bool) : AuthCall productLib where
  authorization := some ["Bearer t"]
  req := ⟨"c", (pairOf (if second then 2 else 7)).publicKey, none⟩
  ekp := pairOf (if second then 5 else 11)

def sampleStorage : Storage where
  tokens := (∅ : GoMap String BootstrapToken).insert "74" ⟨∅, 0⟩
  clusters := ∅
  keyrings := ∅

/-- Both calls find no cluster, and the one that looked later creates it. -/
def sampleEvents : List (Bool × Fault) :=
  [(true, .ok), (false, .ok), (true, .ok), (false, .ok), (false, .ok), (true, .ok), (false, .ok),
    (false, .ok)]

/-- One of two calls for the same cluster succeeds, and what is stored are the keys of its own
    client and gateway. -/
theorem auth_agreement_two_calls :
    let final := runAuth sampleCall sampleStorage sampleEvents
    let secret := productLib.sum512 [231, 21, 33]
    final.procs false = .returned (.ok [33]) ∧
      (∀ pubKey, final.procs true ≠ .returned (.ok pubKey)) ∧
      final.shared.keyrings.lookup "c" =
        some (Keyring.new [.sharedKeys ⟨secret.toList.take 32, secret.toList.drop 32⟩]) ∧
      deriveSharedSecret (pairOf 7) ⟨[33], .server⟩ = .ok secret := by
  intro final secret
  have hreturned : final.procs false = .returned (.ok [33]) := rfl
  obtain ⟨hunique, hkeys⟩ := auth_agreement productLib sampleCall sampleStorage sampleEvents
  obtain ⟨-, q, hq, hlookup, hagent⟩ := hkeys false [33] hreturned
  obtain rfl : [231] = q := Except.ok.inj hq
  refine ⟨hreturned, fun pubKey htrue => ?_, hlookup, hagent (pairOf 7) rfl⟩
  cases hunique true false pubKey [33] rfl htrue hreturned

end Opni.Bootstrap
