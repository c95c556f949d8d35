/-
  Opni.Bootstrap.Ecdh

  The key exchange of the bootstrap protocol (`pkg/ecdh/ecdh.go`) and the
  shared keys that come from it (`NewSharedKeys` of `pkg/keyring/keys.go`).

  X25519, blake2b-512 and the ed25519 key generation are those of libraries.
  What is assumed of X25519 is that it is a Diffie-Hellman exchange.
-/

import Opni.Auth.Keyring

namespace Opni.Bootstrap

open Lib Auth

structure EcdhLib where
  x25519 : Bytes → Bytes → Except String Bytes
  basepoint : Bytes
  sum512 : Bytes → Vector UInt8 64
  newKeyFromSeed : Bytes → Bytes
  /-- Both parties compute the same secret. -/
  exchange : ∀ {a b pubA pubB}, x25519 a basepoint = .ok pubA → x25519 b basepoint = .ok pubB →
    x25519 a pubB = x25519 b pubA

variable (lib : EcdhLib)

/-- `EphemeralKeyPair`, as `NewEphemeralKeyPair` makes it. -/
structure EphemeralKeyPair where
  privateKey : Bytes
  publicKey : Bytes
  isPair : lib.x25519 privateKey lib.basepoint = .ok publicKey

inductive PeerType where
  | client | server | other (n : Int)

structure PeerPublicKey where
  publicKey : Bytes
  peerType : PeerType

variable {lib}

/-- `DeriveSharedSecret`: the hash of the exchanged secret, the public key of the
    client and that of the server. -/
def deriveSharedSecret (ours : EphemeralKeyPair lib) (theirs : PeerPublicKey) :
    Except String (Vector UInt8 64) :=
  match lib.x25519 ours.privateKey theirs.publicKey with
  | .error err => .error err
  | .ok q =>
    match theirs.peerType with
    | .client => .ok (lib.sum512 (q ++ theirs.publicKey ++ ours.publicKey))
    | .server => .ok (lib.sum512 (q ++ ours.publicKey ++ theirs.publicKey))
    | .other n => .error ("invalid peer type: " ++ toString n)

theorem deriveSharedSecret_agree (server client : EphemeralKeyPair lib) :
    deriveSharedSecret server ⟨client.publicKey, .client⟩ =
      deriveSharedSecret client ⟨server.publicKey, .server⟩ := by
  unfold deriveSharedSecret
  rw [lib.exchange server.isPair client.isPair]

variable (lib)

/-- `NewSharedKeys`.  Other secrets than those of 64 bytes panic. -/
def newSharedKeys (secret : Vector UInt8 64) : SharedKeys where
  clientKey := lib.newKeyFromSeed (secret.toList.take 32)
  serverKey := lib.newKeyFromSeed (secret.toList.drop 32)

end Opni.Bootstrap
