/-
  Opni.Patch.Server

  The gateway side of plugin sync: `SyncPluginManifest` fills the patch list
  of `LeftJoinOn` from the patch cache (`pkg/patch/server.go`,
  `pkg/patch/cache.go`, `pkg/patch/patcher.go`).
-/

import Opni.Patch.Manifest

namespace Opni.Patch

open Lib

/-! ## Binary patches -/

def bsdiffHeader : Bytes := bytesOfString "BSDIFF40"

def checkFormat (patch : Bytes) : Bool := bsdiffHeader.isPrefixOf patch

/-- The bsdiff library, outside the repository: a generated patch has the
    format header and takes the old file to the new one. -/
structure PatchEngine where
  generatePatch : Bytes → Bytes → Bytes
  applyPatch : Bytes → Bytes → Option Bytes
  checkFormat_generate : ∀ old new, checkFormat (generatePatch old new) = true
  apply_generate : ∀ old new, applyPatch old (generatePatch old new) = some new

/-- The simplest engine: a patch is the new file behind the header. -/
def copyEngine : PatchEngine where
  generatePatch _ new := bsdiffHeader ++ new
  applyPatch _ patch := some (patch.drop bsdiffHeader.length)
  checkFormat_generate _ new := List.isPrefixOf_iff_prefix.mpr (List.prefix_append _ new)
  apply_generate _ new := by rw [List.drop_left]

/-! ## The cache interface -/

inductive CacheErr where
  | os (e : OsErr)
  | decode
  | corrupted
deriving DecidableEq, Repr

/-- `errors.Is(err, os.ErrNotExist)`. -/
def CacheErr.isNotExist : CacheErr → Bool
  | .os .notExist => true
  | _ => false

/-- The operations of the `Cache` interface that `SyncPluginManifest` calls. -/
structure Cache (m : Type → Type) where
  requestPatch : String → String → m (Except CacheErr Bytes)
  getPlugin : String → m (Except CacheErr Bytes)

/-! ## SyncPluginManifest -/

/-- The goroutine `SyncPluginManifest` starts for one entry. -/
def syncEntry {m : Type → Type} [Monad m] (cache : Cache m) (entry : PatchSpec) :
    m (Except Status PatchSpec) := do
  match entry.op with
  | .create =>
    match ← cache.getPlugin entry.newDigest with
    | .ok data => return .ok { entry with data := data }
    | .error _ =>
      return .error ⟨.internal, "lost plugin in cache: " ++ entry.module⟩
  | .update =>
    match ← cache.requestPatch entry.oldDigest entry.newDigest with
    | .ok data => return .ok { entry with data := data }
    | .error err =>
      if err.isNotExist then
        -- no patch can ever be calculated: send the whole plugin
        match ← cache.getPlugin entry.newDigest with
        | .ok data => return .ok { entry with data := data, op := .create }
        | .error _ =>
          return .error ⟨.internal,
            "lost plugin in cache, cannot generate patch: " ++ entry.module⟩
      else
        return .error ⟨.internal,
          "internal error in plugin cache, cannot sync: " ++ entry.module⟩
  | _ => return .ok entry

/-- The goroutines in the order they run: every entry runs, whatever happened
    to the others, and the first error is the one `Wait` returns. -/
def syncEntries {m : Type → Type} [Monad m] (cache : Cache m) :
    List PatchSpec → m (Option Status × List PatchSpec)
  | [] => return (none, [])
  | entry :: rest => do
      let r ← syncEntry cache entry
      let (err, done) ← syncEntries cache rest
      match r with
      | .ok entry' => return (err, entry' :: done)
      | .error e => return (some e, done)

/-- `SyncPluginManifest`, with the goroutines of the join's entries run one
    after the other in the order of the schedule. -/
def syncPluginManifest {m : Type → Type} [Monad m] (cache : Cache m)
    (ourManifest theirManifest : PluginManifest)
    (schedule : Schedule (leftJoinOn ourManifest theirManifest).items) :
    m (Except Status PatchList) := do
  match theirManifest.validate with
  | .error msg => return .error ⟨.invalidArgument, msg⟩
  | .ok () =>
    let (err, entries) ← syncEntries cache schedule.val
    match err with
    | some e => return .error e
    | none => return .ok ⟨entries⟩

/-! ## The cache as a set of plugins -/

variable (fmt : PluginFormat)

/-- What a cache holding the plugins `cached` intact answers: a plugin by its
    digest, and the generated patch when both plugins are there. -/
def idealCache (engine : PatchEngine) (cached : List Bytes) : Cache Id where
  getPlugin digest :=
    match cached.find? (fun c => fmt.digest c == digest) with
    | some c => .ok c
    | none => .error (.os .notExist)
  requestPatch old new :=
    match cached.find? (fun c => fmt.digest c == old),
        cached.find? (fun c => fmt.digest c == new) with
    | some o, some n => .ok (engine.generatePatch o n)
    | _, _ => .error (.os .notExist)

theorem find?_digest {cached : List Bytes} {c : Bytes} (h : c ∈ cached) :
    cached.find? (fun c' => fmt.digest c' == fmt.digest c) = some c := by
  cases hf : cached.find? (fun c' => fmt.digest c' == fmt.digest c) with
  | none =>
    have := List.find?_eq_none.mp hf c h
    simp at this
  | some c' =>
    have hd := List.find?_some hf
    have heq : fmt.digest c' = fmt.digest c := by simpa using hd
    rw [fmt.digest_injective heq]

end Opni.Patch
