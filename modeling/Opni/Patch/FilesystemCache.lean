/-
  Opni.Patch.FilesystemCache

  The plugin cache on disk (`pkg/patch/filesystem.go`): compressed plugins
  under `plugins/<digest>` and patches under `patches/<old>-to-<new>`.
-/

import Opni.Patch.Server

namespace Opni.Patch

open Lib

/-! ## The file system -/

inductive Node where
  | file (data : Bytes)
  | dir
deriving DecidableEq, Repr

abbrev Fs := GoMap Path Node

namespace Fs

variable (fs : Fs) (p : Path)

def missing : OsErr :=
  if (List.range p.comps.length).any fun n =>
      match fs.lookup { p with comps := p.comps.take n } with
      | some (.file _) => true
      | _ => false
  then .notDir else .notExist

def read : Except OsErr Bytes :=
  match fs.lookup p with
  | some (.file data) => .ok data
  | some .dir => .error .isDir
  | none => .error (fs.missing p)

def names : List String :=
  fs.keys.filterMap fun q =>
    if q.rooted = p.rooted ∧ q.comps ≠ [] ∧ q.comps.dropLast = p.comps then q.comps.getLast?
    else none

/-- `Remove`: a file, or a directory that is empty. -/
def remove : Fs :=
  match fs.lookup p with
  | some .dir => if fs.names p = [] then fs.erase p else fs
  | _ => fs.erase p

def mkdirAll : Fs :=
  (List.range (p.comps.length + 1)).foldl (fun fs n =>
    let q := { p with comps := p.comps.take n }
    if q ∈ fs then fs else fs.insert q .dir) fs

end Fs

inductive WriteOutcome where
  | ok
  | notCreated (e : OsErr)
  | failedAfter (n : Nat) (e : OsErr)
  | failedOnClose (n : Nat) (e : OsErr)
deriving DecidableEq, Repr

/-- The file system after writing a file: it is created and truncated first,
    and a failure leaves the bytes written so far. -/
def Fs.write (fs : Fs) (outcome : WriteOutcome) (p : Path) (data : Bytes) : Fs :=
  match outcome with
  | .ok => fs.insert p (.file data)
  | .notCreated _ => fs
  | .failedAfter n _ | .failedOnClose n _ => fs.insert p (.file (data.take n))

/-- The error of `afero.WriteFile`, which also reports a failing `Close`. -/
def WriteOutcome.error : WriteOutcome → Option OsErr
  | .ok => none
  | .notCreated e | .failedAfter _ e | .failedOnClose _ e => some e

/-! ## Glob -/

/-- The patterns of `path/filepath`: which strings hold magic characters, and
    which names a pattern matches (`none` for a malformed pattern). -/
structure Matcher where
  hasMeta : String → Bool
  matchName : String → String → Option Bool

def globDir (m : Matcher) (fs : Fs) (pattern : String) (dir : Path) : Option (List Path) :=
  match fs.lookup dir with
  | some .dir => do
      let names ← (fs.names dir).filterM (m.matchName pattern)
      return names.map fun n => { dir with comps := dir.comps ++ [n] }
  | _ => some []

/-- `afero.Glob` on the components of a pattern, last one first. -/
def globComps (m : Matcher) (fs : Fs) (rooted : Bool) : List String → Option (List Path)
  | [] => some (if (⟨rooted, []⟩ : Path) ∈ fs then [⟨rooted, []⟩] else [])
  | comp :: rest =>
    let path : Path := ⟨rooted, (comp :: rest).reverse⟩
    if (comp :: rest).any m.hasMeta then do
      let dirs ← if rest.any m.hasMeta then globComps m fs rooted rest
        else some [⟨rooted, rest.reverse⟩]
      let found ← dirs.mapM (globDir m fs comp)
      return found.flatten
    else some (if path ∈ fs then [path] else [])

def glob (m : Matcher) (fs : Fs) (pattern : Path) : Option (List Path) :=
  globComps m fs pattern.rooted pattern.comps.reverse

/-! ## The cache -/

structure Codec where
  encode : Bytes → Bytes
  decode : Bytes → Option Bytes
  decode_encode : ∀ data, decode (encode data) = some data

/-- What a cache is configured with.  The configured directory is no pattern. -/
structure CacheEnv where
  fmt : PluginFormat
  engine : PatchEngine
  codec : Codec
  matcher : Matcher
  dir : String
  dir_literal : ∀ c ∈ (cleanPath dir).comps ++ ["patches"], matcher.hasMeta c = false

namespace CacheEnv

variable (env : CacheEnv)

def path (sub name : String) : Path := joinPath [env.dir, sub, name]

/-- The file system `NewFilesystemCache` leaves on an empty disk. -/
def empty : Fs :=
  ((Fs.mkdirAll ∅ (joinPath [env.dir])).mkdirAll (joinPath [env.dir, "plugins"])).mkdirAll
    (joinPath [env.dir, "patches"])

def patchKey (oldDigest newDigest : String) : String := oldDigest ++ "-to-" ++ newDigest

/-- What `Clean` removes for one hash: the plugin and every patch that
    mentions it.  The patches are looked up once the plugin is gone. -/
def cleaned (hash : String) (fs : Fs) : List Path :=
  let fs' := fs.remove (env.path "plugins" hash)
  env.path "plugins" hash ::
    ((glob env.matcher fs' (env.path "patches" ("*-to-" ++ hash))).getD [] ++
      (glob env.matcher fs' (env.path "patches" (hash ++ "-to-*"))).getD [])

def cleanHash (fs : Fs) (hash : String) : Fs := (env.cleaned hash fs).foldl Fs.remove fs

def clean (hashes : List String) (fs : Fs) : Fs := hashes.foldl env.cleanHash fs

/-- `GetPlugin`: a plugin whose contents do not have the digest is cleaned. -/
def getPlugin (hash : String) (fs : Fs) : Except CacheErr Bytes × Fs :=
  match fs.read (env.path "plugins" hash) with
  | .error e => (.error (.os e), fs)
  | .ok enc =>
    match env.codec.decode enc with
    | none => (.error .decode, fs)
    | some data =>
      if env.fmt.digest data ≠ hash then (.error .corrupted, env.clean [hash] fs)
      else (.ok data, fs)

def generatePatch (oldDigest newDigest : String) (fs : Fs) : Except CacheErr Bytes × Fs :=
  match env.getPlugin oldDigest fs with
  | (.error e, fs₁) => (.error e, fs₁)
  | (.ok oldBin, fs₁) =>
    match env.getPlugin newDigest fs₁ with
    | (.error e, fs₂) => (.error e, fs₂)
    | (.ok newBin, fs₂) => (.ok (env.engine.generatePatch oldBin newBin), fs₂)

variable (outcome : WriteOutcome)

/-- `RequestPatch`: a patch file that exists is returned as it is.  When the
    patch cannot be generated, the generation is started a second time and its
    result dropped. -/
def requestPatch (oldDigest newDigest : String) (fs : Fs) :
    Except CacheErr Bytes × Fs :=
  let patchPath := env.path "patches" (patchKey oldDigest newDigest)
  if patchPath ∈ fs then ((fs.read patchPath).mapError .os, fs)
  else
    match env.generatePatch oldDigest newDigest fs with
    | (.error e, fs₁) => (.error e, (env.generatePatch oldDigest newDigest fs₁).2)
    | (.ok patch, fs₁) =>
      (match outcome.error with
        | some e => .error (.os e)
        | none => .ok patch,
       fs₁.write outcome patchPath patch)

/-- A plugin that is in the cache with the right contents is not archived again. -/
def archived (fs : Fs) (item : PluginArchiveEntry) : Bool :=
  match fs.read (env.path "plugins" item.metadata.digest) with
  | .error _ => false
  | .ok enc => (env.codec.decode enc).map env.fmt.digest == some item.metadata.digest

/-- The goroutine that compresses one plugin into the cache.  An error of
    closing the encoder is dropped. -/
def archiveItem (item : PluginArchiveEntry) (fs : Fs) :
    Option OsErr × Fs :=
  (match outcome with
    | .ok | .failedOnClose _ _ => none
    | .notCreated e | .failedAfter _ e => some e,
   fs.write outcome (env.path "plugins" item.metadata.digest) (env.codec.encode item.data))

/-- The goroutines of `Archive` in the order they run, each with the outcome of
    its write; the first error is returned. -/
def archiveItems : List (PluginArchiveEntry × WriteOutcome) → Fs → Option OsErr × Fs
  | [], fs => (none, fs)
  | (item, outcome) :: rest, fs =>
    let r := env.archiveItem outcome item fs
    let r' := archiveItems rest r.2
    (r.1.or r'.1, r'.2)

/-- The plugins `Archive` starts goroutines for. -/
def toArchive (archive : PluginArchive) (fs : Fs) : List PluginArchiveEntry :=
  archive.items.filter fun item => !env.archived fs item

/-- `Archive`, with the goroutines in the order of the schedule. -/
def archive (plugins : PluginArchive) (outcomes : PluginArchiveEntry → WriteOutcome) (fs : Fs)
    (schedule : Schedule (env.toArchive plugins fs)) : Option OsErr × Fs :=
  env.archiveItems (schedule.val.map fun item => (item, outcomes item)) fs

/-- The cache as `SyncPluginManifest` uses it. -/
def cache (outcome : String → String → WriteOutcome) : Cache (StateM Fs) where
  requestPatch old new := env.requestPatch (outcome old new) old new
  getPlugin := env.getPlugin

end CacheEnv

end Opni.Patch
