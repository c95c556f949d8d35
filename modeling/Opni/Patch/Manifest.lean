/-
  Opni.Patch.Manifest

  Plugin manifests and the join that decides which patch operations an agent
  needs (`pkg/patch/manifest.go`, `pkg/apis/control/v1`).
-/

import Opni.Lib.GoStrings

namespace Opni.Patch

open Lib

/-! ## Manifests and patch lists -/

structure PluginManifestEntry where
  module : String
  filename : String
  digest : String
deriving DecidableEq, Repr

variable (e : PluginManifestEntry)

def PluginManifestEntry.getId : String := e.module

structure PluginManifest where
  items : List PluginManifestEntry
deriving DecidableEq, Repr

structure PluginArchiveEntry where
  metadata : PluginManifestEntry
  data : Bytes
deriving DecidableEq, Repr

structure PluginArchive where
  items : List PluginArchiveEntry
deriving DecidableEq, Repr

def PluginArchive.toManifest (a : PluginArchive) : PluginManifest :=
  ⟨a.items.map (·.metadata)⟩

/-- `PatchOp`, in the order of the protobuf values. -/
inductive PatchOp where
  | none | update | create | remove | rename
deriving DecidableEq, Repr

/-- The protobuf value of an operation, which `PatchList.Sort` compares. -/
def PatchOp.value : PatchOp → Nat
  | .none => 0
  | .update => 1
  | .create => 2
  | .remove => 3
  | .rename => 4

structure PatchSpec where
  op : PatchOp
  module : String
  oldDigest : String
  newDigest : String
  filename : String
  data : Bytes
deriving DecidableEq, Repr

structure PatchList where
  items : List PatchSpec
deriving DecidableEq, Repr

/-- The comparison of `PatchList.Sort`: operation, then module, then filename. -/
def PatchSpec.less (a b : PatchSpec) : Bool :=
  if a.op ≠ b.op then decide (a.op.value < b.op.value)
  else if a.module ≠ b.module then decide (a.module < b.module)
  else decide (a.filename < b.filename)

def PatchList.sort (l : PatchList) : PatchList := ⟨sortFunc PatchSpec.less l.items⟩

/-- `PluginManifestEntry.Validate`: the message of the first missing field. -/
def PluginManifestEntry.validate : Except String Unit :=
  if e.digest = "" then .error "digest is required for plugin manifest entries"
  else if e.filename = "" then .error "Filename is required for plugin manifest entries"
  else if e.module = "" then .error "Module is required for plugin manifest entries"
  else .ok ()

/-- `PluginManifest.Validate`: the first invalid item decides. -/
def PluginManifest.validate (m : PluginManifest) : Except String Unit :=
  m.items.forM PluginManifestEntry.validate

/-! ## The join -/

/-- Body of the first loop of `LeftJoinOn`: what one gateway plugin requires. -/
def joinOurs (theirPlugins : GoMap String PluginManifestEntry)
    (ours : PluginManifestEntry) : Option PatchSpec :=
  match theirPlugins.lookup ours.getId with
  | none =>
    -- we have a plugin that they don't have
    some { op := .create, module := ours.getId, oldDigest := "",
           newDigest := ours.digest, filename := ours.filename, data := [] }
  | some theirs =>
    if ours.digest ≠ theirs.digest then
      -- the new filename is sent, whatever the plugin is called there
      some { op := .update, module := ours.getId, oldDigest := theirs.digest,
             newDigest := ours.digest, filename := ours.filename, data := [] }
    else if ours.filename ≠ theirs.filename then
      -- the entry is about the old filename, and the new one is its data
      some { op := .rename, module := ours.getId, oldDigest := theirs.digest,
             newDigest := ours.digest, filename := theirs.filename,
             data := bytesOfString ours.filename }
    else none

/-- Body of the second loop of `LeftJoinOn`: what one agent plugin requires. -/
def joinTheirs (ourPlugins : GoMap String PluginManifestEntry)
    (ourDigests : GoMap String Unit) (theirs : PluginManifestEntry) : Option PatchSpec :=
  if theirs.getId ∈ ourPlugins then none
  -- the same contents under another module are not removed either
  else if theirs.digest ∈ ourDigests then none
  else some { op := .remove, module := theirs.getId, oldDigest := theirs.digest,
              newDigest := "", filename := theirs.filename, data := [] }

def leftJoinOn (gateway agent : PluginManifest) : PatchList :=
  let ourPlugins := GoMap.ofList PluginManifestEntry.getId id gateway.items
  let ourDigests := GoMap.ofList PluginManifestEntry.digest (fun _ => ()) gateway.items
  let theirPlugins := GoMap.ofList PluginManifestEntry.getId id agent.items
  PatchList.sort
    ⟨gateway.items.filterMap (joinOurs theirPlugins) ++
      agent.items.filterMap (joinTheirs ourPlugins ourDigests)⟩

/-! ## Discovery -/

/-- What discovery reads off the contents of a file: the module path in the
    build information (`none` when the file is not a Go binary) and the
    blake2b-256 sum, taken to be free of collisions. -/
structure PluginFormat where
  readModule : Bytes → Option String
  sum : Bytes → Bytes
  sum_injective : Function.Injective sum
  sum_ne_nil : ∀ data, sum data ≠ []
  readModule_ne_empty : ∀ data, readModule data ≠ some ""

namespace PluginFormat

def digest (fmt : PluginFormat) (data : Bytes) : String := hexEncode (fmt.sum data)

variable (fmt : PluginFormat)

theorem digest_injective : Function.Injective fmt.digest := fun _ _ h =>
  fmt.sum_injective (hexEncode_injective h)

theorem isHex_digest (data : Bytes) : IsHex (fmt.digest data) :=
  isHex_hexEncode (fmt.sum_ne_nil data)

theorem digest_ne_empty (data : Bytes) : fmt.digest data ≠ "" := (fmt.isHex_digest data).1

end PluginFormat

/-- The simplest format: the first byte of a plugin tells its module, and the
    sum spells out the contents. -/
def byteFormat : PluginFormat where
  readModule
    | [] => none
    | b :: _ => some (if b = 0 then "metrics" else "logging")
  sum data := 0 :: data
  sum_injective _ _ h := (List.cons.inj h).2
  sum_ne_nil _ := List.cons_ne_nil _ _
  readModule_ne_empty data h := by
    cases data with
    | nil => cases h
    | cons b data =>
      have := Option.some.inj h
      split at this <;> simp at this

abbrev Dir := GoMap String Bytes

/-- `DefaultPluginGlob`, `plugin_*`, on the names inside the directory. -/
def matchesPluginGlob (name : String) : Bool :=
  "plugin_".toList.isPrefixOf name.toList

/-- One file as `GetFilesystemPlugins` sees it: skipped when the name does not
    match the glob or the contents are no plugin. -/
def pluginEntry (fmt : PluginFormat) (name : String) (data : Bytes) :
    Option PluginArchiveEntry :=
  if matchesPluginGlob name then
    (fmt.readModule data).map fun m =>
      { metadata := { module := m, filename := name, digest := fmt.digest data },
        data := data }
  else none

def getFilesystemPlugins (fmt : PluginFormat) (dir : Dir) : PluginArchive :=
  ⟨sortFunc (fun a b => decide (a.metadata.module < b.metadata.module))
    (dir.entries.filterMap fun f => pluginEntry fmt f.1 f.2)⟩

theorem pluginEntry_eq_some {fmt : PluginFormat} {name : String} {data : Bytes}
    {e : PluginArchiveEntry} :
    pluginEntry fmt name data = some e ↔
      matchesPluginGlob name = true ∧ fmt.readModule data = some e.metadata.module ∧
        e.metadata.filename = name ∧ e.metadata.digest = fmt.digest data ∧ e.data = data := by
  obtain ⟨⟨m, n, d⟩, c⟩ := e
  unfold pluginEntry
  cases hm : fmt.readModule data <;> cases hg : matchesPluginGlob name <;>
    simp [eq_comm, and_assoc]

theorem mem_toManifest {fmt : PluginFormat} {dir : Dir} {e : PluginManifestEntry} :
    e ∈ (getFilesystemPlugins fmt dir).toManifest.items ↔
      ∃ data, dir.lookup e.filename = some data ∧ matchesPluginGlob e.filename = true ∧
        fmt.readModule data = some e.module ∧ e.digest = fmt.digest data := by
  simp only [PluginArchive.toManifest, getFilesystemPlugins, List.mem_map, mem_sortFunc,
    List.mem_filterMap]
  constructor
  · rintro ⟨a, ⟨⟨name, data⟩, hmem, ha⟩, rfl⟩
    obtain ⟨hglob, hm, hname, hd, -⟩ := pluginEntry_eq_some.mp ha
    subst hname
    exact ⟨data, AList.mem_lookup_iff.mpr hmem, hglob, hm, hd⟩
  · rintro ⟨data, hlook, hglob, hm, hd⟩
    exact ⟨⟨e, data⟩, ⟨⟨e.filename, data⟩, AList.mem_lookup_iff.mp hlook,
      pluginEntry_eq_some.mpr ⟨hglob, hm, rfl, hd, rfl⟩⟩, rfl⟩

/-- A plugin directory: every file is a plugin, and no two files are the same
    module.  Other files of a directory are not in its manifest. -/
structure PluginDir (fmt : PluginFormat) where
  files : Dir
  glob_of_mem : ∀ {name data}, files.lookup name = some data → matchesPluginGlob name = true
  module_of_mem : ∀ {name data}, files.lookup name = some data → fmt.readModule data ≠ none
  module_inj : ∀ {name name' data data'}, files.lookup name = some data →
    files.lookup name' = some data' → fmt.readModule data = fmt.readModule data' → name = name'

namespace PluginDir

variable {fmt : PluginFormat} (d : PluginDir fmt)

def single (name : String) (data : Bytes) (hglob : matchesPluginGlob name = true)
    (hmod : fmt.readModule data ≠ none) : PluginDir fmt where
  files := AList.singleton name data
  glob_of_mem h := by rwa [(GoMap.lookup_singleton_eq_some.mp h).1]
  module_of_mem h := by rwa [(GoMap.lookup_singleton_eq_some.mp h).2]
  module_inj h h' _ := by
    rw [(GoMap.lookup_singleton_eq_some.mp h).1, (GoMap.lookup_singleton_eq_some.mp h').1]

def manifest : PluginManifest := (getFilesystemPlugins fmt d.files).toManifest

variable {d}

theorem mem_manifest {e : PluginManifestEntry} :
    e ∈ d.manifest.items ↔ ∃ data, d.files.lookup e.filename = some data ∧
      fmt.readModule data = some e.module ∧ e.digest = fmt.digest data := by
  rw [manifest, mem_toManifest]
  constructor
  · rintro ⟨data, hl, -, hm, hd⟩
    exact ⟨data, hl, hm, hd⟩
  · rintro ⟨data, hl, hm, hd⟩
    exact ⟨data, hl, d.glob_of_mem hl, hm, hd⟩

theorem exists_entry {name : String} {data : Bytes} (h : d.files.lookup name = some data) :
    ∃ m, fmt.readModule data = some m ∧
      { module := m, filename := name, digest := fmt.digest data } ∈ d.manifest.items := by
  obtain ⟨m, hm⟩ := Option.ne_none_iff_exists'.mp (d.module_of_mem h)
  exact ⟨m, hm, mem_manifest.mpr ⟨data, h, hm, rfl⟩⟩

theorem manifest_filename_nodup : (d.manifest.items.map (·.filename)).Nodup := by
  have hperm : (d.manifest.items.map (·.filename)).Perm
      (((d.files.entries.filterMap fun f => pluginEntry fmt f.1 f.2).map (·.metadata)).map
        (·.filename)) :=
    ((sortFunc_perm _ _).map _).map _
  rw [hperm.nodup_iff, List.map_map]
  refine List.Nodup.sublist (map_filterMap_sublist ?_) d.files.nodupKeys
  intro f _ e he
  exact (pluginEntry_eq_some.mp he).2.2.1

theorem manifest_module_nodup : (d.manifest.items.map PluginManifestEntry.getId).Nodup := by
  have hnd : d.manifest.items.Nodup := List.Nodup.of_map _ manifest_filename_nodup
  refine hnd.map_on ?_
  intro e he e' he' hid
  obtain ⟨data, hl, hm, hd⟩ := mem_manifest.mp he
  obtain ⟨data', hl', hm', hd'⟩ := mem_manifest.mp he'
  have hmod : e.module = e'.module := hid
  have hname : e.filename = e'.filename := d.module_inj hl hl' (by rw [hm, hm', hmod])
  rw [hname, hl'] at hl
  -- module, filename and contents agree, so the digests do
  obtain ⟨m, n, dg⟩ := e
  obtain ⟨m', n', dg'⟩ := e'
  simp_all

end PluginDir

end Opni.Patch
