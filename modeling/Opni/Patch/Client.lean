/-
  Opni.Patch.Client

  The agent side of plugin sync: `patchClient` and its four operations on the
  plugin directory (`pkg/patch/client.go`).
-/

import Opni.Patch.Server

namespace Opni.Patch

open Lib

/-! ## File system calls -/

/-- `osErrf`: permission errors are final, others may be retried. -/
def osErrf (msg : String) (err : OsErr) : Status :=
  ⟨if err = .permission then .internal else .unavailable, msg ++ err.text⟩

/-- The error each file system call of `doUpdate` returns, if any. -/
structure Faults where
  stat : Option OsErr := none
  read : Option OsErr := none
  tempFile : Option OsErr := none
  writeTemp : Option OsErr := none
  chmodTemp : Option OsErr := none
  rename : Option OsErr := none
  chmod : Option OsErr := none
deriving DecidableEq, Repr

variable (fault : Option OsErr)

/-- `pluginFs.Stat`. -/
def statFile (dir : Dir) (name : String) : Except OsErr Unit :=
  match fault with
  | some e => .error e
  | none => if name ∈ dir then .ok () else .error .notExist

/-- `pluginFs.Open` and the copy of the whole file. -/
def readFile (dir : Dir) (name : String) : Except OsErr Bytes :=
  match fault with
  | some e => .error e
  | none => match dir.lookup name with
      | some data => .ok data
      | none => .error .notExist

/-! ## The operations -/

variable (fmt : PluginFormat) (engine : PatchEngine) (faults : Faults)

/-- `doUpdate` up to the point where the patched contents are in the temporary
    file: the old plugin must be the one the patch was made for, and the
    patched one must be the one that was asked for. -/
def patchedContents (dir : Dir) (entry : PatchSpec) : Except Status Bytes := do
  (statFile faults.stat dir entry.filename).mapError
    (osErrf ("failed to stat plugin " ++ entry.filename ++ ": "))
  let old ← (readFile faults.read dir entry.filename).mapError
    (osErrf ("failed to read plugin " ++ entry.filename ++ ": "))
  if fmt.digest old ≠ entry.oldDigest then
    throw ⟨.unavailable, "existing plugin " ++ entry.module ++ " is invalid, cannot apply patch"⟩
  if checkFormat entry.data = false then
    throw ⟨.internal, "unknown patch format for plugin " ++ entry.module⟩
  -- from here on only the temporary file is written
  match faults.tempFile with
  | some e => throw ⟨.internal, "could not create temporary file: " ++ e.text⟩
  | none =>
    match faults.writeTemp, engine.applyPatch old entry.data with
    | some e, _ => throw (osErrf ("failed applying patch for plugin " ++ entry.module ++ ": ") e)
    | none, none =>
      throw (osErrf ("failed applying patch for plugin " ++ entry.module ++ ": ") .io)
    | none, some new =>
      if fmt.digest new ≠ entry.newDigest then
        throw ⟨.unavailable,
          "patch failed for plugin " ++ entry.module ++ " (checksum mismatch)"⟩
      return new

/-- `doUpdate`: the error returned, if any, and the directory afterwards. -/
def doUpdate (dir : Dir) (entry : PatchSpec) : Option Status × Dir :=
  match patchedContents fmt engine faults dir entry with
  | .error e => (some e, dir)
  | .ok new =>
    match faults.rename with
    | some e => (some (osErrf ("could not write to plugin " ++ entry.filename ++ ": ") e), dir)
    | none =>
      -- the second chmod is only tried when the first one failed
      match faults.chmodTemp, faults.chmod with
      | some _, some e =>
        (some (osErrf ("could not update permissions for plugin " ++ entry.filename ++ ": ")
          e), dir.insert entry.filename new)
      | _, _ => (none, dir.insert entry.filename new)

variable (dir : Dir) (entry : PatchSpec)

/-- `doRename`: the new name is the data of the entry. -/
def doRename : Option Status × Dir :=
  let newFilename := stringOfBytes entry.data
  if newFilename ∈ dir then
    -- the message names the old file, not the destination
    (some ⟨.unavailable, "could not rename plugin " ++ entry.module ++ ": destination " ++
      entry.filename ++ " already exists"⟩, dir)
  else
    match dir.lookup entry.filename with
    | none => (some (osErrf ("could not rename plugin " ++ entry.filename ++ ": ") .notExist), dir)
    | some data => (none, (dir.erase entry.filename).insert newFilename data)

/-- `doCreate`: an existing file is overwritten. -/
def doCreate : Option Status × Dir :=
  (none, dir.insert entry.filename entry.data)

/-- `doRemove`: a missing file is no error. -/
def doRemove : Option Status × Dir :=
  (none, dir.erase entry.filename)

/-- The goroutine `Patch` starts for one entry, without file system faults. -/
def applyEntry (dir : Dir) (entry : PatchSpec) :
    Option Status × Dir :=
  match entry.op with
  | .create => doCreate dir entry
  | .update => doUpdate fmt engine {} dir entry
  | .remove => doRemove dir entry
  | .rename => doRename dir entry
  | .none => (none, dir)

/-- The goroutines in the order they run: all of them run, and the first error
    is the one `Wait` returns. -/
def runEntries (fmt : PluginFormat) (engine : PatchEngine) (dir : Dir) :
    List PatchSpec → Option Status × Dir
  | [] => (none, dir)
  | entry :: rest =>
    let r := applyEntry fmt engine dir entry
    let r' := runEntries fmt engine r.2 rest
    (r.1.or r'.1, r'.2)

/-- `patchClient.Patch`, with the entries run one after the other in the order
    of the schedule. -/
def patch (dir : Dir) (patches : PatchList)
    (schedule : Schedule patches.items) : Option Status × Dir :=
  runEntries fmt engine dir schedule.val

/-! ## What the operations do when they return nil -/

variable {fmt : PluginFormat} {engine : PatchEngine} {dir dir' : Dir} {entry : PatchSpec}

theorem patchedContents_eq_ok {new : Bytes} :
    patchedContents fmt engine {} dir entry = .ok new ↔
      ∃ old, dir.lookup entry.filename = some old ∧ fmt.digest old = entry.oldDigest ∧
        checkFormat entry.data = true ∧ engine.applyPatch old entry.data = some new ∧
        fmt.digest new = entry.newDigest := by
  cases hl : dir.lookup entry.filename with
  | none =>
    have hmem : entry.filename ∉ dir := AList.lookup_eq_none.mp hl
    simp [patchedContents, statFile, hmem, Except.mapError, bind, Except.bind]
  | some old =>
    have hmem : entry.filename ∈ dir := GoMap.mem_iff.mpr ⟨_, hl⟩
    simp only [patchedContents, statFile, readFile, hl, hmem, Except.mapError, bind,
      Except.bind, if_true]
    -- the checks in the order the code makes them
    by_cases hd : fmt.digest old = entry.oldDigest
    · cases hc : checkFormat entry.data
      · simp [hd, throw, throwThe, MonadExceptOf.throw]
      · cases ha : engine.applyPatch old entry.data with
        | none => simp [hd, ha, throw, throwThe, MonadExceptOf.throw]
        | some new' =>
          by_cases hn : fmt.digest new' = entry.newDigest
          · simp_all [pure, Except.pure]
            rintro rfl
            exact hn
          · simp_all [throw, throwThe, MonadExceptOf.throw]
            rintro rfl
            exact hn
    · simp [hd, throw, throwThe, MonadExceptOf.throw]

theorem doUpdate_eq_nil :
    doUpdate fmt engine {} dir entry = (none, dir') ↔
      ∃ old new, dir.lookup entry.filename = some old ∧ fmt.digest old = entry.oldDigest ∧
        checkFormat entry.data = true ∧ engine.applyPatch old entry.data = some new ∧
        fmt.digest new = entry.newDigest ∧ dir' = dir.insert entry.filename new := by
  cases hp : patchedContents fmt engine {} dir entry with
  | error e =>
    constructor
    · simp [doUpdate, hp]
    · rintro ⟨old, new, hl, hd, hc, ha, hn, -⟩
      rw [patchedContents_eq_ok.mpr ⟨old, hl, hd, hc, ha, hn⟩] at hp
      cases hp
  | ok new =>
    obtain ⟨old, hl, hd, hc, ha, hn⟩ := patchedContents_eq_ok.mp hp
    simp only [doUpdate, hp, Prod.mk.injEq, true_and]
    constructor
    · rintro rfl
      exact ⟨old, new, hl, hd, hc, ha, hn, rfl⟩
    · rintro ⟨old', new', hl', -, -, ha', -, rfl⟩
      rw [hl] at hl'
      cases hl'
      rw [ha] at ha'
      cases ha'
      rfl

theorem doRename_eq_nil :
    doRename dir entry = (none, dir') ↔
      stringOfBytes entry.data ∉ dir ∧ ∃ data, dir.lookup entry.filename = some data ∧
        dir' = (dir.erase entry.filename).insert (stringOfBytes entry.data) data := by
  unfold doRename
  by_cases hdest : stringOfBytes entry.data ∈ dir
  · simp [hdest]
  · cases hl : dir.lookup entry.filename with
    | none => simp [hdest]
    | some data => simp [hdest, eq_comm]

/-! ## Runs -/

theorem runEntries_cons_eq_nil {rest : List PatchSpec} :
    runEntries fmt engine dir (entry :: rest) = (none, dir') ↔
      ∃ mid, applyEntry fmt engine dir entry = (none, mid) ∧
        runEntries fmt engine mid rest = (none, dir') := by
  rw [runEntries]
  rcases hr : applyEntry fmt engine dir entry with ⟨err, mid⟩
  rcases hr' : runEntries fmt engine mid rest with ⟨err', last⟩
  cases err <;> simp [hr']

end Opni.Patch
