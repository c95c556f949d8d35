/-
  Opni.Patch.Sync

  Plugin sync as a whole: the patch list that `SyncPluginManifest` builds for
  an agent, run by `patchClient.Patch` against the agent's directory.
-/

import Opni.Patch.Client
import Opni.Patch.SyncProblem

namespace Opni.Patch

open Lib Function
open Lib.DirOps (Op State)
open PluginDir

/-! ## Directories and operations -/

variable (dir : Dir)

/-- A directory as the partial map from names to contents. -/
def view : State String Bytes := fun name => dir.lookup name

theorem view_insert (name : String) (data : Bytes) :
    view (dir.insert name data) = update (view dir) name (some data) := by
  funext n
  rw [update_apply]
  exact GoMap.lookup_insert_eq ..

theorem view_erase (name : String) :
    view (dir.erase name) = update (view dir) name none := by
  funext n
  rw [update_apply]
  exact GoMap.lookup_erase_eq ..

theorem notMem_iff_view {dir : Dir} {name : String} : name ∉ dir ↔ view dir name = none :=
  AList.lookup_eq_none.symm

variable (fmt : PluginFormat) (cached : List Bytes)

/-- The contents with a digest, among the cached plugins. -/
def contentsOf (digest : String) : Bytes :=
  (cached.find? fun c => fmt.digest c == digest).getD []

/-- The operation an entry of the patch list stands for. -/
def entryOp (entry : PatchSpec) : Op String Bytes :=
  match entry.op with
  | .create => .put entry.filename entry.data
  | .update => .replace entry.filename (contentsOf fmt cached entry.oldDigest)
      (contentsOf fmt cached entry.newDigest)
  | .rename => .move entry.filename (stringOfBytes entry.data)
  | .remove | .none => .delete entry.filename

/-- An entry filled in by the server: an update holds the patch between the
    cached plugins it names. -/
structure Filled (engine : PatchEngine) (cached : List Bytes)
    (entry : PatchSpec) : Prop where
  op_ne_none : entry.op ≠ .none
  old_digest : entry.op = .update →
    fmt.digest (contentsOf fmt cached entry.oldDigest) = entry.oldDigest
  new_digest : entry.op = .update →
    fmt.digest (contentsOf fmt cached entry.newDigest) = entry.newDigest
  patch_eq : entry.op = .update →
    entry.data = engine.generatePatch (contentsOf fmt cached entry.oldDigest)
      (contentsOf fmt cached entry.newDigest)

variable {fmt : PluginFormat} {engine : PatchEngine} {cached : List Bytes}

theorem doUpdate_refines {entry : PatchSpec} (hfill : Filled fmt engine cached entry)
    (hop : entry.op = .update) (dir : Dir) (σ : State String Bytes) :
    (∃ dir', doUpdate fmt engine {} dir entry = (none, dir') ∧ view dir' = σ) ↔
      view dir entry.filename = some (contentsOf fmt cached entry.oldDigest) ∧
        σ = update (view dir) entry.filename
          (some (contentsOf fmt cached entry.newDigest)) := by
  have hdata := hfill.patch_eq hop
  constructor
  · rintro ⟨dir', hnil, rfl⟩
    obtain ⟨old, new, hl, hold, -, -, hnew, rfl⟩ := doUpdate_eq_nil.mp hnil
    -- the digests that were checked determine the contents
    have hold' : old = contentsOf fmt cached entry.oldDigest :=
      fmt.digest_injective (hold.trans (hfill.old_digest hop).symm)
    have hnew' : new = contentsOf fmt cached entry.newDigest :=
      fmt.digest_injective (hnew.trans (hfill.new_digest hop).symm)
    rw [view_insert, ← hold', ← hnew']
    exact ⟨hl, rfl⟩
  · rintro ⟨hl, rfl⟩
    refine ⟨_, doUpdate_eq_nil.mpr ⟨_, _, hl, hfill.old_digest hop, ?_, ?_,
      hfill.new_digest hop, rfl⟩, view_insert _ _ _⟩
    · rw [hdata]
      exact engine.checkFormat_generate _ _
    · rw [hdata]
      exact engine.apply_generate _ _

theorem applyEntry_refines {entry : PatchSpec} (hfill : Filled fmt engine cached entry)
    (dir : Dir) (σ : State String Bytes) :
    (∃ dir', applyEntry fmt engine dir entry = (none, dir') ∧ view dir' = σ) ↔
      DirOps.step (entryOp fmt cached entry) (view dir) = some σ := by
  cases hop : entry.op with
  | none => exact absurd hop hfill.op_ne_none
  | create =>
    simp only [applyEntry, doCreate, entryOp, hop, DirOps.step, Prod.mk.injEq, true_and,
      exists_eq_left', view_insert, Option.some.injEq]
  | remove =>
    simp only [applyEntry, doRemove, entryOp, hop, DirOps.step, Prod.mk.injEq, true_and,
      exists_eq_left', view_erase, Option.some.injEq]
  | update =>
    simp only [applyEntry, entryOp, hop]
    rw [doUpdate_refines hfill hop, DirOps.step_replace_eq_some]
  | rename =>
    simp only [applyEntry, entryOp, hop]
    rw [DirOps.step_move_eq_some]
    constructor
    · rintro ⟨dir', hnil, rfl⟩
      obtain ⟨hdest, data, hl, rfl⟩ := doRename_eq_nil.mp hnil
      exact ⟨notMem_iff_view.mp hdest, data, hl, by rw [view_insert, view_erase]⟩
    · rintro ⟨hdest, data, hl, rfl⟩
      exact ⟨_, doRename_eq_nil.mpr ⟨notMem_iff_view.mpr hdest, data, hl, rfl⟩,
        by rw [view_insert, view_erase]⟩

theorem runEntries_refines {entries : List PatchSpec}
    (hfill : ∀ e ∈ entries, Filled fmt engine cached e) (dir : Dir) (σ : State String Bytes) :
    (∃ dir', runEntries fmt engine dir entries = (none, dir') ∧ view dir' = σ) ↔
      DirOps.run (entries.map (entryOp fmt cached)) (view dir) = some σ := by
  induction entries generalizing dir with
  | nil => simp [runEntries, DirOps.run]
  | cons e entries ih =>
    have hstep := applyEntry_refines (hfill e (by simp))
    have hrest := ih fun e' he' => hfill e' (by simp [he'])
    rw [List.map_cons, DirOps.run_cons_eq_some]
    constructor
    · rintro ⟨dir', hnil, rfl⟩
      obtain ⟨mid, he, hes⟩ := runEntries_cons_eq_nil.mp hnil
      exact ⟨view mid, (hstep dir _).mp ⟨mid, he, rfl⟩, (hrest mid).mp ⟨dir', hes, rfl⟩⟩
    · rintro ⟨τ, he, hes⟩
      obtain ⟨mid, he', rfl⟩ := (hstep dir τ).mpr he
      obtain ⟨dir', hes', hview⟩ := (hrest mid).mpr hes
      exact ⟨dir', runEntries_cons_eq_nil.mpr ⟨mid, he', hes'⟩, hview⟩

/-! ## One sync -/

/-- An agent and the gateway it syncs with.  The cache of the gateway holds its
    own plugins, and older ones. -/
structure SyncSite (fmt : PluginFormat) where
  gateway : PluginDir fmt
  agent : PluginDir fmt
  cached : List Bytes
  gateway_cached : ∀ {name data}, gateway.files.lookup name = some data → data ∈ cached

namespace SyncSite

variable (s : SyncSite fmt)

def problem : SyncProblem String Bytes (Option String) where
  agent := view s.agent.files
  gateway := view s.gateway.files
  module := fmt.readModule
  cached data := data ∈ s.cached
  agent_inj := s.agent.module_inj
  gateway_inj := s.gateway.module_inj

/-- `SyncPluginManifest` for the manifest the agent discovers. -/
def sync (engine : PatchEngine)
    (schedule : Schedule (leftJoinOn s.gateway.manifest s.agent.manifest).items) :
    Except Status PatchList :=
  syncPluginManifest (idealCache fmt engine s.cached) s.gateway.manifest s.agent.manifest schedule

variable {s}

variable {e entry : PatchSpec} {g a : PluginManifestEntry} {o : Op String Bytes}
  {data old new : Bytes} {f : String} {patches : PatchList} {dir : Dir}

theorem contentsOf_digest (h : data ∈ s.cached) :
    contentsOf fmt s.cached (fmt.digest data) = data := by
  rw [contentsOf, find?_digest fmt h, Option.getD_some]

/-- The entry the server sends in place of `entry`. -/
def Sends (s : SyncSite fmt) (engine : PatchEngine) (entry entry' : PatchSpec) : Prop :=
  syncEntry (idealCache fmt engine s.cached) entry = Except.ok entry'

/-! ## What one gateway plugin requires -/

theorem lookup_theirs {d : PluginDir fmt} {m : String} {e : PluginManifestEntry} :
    (GoMap.ofList PluginManifestEntry.getId id d.manifest.items).lookup m = some e ↔
      e ∈ d.manifest.items ∧ e.module = m := by
  rw [GoMap.lookup_ofList_eq_some manifest_module_nodup]
  constructor
  · rintro ⟨x, hx, hm, rfl⟩
    exact ⟨hx, hm⟩
  · rintro ⟨he, hm⟩
    exact ⟨e, he, hm, rfl⟩

theorem sends_create (hop : entry.op = .create)
    (hd : entry.newDigest = fmt.digest data) (hc : data ∈ s.cached) :
    s.Sends engine entry { entry with data := data } := by
  simp [Sends, syncEntry, hop, idealCache, hd, find?_digest fmt hc]
  rfl

theorem sends_update (s : SyncSite fmt) (engine : PatchEngine) (entry : PatchSpec)
    (hop : entry.op = .update)
    (hold : entry.oldDigest = fmt.digest old) (hnew : entry.newDigest = fmt.digest new)
    (hc : new ∈ s.cached) :
    (old ∈ s.cached → s.Sends engine entry { entry with data := engine.generatePatch old new }) ∧
    (old ∉ s.cached → s.Sends engine entry { entry with data := new, op := .create }) := by
  constructor
  · intro ho
    simp [Sends, syncEntry, hop, idealCache, hold, hnew, find?_digest fmt hc, find?_digest fmt ho]
    rfl
  · intro ho
    have hnone : s.cached.find? (fun c => fmt.digest c == fmt.digest old) = none := by
      rw [List.find?_eq_none]
      intro c hcm heq
      have : c = old := fmt.digest_injective (by simpa using heq)
      exact ho (this ▸ hcm)
    simp [Sends, syncEntry, hop, idealCache, hold, hnew, find?_digest fmt hc, hnone,
      CacheErr.isNotExist]
    rfl

theorem sends_changed (engine : PatchEngine)
    (hop : entry.op = .update) (hold : entry.oldDigest = fmt.digest old)
    (hnew : entry.newDigest = fmt.digest new) (hchg : s.problem.Changed f entry.filename old new) :
    ∃ e', s.Sends engine entry e' ∧ Filled fmt engine s.cached e' ∧
      s.problem.Required (entryOp fmt s.cached e') ∧
      (entryOp fmt s.cached e').Writes entry.filename := by
  have hcached : new ∈ s.cached := s.gateway_cached hchg.2.1
  obtain ⟨hpatch, hwhole⟩ := sends_update s engine entry hop hold hnew hcached
  by_cases hc : old ∈ s.cached
  · -- both plugins are cached: the digests name their contents
    have hold' : contentsOf fmt s.cached entry.oldDigest = old := by
      rw [hold, contentsOf_digest hc]
    have hnew' : contentsOf fmt s.cached entry.newDigest = new := by
      rw [hnew, contentsOf_digest hcached]
    refine ⟨_, hpatch hc, ⟨by simp [hop], fun _ => ?_, fun _ => ?_, fun _ => ?_⟩, ?_, ?_⟩
    · rw [hold', hold]
    · rw [hnew', hnew]
    · rw [hold', hnew']
    · simp only [entryOp, hop, hold', hnew']
      exact ⟨f, hchg, hc⟩
    · simp only [entryOp, hop]
      rfl
  · exact ⟨_, hwhole hc, ⟨by simp, by simp, by simp, by simp⟩, .inr ⟨f, old, hchg, hc⟩, rfl⟩

def forOurs (s : SyncSite fmt) (g : PluginManifestEntry) : Option PatchSpec :=
  joinOurs (GoMap.ofList PluginManifestEntry.getId id s.agent.manifest.items) g

def forTheirs (s : SyncSite fmt) (a : PluginManifestEntry) : Option PatchSpec :=
  joinTheirs (GoMap.ofList PluginManifestEntry.getId id s.gateway.manifest.items)
    (GoMap.ofList PluginManifestEntry.digest (fun _ => ()) s.gateway.manifest.items) a

/-- The first loop of the join asks for the operation that writes the plugin. -/
theorem joinOurs_some (engine : PatchEngine) (hg : g ∈ s.gateway.manifest.items)
    (h : s.forOurs g = some e) :
    ∃ e', s.Sends engine e e' ∧ Filled fmt engine s.cached e' ∧
      s.problem.Required (entryOp fmt s.cached e') ∧
      (entryOp fmt s.cached e').Writes g.filename := by
  obtain ⟨c, hl, hm, hd⟩ := mem_manifest.mp hg
  have hcached : c ∈ s.cached := s.gateway_cached hl
  revert h
  unfold forOurs
  fun_cases joinOurs with
  | case1 hnone =>
    -- the agent does not have the module
    rintro ⟨⟩
    refine ⟨_, sends_create rfl hd hcached, ⟨by simp, by simp, by simp, by simp⟩,
      .inl ⟨hl, ?_⟩, rfl⟩
    intro f' c' ha hmod
    obtain ⟨m, hm', hmem⟩ := exists_entry ha
    have hsame : m = g.getId := Option.some.inj (hm'.symm.trans (hmod.trans hm))
    rw [lookup_theirs.mpr ⟨hmem, hsame⟩] at hnone
    cases hnone
  | case2 a hsome hne =>
    -- the contents differ
    rintro ⟨⟩
    obtain ⟨ha, hmod⟩ := lookup_theirs.mp hsome
    obtain ⟨ca, hla, hma, hda⟩ := mem_manifest.mp ha
    have hmods : fmt.readModule ca = fmt.readModule c := by
      rw [hma, hm, hmod, PluginManifestEntry.getId]
    have hcne : ca ≠ c := by
      rintro rfl
      exact hne (hd.trans hda.symm)
    exact sends_changed engine rfl hda hd ⟨hla, hl, hmods, hcne⟩
  | case3 a hsome heq hname =>
    -- only the name differs
    rintro ⟨⟩
    obtain ⟨ca, hla, -, hda⟩ := mem_manifest.mp (lookup_theirs.mp hsome).1
    have hcc : ca = c := fmt.digest_injective (by rw [← hda, ← hd, not_not.mp heq])
    subst hcc
    refine ⟨_, rfl, ⟨by simp, by simp, by simp, by simp⟩, ?_, ?_⟩
    · simp only [entryOp, stringOfBytes_bytesOfString]
      exact ⟨Ne.symm hname, ca, hla, hl⟩
    · simp only [entryOp, stringOfBytes_bytesOfString]
      rfl
  | case4 => exact nofun

theorem joinOurs_none (hg : g ∈ s.gateway.manifest.items)
    (h : s.forOurs g = none) (ho : s.problem.Required o) : ¬ o.Writes g.filename := by
  obtain ⟨c, hl, hm, hd⟩ := mem_manifest.mp hg
  revert h
  unfold forOurs
  fun_cases joinOurs with
  | case4 a hsome hdigest hname =>
    intro _
    obtain ⟨ca, hla, -, hda⟩ := mem_manifest.mp (lookup_theirs.mp hsome).1
    have hcc : ca = c := fmt.digest_injective (by rw [← hda, ← hd, not_not.mp hdigest])
    subst hcc
    rw [← not_not.mp hname] at hla
    exact SyncProblem.not_written_of_kept (s := s.problem) hla hl ho
  | _ => exact nofun

/-! ## What one agent plugin requires -/

theorem joinTheirs_some (engine : PatchEngine) (ha : a ∈ s.agent.manifest.items)
    (h : s.forTheirs a = some e) :
    s.Sends engine e e ∧ Filled fmt engine s.cached e ∧
      entryOp fmt s.cached e = .delete a.filename ∧ s.problem.Dropped a.filename := by
  obtain ⟨c, hl, hm, hd⟩ := mem_manifest.mp ha
  revert h
  unfold forTheirs
  fun_cases joinTheirs with
  | case3 hmod =>
    rintro ⟨⟩
    refine ⟨rfl, ⟨by simp, by simp, by simp, by simp⟩, rfl, c, hl, ?_⟩
    intro f c' hg heq
    obtain ⟨m, hm', hmem⟩ := exists_entry hg
    refine hmod (GoMap.mem_ofList.mpr ⟨_, hmem, ?_⟩)
    exact Option.some.inj (hm'.symm.trans (heq.trans hm))
  | _ => exact nofun

theorem joinTheirs_none (ha : a ∈ s.agent.manifest.items) (h : s.forTheirs a = none) :
    ¬ s.problem.Dropped a.filename := by
  obtain ⟨c, hl, hm, hd⟩ := mem_manifest.mp ha
  rintro ⟨c', hl', hno⟩
  cases hl.symm.trans hl'
  revert h
  unfold forTheirs
  fun_cases joinTheirs with
  | case1 hmod =>
    -- the module is on the gateway
    intro _
    obtain ⟨g, hg, hid⟩ := GoMap.mem_ofList.mp hmod
    obtain ⟨cg, hlg, hmg, -⟩ := mem_manifest.mp hg
    exact hno _ _ hlg (hmg.trans ((congrArg some hid).trans hm.symm))
  | case2 _ hdig =>
    -- the contents are on the gateway
    intro _
    obtain ⟨g, hg, hid⟩ := GoMap.mem_ofList.mp hdig
    obtain ⟨cg, hlg, -, hdg⟩ := mem_manifest.mp hg
    have hcc : cg = c := fmt.digest_injective (hdg.symm.trans (hid.trans hd))
    exact hno _ _ hlg (by rw [hcc])
  | case3 => exact nofun

/-! ## The patch list -/

theorem validate_manifest (d : PluginDir fmt) : d.manifest.validate = .ok () := by
  have hentry : ∀ e ∈ d.manifest.items, e.validate = .ok () := by
    intro e he
    obtain ⟨data, hl, hm, hd⟩ := mem_manifest.mp he
    have hname : e.filename ≠ "" := by
      intro hempty
      have hglob := d.glob_of_mem hl
      rw [hempty] at hglob
      cases hglob
    have hmod : e.module ≠ "" := fun hempty => fmt.readModule_ne_empty data (hempty ▸ hm)
    have hdig : e.digest ≠ "" := hd ▸ fmt.digest_ne_empty data
    simp [PluginManifestEntry.validate, hname, hmod, hdig]
  unfold PluginManifest.validate
  generalize d.manifest.items = items at hentry
  induction items with
  | nil => rfl
  | cons e items ih =>
    have hrest := ih fun e' he' => hentry e' (by simp [he'])
    rw [List.forM_eq_forM, List.forM_cons, hentry e (by simp)]
    exact hrest

theorem syncEntries_eq {fill : PatchSpec → PatchSpec} {entries : List PatchSpec}
    (h : ∀ e ∈ entries, s.Sends engine e (fill e)) :
    syncEntries (idealCache fmt engine s.cached) entries = (none, entries.map fill) := by
  induction entries with
  | nil => rfl
  | cons e entries ih =>
    have he : syncEntry (idealCache fmt engine s.cached) e = Except.ok (fill e) :=
      h e (by simp)
    have hes := ih fun e' he' => h e' (by simp [he'])
    simp only [syncEntries, bind, he, hes]
    rfl

def opFile : Op String Bytes → String
  | .put f _ | .replace f _ _ | .move _ f | .delete f => f

theorem opFile_of_writes (h : o.Writes f) : opFile o = f := by
  cases o <;> first | exact h | exact h.elim

/-- What the server sends for an entry, which is the entry itself on an error. -/
def fill (s : SyncSite fmt) (engine : PatchEngine) (entry : PatchSpec) : PatchSpec :=
  match (syncEntry (idealCache fmt engine s.cached) entry : Except Status PatchSpec) with
  | .ok entry' => entry'
  | .error _ => entry

theorem fill_eq {entry' : PatchSpec} (h : s.Sends engine entry entry') :
    s.fill engine entry = entry' := by
  have hsync : syncEntry (idealCache fmt engine s.cached) entry = Except.ok entry' := h
  simp only [fill, hsync]

/-- The entries of the two loops of the join. -/
abbrev joined (s : SyncSite fmt) : List PatchSpec :=
  s.gateway.manifest.items.filterMap s.forOurs ++ s.agent.manifest.items.filterMap s.forTheirs

variable (engine)

theorem fill_forOurs (hg : g ∈ s.gateway.manifest.items) (he : s.forOurs g = some e) :
    s.Sends engine e (s.fill engine e) ∧ Filled fmt engine s.cached (s.fill engine e) ∧
      s.problem.Required (entryOp fmt s.cached (s.fill engine e)) ∧
      (entryOp fmt s.cached (s.fill engine e)).Writes g.filename := by
  obtain ⟨e', hsend, hrest⟩ := joinOurs_some engine hg he
  rw [fill_eq hsend]
  exact ⟨hsend, hrest⟩

theorem fill_forTheirs (ha : a ∈ s.agent.manifest.items) (he : s.forTheirs a = some e) :
    s.Sends engine e (s.fill engine e) ∧ Filled fmt engine s.cached (s.fill engine e) ∧
      s.problem.Required (entryOp fmt s.cached (s.fill engine e)) ∧
      entryOp fmt s.cached (s.fill engine e) = .delete a.filename := by
  obtain ⟨hsend, hfilled, hop, hdrop⟩ := joinTheirs_some engine ha he
  rw [fill_eq hsend, hop]
  exact ⟨hsend, hfilled, hdrop, rfl⟩

theorem fill_of_mem (he : e ∈ s.joined) :
    s.Sends engine e (s.fill engine e) ∧ Filled fmt engine s.cached (s.fill engine e) ∧
      s.problem.Required (entryOp fmt s.cached (s.fill engine e)) := by
  rcases List.mem_append.mp he with he | he
  · obtain ⟨g, hg, hge⟩ := List.mem_filterMap.mp he
    obtain ⟨h₁, h₂, h₃, -⟩ := fill_forOurs engine hg hge
    exact ⟨h₁, h₂, h₃⟩
  · obtain ⟨a, ha, hae⟩ := List.mem_filterMap.mp he
    obtain ⟨h₁, h₂, h₃, -⟩ := fill_forTheirs engine ha hae
    exact ⟨h₁, h₂, h₃⟩

theorem nodup_ops : (s.joined.map fun e => entryOp fmt s.cached (s.fill engine e)).Nodup := by
  rw [List.map_append, List.nodup_append]
  refine ⟨?_, ?_, ?_⟩
  · -- each gateway plugin is written under its own name
    refine List.Nodup.of_map opFile ?_
    rw [List.map_map]
    refine List.Nodup.sublist (map_filterMap_sublist ?_)
      (manifest_filename_nodup (d := s.gateway))
    intro g hg e he
    exact opFile_of_writes (fill_forOurs engine hg he).2.2.2
  · refine List.Nodup.of_map opFile ?_
    rw [List.map_map]
    refine List.Nodup.sublist (map_filterMap_sublist ?_)
      (manifest_filename_nodup (d := s.agent))
    intro a ha e he
    rw [comp_apply, (fill_forTheirs engine ha he).2.2.2]
    rfl
  · intro o ho o' ho' heq
    obtain ⟨e, he, rfl⟩ := List.mem_map.mp ho
    obtain ⟨e', he', rfl⟩ := List.mem_map.mp ho'
    obtain ⟨g, hg, hge⟩ := List.mem_filterMap.mp he
    obtain ⟨a, ha, hae⟩ := List.mem_filterMap.mp he'
    have hw := (fill_forOurs engine hg hge).2.2.2
    rw [heq, (fill_forTheirs engine ha hae).2.2.2] at hw
    exact hw

/-- Nothing that is required is left out by the join. -/
theorem mem_ops_of_required (ho : s.problem.Required o) :
    o ∈ s.joined.map fun e => entryOp fmt s.cached (s.fill engine e) := by
  rw [List.map_append, List.mem_append]
  by_cases hw : ∃ f, o.Writes f
  · -- the operation the join asks for writes the same file
    obtain ⟨f, hw⟩ := hw
    obtain ⟨c, hc⟩ := Option.ne_none_iff_exists'.mp (SyncProblem.gateway_of_writes ho hw)
    obtain ⟨m, -, hmem⟩ := exists_entry hc
    refine .inl ?_
    cases hj : s.forOurs ⟨m, f, fmt.digest c⟩ with
    | none => exact absurd hw (joinOurs_none hmem hj ho)
    | some e =>
      obtain ⟨-, -, hreq, hw'⟩ := fill_forOurs engine hmem hj
      rw [SyncProblem.writer_unique ho hreq hw hw']
      exact List.mem_map_of_mem (List.mem_filterMap.mpr ⟨_, hmem, hj⟩)
  · cases o with
    | put f c | replace f old new => exact absurd ⟨f, rfl⟩ hw
    | move src dst => exact absurd ⟨dst, rfl⟩ hw
    | delete f =>
      obtain ⟨c, hc, hno⟩ := id ho
      obtain ⟨m, -, hmem⟩ := exists_entry hc
      refine .inr ?_
      cases hj : s.forTheirs ⟨m, f, fmt.digest c⟩ with
      | none => exact absurd ho (joinTheirs_none hmem hj)
      | some e =>
        rw [← (fill_forTheirs engine hmem hj).2.2.2]
        exact List.mem_map_of_mem (List.mem_filterMap.mpr ⟨_, hmem, hj⟩)

variable {engine}

theorem exists_required (s : SyncSite fmt) (engine : PatchEngine)
    (schedule : Schedule (leftJoinOn s.gateway.manifest s.agent.manifest).items) :
    ∃ patches, s.sync engine schedule = .ok patches ∧
      (∀ e ∈ patches.items, Filled fmt engine s.cached e) ∧
      (patches.items.map (entryOp fmt s.cached)).Nodup ∧
      ∀ o, o ∈ patches.items.map (entryOp fmt s.cached) ↔ s.problem.Required o := by
  have hperm : schedule.val.Perm s.joined := schedule.property.trans (sortFunc_perm _ _)
  have hsends : ∀ e ∈ schedule.val, s.Sends engine e (s.fill engine e) := fun e he =>
    (fill_of_mem engine (hperm.mem_iff.mp he)).1
  refine ⟨⟨schedule.val.map (s.fill engine)⟩, ?_, ?_, ?_, ?_⟩
  · simp only [sync, syncPluginManifest, validate_manifest, syncEntries_eq hsends]
    rfl
  · intro e' he'
    obtain ⟨e, he, rfl⟩ := List.mem_map.mp he'
    exact (fill_of_mem engine (hperm.mem_iff.mp he)).2.1
  · rw [List.map_map]
    exact ((hperm.map _).nodup_iff).mpr (nodup_ops engine)
  · intro o
    rw [List.map_map, (hperm.map _).mem_iff]
    constructor
    · intro ho
      obtain ⟨e, he, rfl⟩ := List.mem_map.mp ho
      exact (fill_of_mem engine he).2.2
    · exact mem_ops_of_required engine

/-! ## Progress and convergence -/

section

variable (hfilled : ∀ e ∈ patches.items, Filled fmt engine s.cached e)

include hfilled

theorem run_of_patch (order : Schedule patches.items)
    (hnil : (patch fmt engine dir patches order).1 = none) :
    DirOps.run (order.val.map (entryOp fmt s.cached)) (view dir) =
      some (view (patch fmt engine dir patches order).2) := by
  have hfilled' : ∀ e ∈ order.val, Filled fmt engine s.cached e := fun e he =>
    hfilled e (order.property.mem_iff.mp he)
  exact (runEntries_refines hfilled' dir _).mp ⟨_, Prod.ext hnil rfl, rfl⟩

theorem exists_patch_of_run {ops : List (Op String Bytes)}
    (hperm : ops.Perm (patches.items.map (entryOp fmt s.cached))) {σ' : State String Bytes}
    (hrun : DirOps.run ops (view dir) = some σ') :
    ∃ order : Schedule patches.items, ∃ dir',
      patch fmt engine dir patches order = (none, dir') ∧ view dir' = σ' := by
  obtain ⟨order, horder, rfl⟩ := exists_perm_of_perm_map hperm
  have hfilled' : ∀ e ∈ order, Filled fmt engine s.cached e := fun e he =>
    hfilled e (horder.mem_iff.mp he)
  exact ⟨⟨order, horder⟩, (runEntries_refines hfilled' dir σ').mpr hrun⟩

end

variable (s : SyncSite fmt)

/-- Sync makes progress exactly on feasible pairs: some order of the patch list
    is accepted by the client.  On the others every order ends with an error,
    the agent retries with the same directory, and the retry is the same. -/
theorem exists_patch_order_iff_feasible (engine : PatchEngine)
    (schedule : Schedule (leftJoinOn s.gateway.manifest s.agent.manifest).items) :
    ∃ patches, s.sync engine schedule = .ok patches ∧
      ((∃ order : Schedule patches.items,
          (patch fmt engine s.agent.files patches order).1 = none) ↔ s.problem.Feasible) := by
  obtain ⟨patches, hsync, hfilled, hnd, hreq⟩ := exists_required s engine schedule
  refine ⟨patches, hsync, ?_⟩
  rw [← SyncProblem.exists_run_iff_feasible hreq hnd]
  constructor
  · rintro ⟨order, hnil⟩
    exact ⟨order.val.map (entryOp fmt s.cached), order.property.map _, _,
      run_of_patch hfilled order hnil⟩
  · rintro ⟨ops, hperm, σ', hrun⟩
    obtain ⟨order, dir', hnil, -⟩ := exists_patch_of_run hfilled hperm hrun
    exact ⟨order, by rw [hnil]⟩

/-- Sync converges in every order exactly when the pair is clean, or no order
    succeeds at all. -/
theorem patch_converges_iff (engine : PatchEngine)
    (schedule : Schedule (leftJoinOn s.gateway.manifest s.agent.manifest).items) :
    ∃ patches, s.sync engine schedule = .ok patches ∧
      ((∀ order : Schedule patches.items,
          (patch fmt engine s.agent.files patches order).1 = none →
          ∀ e, e ∈ (getFilesystemPlugins fmt
              (patch fmt engine s.agent.files patches order).2).toManifest.items ↔
            e ∈ s.gateway.manifest.items) ↔
        (s.problem.Feasible → s.problem.Clean)) := by
  obtain ⟨patches, hsync, hfilled, hnd, hreq⟩ := exists_required s engine schedule
  refine ⟨patches, hsync, ?_⟩
  constructor
  · intro hall hfeasible
    by_contra hclean
    obtain ⟨ops, hperm, σ', hrun, f, hbad⟩ := SyncProblem.exists_bad_run hfeasible hclean hreq hnd
    obtain ⟨order, dir', hnil, rfl⟩ := exists_patch_of_run hfilled hperm hrun
    have hsame := hall order (by rw [hnil])
    rw [hnil] at hsame
    rcases hbad with ⟨hnone, hg⟩ | ⟨hg, hkept, ha⟩
    · -- a plugin of the gateway is missing
      obtain ⟨c, hc⟩ := Option.ne_none_iff_exists'.mp hg
      obtain ⟨m, -, hmem⟩ := exists_entry hc
      obtain ⟨data, hl, -⟩ := mem_toManifest.mp ((hsame _).mpr hmem)
      rw [show AList.lookup f dir' = none from hnone] at hl
      cases hl
    · -- a plugin of the agent is left over
      obtain ⟨c, hc⟩ := Option.ne_none_iff_exists'.mp ha
      obtain ⟨m, hm, -⟩ := exists_entry hc
      have hmem := (hsame ⟨m, f, fmt.digest c⟩).mp
        (mem_toManifest.mpr ⟨c, hkept.trans hc, s.agent.glob_of_mem hc, hm, rfl⟩)
      obtain ⟨data, hl, -⟩ := mem_manifest.mp hmem
      rw [show AList.lookup f s.gateway.files = none from hg] at hl
      cases hl
  · intro hclean order hnil e
    have hrun := run_of_patch hfilled order hnil
    have hperm := order.property.map (entryOp fmt s.cached)
    -- the order is itself the evidence that the pair is feasible
    have hfeasible : s.problem.Feasible :=
      (SyncProblem.exists_run_iff_feasible hreq hnd).mp ⟨_, hperm, _, hrun⟩
    have hview := SyncProblem.run_eq_gateway hfeasible (hclean hfeasible)
      (fun o => hperm.mem_iff.trans (hreq o)) (hperm.nodup_iff.mpr hnd) hrun
    have hlookup : ∀ name, (patch fmt engine s.agent.files patches order).2.lookup name =
        s.gateway.files.lookup name := fun name => congrFun hview name
    rw [manifest, mem_toManifest, mem_toManifest, hlookup]

end SyncSite

/-! ## Syncs that go wrong -/

/-- Another module takes over the file name of the agent's plugin. -/
def replacedSite : SyncSite byteFormat where
  gateway := .single "plugin_data" [1] (by decide) (by decide)
  agent := .single "plugin_data" [0] (by decide) (by decide)
  cached := [[1]]
  gateway_cached h := by
    rw [(GoMap.lookup_singleton_eq_some.mp h).2]
    exact List.mem_singleton_self _

/-- The new plugin is written before the old one is removed: both operations
    succeed, and the directory ends up empty. -/
theorem created_plugin_is_removed :
    ∃ schedule patches, replacedSite.sync copyEngine schedule = .ok patches ∧
      ∃ order : Schedule patches.items,
        (patch byteFormat copyEngine replacedSite.agent.files patches order).1 = none ∧
        (getFilesystemPlugins byteFormat (patch byteFormat copyEngine
          replacedSite.agent.files patches order).2).toManifest.items = [] ∧
        replacedSite.gateway.manifest.items =
          [{ module := "logging", filename := "plugin_data", digest := byteFormat.digest [1] }] :=
  ⟨⟨_, List.Perm.refl _⟩, _, rfl, ⟨_, List.Perm.refl _⟩, by decide, by decide, by decide⟩

/-- A plugin with new contents under a new name, whose old contents are cached. -/
def movedSite : SyncSite byteFormat where
  gateway := .single "plugin_data_v2" [0, 2] (by decide) (by decide)
  agent := .single "plugin_data" [0, 1] (by decide) (by decide)
  cached := [[0, 1], [0, 2]]
  gateway_cached h := by
    rw [(GoMap.lookup_singleton_eq_some.mp h).2]
    exact .tail _ (List.mem_singleton_self _)

/-- The patch the server sends for `movedSite`, under the new name. -/
def movedPatch : PatchSpec :=
  { op := .update, module := "metrics", oldDigest := byteFormat.digest [0, 1],
    newDigest := byteFormat.digest [0, 2], filename := "plugin_data_v2",
    data := copyEngine.generatePatch [0, 1] [0, 2] }

/-- The patch list is the update of a file that does not exist: its only order
    fails, with the code on which the agent retries. -/
theorem moved_plugin_is_never_patched :
    (∃ schedule, movedSite.sync copyEngine schedule = .ok ⟨[movedPatch]⟩) ∧
      ∀ order : Schedule [movedPatch],
        (patch byteFormat copyEngine movedSite.agent.files ⟨[movedPatch]⟩ order).1 =
          some ⟨.unavailable,
            "failed to stat plugin plugin_data_v2: no such file or directory"⟩ := by
  refine ⟨⟨⟨_, List.Perm.refl _⟩, rfl⟩, ?_⟩
  intro order
  rw [patch, List.perm_singleton.mp order.property]
  decide

end Opni.Patch
