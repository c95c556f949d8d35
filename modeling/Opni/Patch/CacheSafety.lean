/-
  Opni.Patch.CacheSafety

  What a sync request may do to the plugin cache.  The digests that an agent
  sends become paths and patterns, and `cleanHash` removes what they name.
-/

import Opni.Patch.FilesystemCache

namespace Opni.Patch

open Lib

/-! ## Removing files -/

namespace Fs

variable {fs : Fs} {p q : Path} {data : Bytes} {fs' : Fs} {ps : List Path}

theorem lookup_remove_of_ne (h : q ≠ p) : (fs.remove p).lookup q = fs.lookup q := by
  unfold remove
  split
  · split
    · exact AList.lookup_erase_ne h
    · rfl
  · exact AList.lookup_erase_ne h

theorem lookup_remove (fs : Fs) (p q : Path) :
    (fs.remove p).lookup q = fs.lookup q ∨ (fs.remove p).lookup q = none := by
  by_cases h : q = p
  · subst h
    unfold remove
    split
    · split
      · exact .inr (AList.lookup_erase q fs)
      · exact .inl rfl
    · exact .inr (AList.lookup_erase q fs)
  · exact .inl (lookup_remove_of_ne h)

/-- The second file system lost some paths of the first, and nothing else. -/
def Shrinks (fs fs' : Fs) : Prop := ∀ p, fs'.lookup p = fs.lookup p ∨ fs'.lookup p = none

theorem Shrinks.refl (fs : Fs) : fs.Shrinks fs := fun _ => .inl rfl

theorem Shrinks.trans {fs₁ fs₂ fs₃ : Fs} (h : fs₁.Shrinks fs₂) (h' : fs₂.Shrinks fs₃) :
    fs₁.Shrinks fs₃ := by
  intro p
  rcases h' p with h₃ | h₃
  · rw [h₃]
    exact h p
  · exact .inr h₃

theorem Shrinks.lookup_eq (h : fs.Shrinks fs') {n : Node} (hp : fs'.lookup p = some n) :
    fs.lookup p = some n := by
  rcases h p with heq | hnone
  · rw [← heq, hp]
  · rw [hnone] at hp
    cases hp

theorem Shrinks.lookup_none (h : fs.Shrinks fs') (hp : fs.lookup p = none) :
    fs'.lookup p = none := by
  rcases h p with heq | hnone
  · rw [heq, hp]
  · exact hnone

theorem shrinks_remove (fs : Fs) (p : Path) : fs.Shrinks (fs.remove p) := lookup_remove fs p

theorem shrinks_removeAll (fs : Fs) (ps : List Path) : fs.Shrinks (ps.foldl remove fs) := by
  induction ps generalizing fs with
  | nil => exact Shrinks.refl fs
  | cons p ps ih => exact (shrinks_remove fs p).trans (ih (fs.remove p))

theorem lookup_removeAll_of_notMem (h : q ∉ ps) : (ps.foldl remove fs).lookup q = fs.lookup q := by
  induction ps generalizing fs with
  | nil => rfl
  | cons p ps ih =>
    have hne : q ≠ p := fun heq => h (heq ▸ .head _)
    rw [List.foldl_cons, ih fun hq => h (.tail _ hq), lookup_remove_of_ne hne]

theorem lookup_removeAll_file (h : q ∈ ps) (hq : fs.lookup q = some (.file data)) :
    (ps.foldl remove fs).lookup q = none := by
  induction ps generalizing fs with
  | nil => cases h
  | cons p ps ih =>
    by_cases hpq : q = p
    · subst hpq
      refine (shrinks_removeAll _ ps).lookup_none ?_
      rw [remove, hq]
      exact AList.lookup_erase q _
    · exact ih ((List.mem_cons.mp h).resolve_left hpq) (by rw [lookup_remove_of_ne hpq, hq])

end Fs

/-! ## Paths of the cache -/

namespace CacheEnv

variable {env : CacheEnv} {fs fs' : Fs}

variable {name hash old new name' d : String} {p : Path} {entry : PatchSpec} {m : Matcher}
  {ps : List Path} {enc data : Bytes} {fs₁ fs₂ fs₃ : Fs} {outcome : WriteOutcome}

section

variable (h : PlainName name)

include h

theorem path_plugins :
    env.path "plugins" name = ⟨(cleanPath env.dir).rooted,
      (cleanPath env.dir).comps ++ ["plugins", name]⟩ :=
  joinPath_plain (by decide) h

theorem path_patches :
    env.path "patches" name = ⟨(cleanPath env.dir).rooted,
      (cleanPath env.dir).comps ++ ["patches", name]⟩ :=
  joinPath_plain (by decide) h

theorem path_patches_ne_plugins
    (h' : PlainName name') : env.path "patches" name ≠ env.path "plugins" name' := by
  rw [path_plugins h', path_patches h]
  simp

end

/-! ## Globs below a fixed directory -/

theorem comps_of_mem_globDir {pattern : String} {dir : Path}
    (h : globDir m fs pattern dir = some ps) (hp : p ∈ ps) : ∃ n, p.comps = dir.comps ++ [n] := by
  unfold globDir at h
  split at h
  · obtain ⟨names, -, hps⟩ := Option.bind_eq_some_iff.mp h
    cases hps
    obtain ⟨n, -, rfl⟩ := List.mem_map.mp hp
    exact ⟨n, rfl⟩
  · cases h
    cases hp

theorem comps_of_mem_glob {rooted : Bool} {parent : List String}
    (hlit : ∀ c ∈ parent, m.hasMeta c = false)
    (h : glob m fs ⟨rooted, parent ++ [name]⟩ = some ps) (hp : p ∈ ps) :
    ∃ n, p.comps = parent ++ [n] := by
  have hrest : parent.reverse.any m.hasMeta = false := by
    rw [List.any_eq_false]
    intro c hc
    simp [hlit c (List.mem_reverse.mp hc)]
  rw [glob, List.reverse_append, List.reverse_singleton, List.singleton_append, globComps] at h
  simp only [hrest, Bool.false_eq_true, if_false] at h
  split at h
  · -- the last component is a pattern for the names of the parent
    obtain ⟨dirs, hdirs, h⟩ := Option.bind_eq_some_iff.mp h
    cases hdirs
    obtain ⟨found, hfound, h⟩ := Option.bind_eq_some_iff.mp h
    cases h
    rw [List.mapM_cons, List.mapM_nil] at hfound
    obtain ⟨ps', hps', hfound⟩ := Option.bind_eq_some_iff.mp hfound
    cases hfound
    rw [List.flatten_cons, List.flatten_nil, List.append_nil] at hp
    obtain ⟨n, hn⟩ := comps_of_mem_globDir hps' hp
    rw [List.reverse_reverse] at hn
    exact ⟨n, hn⟩
  · -- without magic characters the pattern is the path itself
    split at h
    · cases h
      rw [List.mem_singleton.mp hp]
      exact ⟨name, by simp⟩
    · cases h
      cases hp

theorem comps_of_mem_patchGlob (hname : PlainName name)
    (hp : p ∈ (glob env.matcher fs (env.path "patches" name)).getD []) :
    ∃ n, p.comps = (cleanPath env.dir).comps ++ ["patches", n] := by
  cases hg : glob env.matcher fs (env.path "patches" name) with
  | none =>
    rw [hg] at hp
    cases hp
  | some ps =>
    rw [hg] at hp
    rw [path_patches hname, show (cleanPath env.dir).comps ++ ["patches", name] =
      ((cleanPath env.dir).comps ++ ["patches"]) ++ [name] by simp] at hg
    obtain ⟨n, hn⟩ := comps_of_mem_glob env.dir_literal hg hp
    exact ⟨n, by rw [hn]; simp⟩

/-! ## Intact objects -/

/-- The object named `d` has the contents `enc`, which decode to a plugin with
    that digest. -/
structure Intact (env : CacheEnv) (fs : Fs) (d : String) (enc : Bytes) : Prop where
  lookup : fs.lookup (env.path "plugins" d) = some (.file enc)
  digest : ∃ data, env.codec.decode enc = some data ∧ env.fmt.digest data = d

theorem Intact.isHex (h : env.Intact fs d enc) : IsHex d := by
  obtain ⟨data, -, rfl⟩ := h.digest
  exact env.fmt.isHex_digest data

/-- Every intact object of the first file system is in the second, unchanged. -/
def Preserves (env : CacheEnv) (fs fs' : Fs) : Prop :=
  ∀ d enc, env.Intact fs d enc → fs'.lookup (env.path "plugins" d) = some (.file enc)

theorem Preserves.refl (env : CacheEnv) (fs : Fs) : env.Preserves fs fs := fun _ _ h => h.lookup

theorem Preserves.trans (h : env.Preserves fs₁ fs₂)
    (h' : env.Preserves fs₂ fs₃) : env.Preserves fs₁ fs₃ := fun d enc hi =>
  h' d enc ⟨h d enc hi, hi.digest⟩

/-- `GetPlugin` finds other contents than those asked for. -/
def Mismatch (env : CacheEnv) (fs : Fs) (hash : String) : Prop :=
  ∃ enc data, fs.lookup (env.path "plugins" hash) = some (.file enc) ∧
    env.codec.decode enc = some data ∧ env.fmt.digest data ≠ hash

/-- `GetPlugin` finds other contents than those asked for, and among the paths
    it cleans is that of an intact object. -/
def Hits (env : CacheEnv) (fs : Fs) (hash : String) : Prop :=
  env.Mismatch fs hash ∧
    ∃ d enc, env.Intact fs d enc ∧ env.path "plugins" d ∈ env.cleaned hash fs

/-! ## GetPlugin -/

section

variable (env : CacheEnv)

/-- What `GetPlugin` does: it cleans on a mismatch and changes nothing otherwise,
    and it returns the contents with the digest it was asked for. -/
theorem getPlugin_cases (hash : String) (fs : Fs) :
    (env.Mismatch fs hash ∧ env.getPlugin hash fs = (.error .corrupted, env.cleanHash fs hash)) ∨
    (¬ env.Mismatch fs hash ∧ ∃ r, env.getPlugin hash fs = (r, fs) ∧
      ∀ data, r = .ok data → env.fmt.digest data = hash) := by
  cases hl : fs.lookup (env.path "plugins" hash) with
  | none =>
    exact .inr ⟨by simp [Mismatch, hl], _, by simp only [getPlugin, Fs.read, hl]; rfl, by simp⟩
  | some n =>
    cases n with
    | dir =>
      exact .inr ⟨by simp [Mismatch, hl], _, by simp only [getPlugin, Fs.read, hl]; rfl, by simp⟩
    | file enc =>
      cases hd : env.codec.decode enc with
      | none =>
        exact .inr ⟨by simp [Mismatch, hl, hd], _,
          by simp only [getPlugin, Fs.read, hl, hd]; rfl, by simp⟩
      | some data =>
        by_cases heq : env.fmt.digest data = hash
        · exact .inr ⟨by simp [Mismatch, hl, hd, heq], .ok data,
            by simp [getPlugin, Fs.read, hl, hd, heq], by simp [heq]⟩
        · refine .inl ⟨⟨enc, data, hl, hd, heq⟩, ?_⟩
          simp [getPlugin, Fs.read, hl, hd, heq, clean]

theorem cleanHash_shrinks (fs : Fs) (hash : String) : fs.Shrinks (env.cleanHash fs hash) :=
  Fs.shrinks_removeAll fs _

theorem getPlugin_shrinks (hash : String) (fs : Fs) : fs.Shrinks (env.getPlugin hash fs).2 := by
  rcases getPlugin_cases env hash fs with ⟨-, h⟩ | ⟨-, r, h, -⟩
  · simp only [h]
    exact cleanHash_shrinks env fs hash
  · simp only [h]
    exact Fs.Shrinks.refl fs

end

theorem getPlugin_ok (h : (env.getPlugin hash fs).1 = .ok data) :
    env.fmt.digest data = hash ∧ (env.getPlugin hash fs).2 = fs := by
  rcases getPlugin_cases env hash fs with ⟨-, h'⟩ | ⟨-, r, h', hr⟩
  · rw [h'] at h
    cases h
  · rw [h'] at h ⊢
    exact ⟨hr data h, rfl⟩

theorem not_mismatch_getPlugin (env : CacheEnv) (hash : String) (fs : Fs) :
    ¬ env.Mismatch (env.getPlugin hash fs).2 hash := by
  rcases getPlugin_cases env hash fs with ⟨hm, h⟩ | ⟨hm, r, h, -⟩
  · simp only [h]
    obtain ⟨enc, data, hl, -⟩ := hm
    rintro ⟨enc', data', hl', -⟩
    have hgone : (env.cleanHash fs hash).lookup (env.path "plugins" hash) = none :=
      Fs.lookup_removeAll_file (.head _) hl
    rw [hgone] at hl'
    cases hl'
  · simp only [h]
    exact hm

theorem getPlugin_preserves (h : ¬ env.Hits fs hash) :
    env.Preserves fs (env.getPlugin hash fs).2 := by
  rcases getPlugin_cases env hash fs with ⟨hm, h'⟩ | ⟨-, r, h', -⟩
  · simp only [h']
    intro d enc hi
    have hnot : env.path "plugins" d ∉ env.cleaned hash fs := fun hmem =>
      h ⟨hm, d, enc, hi, hmem⟩
    rw [cleanHash, Fs.lookup_removeAll_of_notMem hnot]
    exact hi.lookup
  · simp only [h']
    exact Preserves.refl env fs

theorem getPlugin_of_hits (h : env.Hits fs hash) :
    (env.getPlugin hash fs).1 = .error .corrupted ∧
      ∃ d enc, env.Intact fs d enc ∧
        (env.getPlugin hash fs).2.lookup (env.path "plugins" d) = none := by
  obtain ⟨hm, d, enc, hi, hmem⟩ := h
  rcases getPlugin_cases env hash fs with ⟨-, h'⟩ | ⟨hno, -⟩
  · simp only [h', true_and]
    exact ⟨d, enc, hi, Fs.lookup_removeAll_file hmem hi.lookup⟩
  · exact absurd hm hno

/-- What is cleaned for a plain name is no intact object: the plugin does not
    match, and the patches are elsewhere. -/
theorem not_hits_of_plainName (hplain : PlainName hash) : ¬ env.Hits fs hash := by
  rintro ⟨⟨enc, data, hl, hdec, hne⟩, d, enc', hi, hmem⟩
  have hd : PlainName d := hi.isHex.plainName
  have hpatch : ∀ n, (env.path "plugins" d).comps ≠
      (cleanPath env.dir).comps ++ ["patches", n] := by
    rw [path_plugins hd]
    simp
  simp only [cleaned, List.mem_cons, List.mem_append] at hmem
  rcases hmem with heq | hglob | hglob
  · -- the plugin itself: intact and mismatched at once
    rw [path_plugins hd, path_plugins hplain] at heq
    obtain rfl : d = hash := by simpa using heq
    rw [hi.lookup] at hl
    cases hl
    obtain ⟨data', hdec', hdig⟩ := hi.digest
    rw [hdec] at hdec'
    cases hdec'
    exact hne hdig
  all_goals
    obtain ⟨n, hn⟩ := comps_of_mem_patchGlob
      (by refine plainName_of_dash ?_ ?_ <;> simp [hplain.no_slash]) hglob
    exact hpatch n hn

/-! ## RequestPatch -/

theorem Mismatch.of_shrinks (hs : fs.Shrinks fs') (h : env.Mismatch fs' hash) :
    env.Mismatch fs hash := by
  obtain ⟨enc, data, hl, hrest⟩ := h
  exact ⟨enc, data, hs.lookup_eq hl, hrest⟩

/-- Each of the two lookups may clean the cache. -/
theorem generatePatch_fs (env : CacheEnv) (old new : String) (fs : Fs) :
    (env.generatePatch old new fs).2 = (env.getPlugin old fs).2 ∨
      (env.generatePatch old new fs).2 = (env.getPlugin new (env.getPlugin old fs).2).2 := by
  unfold generatePatch
  split
  next h => exact .inl (by rw [h])
  next h =>
    rw [h]
    refine .inr ?_
    split <;>
    next h' => rw [h']

theorem generatePatch_shrinks (env : CacheEnv) (old new : String) (fs : Fs) :
    fs.Shrinks (env.generatePatch old new fs).2 := by
  have h₁ := getPlugin_shrinks env old fs
  rcases generatePatch_fs env old new fs with h | h <;> rw [h]
  · exact h₁
  · exact h₁.trans (getPlugin_shrinks env new _)

theorem generatePatch_ok {patch : Bytes} (h : (env.generatePatch old new fs).1 = .ok patch) :
    (env.generatePatch old new fs).2 = fs ∧ ∃ o n, env.fmt.digest o = old ∧
      env.fmt.digest n = new ∧ patch = env.engine.generatePatch o n := by
  revert h
  fun_cases env.generatePatch old new fs with
  | case3 o fs₁ ho n fs₂ hn =>
    rintro ⟨⟩
    have hok : (env.getPlugin old fs).1 = .ok o := by rw [ho]
    obtain ⟨hod, hofs⟩ := getPlugin_ok hok
    rw [ho] at hofs
    subst hofs
    have hok' : (env.getPlugin new fs₁).1 = .ok n := by rw [hn]
    obtain ⟨hnd, hnfs⟩ := getPlugin_ok hok'
    rw [hn] at hnfs
    exact ⟨hnfs, o, n, hod, hnd, rfl⟩
  | _ => exact nofun

theorem not_mismatch_generatePatch (env : CacheEnv) (old new : String) (fs : Fs) :
    ¬ env.Mismatch (env.generatePatch old new fs).2 old := by
  have h₁ := not_mismatch_getPlugin env old fs
  rcases generatePatch_fs env old new fs with h | h <;> rw [h]
  · exact h₁
  · exact fun hm => h₁ (hm.of_shrinks (getPlugin_shrinks env new _))

theorem generatePatch_preserves (hold : ¬ env.Hits fs old) (hnew : IsHex new) :
    env.Preserves fs (env.generatePatch old new fs).2 := by
  -- the new digest is the gateway's own, so only the first lookup could do harm
  have h₁ := getPlugin_preserves hold
  rcases generatePatch_fs env old new fs with h | h <;> rw [h]
  · exact h₁
  · exact h₁.trans (getPlugin_preserves (not_hits_of_plainName hnew.plainName))

def PluginsShrink (env : CacheEnv) (fs fs' : Fs) : Prop :=
  ∀ d, IsHex d → fs'.lookup (env.path "plugins" d) = fs.lookup (env.path "plugins" d) ∨
    fs'.lookup (env.path "plugins" d) = none

theorem PluginsShrink.of_shrinks (h : fs.Shrinks fs') : env.PluginsShrink fs fs' := fun d _ =>
  h (env.path "plugins" d)

theorem PluginsShrink.trans (h : env.PluginsShrink fs₁ fs₂)
    (h' : env.PluginsShrink fs₂ fs₃) : env.PluginsShrink fs₁ fs₃ := by
  intro d hd
  rcases h' d hd with heq | hnone
  · rw [heq]
    exact h d hd
  · exact .inr hnone

theorem Intact.of_pluginsShrink (hs : env.PluginsShrink fs fs')
    (h : env.Intact fs' d enc) : env.Intact fs d enc := by
  refine ⟨?_, h.digest⟩
  rcases hs d h.isHex with heq | hnone
  · rw [← heq]
    exact h.lookup
  · rw [h.lookup] at hnone
    cases hnone

theorem plainName_patchKey (hold : IsHex old) (hnew : IsHex new) :
    PlainName (patchKey old new) := by
  have hslash := hold.plainName.no_slash
  have hslash' := hnew.plainName.no_slash
  refine plainName_of_dash ?_ ?_ <;> simp [patchKey, hslash, hslash']

theorem lookup_write_of_ne {q : Path} (h : q ≠ p) :
    (fs.write outcome p data).lookup q = fs.lookup q := by
  cases outcome with
  | notCreated e => rfl
  | ok | failedAfter n e | failedOnClose n e => exact AList.lookup_insert_ne h

theorem requestPatch_cases (env : CacheEnv) (outcome : WriteOutcome) (old new : String) (fs : Fs) :
    (env.path "patches" (patchKey old new) ∈ fs ∧ env.requestPatch outcome old new fs =
      ((fs.read (env.path "patches" (patchKey old new))).mapError .os, fs)) ∨
    (env.path "patches" (patchKey old new) ∉ fs ∧ ∃ e,
      (env.generatePatch old new fs).1 = .error e ∧ env.requestPatch outcome old new fs =
        (.error e, (env.generatePatch old new (env.generatePatch old new fs).2).2)) ∨
    (env.path "patches" (patchKey old new) ∉ fs ∧ ∃ o n, env.fmt.digest o = old ∧
      env.fmt.digest n = new ∧
      (env.generatePatch old new fs).1 = .ok (env.engine.generatePatch o n) ∧
      env.requestPatch outcome old new fs =
        (match outcome.error with
          | some e => .error (.os e)
          | none => .ok (env.engine.generatePatch o n),
         fs.write outcome (env.path "patches" (patchKey old new))
          (env.engine.generatePatch o n))) := by
  by_cases hmem : env.path "patches" (patchKey old new) ∈ fs
  · exact .inl ⟨hmem, by simp [requestPatch, hmem]⟩
  · refine .inr ?_
    rcases hg : env.generatePatch old new fs with ⟨r, fs₁⟩
    cases r with
    | error e =>
      simp [requestPatch, hmem, hg]
    | ok patch =>
      obtain ⟨hfs, o, n, ho, hn, rfl⟩ := generatePatch_ok (by rw [hg])
      rw [hg] at hfs
      subst hfs
      refine .inr ⟨hmem, o, n, ho, hn, rfl, ?_⟩
      cases herr : outcome.error <;> simp [requestPatch, hmem, hg, herr]

theorem requestPatch_pluginsShrink (env : CacheEnv) (outcome : WriteOutcome) (old new : String)
    (fs : Fs) : env.PluginsShrink fs (env.requestPatch outcome old new fs).2 := by
  rcases requestPatch_cases env outcome old new fs with ⟨-, h⟩ | ⟨-, e, -, h⟩ |
    ⟨-, o, n, rfl, rfl, -, h⟩
  · rw [h]
    exact .of_shrinks (Fs.Shrinks.refl fs)
  · rw [h]
    exact .of_shrinks ((generatePatch_shrinks env old new fs).trans
      (generatePatch_shrinks env old new _))
  · rw [h]
    intro d hd
    refine .inl (lookup_write_of_ne (Ne.symm ?_))
    exact path_patches_ne_plugins
      (plainName_patchKey (env.fmt.isHex_digest o) (env.fmt.isHex_digest n)) hd.plainName

theorem requestPatch_preserves (hnew : IsHex new)
    (h : env.path "patches" (patchKey old new) ∉ fs → ¬ env.Hits fs old) :
    env.Preserves fs (env.requestPatch outcome old new fs).2 := by
  rcases requestPatch_cases env outcome old new fs with ⟨-, h'⟩ | ⟨hmem, e, -, h'⟩ |
    ⟨-, o, n, rfl, rfl, -, h'⟩
  · rw [h']
    exact Preserves.refl env fs
  · rw [h']
    -- the second attempt finds no mismatch for the old digest
    have hsecond : ¬ env.Hits (env.generatePatch old new fs).2 old := fun hh =>
      not_mismatch_generatePatch env old new fs hh.1
    exact (generatePatch_preserves (h hmem) hnew).trans (generatePatch_preserves hsecond hnew)
  · rw [h']
    intro d enc hi
    rw [lookup_write_of_ne, hi.lookup]
    exact (path_patches_ne_plugins (plainName_patchKey (env.fmt.isHex_digest o)
      (env.fmt.isHex_digest n)) hi.isHex.plainName).symm

theorem requestPatch_of_hits (outcome : WriteOutcome)
    (hmem : env.path "patches" (patchKey old new) ∉ fs) (hh : env.Hits fs old) :
    (env.requestPatch outcome old new fs).1 = .error .corrupted ∧
      ∃ d enc, env.Intact fs d enc ∧
        (env.requestPatch outcome old new fs).2.lookup (env.path "plugins" d) = none := by
  obtain ⟨hcor, d, enc, hi, hnone⟩ := getPlugin_of_hits hh
  -- the first attempt fails with the mismatch, and the second brings nothing back
  have hgen : env.generatePatch old new fs = (.error .corrupted, (env.getPlugin old fs).2) := by
    rcases hg : env.getPlugin old fs with ⟨r, fs₁⟩
    rw [hg] at hcor
    simp [generatePatch, hg, show r = .error .corrupted from hcor]
  have hreq : env.requestPatch outcome old new fs =
      (.error .corrupted, (env.generatePatch old new (env.getPlugin old fs).2).2) := by
    simp [requestPatch, hmem, hgen]
  rw [hreq]
  exact ⟨rfl, d, enc, hi, (generatePatch_shrinks env old new _).lookup_none hnone⟩

/-! ## SyncPluginManifest -/

def syncEntryFs (env : CacheEnv) (outcome : String → String → WriteOutcome) (fs : Fs)
    (entry : PatchSpec) : Fs :=
  match entry.op with
  | .create => (env.getPlugin entry.newDigest fs).2
  | .update =>
    let r := env.requestPatch (outcome entry.oldDigest entry.newDigest) entry.oldDigest
      entry.newDigest fs
    match r.1 with
    | .ok _ => r.2
    | .error e => if e.isNotExist then (env.getPlugin entry.newDigest r.2).2 else r.2
  | _ => fs

section

variable (outcome : String → String → WriteOutcome)

theorem syncEntry_fs (entry : PatchSpec) (fs : Fs) :
    (syncEntry (env.cache outcome) entry fs).2 = env.syncEntryFs outcome fs entry := by
  unfold syncEntry syncEntryFs
  cases entry.op with
  | none | remove | rename => rfl
  | create =>
    rcases hg : env.getPlugin entry.newDigest fs with ⟨r, fs₁⟩
    cases r <;> simp [cache, bind, StateT.bind, hg] <;> rfl
  | update =>
    rcases hr : env.requestPatch (outcome entry.oldDigest entry.newDigest) entry.oldDigest
      entry.newDigest fs with ⟨r, fs₁⟩
    cases r with
    | ok data =>
      simp [cache, bind, StateT.bind, hr]
      rfl
    | error e =>
      cases he : e.isNotExist with
      | false =>
        simp [cache, bind, StateT.bind, hr, he]
        rfl
      | true =>
        rcases hg : env.getPlugin entry.newDigest fs₁ with ⟨r', fs₂⟩
        cases r' <;> simp [cache, bind, StateT.bind, hr, he, hg] <;> rfl

theorem syncEntries_fs (entries : List PatchSpec) (fs : Fs) :
    (syncEntries (env.cache outcome) entries fs).2 =
      entries.foldl (env.syncEntryFs outcome) fs := by
  induction entries generalizing fs with
  | nil => rfl
  | cons e entries ih =>
    rw [List.foldl_cons, ← syncEntry_fs, ← ih]
    rcases hs : syncEntry (env.cache outcome) e fs with ⟨r, fs₁⟩
    rcases hr : syncEntries (env.cache outcome) entries fs₁ with ⟨⟨err, done⟩, fs₂⟩
    cases r <;> simp [syncEntries, bind, StateT.bind, hs, hr] <;> rfl

end

/-- The string of an update entry makes `RequestPatch` hit an intact object. -/
def EntryHits (env : CacheEnv) (fs : Fs) (entry : PatchSpec) : Prop :=
  entry.op = .update ∧
    env.path "patches" (patchKey entry.oldDigest entry.newDigest) ∉ fs ∧
    env.Hits fs entry.oldDigest

theorem newDigest_of_mem_leftJoinOn {gateway agent : PluginManifest}
    (h : entry ∈ (leftJoinOn gateway agent).items) (hop : entry.op = .create ∨ entry.op = .update) :
    ∃ g ∈ gateway.items, entry.newDigest = g.digest := by
  rw [leftJoinOn, PatchList.sort, mem_sortFunc, List.mem_append] at h
  rcases h with h | h
  · obtain ⟨g, hg, he⟩ := List.mem_filterMap.mp h
    refine ⟨g, hg, ?_⟩
    revert he
    fun_cases joinOurs with
    | case4 => exact nofun
    | _ =>
      rintro ⟨⟩
      rfl
  · obtain ⟨a, -, he⟩ := List.mem_filterMap.mp h
    revert he
    fun_cases joinTheirs with
    | case3 =>
      rintro ⟨⟩
      rcases hop with hop | hop <;> cases hop
    | _ => exact nofun

theorem syncEntryFs_pluginsShrink (env : CacheEnv) (outcome : String → String → WriteOutcome)
    (fs : Fs) (entry : PatchSpec) : env.PluginsShrink fs (env.syncEntryFs outcome fs entry) := by
  unfold syncEntryFs
  split
  · exact .of_shrinks (getPlugin_shrinks env _ fs)
  · have hreq := requestPatch_pluginsShrink env (outcome entry.oldDigest entry.newDigest)
      entry.oldDigest entry.newDigest fs
    dsimp only
    split
    · exact hreq
    · split
      · exact hreq.trans (.of_shrinks (getPlugin_shrinks env _ _))
      · exact hreq
  · exact .of_shrinks (Fs.Shrinks.refl fs)

theorem syncEntryFs_preserves {outcome : String → String → WriteOutcome}
    (hnew : entry.op = .create ∨ entry.op = .update → IsHex entry.newDigest)
    (h : ¬ env.EntryHits fs entry) : env.Preserves fs (env.syncEntryFs outcome fs entry) := by
  unfold syncEntryFs
  split
  next hop => exact getPlugin_preserves (not_hits_of_plainName (hnew (.inl hop)).plainName)
  next hop =>
    have hhex : IsHex entry.newDigest := hnew (.inr hop)
    have hreq : env.Preserves fs (env.requestPatch (outcome entry.oldDigest entry.newDigest)
        entry.oldDigest entry.newDigest fs).2 :=
      requestPatch_preserves hhex fun hmem hh => h ⟨hop, hmem, hh⟩
    dsimp only
    split
    · exact hreq
    · split
      · exact hreq.trans (getPlugin_preserves (not_hits_of_plainName hhex.plainName))
      · exact hreq
  · exact Preserves.refl env fs

theorem syncEntryFs_of_hits (outcome : String → String → WriteOutcome)
    (h : env.EntryHits fs entry) :
    ∃ d enc, env.Intact fs d enc ∧
      (env.syncEntryFs outcome fs entry).lookup (env.path "plugins" d) = none := by
  obtain ⟨hop, hmem, hh⟩ := h
  obtain ⟨hcor, d, enc, hi, hnone⟩ :=
    requestPatch_of_hits (outcome entry.oldDigest entry.newDigest) hmem hh
  refine ⟨d, enc, hi, ?_⟩
  simp only [syncEntryFs, hop, hcor]
  exact hnone

theorem foldl_pluginsShrink (env : CacheEnv) (outcome : String → String → WriteOutcome)
    (entries : List PatchSpec) (fs : Fs) :
    env.PluginsShrink fs (entries.foldl (env.syncEntryFs outcome) fs) := by
  induction entries generalizing fs with
  | nil => exact .of_shrinks (Fs.Shrinks.refl fs)
  | cons e entries ih => exact (syncEntryFs_pluginsShrink env outcome fs e).trans (ih _)

/-- A run of entries preserves the intact objects exactly when no entry hits
    one in the state it finds. -/
theorem foldl_preserves_iff {outcome : String → String → WriteOutcome} {entries : List PatchSpec}
    (hnew : ∀ e ∈ entries, e.op = .create ∨ e.op = .update → IsHex e.newDigest) :
    env.Preserves fs (entries.foldl (env.syncEntryFs outcome) fs) ↔
      ∀ pre e post, entries = pre ++ e :: post →
        ¬ env.EntryHits (pre.foldl (env.syncEntryFs outcome) fs) e := by
  constructor
  · rintro h pre e post rfl hh
    obtain ⟨d, enc, hi, hnone⟩ := syncEntryFs_of_hits outcome hh
    -- nothing writes plugins, so the object was there from the start and stays away
    have hstart : env.Intact fs d enc :=
      hi.of_pluginsShrink (foldl_pluginsShrink env outcome pre fs)
    have hkept := h d enc hstart
    rw [List.foldl_append, List.foldl_cons] at hkept
    rcases foldl_pluginsShrink env outcome post _ d hi.isHex with heq | hgone
    · rw [heq, hnone] at hkept
      cases hkept
    · rw [hgone] at hkept
      cases hkept
  · intro h
    -- induction over the entries: the state changes, the condition moves along
    induction entries generalizing fs with
    | nil => exact Preserves.refl env fs
    | cons e entries ih =>
      have hstep : env.Preserves fs (env.syncEntryFs outcome fs e) :=
        syncEntryFs_preserves (hnew e (by simp)) (h [] e entries rfl)
      refine hstep.trans (ih (fun e' he' => hnew e' (by simp [he'])) ?_)
      rintro pre e' post rfl
      exact h (e :: pre) e' post rfl

/-- A manifest that passes `PluginManifest.Validate`. -/
abbrev ValidManifest := { m : PluginManifest // m.validate = .ok () }

theorem sync_fs (outcome : String → String → WriteOutcome) (ours : PluginManifest)
    (theirs : ValidManifest) (schedule : Schedule (leftJoinOn ours theirs.val).items) (fs : Fs) :
    (syncPluginManifest (env.cache outcome) ours theirs.val schedule fs).2 =
      (syncEntries (env.cache outcome) schedule.val fs).2 := by
  rcases hs : syncEntries (env.cache outcome) schedule.val fs with ⟨⟨err, entries⟩, fs₁⟩
  cases err <;> simp [syncPluginManifest, theirs.property, bind, StateT.bind, hs] <;> rfl

theorem isHex_of_mem_leftJoinOn {gateway : PluginDir env.fmt} {theirs : PluginManifest}
    {e : PatchSpec} (he : e ∈ (leftJoinOn gateway.manifest theirs).items)
    (hop : e.op = .create ∨ e.op = .update) : IsHex e.newDigest := by
  obtain ⟨g, hg, hd⟩ := newDigest_of_mem_leftJoinOn he hop
  obtain ⟨data, -, -, hdig⟩ := PluginDir.mem_manifest.mp hg
  rw [hd, hdig]
  exact env.fmt.isHex_digest data

/-- A sync request leaves every intact object of the cache in place exactly
    when no update it runs hits one: the digest the agent sent names, as a path,
    a file with other contents, and cleaning it takes the object along. -/
theorem sync_preserves_iff (env : CacheEnv) (outcome : String → String → WriteOutcome)
    (gateway : PluginDir env.fmt) (theirs : ValidManifest)
    (schedule : Schedule (leftJoinOn gateway.manifest theirs.val).items) (fs : Fs) :
    env.Preserves fs
        (syncPluginManifest (env.cache outcome) gateway.manifest theirs.val schedule fs).2 ↔
      ∀ pre e post, schedule.val = pre ++ e :: post →
        ¬ env.EntryHits (syncEntries (env.cache outcome) pre fs).2 e := by
  have hnew : ∀ e ∈ schedule.val, e.op = .create ∨ e.op = .update → IsHex e.newDigest :=
    fun e he => isHex_of_mem_leftJoinOn (schedule.property.mem_iff.mp he)
  rw [sync_fs, syncEntries_fs, foldl_preserves_iff hnew]
  simp only [syncEntries_fs]

end CacheEnv

/-! ## A digest that is a path -/

/-- Matching with `*` as the only magic character. -/
def starMatch : List Char → List Char → Bool
  | [], cs => cs.isEmpty
  | '*' :: ps, cs => cs.tails.any (starMatch ps)
  | p :: ps, c :: cs => p == c && starMatch ps cs
  | _ :: _, [] => false

/-- A cache in `/cache` with uncompressed files. -/
def simpleEnv : CacheEnv where
  fmt := byteFormat
  engine := copyEngine
  codec := ⟨id, some, fun _ => rfl⟩
  matcher := ⟨fun s => s.toList.contains '*', fun p n => some (starMatch p.toList n.toList)⟩
  dir := "/cache"
  dir_literal := by decide

def simpleGateway : PluginDir simpleEnv.fmt :=
  .single "plugin_data" [0, 1] (Eq.refl true) (by decide)

/-- The cache after the gateway has archived its plugin. -/
def simpleCache : Fs :=
  (simpleEnv.archive (getFilesystemPlugins simpleEnv.fmt simpleGateway.files) (fun _ => .ok)
    simpleEnv.empty ⟨_, List.Perm.refl _⟩).2

/-- The manifest of an agent that sends a path for a digest. -/
def traversalManifest : CacheEnv.ValidManifest :=
  ⟨⟨[{ module := "metrics", filename := "plugin_data",
       digest := "../plugins/" ++ simpleEnv.fmt.digest [0, 1] }]⟩, rfl⟩

/-- The digest resolves to the plugin itself, whose contents have another digest
    than the string that was sent; it is cleaned as corrupted. -/
theorem traversal_removes_plugin :
    simpleEnv.Intact simpleCache (simpleEnv.fmt.digest [0, 1]) [0, 1] ∧
      ∀ outcome, ∃ schedule, (syncPluginManifest (simpleEnv.cache outcome) simpleGateway.manifest
        traversalManifest.val schedule simpleCache).2.lookup
          (simpleEnv.path "plugins" (simpleEnv.fmt.digest [0, 1])) = none :=
  ⟨⟨by decide, [0, 1], rfl, rfl⟩, fun _ => ⟨⟨_, List.Perm.refl _⟩, rfl⟩⟩

end Opni.Patch
