/-
  Opni.Patch.CachePatches

  Whether the patches of the cache can be trusted, over whole histories of
  calls, in which writing a file may fail at any point.
-/

import Opni.Patch.CacheSafety

namespace Opni.Patch

open Lib

namespace CacheEnv

variable {env : CacheEnv} {fs fs' : Fs}

/-! ## Histories -/

/-- The calls on a cache, with the outcomes of their writes and the order of
    their goroutines.  The digests given to `Archive` are names, as discovery
    computes them. -/
inductive Call where
  | archive (plugins : PluginArchive)
      (plain : ∀ item ∈ plugins.items, PlainName item.metadata.digest)
      (outcomes : PluginArchiveEntry → WriteOutcome) (scheduler : Scheduler PluginArchiveEntry)
  | requestPatch (oldDigest newDigest : String) (outcome : WriteOutcome)
  | getPlugin (hash : String)
  | clean (hashes : List String)

def step (env : CacheEnv) (fs : Fs) : Call → Fs
  | .archive plugins _ outcomes scheduler =>
    (env.archive plugins outcomes fs (scheduler.schedule _)).2
  | .requestPatch old new outcome => (env.requestPatch outcome old new fs).2
  | .getPlugin hash => (env.getPlugin hash fs).2
  | .clean hashes => env.clean hashes fs

/-- The file system after a history of calls on an empty cache. -/
def run (env : CacheEnv) (calls : List Call) : Fs := calls.foldl env.step env.empty

/-- The patch takes the plugin with the old digest to the one with the new. -/
def Correct (env : CacheEnv) (old new : String) (patch : Bytes) : Prop :=
  ∀ o n, env.fmt.digest o = old → env.fmt.digest n = new →
    env.engine.applyPatch o patch = some n

/-- Whatever `RequestPatch` returns without an error is correct. -/
def Trusted (env : CacheEnv) (fs : Fs) : Prop :=
  ∀ old new outcome patch, (env.requestPatch outcome old new fs).1 = .ok patch →
    env.Correct old new patch

/-- A call of `RequestPatch` whose write fails leaves no file, or one that is
    correct all the same, as it is when all of the data was written. -/
def WriteOk (env : CacheEnv) (fs : Fs) : Call → Prop
  | .requestPatch old new outcome =>
    env.path "patches" (patchKey old new) ∉ fs → ∀ patch,
      (env.generatePatch old new fs).1 = .ok patch → ∀ k e,
        outcome = .failedAfter k e ∨ outcome = .failedOnClose k e →
        env.Correct old new (patch.take k)
  | _ => True

/-! ## Patch files -/

def PatchesOk (env : CacheEnv) (fs : Fs) : Prop :=
  ∀ o n patch, fs.lookup (env.path "patches" (patchKey (env.fmt.digest o) (env.fmt.digest n))) =
    some (.file patch) → env.engine.applyPatch o patch = some n

theorem patchKey_inj {a b a' b' : String} (ha : IsHex a) (ha' : IsHex a')
    (h : patchKey a b = patchKey a' b') : a = a' ∧ b = b' := by
  have hdash : ∀ {s}, IsHex s → ∀ c ∈ s.toList, (c != '-') = true := by
    intro s hs c hc
    have hhex := hs.2 c hc
    simp only [bne_iff_ne]
    rintro rfl
    exact absurd hhex (by decide)
  have hlist : a.toList ++ ("-to-".toList ++ b.toList) =
      a'.toList ++ ("-to-".toList ++ b'.toList) := by
    have := congrArg String.toList h
    simpa [patchKey] using this
  -- the first digest ends at the first dash
  have hhead : ∀ {s : String} {t : String}, IsHex s →
      (s.toList ++ ("-to-".toList ++ t.toList)).takeWhile (· != '-') = s.toList := by
    intro s t hs
    rw [List.takeWhile_append_of_pos (hdash hs)]
    simp
  have haa : a.toList = a'.toList := by
    rw [← hhead ha, hlist, hhead ha']
  rw [haa, List.append_cancel_left_eq, List.append_cancel_left_eq] at hlist
  exact ⟨String.toList_injective haa, String.toList_injective hlist⟩

theorem patchPath_inj {o n o' n' : Bytes}
    (h : env.path "patches" (patchKey (env.fmt.digest o) (env.fmt.digest n)) =
      env.path "patches" (patchKey (env.fmt.digest o') (env.fmt.digest n'))) :
    o = o' ∧ n = n' := by
  have hhex := env.fmt.isHex_digest
  rw [path_patches (plainName_patchKey (hhex o) (hhex n)),
    path_patches (plainName_patchKey (hhex o') (hhex n'))] at h
  have hkey : patchKey (env.fmt.digest o) (env.fmt.digest n) =
      patchKey (env.fmt.digest o') (env.fmt.digest n') := by simpa using h
  obtain ⟨ho, hn⟩ := patchKey_inj (hhex o) (hhex o') hkey
  exact ⟨env.fmt.digest_injective ho, env.fmt.digest_injective hn⟩

theorem PatchesOk.of_shrinks (h : env.PatchesOk fs) (hs : fs.Shrinks fs') : env.PatchesOk fs' :=
  fun o n patch hl => h o n patch (hs.lookup_eq hl)

theorem clean_shrinks (env : CacheEnv) (hashes : List String) (fs : Fs) :
    fs.Shrinks (env.clean hashes fs) := by
  induction hashes generalizing fs with
  | nil =>
    exact Fs.Shrinks.refl fs
  | cons hash hashes ih =>
    rw [clean, List.foldl_cons]
    exact (cleanHash_shrinks env fs hash).trans (ih (env.cleanHash fs hash))

theorem archiveItems_patchesOk {items : List (PluginArchiveEntry × WriteOutcome)}
    (hplain : ∀ p ∈ items, PlainName p.1.metadata.digest) (h : env.PatchesOk fs) :
    env.PatchesOk (env.archiveItems items fs).2 := by
  induction items generalizing fs with
  | nil => exact h
  | cons p items ih =>
    refine ih (fun q hq => hplain q (by simp [hq])) ?_
    -- a plugin is written, and no patch has its path
    intro o n patch hl
    refine h o n patch ?_
    rw [← hl]
    refine (lookup_write_of_ne ?_).symm
    exact path_patches_ne_plugins (plainName_patchKey (env.fmt.isHex_digest o)
      (env.fmt.isHex_digest n)) (hplain p (by simp))

theorem mkdirAll_no_files {p : Path} (h : ∀ q data, fs.lookup q ≠ some (.file data)) :
    ∀ q data, (fs.mkdirAll p).lookup q ≠ some (.file data) := by
  unfold Fs.mkdirAll
  generalize List.range (p.comps.length + 1) = ns
  induction ns generalizing fs with
  | nil => exact h
  | cons n ns ih =>
    refine ih ?_
    intro q data
    dsimp only
    split
    · exact h q data
    · rw [GoMap.lookup_insert_eq]
      split
      · simp
      · exact h q data

theorem patchesOk_empty (env : CacheEnv) : env.PatchesOk env.empty := by
  have hfiles : ∀ q data, env.empty.lookup q ≠ some (.file data) :=
    mkdirAll_no_files (mkdirAll_no_files (mkdirAll_no_files fun q data => by simp))
  intro o n patch hl
  exact absurd hl (hfiles _ patch)

/-- With correct patch files, `RequestPatch` can be trusted. -/
theorem PatchesOk.trusted (h : env.PatchesOk fs) : env.Trusted fs := by
  intro old new outcome patch hok o n ho hn
  subst ho
  subst hn
  rcases requestPatch_cases env outcome (env.fmt.digest o) (env.fmt.digest n) fs with
    ⟨-, heq⟩ | ⟨-, e, -, heq⟩ | ⟨-, o', n', ho', hn', -, heq⟩
  · -- the file that was there
    rw [heq] at hok
    refine h o n patch ?_
    unfold Fs.read at hok
    split at hok
    next data hl =>
      cases hok
      exact hl
    · cases hok
    · cases hok
  · rw [heq] at hok
    cases hok
  · -- the patch just generated
    rw [heq] at hok
    cases env.fmt.digest_injective ho'
    cases env.fmt.digest_injective hn'
    split at hok
    · cases hok
    · cases hok
      exact env.engine.apply_generate o n

/-- A patch file written between two digests is the only one that changes. -/
theorem write_patchesOk {outcome : WriteOutcome} {o n : Bytes} (h : env.PatchesOk fs)
    (hok : ∀ k e, outcome = .failedAfter k e ∨ outcome = .failedOnClose k e →
      env.engine.applyPatch o ((env.engine.generatePatch o n).take k) = some n) :
    env.PatchesOk (fs.write outcome
      (env.path "patches" (patchKey (env.fmt.digest o) (env.fmt.digest n)))
      (env.engine.generatePatch o n)) := by
  intro o' n' patch hl
  by_cases hpath : env.path "patches" (patchKey (env.fmt.digest o') (env.fmt.digest n')) =
      env.path "patches" (patchKey (env.fmt.digest o) (env.fmt.digest n))
  · obtain ⟨rfl, rfl⟩ := patchPath_inj hpath
    cases outcome with
    | ok =>
      rw [Fs.write, AList.lookup_insert] at hl
      cases hl
      exact env.engine.apply_generate o' n'
    | notCreated e => exact h o' n' patch hl
    | failedAfter k e =>
      rw [Fs.write, AList.lookup_insert] at hl
      cases hl
      exact hok k e (.inl rfl)
    | failedOnClose k e =>
      rw [Fs.write, AList.lookup_insert] at hl
      cases hl
      exact hok k e (.inr rfl)
  · rw [lookup_write_of_ne hpath] at hl
    exact h o' n' patch hl

theorem step_patchesOk {call : Call} (h : env.PatchesOk fs) (hw : env.WriteOk fs call) :
    env.PatchesOk (env.step fs call) := by
  cases call with
  | getPlugin hash => exact h.of_shrinks (getPlugin_shrinks env hash fs)
  | clean hashes => exact h.of_shrinks (clean_shrinks env hashes fs)
  | archive plugins plain outcomes scheduler =>
    refine archiveItems_patchesOk ?_ h
    intro p hp
    obtain ⟨item, hitem, rfl⟩ := List.mem_map.mp hp
    have hmem := (scheduler.perm _).mem_iff.mp hitem
    exact plain item (List.mem_filter.mp hmem).1
  | requestPatch old new outcome =>
    rcases requestPatch_cases env outcome old new fs with
      ⟨-, heq⟩ | ⟨-, e, -, heq⟩ | ⟨hmem, o, n, rfl, rfl, hgen, heq⟩
    · simp only [step, heq]
      exact h
    · simp only [step, heq]
      exact h.of_shrinks ((generatePatch_shrinks env old new fs).trans
        (generatePatch_shrinks env old new _))
    · simp only [step, heq]
      exact write_patchesOk h fun k e hout => hw hmem _ hgen k e hout o n rfl rfl

theorem run_append (env : CacheEnv) (calls : List Call) (call : Call) :
    env.run (calls ++ [call]) = env.step (env.run calls) call := by
  rw [run, List.foldl_append, ← run, List.foldl_cons, List.foldl_nil]

theorem run_patchesOk {calls : List Call}
    (h : ∀ pre call post, calls = pre ++ call :: post → env.WriteOk (env.run pre) call) :
    env.PatchesOk (env.run calls) := by
  -- from the last call backwards, since `run` starts at the empty cache
  induction calls using List.reverseRec with
  | nil =>
    rw [run, List.foldl_nil]
    exact patchesOk_empty env
  | append_singleton calls call ih =>
    have hpre : env.PatchesOk (env.run calls) := by
      refine ih ?_
      rintro pre call' post rfl
      exact h pre call' (post ++ [call]) (by simp)
    rw [run_append]
    exact step_patchesOk hpre (h calls call [] rfl)

/-- A call that leaves the patches trusted has left no incorrect file. -/
theorem writeOk_of_trusted {call : Call} (h : env.Trusted (env.step fs call)) :
    env.WriteOk fs call := by
  cases call with
  | archive _ _ _ _ | getPlugin _ | clean _ => trivial
  | requestPatch old new outcome =>
    intro hmem patch hgen k e hout
    refine h old new .ok _ ?_
    -- the file left behind is what the next call returns
    rcases requestPatch_cases env outcome old new fs with
      ⟨hin, -⟩ | ⟨-, e', hgen', -⟩ | ⟨-, o, n, -, -, hgen', heq⟩
    · exact absurd hin hmem
    · rw [hgen] at hgen'
      cases hgen'
    · rw [hgen] at hgen'
      cases hgen'
      have hfile : (env.step fs (.requestPatch old new outcome)).lookup
          (env.path "patches" (patchKey old new)) =
            some (.file ((env.engine.generatePatch o n).take k)) := by
        rw [step, heq]
        rcases hout with rfl | rfl <;> exact AList.lookup_insert _
      have hin : env.path "patches" (patchKey old new) ∈
          env.step fs (.requestPatch old new outcome) :=
        GoMap.mem_iff.mpr ⟨_, hfile⟩
      simp only [requestPatch, hin, if_true, Fs.read, hfile, Except.mapError]

/-- In every history on an empty cache: the patches can be trusted after each
    call exactly when no write of a patch fails and leaves an incorrect file. -/
theorem requestPatch_correct_iff (env : CacheEnv) (calls : List Call) :
    (∀ pre post, calls = pre ++ post → env.Trusted (env.run pre)) ↔
      ∀ pre call post, calls = pre ++ call :: post → env.WriteOk (env.run pre) call := by
  constructor
  · rintro h pre call post rfl
    have htrust := h (pre ++ [call]) post (by simp)
    rw [run_append] at htrust
    exact writeOk_of_trusted htrust
  · rintro h pre post rfl
    refine (run_patchesOk ?_).trusted
    rintro pre' call post' rfl
    exact h pre' call (post' ++ post) (by simp)

end CacheEnv

/-! ## A patch that was cut off -/

/-- Two versions of a plugin are archived, and the write of the patch between
    them fails after three bytes. -/
def truncatedCalls : List CacheEnv.Call :=
  [.archive ⟨[⟨⟨"metrics", "plugin_data", simpleEnv.fmt.digest [0, 1]⟩, [0, 1]⟩,
      ⟨⟨"metrics", "plugin_data", simpleEnv.fmt.digest [0, 2]⟩, [0, 2]⟩]⟩
    (by simp [(simpleEnv.fmt.isHex_digest _).plainName]) (fun _ => .ok)
    (.inOrder PluginArchiveEntry),
   .requestPatch (simpleEnv.fmt.digest [0, 1]) (simpleEnv.fmt.digest [0, 2]) (.failedAfter 3 .io)]

/-- The next request returns the three bytes as the patch. -/
theorem truncated_patch_is_returned :
    (simpleEnv.requestPatch .ok (simpleEnv.fmt.digest [0, 1]) (simpleEnv.fmt.digest [0, 2])
        (simpleEnv.run truncatedCalls)).1 = .ok (bsdiffHeader.take 3) ∧
      simpleEnv.engine.applyPatch [0, 1] (bsdiffHeader.take 3) ≠ some [0, 2] :=
  ⟨by decide +kernel, by decide +kernel⟩

end Opni.Patch
