/-
  Opni.Patch.ManifestDigest

  The digest by which the gateway sees whether an agent has its plugins
  (`PluginManifest.Digest` in `pkg/apis/control/v1/extensions.go`), and the
  interceptor that compares it (`pkg/patch/server.go`).
-/

import Opni.Patch.Manifest

namespace Opni.Patch

open Lib PluginManifest

/-! ## The digest -/

variable (m : PluginManifest)

def PluginManifest.sort : PluginManifest :=
  ⟨sortFunc (fun a b => decide (a.module < b.module)) m.items⟩

/-- What `Digest` writes to the hash for an entry. -/
def PluginManifestEntry.fields (e : PluginManifestEntry) : List Bytes :=
  [bytesOfString e.module, bytesOfString e.filename, bytesOfString e.digest]

/-- What `Digest` writes to the hash, one call after the other. -/
def PluginManifest.fields (m : PluginManifest) : List Bytes :=
  m.sort.items.flatMap PluginManifestEntry.fields

variable (blake2b : Bytes → Bytes)

/-- `PluginManifest.Digest`, for a 256-bit hash of byte strings. -/
def PluginManifest.digest (m : PluginManifest) : String :=
  hexEncode (blake2b m.fields.flatten)

/-- `StreamServerInterceptor`: the error, or the manifest that the handler is called with.
    `digests` are the values of `manifest-digest` in the metadata of the stream, if it has
    metadata. -/
def streamServerInterceptor (manifest : PluginManifest)
    (digests : Option (List String)) : Except Status PluginManifest :=
  match digests with
  | some (digest :: _) =>
    if manifest.digest blake2b ≠ digest then
      .error ⟨.failedPrecondition, "plugins are out of date"⟩
    -- computing the digest has sorted the manifest
    else .ok manifest.sort
  | some [] | none => .ok manifest

/-! ## Manifests with the same entries -/

def PluginManifest.Distinct : Prop := (m.items.map (·.module)).Nodup

instance : Decidable m.Distinct := inferInstanceAs (Decidable (List.Nodup _))

variable (m n : PluginManifest) {l l' : List PluginManifestEntry}

/-- The manifests have the same entries, in whatever order. -/
def SameEntries : Prop := ∀ e, e ∈ m.items ↔ e ∈ n.items

theorem PluginManifest.pairwise_sort : m.sort.items.Pairwise fun a b => a.module ≤ b.module := by
  let r : PluginManifestEntry → PluginManifestEntry → Prop :=
    fun a b => decide (b.module < a.module) = false
  have hr : ∀ {a b}, r a b ↔ a.module ≤ b.module :=
    decide_eq_false_iff_not.trans not_lt
  have : Std.Total r := ⟨fun a b => (le_total a.module b.module).imp hr.mpr hr.mpr⟩
  have : IsTrans PluginManifestEntry r := ⟨fun _ _ _ h h' => hr.mpr ((hr.mp h).trans (hr.mp h'))⟩
  exact (List.pairwise_insertionSort r m.items).imp hr.mp

theorem sort_eq_of_sameEntries {m n : PluginManifest} (hm : m.Distinct) (hn : n.Distinct)
    (h : SameEntries m n) : m.sort = n.sort := by
  have hperm : m.items.Perm n.items :=
    (List.perm_ext_iff_of_nodup (List.Nodup.of_map _ hm) (List.Nodup.of_map _ hn)).mpr h
  have hsorted : m.sort.items.Perm n.sort.items :=
    ((sortFunc_perm _ _).trans hperm).trans (sortFunc_perm _ _).symm
  have hitems : m.sort.items = n.sort.items := by
    refine hsorted.eq_of_pairwise ?_ m.pairwise_sort n.pairwise_sort
    intro a b ha hb hab hba
    have hmem : a ∈ n.items := (h a).mp (mem_sortFunc.mp ha)
    exact List.inj_on_of_nodup_map hn hmem (mem_sortFunc.mp hb) (le_antisymm hab hba)
  exact congrArg mk hitems

/-! ## Manifests with the same digest -/

theorem eq_of_flatMap_fields
    (h : l.flatMap PluginManifestEntry.fields = l'.flatMap PluginManifestEntry.fields) :
    l = l' := by
  induction l generalizing l' with
  | nil =>
    cases l' with
    | nil => rfl
    | cons e' l' => simp [PluginManifestEntry.fields] at h
  | cons e l ih =>
    cases l' with
    | nil => simp [PluginManifestEntry.fields] at h
    | cons e' l' =>
      simp only [List.flatMap_cons, PluginManifestEntry.fields, List.cons_append,
        List.nil_append, List.cons.injEq] at h
      obtain ⟨hmodule, hfilename, hdigest, hrest⟩ := h
      have hentry : e = e' := by
        rw [PluginManifestEntry.mk.injEq]
        exact ⟨bytesOfString_injective hmodule, bytesOfString_injective hfilename,
          bytesOfString_injective hdigest⟩
      rw [hentry, ih hrest]

/-- Neither of two different fields begins with the other. -/
def PrefixFree (b b' : Bytes) : Prop := b <+: b' ∨ b' <+: b → b = b'

instance : DecidableRel PrefixFree := fun b b' =>
  inferInstanceAs (Decidable (b <+: b' ∨ b' <+: b → b = b'))

/-- No module of one manifest is the beginning of another module of the other manifest, and so it
    is with the file names and with the digests. -/
def FieldsPrefixFree : Prop :=
  ∀ e ∈ m.items, ∀ e' ∈ n.items, List.Forall₂ PrefixFree e.fields e'.fields

instance : Decidable (FieldsPrefixFree m n) :=
  inferInstanceAs (Decidable (∀ e ∈ m.items, ∀ e' ∈ n.items, _))

/-- Fields of which none begins with another are read back one by one. -/
theorem eq_of_flatten_append_eq {ws ws' : List Bytes} (hfree : List.Forall₂ PrefixFree ws ws')
    {r r' : Bytes} (h : ws.flatten ++ r = ws'.flatten ++ r') : ws = ws' ∧ r = r' := by
  induction hfree with
  | nil => exact ⟨rfl, h⟩
  | @cons b b' ws ws' hb _ ih =>
    simp only [List.flatten_cons, List.append_assoc] at h
    have hprefix : b' <+: b ++ (ws.flatten ++ r) := h ▸ List.prefix_append b' _
    obtain rfl : b = b' :=
      hb (List.prefix_or_prefix_of_prefix (List.prefix_append b _) hprefix)
    obtain ⟨rfl, hrest⟩ := ih (List.append_cancel_left h)
    exact ⟨rfl, hrest⟩

theorem fields_eq_of_flatten_eq (hl : ∀ e ∈ l, e.module ≠ "") (hl' : ∀ e ∈ l', e.module ≠ "")
    (hfree : ∀ e ∈ l, ∀ e' ∈ l', List.Forall₂ PrefixFree e.fields e'.fields)
    (h : (l.flatMap PluginManifestEntry.fields).flatten =
      (l'.flatMap PluginManifestEntry.fields).flatten) :
    l.flatMap PluginManifestEntry.fields = l'.flatMap PluginManifestEntry.fields := by
  -- an entry has text of its own
  have hne : ∀ e : PluginManifestEntry, e.module ≠ "" → e.fields.flatten ≠ [] := by
    intro e he hnil
    have hmodule : bytesOfString e.module = bytesOfString "" :=
      List.flatten_eq_nil_iff.mp hnil _ List.mem_cons_self
    exact he (bytesOfString_injective hmodule)
  induction l generalizing l' with
  | nil =>
    cases l' with
    | nil => rfl
    | cons e' l' =>
      rw [List.flatMap_cons, List.flatten_append] at h
      exact absurd (List.append_eq_nil_iff.mp h.symm).1 (hne e' (hl' e' List.mem_cons_self))
  | cons e l ih =>
    cases l' with
    | nil =>
      rw [List.flatMap_cons, List.flatten_append] at h
      exact absurd (List.append_eq_nil_iff.mp h).1 (hne e (hl e List.mem_cons_self))
    | cons e' l' =>
      rw [List.forall_mem_cons] at hl hl'
      simp only [List.flatMap_cons, List.flatten_append] at h ⊢
      obtain ⟨hfields, hrest⟩ :=
        eq_of_flatten_append_eq (hfree e List.mem_cons_self e' List.mem_cons_self) h
      rw [hfields, ih hl.2 hl'.2 (fun e he e' he' =>
        hfree e (.tail _ he) e' (.tail _ he')) hrest]

/-- Manifests that have the same text when it is run together are cut into fields of the same
    lengths. -/
def CutAlike : Prop :=
  m.fields.flatten = n.fields.flatten → m.fields.map List.length = n.fields.map List.length

theorem FieldsPrefixFree.cutAlike {m n : PluginManifest} (hm : ∀ e ∈ m.items, e.module ≠ "")
    (hn : ∀ e ∈ n.items, e.module ≠ "") (hfree : FieldsPrefixFree m n) : CutAlike m n := by
  intro h
  have hfields : m.fields = n.fields :=
    fields_eq_of_flatten_eq (fun e he => hm e (mem_sortFunc.mp he))
      (fun e he => hn e (mem_sortFunc.mp he))
      (fun e he e' he' => hfree e (mem_sortFunc.mp he) e' (mem_sortFunc.mp he')) h
  rw [hfields]

section Digest

variable {blake2b : Bytes → Bytes} (hinj : Function.Injective blake2b)

include hinj

theorem digest_identifies_iff {m n : PluginManifest} (hm : m.Distinct) (hn : n.Distinct) :
    (m.digest blake2b = n.digest blake2b ↔ SameEntries m n) ↔ CutAlike m n := by
  have hsame : SameEntries m n → m.fields = n.fields := by
    intro h
    rw [fields, sort_eq_of_sameEntries hm hn h, fields]
  rw [digest, digest, hexEncode_injective.eq_iff, hinj.eq_iff]
  apply Iff.intro
  · intro h htext
    rw [hsame (h.mp htext)]
  · intro hcut
    refine ⟨fun htext => ?_, fun h => by rw [hsame h]⟩
    have hfields : m.fields = n.fields := List.eq_iff_flatten_eq.mpr ⟨htext, hcut htext⟩
    have hsort : m.sort = n.sort := congrArg mk (eq_of_flatMap_fields hfields)
    have hmem (e) (m : PluginManifest) : e ∈ m.sort.items ↔ e ∈ m.items := mem_sortFunc
    exact fun e => by rw [← hmem e m, hsort, hmem e n]

/-- The digest identifies the entries of the manifest, and the interceptor admits just the
    streams of agents with the plugins of the gateway, if no field of the one manifest begins with
    another field of the other.  The two manifests have this property exactly if they are cut
    alike. -/
theorem digest_eq_iff {gateway agent : PluginManifest} (hgateway : gateway.Distinct)
    (hagent : agent.Distinct) (hmodules : ∀ e ∈ gateway.items, e.module ≠ "")
    (hmodules' : ∀ e ∈ agent.items, e.module ≠ "") (digests : List String) :
    let Identifies := gateway.digest blake2b = agent.digest blake2b ↔ SameEntries gateway agent
    let Admits := (∃ manifest, streamServerInterceptor blake2b gateway
      (some (agent.digest blake2b :: digests)) = .ok manifest) ↔ SameEntries gateway agent
    (FieldsPrefixFree gateway agent → Identifies ∧ Admits) ∧
      (Identifies ↔ CutAlike gateway agent) ∧ (Admits ↔ CutAlike gateway agent) := by
  intro Identifies Admits
  have hdigest : Identifies ↔ CutAlike gateway agent :=
    digest_identifies_iff hinj hgateway hagent
  have hadmits : Admits ↔ CutAlike gateway agent := by
    rw [← hdigest]
    simp only [Admits, Identifies, streamServerInterceptor]
    by_cases h : gateway.digest blake2b = agent.digest blake2b <;> simp [h]
  refine ⟨fun hfree => ?_, hdigest, hadmits⟩
  have hcut := hfree.cutAlike hmodules hmodules'
  exact ⟨hdigest.mpr hcut, hadmits.mpr hcut⟩

end Digest

/-- Two plugins, the same in the other order, and with another build of the second one. -/
theorem digest_eq_iff_two_plugins :
    let gateway : PluginManifest :=
      ⟨[⟨"metrics", "plugin_metrics", "d1"⟩, ⟨"logging", "plugin_logging", "d2"⟩]⟩
    let agent (digest : String) : PluginManifest :=
      ⟨[⟨"logging", "plugin_logging", digest⟩, ⟨"metrics", "plugin_metrics", "d1"⟩]⟩
    gateway.digest id = (agent "d2").digest id ∧ gateway.digest id ≠ (agent "d3").digest id := by
  intro gateway agent
  have hidentifies : ∀ digest ∈ ["d2", "d3"],
      gateway.digest id = (agent digest).digest id ↔ SameEntries gateway (agent digest) := by
    intro digest hmem
    refine ((digest_eq_iff Function.injective_id ?_ ?_ ?_ ?_ []).1 ?_).1
    all_goals revert digest; decide
  refine ⟨(hidentifies "d2" (by decide)).mpr fun e => ?_, fun h => ?_⟩
  · simp [gateway, agent, or_comm]
  · have hentry := ((hidentifies "d3" (by decide)).mp h
      ⟨"logging", "plugin_logging", "d2"⟩).mp (by decide)
    exact absurd hentry (by decide)

def manifestOf (module filename digest : String) : PluginManifest :=
  ⟨[⟨module, filename, digest⟩]⟩

/-- The end of the module can be read as the beginning of the file name. -/
theorem digest_confuses_fields :
    (∀ blake2b, (manifestOf "a" "bc" "d").digest blake2b =
      (manifestOf "ab" "c" "d").digest blake2b) ∧
    (∀ blake2b, streamServerInterceptor blake2b (manifestOf "a" "bc" "d")
      (some [(manifestOf "ab" "c" "d").digest blake2b]) = .ok (manifestOf "a" "bc" "d")) ∧
    ¬SameEntries (manifestOf "a" "bc" "d") (manifestOf "ab" "c" "d") := by
  have htext : (manifestOf "a" "bc" "d").fields.flatten =
      (manifestOf "ab" "c" "d").fields.flatten := by decide
  refine ⟨fun blake2b => ?_, fun blake2b => ?_, ?_⟩
  · rw [digest, htext, digest]
  · simp only [streamServerInterceptor, digest, htext, ne_eq, not_true_eq_false,
      if_false]
    rfl
  · intro h
    exact absurd ((h ⟨"a", "bc", "d"⟩).mp (List.mem_singleton_self _)) (by decide)

end Opni.Patch
