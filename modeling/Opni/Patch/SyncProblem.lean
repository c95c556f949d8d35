/-
  Opni.Patch.SyncProblem

  Plugin sync as a problem about two directories: the files the agent has, the
  files the gateway has, and the operations that are asked for to turn the
  first into the second (`Required`).
-/

import Opni.Lib.DirOps

namespace Opni.Patch

open Lib.DirOps Function

/-- The two sides of a sync.  Each file belongs to the module its contents
    determine, and a directory has at most one file of a module.  `cached`
    are the contents for which the gateway can compute patches. -/
structure SyncProblem (F C M : Type) where
  agent : State F C
  gateway : State F C
  module : C → M
  cached : C → Prop
  agent_inj : ∀ {f f' c c'}, agent f = some c → agent f' = some c' → module c = module c' → f = f'
  gateway_inj : ∀ {f f' c c'}, gateway f = some c → gateway f' = some c' →
    module c = module c' → f = f'

namespace SyncProblem

variable {F C M : Type} (s : SyncProblem F C M)

/-! ## What a sync asks for -/

/-- A plugin of the gateway whose module the agent does not have. -/
def Added (f : F) (c : C) : Prop :=
  s.gateway f = some c ∧ ∀ f' c', s.agent f' = some c' → s.module c' ≠ s.module c

/-- A file of the agent whose module the gateway does not have. -/
def Dropped (f : F) : Prop :=
  ∃ c, s.agent f = some c ∧ ∀ f' c', s.gateway f' = some c' → s.module c' ≠ s.module c

/-- A module with new contents, from file `f` of the agent to file `g` of the gateway. -/
def Changed (f g : F) (old new : C) : Prop :=
  s.agent f = some old ∧ s.gateway g = some new ∧ s.module old = s.module new ∧ old ≠ new

def Renamed (f g : F) : Prop :=
  f ≠ g ∧ ∃ c, s.agent f = some c ∧ s.gateway g = some c

/-- The operations asked for: changed contents are patched under the new name
    when the old contents are cached, and written whole otherwise. -/
def Required : Op F C → Prop
  | .put f c => s.Added f c ∨ ∃ f' old, s.Changed f' f old c ∧ ¬ s.cached old
  | .replace f old new => ∃ f', s.Changed f' f old new ∧ s.cached old
  | .move f g => s.Renamed f g
  | .delete f => s.Dropped f

structure Feasible : Prop where
  /-- contents that are patched keep their file name -/
  patched_in_place : ∀ {f g old new}, s.Changed f g old new → s.cached old → f = g
  /-- no plugin is renamed to the name of one whose contents change -/
  target_unchanged : ∀ {f g h old new}, s.Renamed f g → ¬ s.Changed g h old new
  /-- no set of names is permuted by the renames -/
  acyclic : ∀ R : Set F, R.Nonempty → ∃ f ∈ R, ∀ g ∈ R, ¬ s.Renamed f g

structure Clean : Prop where
  /-- a file that is written whole is not removed or renamed as well -/
  written_not_vacated : ∀ {f c o}, s.Required (.put f c) → s.Required o → ¬ o.Vacates f
  /-- the old name of contents written whole is a name of the gateway -/
  old_name_reused : ∀ {f g old new}, s.Changed f g old new → f ≠ g → s.gateway f ≠ none

variable {s} {o o' : Op F C} {f g f' : F} {c c' old new : C}

/-! ## Writers and vacaters -/

theorem gateway_of_put (h : s.Required (.put f c)) : s.gateway f = some c := by
  rcases h with h | ⟨_, _, h, -⟩
  · exact h.1
  · exact h.2.1

/-- What writes a file: a plugin written whole, a patch, or a rename. -/
theorem writes_cases (h : s.Required o) (hw : o.Writes f) :
    (∃ c, o = .put f c ∧ s.Required (.put f c)) ∨
    (∃ k old new, o = .replace f old new ∧ s.Changed k f old new ∧ s.cached old) ∨
    ∃ k, o = .move k f ∧ s.Renamed k f := by
  cases o with
  | put g c =>
    cases hw
    exact .inl ⟨c, rfl, h⟩
  | replace g old new =>
    cases hw
    obtain ⟨k, h⟩ := h
    exact .inr (.inl ⟨k, old, new, rfl, h⟩)
  | move src dst =>
    cases hw
    exact .inr (.inr ⟨src, rfl, h⟩)
  | delete g => exact hw.elim

theorem vacates_cases (h : s.Required o) (hv : o.Vacates f) :
    (∃ g, o = .move f g ∧ s.Renamed f g) ∨ (o = .delete f ∧ s.Dropped f) := by
  cases o with
  | put g c | replace g old new => exact hv.elim
  | move src dst =>
    cases hv
    exact .inl ⟨dst, rfl, h⟩
  | delete g =>
    cases hv
    exact .inr ⟨rfl, h⟩

theorem gateway_of_writes (h : s.Required o) (hw : o.Writes f) : s.gateway f ≠ none := by
  rcases writes_cases h hw with ⟨c, -, h⟩ | ⟨_, _, _, -, h, -⟩ | ⟨_, -, -, c, -, h⟩
  · simp [gateway_of_put h]
  · simp [h.2.1]
  · simp [h]

theorem agent_of_vacates (h : s.Required o) (hv : o.Vacates f) : s.agent f ≠ none := by
  rcases vacates_cases h hv with ⟨_, -, -, c, h, -⟩ | ⟨-, c, h, -⟩
  · simp [h]
  · simp [h]

theorem Changed.unique {f₁ f₂ : F} {old₁ old₂ : C} (h₁ : s.Changed f₁ g old₁ new)
    (h₂ : s.Changed f₂ g old₂ new) : old₁ = old₂ := by
  have hf : f₁ = f₂ := s.agent_inj h₁.1 h₂.1 (h₁.2.2.1.trans h₂.2.2.1.symm)
  subst hf
  exact Option.some.inj (h₁.1.symm.trans h₂.1)

theorem Changed.not_renamed_to (h : s.Changed f' g old new) : ¬ s.Renamed f g := by
  rintro ⟨-, c, ha, hg⟩
  cases hg.symm.trans h.2.1
  have hf : f' = f := s.agent_inj h.1 ha h.2.2.1
  subst hf
  exact h.2.2.2 (Option.some.inj (h.1.symm.trans ha))

theorem Changed.not_vacated (h : s.Changed f g old new) (ho : s.Required o) : ¬ o.Vacates f := by
  intro hv
  rcases vacates_cases ho hv with ⟨dst, -, -, c, ha, hg⟩ | ⟨-, c, ha, hno⟩
  · cases h.1.symm.trans ha
    have hdst : dst = g := s.gateway_inj hg h.2.1 h.2.2.1
    subst hdst
    exact h.2.2.2 (Option.some.inj (hg.symm.trans h.2.1))
  · cases h.1.symm.trans ha
    exact hno _ _ h.2.1 h.2.2.1.symm

theorem not_vacated_of_kept (ha : s.agent f = some c) (hg : s.gateway f = some c)
    (ho : s.Required o) : ¬ o.Vacates f := by
  intro hv
  rcases vacates_cases ho hv with ⟨dst, -, hne, c', ha', hg'⟩ | ⟨-, c', ha', hno⟩
  · cases ha.symm.trans ha'
    exact hne (s.gateway_inj hg hg' rfl)
  · cases ha.symm.trans ha'
    exact hno _ _ hg rfl

/-- A plugin the agent has already is not written. -/
theorem not_written_of_kept (ha : s.agent f = some c) (hg : s.gateway f = some c)
    (ho : s.Required o) : ¬ o.Writes f := by
  have hchanged : ∀ {k old new}, ¬ s.Changed k f old new := by
    intro k old new h
    cases hg.symm.trans h.2.1
    have hk : k = f := s.agent_inj h.1 ha h.2.2.1
    subst hk
    exact h.2.2.2 (Option.some.inj (h.1.symm.trans ha))
  intro hw
  rcases writes_cases ho hw with ⟨c', -, ho⟩ | ⟨k, _, _, -, ho, -⟩ | ⟨k, -, hne, c', ha', hg'⟩
  · cases hg.symm.trans (gateway_of_put ho)
    rcases ho with ho | ⟨_, _, ho, -⟩
    · exact ho.2 _ _ ha rfl
    · exact hchanged ho
  · exact hchanged ho
  · cases hg.symm.trans hg'
    exact hne (s.agent_inj ha' ha rfl)

theorem put_ne_move (hp : s.Required (.put g c)) (hm : s.Renamed f g) : False := by
  rcases hp with hp | ⟨_, _, hp, -⟩
  · obtain ⟨-, c', ha, hg⟩ := hm
    cases hg.symm.trans hp.1
    exact hp.2 _ _ ha rfl
  · exact hp.not_renamed_to hm

theorem put_ne_replace (hp : s.Required (.put g c)) (hr : s.Changed f g old new)
    (hc : s.cached old) : False := by
  cases (gateway_of_put hp).symm.trans hr.2.1
  rcases hp with hp | ⟨_, _, hp, hnc⟩
  · exact hp.2 _ _ hr.1 hr.2.2.1
  · exact hnc (hp.unique hr ▸ hc)

/-- At most one operation writes a file. -/
theorem writer_unique (h : s.Required o) (h' : s.Required o') (hw : o.Writes f)
    (hw' : o'.Writes f) : o = o' := by
  rcases writes_cases h hw with ⟨c, rfl, h⟩ | ⟨_, old, new, rfl, h, hc⟩ | ⟨k, rfl, h⟩
  · rcases writes_cases h' hw' with ⟨c', rfl, h'⟩ | ⟨_, _, _, -, h', hc'⟩ | ⟨_, -, h'⟩
    · cases (gateway_of_put h).symm.trans (gateway_of_put h')
      rfl
    · exact (put_ne_replace h h' hc').elim
    · exact (put_ne_move h h').elim
  · rcases writes_cases h' hw' with ⟨_, -, h'⟩ | ⟨_, _, _, rfl, h', -⟩ | ⟨_, -, h'⟩
    · exact (put_ne_replace h' h hc).elim
    · cases h.2.1.symm.trans h'.2.1
      rw [h.unique h']
    · exact (h.not_renamed_to h').elim
  · rcases writes_cases h' hw' with ⟨_, -, h'⟩ | ⟨_, _, _, -, h', -⟩ | ⟨k', rfl, h'⟩
    · exact (put_ne_move h' h).elim
    · exact (h'.not_renamed_to h).elim
    · obtain ⟨-, c, ha, hg⟩ := h
      obtain ⟨-, c', ha', hg'⟩ := h'
      cases hg.symm.trans hg'
      rw [s.agent_inj ha ha' rfl]

/-- At most one operation vacates a file. -/
theorem vacater_unique (h : s.Required o) (h' : s.Required o') (hv : o.Vacates f)
    (hv' : o'.Vacates f) : o = o' := by
  have hmd : ∀ {dst}, s.Renamed f dst → s.Dropped f → False := by
    rintro dst ⟨-, c, ha, hg⟩ ⟨c', ha', hno⟩
    cases ha.symm.trans ha'
    exact hno _ _ hg rfl
  rcases vacates_cases h hv with ⟨g, rfl, h⟩ | ⟨rfl, h⟩
  · rcases vacates_cases h' hv' with ⟨g', rfl, h'⟩ | ⟨-, h'⟩
    · obtain ⟨-, c, ha, hg⟩ := h
      obtain ⟨-, c', ha', hg'⟩ := h'
      cases ha.symm.trans ha'
      rw [s.gateway_inj hg hg' rfl]
    · exact (hmd h h').elim
  · rcases vacates_cases h' hv' with ⟨_, -, h'⟩ | ⟨rfl, -⟩
    · exact (hmd h' h).elim
    · rfl

/-! ## Files without an operation -/

theorem kept_of_no_writer (hg : s.gateway f = some c) (hno : ∀ o, s.Required o → ¬ o.Writes f) :
    s.agent f = some c := by
  have hknown : ∃ k a, s.agent k = some a ∧ s.module a = s.module c := by
    by_contra hnone
    push Not at hnone
    exact hno (.put f c) (.inl ⟨hg, hnone⟩) rfl
  -- the agent has the module: renamed, changed, or here
  obtain ⟨k, a, ha, hm⟩ := hknown
  by_cases hac : a = c
  · subst hac
    by_cases hkf : k = f
    · rw [← hkf]
      exact ha
    · exact absurd rfl (hno (.move k f) ⟨hkf, a, ha, hg⟩)
  · by_cases hcached : s.cached a
    · exact absurd rfl (hno (.replace f a c) ⟨k, ⟨ha, hg, hm, hac⟩, hcached⟩)
    · exact absurd rfl (hno (.put f c) (.inr ⟨k, a, ⟨ha, hg, hm, hac⟩, hcached⟩))

theorem changed_of_no_vacater (ha : s.agent f = some c) (hg : s.gateway f = none)
    (hno : ∀ o, s.Required o → ¬ o.Vacates f) : ∃ g new, g ≠ f ∧ s.Changed f g c new := by
  have hknown : ∃ k c', s.gateway k = some c' ∧ s.module c' = s.module c := by
    by_contra hnone
    push Not at hnone
    exact hno (.delete f) ⟨c, ha, hnone⟩ rfl
  obtain ⟨k, c', hk, hm⟩ := hknown
  have hkf : k ≠ f := by
    rintro rfl
    rw [hg] at hk
    cases hk
  refine ⟨k, c', hkf, ha, hk, hm.symm, ?_⟩
  rintro rfl
  exact hno (.move f k) ⟨hkf.symm, c, ha, hk⟩ rfl

/-! ## Some order succeeds -/

theorem Feasible.exists_vacater (hf : s.Feasible) (h : s.Renamed f g) (hg : s.agent g ≠ none) :
    ∃ o, s.Required o ∧ o.Vacates g := by
  obtain ⟨a, ha⟩ := Option.ne_none_iff_exists'.mp hg
  by_cases hd : s.Dropped g
  · exact ⟨.delete g, hd, rfl⟩
  · -- the module of `g` is on the gateway
    have hsome : ∃ k c, s.gateway k = some c ∧ s.module c = s.module a := by
      by_contra hno
      push Not at hno
      exact hd ⟨a, ha, hno⟩
    obtain ⟨k, c, hk, hm⟩ := hsome
    have hca : a = c := by
      by_contra hne
      exact hf.target_unchanged h ⟨ha, hk, hm.symm, hne⟩
    subst hca
    have hgk : g ≠ k := by
      rintro rfl
      obtain ⟨hne, c, hfc, hgc⟩ := h
      have hac : a = c := Option.some.inj (hk.symm.trans hgc)
      exact hne (s.agent_inj hfc ha (by rw [hac]))
    exact ⟨.move g k, ⟨hgk, a, ha, hk⟩, rfl⟩

section Orders

variable {os : List (Op F C)} {σ σ₁ : State F C} (hos : ∀ o ∈ os, s.Required o) (hnd : os.Nodup)
  (hvac : ∀ o, s.Required o → ∀ f, o.Vacates f → o ∈ os) (hocc : ∀ f, σ f = none ↔ s.agent f = none)

include hos hnd

theorem nodup_moves : ((moves os).map Prod.fst).Nodup ∧ ((moves os).map Prod.snd).Nodup := by
  constructor
  · refine (nodup_moves_replaces hnd).1.map_on ?_
    intro m hm m' hm' heq
    have hmo := mem_moves.mp hm
    have hmo' := mem_moves.mp hm'
    have := vacater_unique (hos _ hmo) (hos _ hmo') rfl (heq.symm : m'.1 = m.1)
    exact Prod.ext heq (Op.move.inj this).2
  · refine (nodup_moves_replaces hnd).1.map_on ?_
    intro m hm m' hm' heq
    have hmo := mem_moves.mp hm
    have hmo' := mem_moves.mp hm'
    have := writer_unique (hos _ hmo) (hos _ hmo') rfl (heq.symm : m'.2 = m.2)
    exact Prod.ext (Op.move.inj this).1 heq

theorem nodup_replaces : ((replaces os).map Prod.fst).Nodup := by
  refine (nodup_moves_replaces hnd).2.map_on ?_
  intro p hp q hq heq
  have hpo := mem_replaces.mp hp
  have hqo := mem_replaces.mp hq
  have := writer_unique (hos _ hpo) (hos _ hqo) rfl (heq.symm : q.1 = p.1)
  obtain ⟨h1, h2, h3⟩ := Op.replace.inj this
  exact Prod.ext h1 (Prod.ext h2 h3)

include hvac hocc

/-- After the deletes of a feasible sync its renames can be ordered. -/
theorem Feasible.orderable (hf : s.Feasible) (hkept : ∀ f, Op.delete f ∉ os → σ₁ f = σ f)
    (hgone : ∀ f, σ f = none ∨ Op.delete f ∈ os → σ₁ f = none) : Orderable σ₁ (moves os) where
  src_nodup := (nodup_moves hos hnd).1
  dst_nodup := (nodup_moves hos hnd).2
  occupied m hm := by
    -- the source is renamed, so it is not deleted
    have hmo := hos _ (mem_moves.mp hm)
    have hnotDeleted : Op.delete m.1 ∉ os := by
      intro hd
      have heq := vacater_unique hmo (hos _ hd) (f := m.1) rfl rfl
      cases heq
    rw [hkept _ hnotDeleted, Ne, hocc]
    exact agent_of_vacates hmo rfl
  free m hm := by
    by_cases hg : s.agent m.2 = none
    · exact .inl (hgone _ (.inl ((hocc _).mpr hg)))
    · obtain ⟨o, ho, hv⟩ := hf.exists_vacater (hos _ (mem_moves.mp hm)) hg
      have hmem := hvac o ho _ hv
      rcases vacates_cases ho hv with ⟨k, rfl, -⟩ | ⟨rfl, -⟩
      · exact .inr (List.mem_map.mpr ⟨(m.2, k), mem_moves.mpr hmem, rfl⟩)
      · exact .inl (hgone _ (.inr hmem))
  acyclic R hR := by
    obtain ⟨f, hfR, hno⟩ := hf.acyclic R hR
    exact ⟨f, hfR, fun g hg hm => hno g hg (hos _ (mem_moves.mp hm))⟩

variable [DecidableEq F] [DecidableEq C]

/-- Deletes first, then the renames in an order that keeps destinations free,
    then the patches, then the writes.  The start need not be the agent's
    directory: a directory with the same names will do, as long as the files to
    be patched are intact. -/
theorem Feasible.exists_order (hf : s.Feasible)
    (hrep : ∀ f old new, Op.replace f old new ∈ os → σ f = some old) :
    ∃ order, List.Perm order os ∧ ∃ σ', run order σ = some σ' := by
  obtain ⟨σ₁, h₁⟩ := exists_run_deletes (C := C) (deletes os) σ
  have hnoWrite : ∀ f, ∀ o ∈ (deletes os).map Op.delete, ¬ (o : Op F C).Writes f := by
    intro f o ho
    obtain ⟨g, -, rfl⟩ := List.mem_map.mp ho
    exact id
  have hkept : ∀ f, Op.delete f ∉ os → σ₁ f = σ f := by
    intro f hno
    refine run_frame h₁ fun o ho => ⟨hnoWrite f o ho, ?_⟩
    obtain ⟨g, hg, rfl⟩ := List.mem_map.mp ho
    rintro rfl
    exact hno (mem_deletes.mp hg)
  have hgone : ∀ f, σ f = none ∨ Op.delete f ∈ os → σ₁ f = none := by
    intro f h
    refine run_vacated h₁ (hnoWrite f) (h.imp_right fun hd => ⟨.delete f, ?_, rfl⟩)
    exact List.mem_map_of_mem (mem_deletes.mpr hd)
  obtain ⟨order, hord, σ₂, h₂⟩ :=
    exists_order_moves (hf.orderable hos hnd hvac hocc hkept hgone)
  -- files to be patched are neither vacated nor written by the renames
  have hintact : ∀ p ∈ replaces os, σ₂ p.1 = some p.2.1 := by
    intro p hp
    have hpo := mem_replaces.mp hp
    obtain ⟨k, hchg, hcached⟩ := hos _ hpo
    have hk : k = p.1 := hf.patched_in_place hchg hcached
    subst hk
    rw [run_frame h₂ ?_, hkept _ fun hd => hchg.not_vacated (hos _ hd) rfl, hrep _ _ _ hpo]
    intro o ho
    obtain ⟨m, hm, rfl⟩ := List.mem_map.mp ho
    have hmo := hos _ (mem_moves.mp (hord.mem_iff.mp hm))
    refine ⟨?_, hchg.not_vacated hmo⟩
    intro hw
    have heq := writer_unique (hos _ hpo) hmo rfl hw
    cases heq
  obtain ⟨σ₃, h₃⟩ := exists_run_replaces (replaces os) (nodup_replaces hos hnd) hintact
  obtain ⟨σ₄, h₄⟩ := exists_run_puts (puts os) σ₃
  refine ⟨_, ?_, σ₄, run_append_eq_some.mpr ⟨σ₁, h₁, run_append_eq_some.mpr
    ⟨σ₂, h₂, run_append_eq_some.mpr ⟨σ₃, h₃, h₄⟩⟩⟩⟩
  exact ((hord.map _).append_right _).append_left _ |>.trans (perm_by_kind os)

end Orders

/-! ## Why the other syncs fail -/

variable [DecidableEq F] [DecidableEq C] {os order : List (Op F C)}

theorem run_eq_none_of_patched_elsewhere (hos : ∀ o ∈ os, s.Required o)
    (hmem : Op.replace g old new ∈ os) (h : s.Changed f g old new) (hne : f ≠ g) :
    run os s.agent = none := by
  -- invariant: the old contents are not at `g`, where the patch looks for them
  refine run_eq_none_of_invariant (fun τ => τ g ≠ some old) hmem ?_ ?_ ?_
  · intro τ hτ
    simp [step, hτ]
  · intro o ho τ τ' hτ hstep
    -- the patch itself is the only operation that writes `g`, and it fails
    by_cases hv : o.Vacates g
    · by_cases hw : o.Writes g
      · have := writer_unique (hos _ hmem) (hos _ ho) rfl hw
        subst this
        exact hv.elim
      · rw [step_vacated hstep hv hw]
        simp
    · by_cases hw : o.Writes g
      · have := writer_unique (hos _ hmem) (hos _ ho) rfl hw
        subst this
        exact absurd (step_replace_eq_some.mp hstep).1 hτ
      · rw [step_frame hstep hw hv]
        exact hτ
  · intro hg
    exact hne (s.agent_inj h.1 hg rfl)

/-- The files of `R` stay occupied when the only operation that may vacate one
    is a rename to a file of `R`; then none of these renames succeeds. -/
theorem run_eq_none_of_occupied (R : Set F) (hocc : ∀ f ∈ R, s.agent f ≠ none)
    (hR : ∀ f ∈ R, ∀ o ∈ os, o.Vacates f → ∃ g ∈ R, o = .move f g)
    (hmem : Op.move f g ∈ os) (hg : g ∈ R) : run os s.agent = none := by
  have hfail : ∀ {k l} {τ : State F C}, l ∈ R → (∀ f ∈ R, τ f ≠ none) →
      step (.move k l) τ = none := by
    intro k l τ hl hτ
    simp [step, hτ l hl]
  refine run_eq_none_of_invariant (fun τ => ∀ f ∈ R, τ f ≠ none) hmem
    (fun τ hτ => hfail hg hτ) ?_ hocc
  intro o ho τ τ' hτ hstep f hf
  by_cases hv : o.Vacates f
  · obtain ⟨k, hk, rfl⟩ := hR f hf o ho hv
    rw [hfail hk hτ] at hstep
    cases hstep
  · exact step_occupied hstep hv (hτ f hf)

/-- A sync succeeds in some order exactly when it is feasible. -/
theorem exists_run_iff_feasible (hos : ∀ o, o ∈ os ↔ s.Required o) (hnd : os.Nodup) :
    (∃ order, List.Perm order os ∧ ∃ σ', run order s.agent = some σ') ↔ s.Feasible := by
  constructor
  · rintro ⟨order, hperm, σ', hrun⟩
    -- each way to be infeasible makes every order fail, and this one has not
    have hreq : ∀ o, o ∈ order ↔ s.Required o := fun o => hperm.mem_iff.trans (hos o)
    have habs : run order s.agent ≠ none := by simp [hrun]
    refine ⟨?_, ?_, ?_⟩
    · intro f g old new hchg hcached
      by_contra hne
      exact habs (run_eq_none_of_patched_elsewhere (fun o => (hreq o).mp)
        ((hreq _).mpr ⟨f, hchg, hcached⟩) hchg hne)
    · intro f g h old new hren hchg
      refine habs (run_eq_none_of_occupied {g} ?_ ?_ ((hreq _).mpr hren) rfl)
      · rintro _ rfl
        simp [hchg.1]
      · rintro _ rfl o ho hv
        exact absurd hv (hchg.not_vacated ((hreq o).mp ho))
    · -- a permuted set of names stays occupied, and its renames have no free target
      intro R hR
      by_contra hno
      push Not at hno
      obtain ⟨f, hfR⟩ := hR
      obtain ⟨g, hgR, hfg⟩ := hno f hfR
      refine habs (run_eq_none_of_occupied R ?_ ?_ ((hreq _).mpr hfg) hgR)
      · intro k hk
        obtain ⟨l, -, hkl⟩ := hno k hk
        exact agent_of_vacates (o := .move k l) hkl rfl
      · intro k hk o ho hv
        obtain ⟨l, hl, hkl⟩ := hno k hk
        have hmove : s.Required (.move k l) := hkl
        exact ⟨l, hl, vacater_unique ((hreq o).mp ho) hmove hv rfl⟩
  · intro hf
    refine hf.exists_order (fun o => (hos o).mp) hnd (fun o ho _ _ => (hos o).mpr ho)
      (fun f => Iff.rfl) ?_
    intro f old new hmem
    obtain ⟨k, hchg, hcached⟩ := (hos _).mp hmem
    rw [← hf.patched_in_place hchg hcached]
    exact hchg.1

/-! ## Every order ends in the gateway's directory -/

/-- A directory after the operations `done`: a file that was written has the
    gateway's contents, and whatever had to leave it left before. -/
structure Progress (s : SyncProblem F C M) (done : List (Op F C)) (σ : State F C) : Prop where
  written : ∀ f, (∃ o ∈ done, o.Writes f) → σ f = s.gateway f
  vacated : ∀ f, (∀ o ∈ done, ¬ o.Writes f) → (∃ o ∈ done, o.Vacates f) → σ f = none
  untouched : ∀ f, (∀ o ∈ done, ¬ o.Writes f ∧ ¬ o.Vacates f) → σ f = s.agent f
  vacated_first : ∀ f, (∃ o ∈ done, o.Writes f) → ∀ o, s.Required o → o.Vacates f → o ∈ done

variable {done : List (Op F C)} {σ σ' : State F C}

/-- A step keeps `Progress` when it writes the gateway's contents, after whatever had
    to leave the file. -/
theorem Progress.cons (hp : s.Progress done σ) (hreq : s.Required o) (hnew : o ∉ done)
    (hstep : step o σ = some σ') (hw : ∀ g, o.Writes g → σ' g = s.gateway g)
    (hfirst : ∀ g, o.Writes g → ∀ o', s.Required o' → o'.Vacates g → o' ∈ done) :
    s.Progress (o :: done) σ' where
  written g h := by
    by_cases hog : o.Writes g
    · exact hw g hog
    · obtain ⟨o', ho', hw'⟩ := (List.exists_mem_cons_iff ..).mp h |>.resolve_left hog
      -- had the operation to vacate the file, it would have run before
      have hv : ¬ o.Vacates g := fun hv => hnew (hp.vacated_first g ⟨o', ho', hw'⟩ o hreq hv)
      rw [step_frame hstep hog hv]
      exact hp.written g ⟨o', ho', hw'⟩
  vacated g hnw h := by
    obtain ⟨hog, hnw⟩ := List.forall_mem_cons.mp hnw
    by_cases hv : o.Vacates g
    · exact step_vacated hstep hv hog
    · rw [step_frame hstep hog hv]
      exact hp.vacated g hnw ((List.exists_mem_cons_iff ..).mp h |>.resolve_left hv)
  untouched g h := by
    obtain ⟨ho, h⟩ := List.forall_mem_cons.mp h
    rw [step_frame hstep ho.1 ho.2]
    exact hp.untouched g h
  vacated_first g h o' ho' hv' := by
    refine .tail _ ?_
    rcases (List.exists_mem_cons_iff ..).mp h with hog | hdone
    · exact hfirst g hog o' ho' hv'
    · exact hp.vacated_first g hdone o' ho' hv'

/-- A rename that succeeds finds the agent's contents at its source, and what
    stood at its destination has left. -/
theorem Progress.move (hp : s.Progress done σ)
    (hdone : ∀ o ∈ done, s.Required o) (hreq : s.Required (.move f g))
    (hnew : Op.move f g ∉ done) (hstep : step (.move f g) σ = some σ') :
    s.Progress (.move f g :: done) σ' := by
  obtain ⟨hgnone, c, hfc, hσ'⟩ := step_move_eq_some.mp hstep
  obtain ⟨hfg, a, ha, hga⟩ := id hreq
  refine hp.cons hreq hnew hstep ?_ ?_
  · -- nothing has touched the source: it would be the gateway's or empty
    rintro k rfl
    have hnw : ∀ o ∈ done, ¬ o.Writes f := fun o ho hw =>
      hnew (hp.vacated_first f ⟨o, ho, hw⟩ _ hreq rfl)
    have hnv : ∀ o ∈ done, ¬ o.Vacates f := by
      intro o ho hv
      have hnone := hp.vacated f hnw ⟨o, ho, hv⟩
      rw [hfc] at hnone
      cases hnone
    have hfa := hp.untouched f fun o ho => ⟨hnw o ho, hnv o ho⟩
    rw [hσ', update_self, ← hfc, hfa, ha, hga]
  · -- whoever vacates the destination has done so
    rintro k rfl o ho hv
    by_contra hno
    have hnone : s.agent g = none := by
      rw [← hp.untouched g ?_, hgnone]
      intro o' ho'
      constructor
      · intro hw'
        have := hp.written g ⟨o', ho', hw'⟩
        rw [hgnone, hga] at this
        cases this
      · intro hv'
        have := vacater_unique ho (hdone o' ho') hv hv'
        subst this
        exact hno ho'
    exact agent_of_vacates ho hv hnone

theorem Progress.step (hf : s.Feasible)
    (hc : s.Clean) (hp : s.Progress done σ) (hdone : ∀ o ∈ done, s.Required o)
    (hreq : s.Required o) (hnew : o ∉ done) (hstep : step o σ = some σ') :
    s.Progress (o :: done) σ' := by
  cases o with
  | put f c =>
    refine hp.cons hreq hnew hstep ?_ ?_
    · rintro g rfl
      cases hstep
      rw [update_self, gateway_of_put hreq]
    · rintro g rfl o' ho' hv'
      exact absurd hv' (hc.written_not_vacated hreq ho')
  | replace f old new =>
    obtain ⟨k, hchg, hcached⟩ := id hreq
    have hk := hf.patched_in_place hchg hcached
    subst hk
    refine hp.cons hreq hnew hstep ?_ ?_
    · rintro g rfl
      obtain ⟨-, rfl⟩ := step_replace_eq_some.mp hstep
      rw [update_self, hchg.2.1]
    · rintro g rfl o' ho' hv'
      exact absurd hv' (hchg.not_vacated ho')
  | move f g => exact hp.move hdone hreq hnew hstep
  | delete f => exact hp.cons hreq hnew hstep (fun _ => False.elim) fun _ => False.elim

theorem Progress.run (hf : s.Feasible)
    (hc : s.Clean) (hp : s.Progress done σ) (hdone : ∀ o ∈ done, s.Required o)
    (hos : ∀ o ∈ os, s.Required o) (hnd : (os.reverse ++ done).Nodup)
    (hrun : run os σ = some σ') : s.Progress (os.reverse ++ done) σ' := by
  induction os generalizing done σ with
  | nil =>
    cases hrun
    exact hp
  | cons o os ih =>
    obtain ⟨τ, ho, hrest⟩ := run_cons_eq_some.mp hrun
    rw [List.reverse_cons, List.append_assoc, List.singleton_append] at hnd ⊢
    have hnew : o ∉ done := (List.nodup_cons.mp (List.nodup_append.mp hnd).2.1).1
    have hreq : s.Required o := hos o (by simp)
    refine ih (hp.step hf hc hdone hreq hnew ho) ?_ (fun o' ho' => hos o' (by simp [ho'])) hnd hrest
    intro o' ho'
    rcases List.mem_cons.mp ho' with rfl | ho'
    · exact hreq
    · exact hdone o' ho'

variable (hf : s.Feasible)

include hf

/-- Every order that succeeds turns the agent's directory into the gateway's. -/
theorem run_eq_gateway (hc : s.Clean) (hos : ∀ o, o ∈ os ↔ s.Required o)
    (hnd : os.Nodup) (hrun : run os s.agent = some σ') : σ' = s.gateway := by
  have hinit : s.Progress [] s.agent :=
    ⟨by simp, by simp, fun _ _ => rfl, by simp⟩
  have hp := hinit.run hf hc (by simp) (fun o ho => (hos o).mp ho) (by simpa using hnd) hrun
  rw [List.append_nil] at hp
  have hmem : ∀ o, o ∈ os.reverse ↔ s.Required o := fun o => by rw [List.mem_reverse, hos]
  funext f
  -- by what the operations do to the file: written, only vacated, or untouched
  by_cases hw : ∃ o ∈ os.reverse, o.Writes f
  · exact hp.written f hw
  · have hnw : ∀ o, s.Required o → ¬ o.Writes f := fun o ho hwo =>
      hw ⟨o, (hmem o).mpr ho, hwo⟩
    by_cases hv : ∃ o ∈ os.reverse, o.Vacates f
    · rw [hp.vacated f (fun o ho => hnw o ((hmem o).mp ho)) hv]
      obtain ⟨o, ho, hvo⟩ := hv
      cases hg : s.gateway f with
      | none => rfl
      | some c =>
        exact absurd hvo (not_vacated_of_kept (kept_of_no_writer hg hnw) hg ((hmem o).mp ho))
    · have hnv : ∀ o, s.Required o → ¬ o.Vacates f := fun o ho hvo =>
        hv ⟨o, (hmem o).mpr ho, hvo⟩
      rw [hp.untouched f fun o ho => ⟨hnw o ((hmem o).mp ho), hnv o ((hmem o).mp ho)⟩]
      cases hg : s.gateway f with
      | some c => exact kept_of_no_writer hg hnw
      | none =>
        cases ha : s.agent f with
        | none => rfl
        | some a =>
          obtain ⟨k, new, hk, hchg⟩ := changed_of_no_vacater ha hg hnv
          exact absurd hg (hc.old_name_reused hchg hk.symm)

/-- A file that is written whole and vacated as well is missing at the end of an
    order that writes it first. -/
theorem exists_run_put_first (hos : ∀ o, o ∈ os ↔ s.Required o)
    (hnd : os.Nodup) (hput : s.Required (.put f c)) (ho : s.Required o) (hv : o.Vacates f) :
    ∃ order, List.Perm order os ∧ ∃ σ', run order s.agent = some σ' ∧ σ' f = none := by
  have hmem : Op.put f c ∈ os := (hos _).mpr hput
  have hperm : os.Perm (.put f c :: os.erase (.put f c)) := List.perm_cons_erase hmem
  have hnd' := hperm.nodup_iff.mp hnd
  have hsub : ∀ o' ∈ os.erase (.put f c), s.Required o' := fun o' h' =>
    (hos o').mp (List.mem_of_mem_erase h')
  have hvac : ∀ o', s.Required o' → ∀ k, o'.Vacates k → o' ∈ os.erase (.put f c) := by
    intro o' h' k hv'
    refine (List.mem_erase_of_ne ?_).mpr ((hos o').mpr h')
    rintro rfl
    exact hv'
  -- there was a file at `f` before, so the write does not change which names exist
  have hocc : ∀ k, update s.agent f (some c) k = none ↔ s.agent k = none := by
    intro k
    by_cases hk : k = f
    · simp [hk, agent_of_vacates ho hv]
    · rw [update_of_ne hk]
  have hrep : ∀ k old new, Op.replace k old new ∈ os.erase (.put f c) →
      update s.agent f (some c) k = some old := by
    intro k old new hmem'
    obtain ⟨l, hchg, hcached⟩ := hsub _ hmem'
    have hk : k ≠ f := by
      rintro rfl
      exact put_ne_replace hput hchg hcached
    rw [update_of_ne hk, ← hf.patched_in_place hchg hcached]
    exact hchg.1
  obtain ⟨order, hord, σ', hrun⟩ :=
    hf.exists_order hsub (List.nodup_cons.mp hnd').2 hvac hocc hrep
  have hnoWriter : ∀ o' ∈ order, ¬ o'.Writes f := by
    intro o' h' hw'
    have heq := writer_unique hput (hsub o' (hord.mem_iff.mp h')) rfl hw'
    subst heq
    exact (List.nodup_cons.mp hnd').1 (hord.mem_iff.mp h')
  refine ⟨.put f c :: order, (hord.cons _).trans hperm.symm, σ',
    run_cons_eq_some.mpr ⟨_, rfl, hrun⟩, ?_⟩
  exact run_vacated hrun hnoWriter (.inr ⟨o, hord.mem_iff.mpr (hvac o ho f hv), hv⟩)

theorem exists_bad_run (hc : ¬ s.Clean) (hos : ∀ o, o ∈ os ↔ s.Required o) (hnd : os.Nodup) :
    ∃ order, List.Perm order os ∧ ∃ σ', run order s.agent = some σ' ∧
      ∃ f, (σ' f = none ∧ s.gateway f ≠ none) ∨
        (s.gateway f = none ∧ σ' f = s.agent f ∧ s.agent f ≠ none) := by
  have hcases : (∃ f c o, s.Required (.put f c) ∧ s.Required o ∧ o.Vacates f) ∨
      ∃ f g old new, s.Changed f g old new ∧ f ≠ g ∧ s.gateway f = none := by
    by_contra hno
    push Not at hno
    exact hc ⟨fun h h' => hno.1 _ _ _ h h', fun h h' => hno.2 _ _ _ _ h h'⟩
  rcases hcases with ⟨f, c, o, hput, ho, hv⟩ | ⟨f, g, old, new, hchg, hne, hg⟩
  · obtain ⟨order, hord, σ', hrun, hempty⟩ := exists_run_put_first hf hos hnd hput ho hv
    exact ⟨order, hord, σ', hrun, f, .inl ⟨hempty, by simp [gateway_of_put hput]⟩⟩
  · -- nothing touches the old file, in any order
    obtain ⟨order, hord, σ', hrun⟩ := (exists_run_iff_feasible hos hnd).mpr hf
    refine ⟨order, hord, σ', hrun, f, .inr ⟨hg, run_frame hrun ?_, by simp [hchg.1]⟩⟩
    intro o ho
    have hreq := (hos o).mp (hord.mem_iff.mp ho)
    exact ⟨fun hw => gateway_of_writes hreq hw hg, hchg.not_vacated hreq⟩

end SyncProblem

end Opni.Patch
