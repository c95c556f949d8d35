/-
  Opni.Lib.DispatchTree

  Trees that dispatch a message: a node accepts the message or not, the
  children of an accepting node are tried in order, and an accepting child
  that does not continue keeps its later siblings from being tried.  A node
  none of whose children accepts is selected itself.
-/

import Mathlib.Data.List.Basic

namespace Opni.Lib

inductive DispatchTree (α : Type) where
  | node (data : α) (children : List (DispatchTree α))

namespace DispatchTree

variable {α : Type}

def data : DispatchTree α → α
  | .node a _ => a

def children : DispatchTree α → List (DispatchTree α)
  | .node _ cs => cs

variable (a : α) (cs : List (DispatchTree α))

@[simp] theorem data_node : (node a cs).data = a := rfl

@[simp] theorem children_node : (node a cs).children = cs := rfl

/-- A selected node: the indices of the children taken on the way to it, and
    the data of the nodes from the root down to it. -/
@[ext] structure Hit (α : Type) where
  path : List Nat
  chain : List α
deriving DecidableEq, Repr

variable (i : Nat)

/-- A node selected in the subtree with the given index. -/
def Hit.inChild (h : Hit α) : Hit α := ⟨i :: h.path, h.chain⟩

def Hit.below (h : Hit α) : Hit α := ⟨h.path, a :: h.chain⟩

@[simp] theorem Hit.chain_inChild (h : Hit α) : (h.inChild i).chain = h.chain := rfl

@[simp] theorem Hit.chain_below (h : Hit α) : (h.below a).chain = a :: h.chain := rfl

/-! ## Selection -/

section Select

variable (accepts continues : α → Bool)

mutual

def select : DispatchTree α → List (Hit α)
  | .node a cs =>
    if accepts a then
      match selectFrom 0 cs with
      | [] => [⟨[], [a]⟩]
      | h :: hs => (h :: hs).map (Hit.below a)
    else []

/-- The nodes selected in a list of siblings, the first of which has index `i`. -/
def selectFrom (i : Nat) : List (DispatchTree α) → List (Hit α)
  | [] => []
  | t :: ts =>
    match select t with
    | [] => selectFrom (i + 1) ts
    | h :: hs =>
      (h :: hs).map (Hit.inChild i) ++ (if continues t.data then selectFrom (i + 1) ts else [])

end

end Select

section Rules

variable {accepts continues : α → Bool}

theorem select_node (a : α) (cs : List (DispatchTree α)) :
    select accepts continues (node a cs) =
      if accepts a then
        match selectFrom accepts continues 0 cs with
        | [] => [⟨[], [a]⟩]
        | h :: hs => (h :: hs).map (Hit.below a)
      else [] := by
  rw [select]

@[simp] theorem selectFrom_nil (i : Nat) : selectFrom accepts continues i [] = [] := by
  rw [selectFrom]

variable {t : DispatchTree α} {h : Hit α} {i : Nat} {ts : List (DispatchTree α)} {a : α}

theorem select_eq_nil_iff : select accepts continues t = [] ↔ accepts t.data = false := by
  obtain ⟨a, cs⟩ := t
  rw [select_node, data_node]
  cases accepts a with
  | false => simp
  | true =>
    cases selectFrom accepts continues 0 cs with
    | nil | cons h hs => simp

theorem selectFrom_cons (i : Nat) (t : DispatchTree α) (ts : List (DispatchTree α)) :
    selectFrom accepts continues i (t :: ts) =
      (select accepts continues t).map (Hit.inChild i) ++
        (if accepts t.data = true ∧ continues t.data = false then []
         else selectFrom accepts continues (i + 1) ts) := by
  rw [selectFrom]
  cases hsel : select accepts continues t with
  | nil =>
    have hacc := select_eq_nil_iff.mp hsel
    simp [hacc]
  | cons h hs =>
    have hacc : accepts t.data = true := by
      by_contra hno
      rw [select_eq_nil_iff.mpr (by simpa using hno)] at hsel
      cases hsel
    cases hcont : continues t.data <;> simp [hacc]

theorem selectFrom_eq_nil_iff :
    selectFrom accepts continues i ts = [] ↔ ∀ t ∈ ts, accepts t.data = false := by
  induction ts generalizing i with
  | nil => simp
  | cons t ts ih =>
    cases hacc : accepts t.data with
    | false => simp [selectFrom_cons, select_eq_nil_iff.mpr hacc, ih, hacc]
    | true =>
      have hne : select accepts continues t ≠ [] := by
        rw [Ne, select_eq_nil_iff, hacc]
        simp
      rw [selectFrom_cons]
      simp [hne, hacc]

/-- A node is selected among siblings when it is selected in one of them and no
    earlier sibling has ended the search. -/
theorem mem_selectFrom_iff :
    h ∈ selectFrom accepts continues i ts ↔
      ∃ before t after, ts = before ++ t :: after ∧
        (∃ h' ∈ select accepts continues t, h = h'.inChild (i + before.length)) ∧
        ∀ s ∈ before, accepts s.data = true → continues s.data = true := by
  induction ts generalizing i with
  | nil => simp
  | cons t ts ih =>
    rw [selectFrom_cons, List.mem_append]
    constructor
    · rintro (hmem | hmem)
      · obtain ⟨h', hsel, rfl⟩ := List.mem_map.mp hmem
        exact ⟨[], t, ts, rfl, ⟨h', hsel, rfl⟩, by simp⟩
      · split at hmem
        · cases hmem
        next hgo =>
          obtain ⟨before, t', after, rfl, ⟨h', hsel, rfl⟩, hbefore⟩ := ih.mp hmem
          refine ⟨t :: before, t', after, rfl, ⟨h', hsel, ?_⟩, ?_⟩
          · rw [List.length_cons, Nat.add_right_comm, ← Nat.add_assoc]
          · intro s hs hacc
            rcases List.mem_cons.mp hs with rfl | hs
            · simpa [hacc] using hgo
            · exact hbefore s hs hacc
    · rintro ⟨before, t', after, heq, ⟨h', hsel, rfl⟩, hbefore⟩
      cases before with
      | nil =>
        cases heq
        exact .inl (List.mem_map.mpr ⟨h', hsel, rfl⟩)
      | cons s before =>
        cases heq
        refine .inr ?_
        have hgo : ¬(accepts t.data = true ∧ continues t.data = false) := by
          rintro ⟨hacc, hcont⟩
          rw [hbefore t (by simp) hacc] at hcont
          cases hcont
        rw [if_neg hgo]
        refine ih.mpr ⟨before, t', after, rfl, ⟨h', hsel, ?_⟩, ?_⟩
        · rw [List.length_cons, Nat.add_right_comm, ← Nat.add_assoc]
        · exact fun s hs => hbefore s (.tail _ hs)

theorem mem_select_iff {cs : List (DispatchTree α)} :
    h ∈ select accepts continues (node a cs) ↔
      accepts a = true ∧
        ((h = ⟨[], [a]⟩ ∧ ∀ c ∈ cs, accepts c.data = false) ∨
          ∃ h' ∈ selectFrom accepts continues 0 cs, h = h'.below a) := by
  rw [select_node]
  cases accepts a with
  | false => simp
  | true =>
    cases hsel : selectFrom accepts continues 0 cs with
    | nil =>
      have hnone := selectFrom_eq_nil_iff.mp hsel
      simpa using fun _ => hnone
    | cons h₀ hs =>
      have hsome : ¬∀ c ∈ cs, accepts c.data = false := by
        rw [← @selectFrom_eq_nil_iff _ accepts continues 0, hsel]
        simp
      simp only [if_true, List.mem_map, hsome, and_false, false_or, true_and]
      constructor
      · rintro ⟨h', hmem, rfl⟩
        exact ⟨h', hmem, rfl⟩
      · rintro ⟨h', hmem, rfl⟩
        exact ⟨h', hmem, rfl⟩

theorem mem_select_of_mem_child {before after : List (DispatchTree α)} (ha : accepts a = true)
    (hbefore : ∀ s ∈ before, accepts s.data = true → continues s.data = true)
    (hmem : h ∈ select accepts continues t) :
    (h.inChild before.length).below a ∈
      select accepts continues (node a (before ++ t :: after)) := by
  refine mem_select_iff.mpr ⟨ha, .inr ⟨_, mem_selectFrom_iff.mpr ?_, rfl⟩⟩
  exact ⟨before, t, after, rfl, ⟨h, hmem, by rw [Nat.zero_add]⟩, hbefore⟩

end Rules

def subtree : DispatchTree α → List Nat → Option (DispatchTree α)
  | t, [] => some t
  | t, i :: path => (t.children[i]?).bind (subtree · path)

/-! ## The nodes of a tree -/

mutual

def nodes : DispatchTree α → List α
  | .node a cs => a :: nodesOf cs

def nodesOf : List (DispatchTree α) → List α
  | [] => []
  | t :: ts => nodes t ++ nodesOf ts

end

@[simp] theorem nodes_node (a : α) (cs : List (DispatchTree α)) :
    (node a cs).nodes = a :: nodesOf cs := by
  rw [nodes]

@[simp] theorem mem_nodesOf {ts : List (DispatchTree α)} {a : α} :
    a ∈ nodesOf ts ↔ ∃ t ∈ ts, a ∈ t.nodes := by
  induction ts with
  | nil => simp [nodesOf]
  | cons t ts ih => simp [nodesOf, ih]

end DispatchTree

end Opni.Lib
