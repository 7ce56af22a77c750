import Mathlib.Data.Nat.Notation
import StytchBrowser.Lib.Machine

/-!
# Readers of a store that notifies them

A *reader* of a store holds a copy of what it reads there. It takes the first copy when it is shown,
attaches to the store at some later time, and from then on queues one refresh for every step of the
store that notifies. A refresh reads the store when it is applied, not when it is queued.

Such a reader falls behind in three ways only, and `Kept` excludes each where it happens: the store
is not any more what was first read when the reader attaches, a step of the store changes what is
read and does not notify, or the last refresh does not show what it has read.

* `upToDate_of_reach`: in a run whose steps are all `Kept`, an attached reader with no refresh
  queued shows what there is to be seen.
* `not_upToDate_of_not_kept`: any other step of such a run leaves a reader that does not.
-/

universe u v w x y

/-- A store: its steps, which of them notify, and what is read of it. -/
structure NotifyingStore (σ : Type u) (α : Type v) (U : Type w) where
  init : σ → Prop
  next : σ → α → Option σ
  notifies : σ → α → Bool
  read : σ → U

/-- How a reader makes copies. -/
structure ReaderPolicy (U : Type w) (W : Type x) where
  /-- The first copy. -/
  first : U → W
  /-- The copy after a refresh. -/
  refresh : W → U → W
  /-- Attaching queues a refresh. -/
  refreshes : Bool

/-- A reader with the copy it holds. -/
inductive Reader (W : Type x) where
  | absent
  | shown (held : W)
  | attached (held : W) (queued : ℕ)

/-- What can happen to a store and its reader. -/
inductive ReaderAction (α : Type v) where
  | store (a : α)
  | appear
  | attach
  | refresh

namespace Reader

variable {σ : Type u} {α : Type v} {U : Type w} {W : Type x} {V : Type y}

/-- The reader after a notification. -/
def notify : Reader W → Reader W
  | .attached held queued => .attached held (queued + 1)
  | r => r

variable (S : NotifyingStore σ α U) (P : ReaderPolicy U W)

/-- One step of a store and its reader. -/
def next (s : σ × Reader W) : ReaderAction α → Option (σ × Reader W)
  | .store a =>
      (S.next s.1 a).map fun s' => (s', if S.notifies s.1 a then s.2.notify else s.2)
  | .appear =>
      match s.2 with
      | .absent => some (s.1, .shown (P.first (S.read s.1)))
      | _ => none
  | .attach =>
      match s.2 with
      | .shown held => some (s.1, .attached held (if P.refreshes then 1 else 0))
      | _ => none
  | .refresh =>
      match s.2 with
      | .attached held (queued + 1) =>
          some (s.1, .attached (P.refresh held (S.read s.1)) queued)
      | _ => none

/-- A store with a reader that is yet to appear. -/
def machine : Machine (σ × Reader W) (ReaderAction α) where
  init s := S.init s.1 ∧ s.2 = .absent
  next := next S P

variable (sees : U → V) (shows : W → V)

/-- An attached reader with no refresh queued shows what there is to be seen. -/
def UpToDate (s : σ × Reader W) : Prop :=
  ∀ held, s.2 = .attached held 0 → shows held = sees (S.read s.1)

/-- A step by which the reader does not fall behind. -/
def Kept (s : σ × Reader W) (a : ReaderAction α) : Prop :=
  match a, s.2 with
  | .store a, .attached _ 0 => S.notifies s.1 a = false →
      ∀ s', S.next s.1 a = some s' → sees (S.read s') = sees (S.read s.1)
  | .attach, .shown held => P.refreshes = true ∨ shows held = sees (S.read s.1)
  | .refresh, .attached held 1 =>
      shows (P.refresh held (S.read s.1)) = sees (S.read s.1)
  | _, _ => True

variable {S P sees shows}

/-- What a step of the store leaves of the reader. -/
theorem next_store {s s' : σ × Reader W} {a : α} (h : next S P s (.store a) = some s') :
    S.next s.1 a = some s'.1 ∧ s'.2 = if S.notifies s.1 a then s.2.notify else s.2 := by
  obtain ⟨t, ht, rfl⟩ := Option.map_eq_some_iff.1 h
  exact ⟨ht, rfl⟩

theorem upToDate_step {s s' : σ × Reader W} {a : ReaderAction α}
    (hs : UpToDate S sees shows s) (hk : Kept S P sees shows s a) (h : next S P s a = some s') :
    UpToDate S sees shows s' := by
  obtain ⟨t, r⟩ := s
  cases a with
  | store a =>
    obtain ⟨ht, hr⟩ := next_store h
    intro held hheld
    rw [hr] at hheld
    cases hn : S.notifies t a with
    | true =>
      rw [hn, if_pos rfl] at hheld
      cases r <;> cases hheld
    | false =>
      rw [hn, if_neg Bool.false_ne_true] at hheld
      dsimp only at hheld
      subst hheld
      rw [hs held rfl, hk hn s'.1 ht]
  | appear =>
    cases r with
    | absent =>
      obtain rfl := Option.some.inj h
      rintro held ⟨⟩
    | _ => cases h
  | attach =>
    cases r with
    | shown held =>
      obtain rfl := Option.some.inj h
      rintro held' hheld
      cases hr : P.refreshes with
      | true =>
        rw [hr, if_pos rfl] at hheld
        cases hheld
      | false =>
        rw [hr, if_neg Bool.false_ne_true] at hheld
        cases hheld
        rcases hk with hk | hk
        · rw [hr] at hk
          cases hk
        · exact hk
    | _ => cases h
  | refresh =>
    match r, h with
    | .attached held (queued + 1), h =>
      obtain rfl := Option.some.inj h
      rintro held' ⟨⟩
      exact hk

theorem upToDate_of_reach {C : Machine.Guard (σ × Reader W) (ReaderAction α)}
    (hC : ∀ h s a, C h s a → Kept S P sees shows s a)
    {h : List (ReaderAction α)} {s : σ × Reader W} (hr : (machine S P).Reach C h s) :
    UpToDate S sees shows s := by
  refine hr.invariant (I := fun _ s => UpToDate S sees shows s) ?_ ?_
  · rintro s ⟨-, hs⟩ held hheld
    rw [hs] at hheld
    cases hheld
  · intro h s a s' hs hc hn
    exact upToDate_step hs (hC h s a hc) hn

/-- A step that is not `Kept` leaves the reader behind. -/
theorem not_upToDate_of_not_kept {s s' : σ × Reader W} {a : ReaderAction α}
    (hs : UpToDate S sees shows s) (hk : ¬ Kept S P sees shows s a)
    (h : next S P s a = some s') : ¬ UpToDate S sees shows s' := by
  obtain ⟨t, r⟩ := s
  intro hs'
  apply hk
  unfold Kept
  split
  · next a held hr =>
    intro hn t' ht'
    dsimp only at hr
    subst hr
    obtain ⟨ht, hr'⟩ := next_store h
    rw [hn, if_neg Bool.false_ne_true] at hr'
    rw [ht] at ht'
    obtain rfl := Option.some.inj ht'
    rw [← hs held rfl, hs' held hr']
  · next held hr =>
    dsimp only at hr
    subst hr
    obtain rfl := Option.some.inj h
    cases hr : P.refreshes with
    | true => exact Or.inl rfl
    | false =>
      right
      apply hs' held
      rw [hr, if_neg Bool.false_ne_true]
  · next held hr =>
    dsimp only at hr
    subst hr
    obtain rfl := Option.some.inj h
    exact hs' _ rfl
  · trivial

end Reader
