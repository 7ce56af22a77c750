import Mathlib.Data.List.Lex
import Mathlib.Order.Defs.LinearOrder

/-!
# The code units of a string

JavaScript orders strings by their UTF-16 code units (`Le`). No two strings have the same code units
(`ofString_injective`), so no two are tied.
-/

namespace CodeUnits

/-- The UTF-16 code units of a character. -/
def ofChar (c : Char) : List ℕ :=
  if c.toNat < 0x10000 then [c.toNat]
  else [0xD800 + (c.toNat - 0x10000) / 0x400, 0xDC00 + (c.toNat - 0x10000) % 0x400]

/-- The UTF-16 code units of a string. -/
def ofString (s : String) : List ℕ := s.toList.flatMap ofChar

/-- A character is not a surrogate, and below `0x110000`. -/
theorem toNat_valid (c : Char) : c.toNat < 0xD800 ∨ 0xDFFF < c.toNat ∧ c.toNat < 0x110000 := by
  rcases c.valid with h | ⟨h, h'⟩
  · exact .inl h
  · exact .inr ⟨h, h'⟩

/-- What code units begin with determines the character. -/
theorem ofChar_append_inj {c d : Char} {l l' : List ℕ} (h : ofChar c ++ l = ofChar d ++ l') :
    c = d ∧ l = l' := by
  have hc := toNat_valid c
  have hd := toNat_valid d
  suffices heq : c.toNat = d.toNat by
    have : c = d := Char.ext (UInt32.toNat_inj.1 heq)
    subst this
    exact ⟨rfl, List.append_cancel_left h⟩
  unfold ofChar at h
  split_ifs at h with h1 h2 h2
  · exact (List.cons.inj h).1
  · have := (List.cons.inj h).1
    omega
  · have := (List.cons.inj h).1
    omega
  · obtain ⟨hhigh, htail⟩ := List.cons.inj h
    have hlow := (List.cons.inj htail).1
    omega

theorem ofString_injective : Function.Injective ofString := by
  have hlist : ∀ l l' : List Char, l.flatMap ofChar = l'.flatMap ofChar → l = l' := by
    have hne : ∀ c : Char, ofChar c ≠ [] := by
      intro c
      unfold ofChar
      split_ifs <;> exact List.cons_ne_nil _ _
    intro l
    induction l with
    | nil =>
      intro l' h
      cases l' with
      | nil => rfl
      | cons d l' =>
        rw [List.flatMap_nil, List.flatMap_cons, eq_comm, List.append_eq_nil_iff] at h
        exact absurd h.1 (hne d)
    | cons c l ih =>
      intro l' h
      cases l' with
      | nil =>
        rw [List.flatMap_nil, List.flatMap_cons, List.append_eq_nil_iff] at h
        exact absurd h.1 (hne c)
      | cons d l' =>
        rw [List.flatMap_cons, List.flatMap_cons] at h
        obtain ⟨rfl, htail⟩ := ofChar_append_inj h
        rw [ih l' htail]
  intro s t h
  exact String.toList_injective (hlist _ _ h)

/-- The order of strings by their code units. -/
def Le (s t : String) : Prop := ofString s ≤ ofString t

instance : DecidableRel Le := fun s t => inferInstanceAs (Decidable (ofString s ≤ ofString t))

instance : Std.Total Le where
  total s t := le_total (ofString s) (ofString t)

instance : IsTrans String Le where
  trans _ _ _ h h' := le_trans h h'

instance : Std.Antisymm Le where
  antisymm _ _ h h' := ofString_injective (le_antisymm h h')

end CodeUnits
