import Mathlib.Data.List.Induction

/-!
# Loops that may fail

A loop over a list that stops at the first failure. Where it is known which elements a turn fails at,
and what a turn makes of an invariant, `foldlM_spec` says when the loop ends and `foldlM_ok` that it
does. `mapM_ok` and `filterMapM_ok` are about loops that collect what their turns return.
-/

universe u v w

namespace FailingFolds

variable {α : Type u} {β : Type v} {ε : Type w} {f : β → α → Except ε β}

theorem foldlM_concat (l : List α) (a : α) (b : β) :
    (l ++ [a]).foldlM f b = (l.foldlM f b).bind fun b' => f b' a := by
  rw [List.foldlM_append]
  refine bind_congr fun b' => ?_
  rw [List.foldlM_cons]
  exact bind_pure _

/-- The invariant may speak of the elements that have been seen. Which elements a turn fails at does
not depend on the state. -/
theorem foldlM_spec {e : ε} {Bad : α → Prop} {P : List α → β → Prop} {b : β} (h0 : P [] b)
    (hstep : ∀ l b a, (∀ c ∈ l, ¬Bad c) → P l b →
      (Bad a ∧ f b a = .error e) ∨ (¬Bad a ∧ ∃ b', f b a = .ok b' ∧ P (l ++ [a]) b'))
    (l : List α) :
    ((∃ a ∈ l, Bad a) ∧ l.foldlM f b = .error e) ∨
      ((∀ a ∈ l, ¬Bad a) ∧ ∃ b', l.foldlM f b = .ok b' ∧ P l b') := by
  induction l using List.reverseRecOn with
  | nil => exact .inr ⟨fun a ha => absurd ha List.not_mem_nil, b, rfl, h0⟩
  | append_singleton l a ih =>
    rw [foldlM_concat]
    have hmem : a ∈ l ++ [a] := List.mem_append_right _ (List.mem_singleton_self a)
    obtain ⟨⟨c, hc, hbad⟩, herr⟩ | ⟨hgood, b', hok, hp⟩ := ih
    · exact .inl ⟨⟨c, List.mem_append_left _ hc, hbad⟩, by rw [herr]; rfl⟩
    · rw [hok]
      obtain ⟨hbad, herr⟩ | ⟨ha, b'', hok', hp'⟩ := hstep l b' a hgood hp
      · exact .inl ⟨⟨a, hmem, hbad⟩, herr⟩
      · refine .inr ⟨fun c hc => ?_, b'', hok', hp'⟩
        rcases List.mem_append.1 hc with hc | hc
        · exact hgood c hc
        · rw [List.mem_singleton.1 hc]
          exact ha

/-- A loop whose turns never fail. -/
theorem foldlM_ok {P : List α → β → Prop} {b : β} (h0 : P [] b) (l : List α)
    (hstep : ∀ l' b, ∀ a ∈ l, P l' b → ∃ b', f b a = .ok b' ∧ P (l' ++ [a]) b') :
    ∃ b', l.foldlM f b = .ok b' ∧ P l b' := by
  induction l using List.reverseRecOn with
  | nil => exact ⟨b, rfl, h0⟩
  | append_singleton l a ih =>
    obtain ⟨b', hok, hp⟩ := ih fun l' b' c hc => hstep l' b' c (List.mem_append_left _ hc)
    rw [foldlM_concat, hok]
    exact hstep l b' a (List.mem_append_right _ (List.mem_singleton_self a)) hp

/-- A loop that collects, whose turns never fail. -/
theorem mapM_ok {γ : Type w} {g : α → Except ε γ} {P : γ → Prop} (l : List α)
    (h : ∀ a ∈ l, ∃ c, g a = .ok c ∧ P c) : ∃ cs, l.mapM g = .ok cs ∧ ∀ c ∈ cs, P c := by
  induction l with
  | nil => exact ⟨[], rfl, fun c hc => absurd hc List.not_mem_nil⟩
  | cons a l ih =>
    obtain ⟨c, hc, hp⟩ := h a List.mem_cons_self
    obtain ⟨cs, hcs, hps⟩ := ih fun a' ha' => h a' (List.mem_cons_of_mem _ ha')
    refine ⟨c :: cs, ?_, fun c' hc' => ?_⟩
    · rw [List.mapM_cons, hc, hcs]
      rfl
    · rcases List.mem_cons.1 hc' with rfl | hc'
      · exact hp
      · exact hps c' hc'

/-- A loop that collects some of the elements, whose turns never fail. -/
theorem filterMapM_ok {γ : Type w} {g : α → Option γ} {l : List α}
    {f : α → Except ε (Option γ)} (h : ∀ a ∈ l, f a = .ok (g a)) :
    l.filterMapM f = .ok (l.filterMap g) := by
  induction l with
  | nil => rfl
  | cons a l ih =>
    rw [List.filterMapM_cons, h a List.mem_cons_self,
      ih fun a' ha' => h a' (List.mem_cons_of_mem _ ha'), List.filterMap_cons]
    show (match g a with
      | none => Except.ok (l.filterMap g)
      | some b => Except.ok (b :: l.filterMap g)) = _
    cases g a <;> rfl

end FailingFolds
