import StytchBrowser.JsUtils.DeepEqualLaws
import StytchBrowser.Web.CrossTab

/-!
# The comparison of states

The web store compares the state before an update with the state after it and leaves out the
notification of its subscribers, or the write, when they pass for equal. What that comparison can be
relied on for follows from the laws of `createDeepEqual`.
-/

namespace StytchBrowser.Web

open DeepEqual CrossTab
open StytchBrowser.Core (Notification SessionUpdateOptions)

/-- The update of a tab spreads fields over its state that are faithfully compared. -/
def FaithfulTo (t : Tab) (state : Option JsObject) : Prop :=
  ∀ old new, t.state = some old → state = some new → FaithfulUpdate excluded old new

theorem sameState_of_deepEqualData {t : Tab} {state : Option JsObject} (hf : FaithfulTo t state)
    (h : deepEqualData t.state (state.map (spread t.state)) = true) :
    SameState excluded t.state (state.map (spread t.state)) := by
  cases ht : t.state with
  | none =>
    cases state with
    | none => rfl
    | some new =>
      rw [ht] at h
      cases h
  | some old =>
    rw [ht] at h
    cases state with
    | none => cases h
    | some new => exact sameState_of_deepEqualState (hf old new ht rfl) h

/-- A notification is left out only when the states pass for equal. -/
theorem deepEqualData_of_notified {t : Tab} {s s' : Option JsObject} {n : Notification}
    (h : (if t.fromCache || !deepEqualData s s' then n :: t.notified else t.notified) = t.notified) :
    deepEqualData s s' = true := by
  by_contra hne
  rw [Bool.not_eq_true] at hne
  rw [hne, Bool.not_false, Bool.or_true, if_pos rfl] at h
  exact List.cons_ne_self _ _ h

/-- An update that the tab makes no write of passed for no change. -/
theorem deepEqualData_of_outbox {t : Tab} {state : Option JsObject} {b : Browser}
    (h : (updateState state false b t).1.outbox = b.outbox) :
    deepEqualData t.state (state.map (spread t.state)) = true := by
  by_contra hne
  rw [Bool.not_eq_true] at hne
  have := (wrote_updateState hne b).outbox
  rw [h] at this
  simp at this

/-- The comparison decides equality up to the excluded keys exactly on the values that it compares
faithfully. On such values it is an equivalence relation, and no update of the web store that is
left out of the notifications or the writes changes the state. -/
theorem createDeepEqual_decides_iff (excl : List String) :
    (∀ a b : {j : Json // j.Proper},
      (deepEqual excl a.1 (.value b.1) = true ↔ a.1.tree excl = b.1.tree excl) ↔
        Faithful excl a.1 b.1) ∧
    (∀ S : Set {j : Json // j.Proper}, (∀ a ∈ S, ∀ b ∈ S, Faithful excl a.1 b.1) →
      Equivalence fun a b : S => deepEqual excl a.1.1 (.value b.1.1) = true) ∧
    ∀ (t : Tab) (b : Browser) (state : Option JsObject) (external : Bool)
      (options : SessionUpdateOptions), FaithfulTo t state →
      (updateState state external b t).2.notified = t.notified ∨
        (updateState state false b t).1.outbox = b.outbox ∨
        (updateStateInternal state options t).notified = t.notified →
      SameState excluded t.state (updateState state external b t).2.state := by
  refine ⟨fun a _ => deepEqual_decides_iff a.2, fun _ => equivalence_of_faithful, ?_⟩
  intro t b state external options hf h
  apply sameState_of_deepEqualData hf
  rcases h with h | h | h
  · exact deepEqualData_of_notified h
  · exact deepEqualData_of_outbox h
  · exact deepEqualData_of_notified h

/-- A user that only has an id. -/
def userWithId : {j : Json // j.Proper} :=
  ⟨.obj [("user_id", .str "u1")], .obj (by decide) (by
    intro e he
    obtain rfl := List.mem_singleton.1 he
    exact .str _)⟩

/-- A user in a tab that has been refreshed. -/
def tabWithUser : Tab :=
  ⟨defaults, some (OrderedMap.empty.set "user" (some userWithId.1)), false, []⟩

/-- The user written once more. -/
theorem createDeepEqual_decides_user :
    deepEqual excluded userWithId.1 (.value userWithId.1) = true ∧
      SameState excluded tabWithUser.state
        (updateState tabWithUser.state false emptyBrowser tabWithUser).2.state := by
  obtain ⟨hd, he, hs⟩ := createDeepEqual_decides_iff excluded
  have hrefl : Faithful excluded userWithId.1 userWithId.1 := .refl userWithId.2
  have hset : ∀ a ∈ ({userWithId} : Set _), ∀ b ∈ ({userWithId} : Set {j : Json // j.Proper}),
      Faithful excluded a.1 b.1 := by
    rintro a rfl b rfl
    exact hrefl
  refine ⟨(he {userWithId} hset).refl ⟨userWithId, rfl⟩, ?_⟩
  apply hs tabWithUser emptyBrowser tabWithUser.state false (.fresh none)
  · rintro old new hold hnew k x y - hx hy
    obtain rfl := Option.some.inj hold
    obtain rfl := Option.some.inj hnew
    rw [hx] at hy
    obtain rfl := Option.some.inj (Option.some.inj hy)
    rw [OrderedMap.get_set, OrderedMap.get_empty] at hx
    split_ifs at hx
    obtain rfl := Option.some.inj (Option.some.inj hx)
    exact ⟨userWithId.2, hrefl⟩
  · exact Or.inl rfl

/-- An empty array passes for an empty object. -/
theorem deepEqual_array_object :
    ¬ (deepEqual [] (.arr []) (.value (.obj [])) = true ↔
      (Json.arr []).tree [] = (Json.obj []).tree []) := by
  intro h
  have := h.1 rfl
  simp [Json.tree] at this

end StytchBrowser.Web
