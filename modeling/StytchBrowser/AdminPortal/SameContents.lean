import StytchBrowser.JsUtils.PlainObject
import StytchBrowser.JsUtils.Stringify
import StytchBrowser.Lib.CodeUnits
import StytchBrowser.Lib.StableSort

/-!
# Arrays with the same contents

The portal compares arrays up to order: both are sorted by the default order of `sort`, that of the
texts of the elements, and the JSON of the elements is compared position by position. All objects have
the same text, so they are left in their order, and an object is compared with the order of its
fields. `sameContents_iff` says when the comparison is right.
-/

namespace StytchBrowser.AdminPortal

open StableSort

/-- An element of an array that is compared. -/
inductive Element where
  | str (s : String)
  | num (x : ℚ)
  | obj (fields : List (String × Json))

namespace Element

def json : Element → Json
  | .str s => .str s
  | .num x => .num x
  | .obj fields => .obj fields

/-- `String(value)`, where it does not throw. -/
def text (numbers : NumberText) : Element → String
  | .str s => s
  | .num x => numbers.text x
  | .obj _ => "[object Object]"

/-- An object with data in the place of `toString` has no text. -/
def hasText : Element → Bool
  | .obj fields => !(fields.map Prod.fst).contains "toString"
  | _ => true

/-- The default order of `sort`. -/
def Before (numbers : NumberText) (a b : Element) : Prop :=
  CodeUnits.Le (a.text numbers) (b.text numbers)

instance (numbers : NumberText) : DecidableRel (Before numbers) :=
  fun _ _ => inferInstanceAs (Decidable (CodeUnits.Le _ _))

instance (numbers : NumberText) : Std.Total (Before numbers) where
  total a b := Std.Total.total (a.text numbers) (b.text numbers)

instance (numbers : NumberText) : IsTrans Element (Before numbers) where
  trans a b c := IsTrans.trans (a.text numbers) (b.text numbers) (c.text numbers)

end Element

variable (numbers : NumberText)

/-- `sort()`, which asks for the texts of two elements or more. -/
def sort (array : List Element) : Except TypeError (List Element) :=
  if 2 ≤ array.length ∧ ¬array.all Element.hasText then .error .typeError
  else .ok (array.insertionSort (Element.Before numbers))

def arraysHaveSameContents (arr1 arr2 : Option (List Element)) : Except TypeError Bool :=
  match arr1, arr2 with
  | some arr1, some arr2 =>
      if arr1.length ≠ arr2.length then .ok false
      else do
        let array2Sorted ← sort numbers arr2
        let array1Sorted ← sort numbers arr1
        return (array1Sorted.zip array2Sorted).all fun (value, other) =>
          value.json.stringify numbers = other.json.stringify numbers
  | _, _ => .ok false

/-- One array is a permutation of the other, where the order of the fields of an object does not
count. -/
def SameContents (arr1 arr2 : List Element) : Prop :=
  (arr1.map fun e => e.json.tree []).Perm (arr2.map fun e => e.json.tree [])

/-- The elements with any one text stand in the same order in both arrays, and are written alike. -/
def InSameOrder (arr1 arr2 : List Element) : Prop :=
  ∀ a, arr1.filter (Tied (Element.Before numbers) a) = arr2.filter (Tied (Element.Before numbers) a)

/-- No element without a text is sorted. -/
def Sortable (arr1 arr2 : List Element) : Prop :=
  arr1.length = arr2.length → 2 ≤ arr1.length →
    arr1.all Element.hasText = true ∧ arr2.all Element.hasText = true

variable {numbers}

theorem Element.json_injective : Function.Injective Element.json := by
  intro a b h
  cases a <;> cases b <;> simp [Element.json] at h ⊢ <;> exact h

theorem Element.stringify_injective :
    Function.Injective fun e : Element => e.json.stringify numbers :=
  Json.stringify_injective.comp Element.json_injective

/-- Lists of one length agree at every position when they are the same. -/
theorem zip_all_iff {α β : Type} [DecidableEq β] {f : α → β} (hf : Function.Injective f)
    {l l' : List α} (h : l.length = l'.length) :
    ((l.zip l').all fun (a, b) => f a = f b) = true ↔ l = l' := by
  induction l generalizing l' with
  | nil =>
    cases l' with
    | nil => exact iff_of_true rfl rfl
    | cons b l' => exact absurd h (Nat.succ_ne_zero _).symm
  | cons a l ih =>
    cases l' with
    | nil => exact absurd h (Nat.succ_ne_zero _)
    | cons b l' =>
      rw [List.zip_cons_cons, List.all_cons, Bool.and_eq_true, ih (Nat.succ.inj h),
        List.cons.injEq]
      exact and_congr_left' (decide_eq_true_iff.trans hf.eq_iff)

theorem InSameOrder.length_eq {arr1 arr2 : List Element} (h : InSameOrder numbers arr1 arr2) :
    arr1.length = arr2.length :=
  (perm_of_insertionSort_eq (insertionSort_eq_iff.2 h)).length_eq

theorem InSameOrder.sameContents {arr1 arr2 : List Element} (h : InSameOrder numbers arr1 arr2) :
    SameContents arr1 arr2 :=
  (perm_of_insertionSort_eq (insertionSort_eq_iff.2 h)).map _

theorem sort_of_hasText {array : List Element}
    (h : 2 ≤ array.length → array.all Element.hasText = true) :
    sort numbers array = .ok (array.insertionSort (Element.Before numbers)) :=
  if_neg fun hnot => hnot.2 (h hnot.1)

theorem sort_of_not_hasText {array : List Element} (hlength : 2 ≤ array.length)
    (h : ¬array.all Element.hasText) : sort numbers array = .error .typeError :=
  if_pos ⟨hlength, h⟩

/-- What the comparison finds. -/
theorem arraysHaveSameContents_of_sortable (numbers : NumberText) {arr1 arr2 : List Element}
    (h : Sortable arr1 arr2) :
    ∃ b, arraysHaveSameContents numbers (some arr1) (some arr2) = .ok b ∧
      (b = true ↔ InSameOrder numbers arr1 arr2) := by
  by_cases hlength : arr1.length = arr2.length
  · have hsorted : (arr1.insertionSort (Element.Before numbers)).length =
        (arr2.insertionSort (Element.Before numbers)).length := by
      rw [List.length_insertionSort, List.length_insertionSort, hlength]
    refine ⟨((arr1.insertionSort (Element.Before numbers)).zip
      (arr2.insertionSort (Element.Before numbers))).all fun (value, other) =>
        value.json.stringify numbers = other.json.stringify numbers, ?_, ?_⟩
    · rw [arraysHaveSameContents, if_neg (not_not.2 hlength),
        sort_of_hasText fun h2 => (h hlength (hlength ▸ h2)).2,
        sort_of_hasText fun h2 => (h hlength h2).1]
      rfl
    · exact (zip_all_iff Element.stringify_injective hsorted).trans insertionSort_eq_iff
  · refine ⟨false, ?_, iff_of_false Bool.false_ne_true fun horder => hlength horder.length_eq⟩
    rw [arraysHaveSameContents, if_pos hlength]

/-- Sorting an element without a text throws. -/
theorem arraysHaveSameContents_throws {arr1 arr2 : List Element} (h : ¬Sortable arr1 arr2) :
    arraysHaveSameContents numbers (some arr1) (some arr2) = .error .typeError := by
  simp only [Sortable, Classical.not_imp] at h
  obtain ⟨hlength, h2, hall⟩ := h
  rw [arraysHaveSameContents, if_neg (not_not.2 hlength)]
  by_cases hall2 : arr2.all Element.hasText = true
  · rw [sort_of_hasText fun _ => hall2,
      sort_of_not_hasText h2 fun hall1 => hall ⟨hall1, hall2⟩]
    rfl
  · rw [sort_of_not_hasText (hlength ▸ h2) hall2]
    rfl

/-- Strings that are in any order are found to be the same. -/
theorem inSameOrder_strs {l l' : List String} :
    InSameOrder numbers (l.map .str) (l'.map .str) ↔ l.Perm l' := by
  have hsort : ∀ l : List String, (l.map Element.str).insertionSort (Element.Before numbers) =
      (l.insertionSort CodeUnits.Le).map Element.str := fun l =>
    (List.map_insertionSort _ _ Element.str l fun _ _ _ _ => Iff.rfl).symm
  have hinj : Function.Injective Element.str := fun _ _ h => Element.str.inj h
  rw [InSameOrder, ← insertionSort_eq_iff, hsort, hsort, hinj.list_map.eq_iff,
    insertionSort_eq_iff_perm]

theorem arraysHaveSameContents_strs (numbers : NumberText) (l l' : List String) :
    arraysHaveSameContents numbers (some (l.map .str)) (some (l'.map .str)) =
      .ok (decide (l.Perm l')) := by
  have hall : ∀ l : List String, (l.map Element.str).all Element.hasText = true := by
    simp [Element.hasText]
  have hsortable : Sortable (l.map .str) (l'.map .str) := fun _ _ => ⟨hall l, hall l'⟩
  obtain ⟨b, hb, hiff⟩ := arraysHaveSameContents_of_sortable numbers hsortable
  rw [hb, Bool.eq_iff_iff.2 ((hiff.trans inSameOrder_strs).trans decide_eq_true_iff.symm)]

theorem sameContents_iff (numbers : NumberText) (arr1 arr2 : List Element) :
    (∃ b, arraysHaveSameContents numbers (some arr1) (some arr2) = .ok b ∧
      (b = true ↔ SameContents arr1 arr2)) ↔
      Sortable arr1 arr2 ∧ (SameContents arr1 arr2 → InSameOrder numbers arr1 arr2) := by
  by_cases h : Sortable arr1 arr2
  · obtain ⟨b, hb, hiff⟩ := arraysHaveSameContents_of_sortable numbers h
    rw [hb, and_iff_right h]
    constructor
    · rintro ⟨b', hb', hsame⟩ h'
      obtain rfl := Except.ok.inj hb'
      exact hiff.1 (hsame.2 h')
    · intro himp
      exact ⟨b, rfl, hiff.trans ⟨InSameOrder.sameContents, himp⟩⟩
  · rw [arraysHaveSameContents_throws h]
    exact iff_of_false nofun fun hand => h hand.1

theorem Element.before_obj (fields fields' : List (String × Json)) :
    Element.Before numbers (.obj fields) (.obj fields') :=
  le_refl (CodeUnits.ofString "[object Object]")

/-- An email assignment as the settings of an organization carry it. -/
def assignment (domain : String) : List (String × Json) :=
  [("domain", .str domain), ("role_id", .str "editor")]

/-- Two objects in another order are taken for other contents. -/
theorem order_of_objects_counts :
    arraysHaveSameContents NumberText.enumerated
        (some [.obj (assignment "a.com"), .obj (assignment "b.com")])
        (some [.obj (assignment "b.com"), .obj (assignment "a.com")]) = .ok false ∧
      SameContents [.obj (assignment "a.com"), .obj (assignment "b.com")]
        [.obj (assignment "b.com"), .obj (assignment "a.com")] := by
  have hsortable : Sortable [.obj (assignment "a.com"), .obj (assignment "b.com")]
      [.obj (assignment "b.com"), .obj (assignment "a.com")] :=
    fun _ _ => ⟨by decide, by decide⟩
  obtain ⟨b, hb, hiff⟩ := arraysHaveSameContents_of_sortable .enumerated hsortable
  refine ⟨hb.trans (congrArg _ (Bool.eq_false_iff.2 fun htrue => ?_)), List.Perm.swap _ _ _⟩
  have htied : ∀ fields fields', Tied (Element.Before .enumerated) (.obj fields) (.obj fields') :=
    fun _ _ => ⟨Element.before_obj _ _, Element.before_obj _ _⟩
  have horder := hiff.1 htrue (.obj (assignment "a.com"))
  rw [filter_cons_of_tied (htied _ _), filter_cons_of_tied (htied _ _),
    filter_cons_of_tied (htied _ _)] at horder
  have heq : assignment "a.com" = assignment "b.com" := Element.obj.inj (List.cons.inj horder).1
  exact absurd (Json.str.inj (Prod.mk.inj (List.cons.inj heq).1).2) (by decide)

end StytchBrowser.AdminPortal
