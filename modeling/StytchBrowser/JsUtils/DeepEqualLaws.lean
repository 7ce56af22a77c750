import StytchBrowser.JsUtils.DeepEqual
import StytchBrowser.Lib.Digits
import Mathlib.Data.List.Perm.Subperm

/-!
# What `createDeepEqual` decides

`Compares excl a b x y`: the comparison of `a` with `b` comes down to comparing `x` with `y`. It
returns true exactly when every such pair matches, a check that looks at the two values only
(`deepEqual_iff_matches`).

Equality up to the excluded keys is equality of `Json.tree`s. The comparison differs from it in two
ways. It counts the excluded keys and asks for them (`Aligned`), and there are differences between
two values that it does not see (`Hidden`): an array in the place of an object, elements of an array
whose index is an excluded key, and fields of an object that the other one only inherits.
-/

namespace StytchBrowser.DeepEqual

variable {excl : List String}

/-! ## The recursion unrolled -/

theorem deepEqual_str (x y : String) : deepEqual excl (.str x) (.value (.str y)) = (x == y) := rfl

theorem deepEqual_arr (xs : List Json) (b : Operand) : deepEqual excl (.arr xs) b =
    (b.isObject && xs.length == b.keys.length &&
      ((List.range xs.length).map toString).all (fun k => (b.prop k).isSome) &&
      deepEqualElems excl 0 xs b) := rfl

theorem deepEqual_obj (fields : List (String × Json)) (b : Operand) : deepEqual excl (.obj fields) b =
    (b.isObject && fields.length == b.keys.length &&
      (fields.map Prod.fst).all (fun k => (b.prop k).isSome) && deepEqualFields excl fields b) := rfl

theorem deepEqualElems_cons (i : ℕ) (x : Json) (xs : List Json) (b : Operand) :
    deepEqualElems excl i (x :: xs) b =
      ((excl.contains (toString i) || deepEqual excl x (b.read (toString i))) &&
        deepEqualElems excl (i + 1) xs b) := rfl

theorem deepEqualFields_cons (k : String) (v : Json) (fields : List (String × Json)) (b : Operand) :
    deepEqualFields excl ((k, v) :: fields) b =
      ((excl.contains k || deepEqual excl v (b.read k)) && deepEqualFields excl fields b) := rfl

theorem contains_or_iff (k : String) (p : Bool) :
    (excl.contains k || p) = true ↔ (k ∉ excl → p = true) := by
  by_cases hk : k ∈ excl <;> simp [hk]

theorem deepEqualElems_iff (xs : List Json) (i : ℕ) (b : Operand) :
    deepEqualElems excl i xs b = true ↔ ∀ j x, xs[j]? = some x → toString (i + j) ∉ excl →
      deepEqual excl x (b.read (toString (i + j))) = true := by
  induction xs generalizing i with
  | nil => exact iff_of_true rfl nofun
  | cons x xs ih =>
    rw [deepEqualElems_cons, Bool.and_eq_true, contains_or_iff, ih]
    constructor
    · rintro ⟨h0, h⟩ j y hy hj
      cases j with
      | zero =>
        obtain rfl := Option.some.inj hy
        exact h0 hj
      | succ j =>
        have := h j y hy
        rw [Nat.add_assoc, Nat.add_comm 1 j] at this
        exact this hj
    · intro h
      constructor
      · exact h 0 x rfl
      · intro j y hy hj
        rw [Nat.add_assoc, Nat.add_comm 1 j] at hj ⊢
        exact h (j + 1) y hy hj

theorem deepEqualFields_iff (fields : List (String × Json)) (b : Operand) :
    deepEqualFields excl fields b = true ↔ ∀ e ∈ fields, e.1 ∉ excl →
      deepEqual excl e.2 (b.read e.1) = true := by
  induction fields with
  | nil => exact iff_of_true rfl nofun
  | cons e fields ih =>
    obtain ⟨k, v⟩ := e
    rw [deepEqualFields_cons, Bool.and_eq_true, contains_or_iff, ih, List.forall_mem_cons]

/-- What the comparison checks of two values before it goes into their parts. -/
def Matches : Json → Operand → Prop
  | .arr xs, b => b.isObject = true ∧ xs.length = b.keys.length ∧
      ∀ i < xs.length, (b.prop (toString i)).isSome = true
  | .obj fields, b => b.isObject = true ∧ fields.length = b.keys.length ∧
      ∀ e ∈ fields, (b.prop e.1).isSome = true
  | a, b => b = .value a

/-- The comparison of the first two values comes down to comparing the last two. -/
inductive Compares (excl : List String) : Json → Operand → Json → Operand → Prop where
  | refl (a : Json) (b : Operand) : Compares excl a b a b
  | elem {xs : List Json} {b y : Operand} {i : ℕ} {x z : Json} : xs[i]? = some x →
      toString i ∉ excl → Compares excl x (b.read (toString i)) z y → Compares excl (.arr xs) b z y
  | field {fields : List (String × Json)} {b y : Operand} {e : String × Json} {z : Json} :
      e ∈ fields → e.1 ∉ excl → Compares excl e.2 (b.read e.1) z y →
      Compares excl (.obj fields) b z y

theorem deepEqual_arr_iff (xs : List Json) (b : Operand) :
    deepEqual excl (.arr xs) b = true ↔ Matches (.arr xs) b ∧
      ∀ (i : ℕ) (x : Json), xs[i]? = some x → toString i ∉ excl →
        deepEqual excl x (b.read (toString i)) = true := by
  simp only [deepEqual_arr, Bool.and_eq_true, beq_iff_eq, List.all_map, List.all_eq_true,
    List.mem_range, Function.comp_apply, deepEqualElems_iff, Nat.zero_add, Matches, and_assoc]

theorem deepEqual_obj_iff (fields : List (String × Json)) (b : Operand) :
    deepEqual excl (.obj fields) b = true ↔ Matches (.obj fields) b ∧
      ∀ e ∈ fields, e.1 ∉ excl → deepEqual excl e.2 (b.read e.1) = true := by
  simp only [deepEqual_obj, Bool.and_eq_true, beq_iff_eq, List.all_map, List.all_eq_true,
    Function.comp_apply, deepEqualFields_iff, Matches, and_assoc]

/-- The comparison returns true exactly when every pair it comes down to matches. -/
theorem deepEqual_iff_matches (a : Json) (b : Operand) :
    deepEqual excl a b = true ↔ ∀ x y, Compares excl a b x y → Matches x y := by
  induction a using Json.induction generalizing b with
  | null | bool | num | str =>
    constructor
    · intro h x y hc
      cases hc
      unfold deepEqual at h
      split at h <;> simp_all [Matches]
    · intro h
      obtain rfl := h _ _ (.refl _ _)
      simp [deepEqual]
  | arr xs ih =>
    rw [deepEqual_arr_iff]
    constructor
    · rintro ⟨hm, h⟩ x y hc
      cases hc with
      | refl => exact hm
      | elem hx hi hc => exact (ih _ (List.mem_of_getElem? hx) _).1 (h _ _ hx hi) _ _ hc
    · intro h
      refine ⟨h _ _ (.refl _ _), fun i x hx hi => ?_⟩
      exact (ih _ (List.mem_of_getElem? hx) _).2 fun z y hc => h z y (.elem hx hi hc)
  | obj fields ih =>
    rw [deepEqual_obj_iff]
    constructor
    · rintro ⟨hm, h⟩ x y hc
      cases hc with
      | refl => exact hm
      | field he hk hc => exact (ih _ he _).1 (h _ he hk) _ _ hc
    · intro h
      refine ⟨h _ _ (.refl _ _), fun e he hk => ?_⟩
      exact (ih _ he _).2 fun z y hc => h z y (.field he hk hc)

/-! ## The parts of a value -/

theorem prop_index {ys : List Json} {i : ℕ} {y : Json} (hi : ys[i]? = some y) :
    (Operand.value (.arr ys)).prop (toString i) = some (.value y) := by
  have hf : (ys.zipIdx.find? fun e => toString e.2 = toString i) = some (y, i) := by
    obtain ⟨e, he⟩ : ∃ e, (ys.zipIdx.find? fun e => toString e.2 = toString i) = some e := by
      rw [← Option.isSome_iff_exists, List.find?_isSome]
      exact ⟨(y, i), List.mk_mem_zipIdx_iff_getElem?.2 hi, by simp⟩
    have hk : e.2 = i := Digits.toString_injective (by simpa using List.find?_some he)
    have hm := List.mem_zipIdx_iff_getElem?.1 (List.mem_of_find?_eq_some he)
    rw [hk, hi] at hm
    rw [he, Option.some.inj hm, ← hk]
  dsimp only [Operand.prop]
  rw [hf]

theorem read_index {ys : List Json} {i : ℕ} {y : Json} (hi : ys[i]? = some y) :
    (Operand.value (.arr ys)).read (toString i) = .value y := by
  rw [Operand.read, prop_index hi, Option.getD_some]

theorem prop_field {fields : List (String × Json)} {k : String} {y : Json}
    (hk : fields.lookup k = some y) : (Operand.value (.obj fields)).prop k = some (.value y) := by
  dsimp only [Operand.prop]
  rw [hk, Option.elim_some]

theorem read_field {fields : List (String × Json)} {k : String} {y : Json}
    (hk : fields.lookup k = some y) : (Operand.value (.obj fields)).read k = .value y := by
  rw [Operand.read, prop_field hk, Option.getD_some]

theorem keys_arr (ys : List Json) : (Operand.value (.arr ys)).keys.length = ys.length := by
  rw [Operand.keys, List.length_map, List.length_range]

theorem keys_obj (fields : List (String × Json)) :
    (Operand.value (.obj fields)).keys.length = fields.length := by
  rw [Operand.keys, List.length_map]

/-! ## What the comparison does not see -/

/-- A difference up to the excluded keys between two values that the comparison does not see. -/
def Hidden (excl : List String) : Json → Operand → Prop
  | .arr xs, .value (.arr ys) =>
      ∃ i : ℕ, toString i ∈ excl ∧ xs[i]?.map (Json.tree excl) ≠ ys[i]?.map (Json.tree excl)
  | .obj xs, .value (.obj ys) => ∃ k, k ∉ excl ∧ (xs.lookup k).isSome ≠ (ys.lookup k).isSome
  | .arr _, _ => True
  | .obj _, _ => True
  | _, _ => False

/-- Two objects have as many keys, and the second one has the excluded keys of the first. -/
def Aligned (excl : List String) : Json → Operand → Prop
  | .obj xs, .value (.obj ys) => xs.length = ys.length ∧
      ∀ e ∈ xs, e.1 ∈ excl → ((Operand.value (.obj ys)).prop e.1).isSome = true
  | _, _ => True

theorem Matches.aligned {x : Json} {y : Operand} (h : Matches x y) : Aligned excl x y := by
  unfold Aligned
  split
  · next xs ys =>
    obtain ⟨-, hl, hk⟩ := h
    rw [keys_obj] at hl
    exact ⟨hl, fun e he _ => hk e he⟩
  · trivial

theorem map_tree_eq {o p : Option Json} (hs : o.isSome = p.isSome)
    (h : ∀ x y, o = some x → p = some y → x.tree excl = y.tree excl) :
    o.map (Json.tree excl) = p.map (Json.tree excl) := by
  cases o with
  | none =>
    rw [Option.isSome_none, eq_comm, Option.isSome_eq_false_iff, Option.isNone_iff_eq_none] at hs
    rw [hs]
  | some x =>
    rw [Option.isSome_some, eq_comm] at hs
    obtain ⟨y, rfl⟩ := Option.isSome_iff_exists.1 hs
    exact congrArg some (h x y rfl rfl)

theorem tree_arr_congr {xs ys : List Json}
    (h : ∀ i : ℕ, xs[i]?.map (Json.tree excl) = ys[i]?.map (Json.tree excl)) :
    (Json.arr xs).tree excl = (Json.arr ys).tree excl := by
  rw [Json.tree_arr, Json.tree_arr]
  congr 1
  apply List.ext_getElem?
  intro i
  rw [List.getElem?_map, List.getElem?_map, h]

theorem tree_obj_congr {xs ys : List (String × Json)}
    (h : ∀ k, k ∉ excl → (xs.lookup k).map (Json.tree excl) = (ys.lookup k).map (Json.tree excl)) :
    (Json.obj xs).tree excl = (Json.obj ys).tree excl := by
  rw [Json.tree_obj, Json.tree_obj]
  congr 1
  funext k
  split_ifs with hk
  · rfl
  · exact h k hk

/-- Without a hidden difference the values are equal once everything compared matches. -/
theorem tree_eq_of_matches {a b : Json}
    (hm : ∀ x y, Compares excl a (.value b) x y → Matches x y)
    (hh : ∀ x y, Compares excl a (.value b) x y → ¬ Hidden excl x y) :
    a.tree excl = b.tree excl := by
  induction a using Json.induction generalizing b with
  | null | bool | num | str =>
    have hb := hm _ _ (.refl _ _)
    cases hb
    rfl
  | arr xs ih =>
    have hn := hh _ _ (.refl _ _)
    obtain ⟨-, hl, -⟩ := hm _ _ (.refl _ _)
    cases b with
    | arr ys =>
      rw [keys_arr] at hl
      apply tree_arr_congr
      intro i
      by_cases hi : toString i ∈ excl
      · by_contra hne
        exact hn ⟨i, hi, hne⟩
      · have hs : xs[i]?.isSome = ys[i]?.isSome := by
          rw [Bool.eq_iff_iff, isSome_getElem?, isSome_getElem?, hl]
        refine map_tree_eq hs fun x y hx hy => ?_
        have hr := read_index hy
        apply ih x (List.mem_of_getElem? hx)
        · intro z w hc
          exact hm z w (.elem hx hi (hr ▸ hc))
        · intro z w hc
          exact hh z w (.elem hx hi (hr ▸ hc))
    | _ => exact (hn trivial).elim
  | obj xs ih =>
    have hn := hh _ _ (.refl _ _)
    cases b with
    | obj ys =>
      apply tree_obj_congr
      intro k hk
      have hs : (xs.lookup k).isSome = (ys.lookup k).isSome := by
        by_contra hne
        exact hn ⟨k, hk, hne⟩
      refine map_tree_eq hs fun x y hx hy => ?_
      have hr := read_field hy
      have he : (k, x) ∈ xs := OrderedMap.mem_of_lookup hx
      apply ih (k, x) he
      · intro z w hc
        exact hm z w (.field he hk (hr ▸ hc))
      · intro z w hc
        exact hh z w (.field he hk (hr ▸ hc))
    | _ => exact (hn trivial).elim

/-! ## Equal trees -/

theorem exists_of_map_tree_eq {o p : Option Json} {x : Json}
    (h : o.map (Json.tree excl) = p.map (Json.tree excl)) (hx : o = some x) :
    ∃ y, p = some y ∧ x.tree excl = y.tree excl := by
  rw [hx, Option.map_some, eq_comm, Option.map_eq_some_iff] at h
  obtain ⟨y, hy, hxy⟩ := h
  exact ⟨y, hy, hxy.symm⟩

theorem of_tree_arr {xs : List Json} {b : Json} (h : (Json.arr xs).tree excl = b.tree excl) :
    ∃ ys, b = .arr ys ∧ xs.length = ys.length ∧
      ∀ i : ℕ, xs[i]?.map (Json.tree excl) = ys[i]?.map (Json.tree excl) := by
  cases b with
  | arr ys =>
    rw [Json.tree_arr, Json.tree_arr, JsonTree.arr.injEq] at h
    refine ⟨ys, rfl, by simpa using congrArg List.length h, fun i => ?_⟩
    rw [← List.getElem?_map, ← List.getElem?_map, h]
  | _ =>
    rw [Json.tree_arr] at h
    cases h

theorem of_tree_obj {xs : List (String × Json)} {b : Json}
    (h : (Json.obj xs).tree excl = b.tree excl) :
    ∃ ys, b = .obj ys ∧
      ∀ k ∉ excl, (xs.lookup k).map (Json.tree excl) = (ys.lookup k).map (Json.tree excl) := by
  cases b with
  | obj ys =>
    refine ⟨ys, rfl, fun k hk => ?_⟩
    rw [Json.tree_obj, Json.tree_obj, JsonTree.obj.injEq] at h
    have := congrFun h k
    rwa [if_neg hk, if_neg hk] at this
  | _ =>
    rw [Json.tree_obj] at h
    cases h

/-- Equal values with the excluded keys aligned pass. -/
theorem deepEqual_of_tree_eq {a b : Json} (ha : a.Proper) (ht : a.tree excl = b.tree excl)
    (hal : ∀ x y, Compares excl a (.value b) x y → Aligned excl x y) :
    deepEqual excl a (.value b) = true := by
  induction a using Json.induction generalizing b with
  | null | bool | num | str => cases b <;> simp_all [Json.tree, deepEqual]
  | arr xs ih =>
    obtain ⟨ys, rfl, hlen, hel⟩ := of_tree_arr ht
    cases ha with
    | arr ha =>
      rw [deepEqual_arr_iff]
      constructor
      · refine ⟨rfl, by rw [keys_arr, hlen], fun i hi => ?_⟩
        obtain ⟨y, hy, -⟩ := exists_of_map_tree_eq (hel i) (List.getElem?_eq_getElem hi)
        rw [prop_index hy, Option.isSome_some]
      · intro i x hx hi
        obtain ⟨y, hy, hxy⟩ := exists_of_map_tree_eq (hel i) hx
        have hr := read_index hy
        have hmem := List.mem_of_getElem? hx
        rw [hr]
        exact ih x hmem (ha x hmem) hxy fun z w hc => hal z w (.elem hx hi (hr ▸ hc))
  | obj xs ih =>
    obtain ⟨ys, rfl, hfield⟩ := of_tree_obj ht
    obtain ⟨hlen, hex⟩ := hal _ _ (.refl _ _)
    cases ha with
    | obj hnd ha =>
      rw [deepEqual_obj_iff]
      constructor
      · refine ⟨rfl, by rw [keys_obj, hlen], fun e he => ?_⟩
        by_cases hk : e.1 ∈ excl
        · exact hex e he hk
        · obtain ⟨y, hy, -⟩ :=
            exists_of_map_tree_eq (hfield e.1 hk) (OrderedMap.lookup_of_mem hnd he)
          rw [prop_field hy, Option.isSome_some]
      · intro e he hk
        obtain ⟨y, hy, hxy⟩ :=
          exists_of_map_tree_eq (hfield e.1 hk) (OrderedMap.lookup_of_mem hnd he)
        have hr := read_field hy
        rw [hr]
        exact ih e he (ha e he) hxy fun z w hc => hal z w (.field he hk (hr ▸ hc))

/-- What is compared of equal values is equal. -/
theorem Compares.tree_eq {a : Json} {c : Operand} {x : Json} {y : Operand}
    (hc : Compares excl a c x y) (ha : a.Proper) {b : Json} (hb : c = .value b)
    (ht : a.tree excl = b.tree excl) : ∃ z, y = .value z ∧ x.tree excl = z.tree excl := by
  induction hc generalizing b with
  | refl => exact ⟨b, hb, ht⟩
  | elem hx hi _ ih =>
    subst hb
    obtain ⟨ys, rfl, -, hel⟩ := of_tree_arr ht
    obtain ⟨w, hw, hxw⟩ := exists_of_map_tree_eq (hel _) hx
    cases ha with
    | arr ha => exact ih (ha _ (List.mem_of_getElem? hx)) (read_index hw) hxw
  | field he hk _ ih =>
    subst hb
    obtain ⟨ys, rfl, hfield⟩ := of_tree_obj ht
    cases ha with
    | obj hnd ha =>
      obtain ⟨w, hw, hxw⟩ :=
        exists_of_map_tree_eq (hfield _ hk) (OrderedMap.lookup_of_mem hnd he)
      exact ih (ha _ he) (read_field hw) hxw

/-- Equal values have no hidden difference. -/
theorem not_hidden_of_tree_eq {x z : Json} (ht : x.tree excl = z.tree excl) :
    ¬ Hidden excl x (.value z) := by
  cases x with
  | arr xs =>
    obtain ⟨ys, rfl, -, hel⟩ := of_tree_arr ht
    rintro ⟨i, -, hne⟩
    exact hne (hel i)
  | obj xs =>
    obtain ⟨ys, rfl, hfield⟩ := of_tree_obj ht
    rintro ⟨k, hk, hne⟩
    apply hne
    rw [← Option.isSome_map, hfield k hk, Option.isSome_map]
  | null | bool | num | str => exact not_false

/-! ## When the comparison decides equality -/

/-- A hidden difference comes with one that shows. -/
def Revealed (excl : List String) (a b : Json) : Prop :=
  (∃ x y, Compares excl a (.value b) x y ∧ Hidden excl x y) →
    ∃ x y, Compares excl a (.value b) x y ∧ ¬ Matches x y

theorem tree_eq_of_deepEqual {a b : Json} (hr : Revealed excl a b)
    (h : deepEqual excl a (.value b) = true) : a.tree excl = b.tree excl := by
  have hm := (deepEqual_iff_matches a _).1 h
  apply tree_eq_of_matches hm
  intro x y hc hh
  obtain ⟨z, w, hc', hne⟩ := hr ⟨x, y, hc, hh⟩
  exact hne (hm z w hc')

/-- The condition on two values under which the comparison decides whether they are equal up to the
excluded keys. -/
structure Faithful (excl : List String) (a b : Json) : Prop where
  /-- When they are equal, their excluded keys are aligned wherever objects are compared. -/
  aligned : a.tree excl = b.tree excl →
    ∀ x y, Compares excl a (.value b) x y → Aligned excl x y
  /-- No difference goes unseen. -/
  shown : Revealed excl a b

theorem deepEqual_decides_iff {a b : Json} (ha : a.Proper) :
    (deepEqual excl a (.value b) = true ↔ a.tree excl = b.tree excl) ↔ Faithful excl a b := by
  constructor
  · intro h
    constructor
    · intro ht x y hc
      exact ((deepEqual_iff_matches a _).1 (h.2 ht) x y hc).aligned
    · rintro ⟨x, y, hc, hh⟩
      by_contra hne
      push Not at hne
      obtain ⟨z, rfl, hxz⟩ := hc.tree_eq ha rfl (h.1 ((deepEqual_iff_matches a _).2 hne))
      exact not_hidden_of_tree_eq hxz hh
  · intro h
    constructor
    · exact tree_eq_of_deepEqual h.shown
    · intro ht
      exact deepEqual_of_tree_eq ha ht (h.aligned ht)

/-- The comparison of a value with itself comes down to such comparisons. -/
theorem Compares.self {a : Json} {c : Operand} {x : Json} {y : Operand}
    (hc : Compares excl a c x y) (ha : a.Proper) (hac : c = .value a) :
    x.Proper ∧ y = .value x := by
  induction hc with
  | refl => exact ⟨ha, hac⟩
  | elem hx hi _ ih =>
    subst hac
    cases ha with
    | arr ha => exact ih (ha _ (List.mem_of_getElem? hx)) (read_index hx)
  | field he hk _ ih =>
    subst hac
    cases ha with
    | obj hnd ha => exact ih (ha _ he) (read_field (OrderedMap.lookup_of_mem hnd he))

theorem aligned_self {x : Json} (hx : x.Proper) : Aligned excl x (.value x) := by
  cases hx with
  | obj hnd =>
    refine ⟨rfl, fun e he _ => ?_⟩
    rw [prop_field (OrderedMap.lookup_of_mem hnd he), Option.isSome_some]
  | _ => trivial

/-- Every value is faithfully compared with itself. -/
theorem Faithful.refl {a : Json} (ha : a.Proper) : Faithful excl a a where
  aligned _ x y hc := by
    obtain ⟨hx, rfl⟩ := hc.self ha rfl
    exact aligned_self hx
  shown := by
    rintro ⟨x, y, hc, hh⟩
    obtain ⟨-, rfl⟩ := hc.self ha rfl
    exact absurd hh (not_hidden_of_tree_eq rfl)

/-- Where it decides equality, the comparison is an equivalence relation. -/
theorem equivalence_of_faithful {S : Set {j : Json // j.Proper}}
    (h : ∀ a ∈ S, ∀ b ∈ S, Faithful excl a.1 b.1) :
    Equivalence fun a b : S => deepEqual excl a.1.1 (.value b.1.1) = true := by
  have hiff : ∀ a b : S, deepEqual excl a.1.1 (.value b.1.1) = true ↔
      a.1.1.tree excl = b.1.1.tree excl := fun a b =>
    (deepEqual_decides_iff a.1.2).2 (h a.1 a.2 b.1 b.2)
  constructor
  · intro a
    exact (hiff a a).2 rfl
  · intro a b hab
    exact (hiff b a).2 ((hiff a b).1 hab).symm
  · intro a b c hab hbc
    exact (hiff a c).2 (((hiff a b).1 hab).trans ((hiff b c).1 hbc))

/-! ## Records of strings -/

/-- A `Record<string, string>`. -/
def record (m : OrderedMap String String) : Json := .obj (m.entries.map fun e => (e.1, .str e.2))

theorem lookup_record (m : OrderedMap String String) (k : String) :
    (m.entries.map fun e => (e.1, Json.str e.2)).lookup k = (m.get k).map .str := by
  rw [OrderedMap.get]
  induction m.entries with
  | nil => rfl
  | cons e l ih =>
    rw [List.map_cons, List.lookup_cons, List.lookup_cons, ih]
    cases k == e.1 <;> rfl

theorem mem_entries_of_read {m : OrderedMap String String} {k v : String}
    (h : deepEqual [] (.str v) ((Operand.value (record m)).read k) = true) :
    (k, v) ∈ m.entries := by
  rw [← OrderedMap.get_eq_some_iff]
  unfold record Operand.read Operand.prop at h
  dsimp only at h
  rw [lookup_record] at h
  cases hg : m.get k with
  | some w =>
    rw [hg] at h
    simp only [Option.map_some, Option.elim_some, Option.getD_some, deepEqual_str, beq_iff_eq] at h
    rw [h]
  | none =>
    rw [hg, Option.map_none, Option.elim_none] at h
    unfold inherited at h
    split_ifs at h <;> cases h

/-- The comparison decides whether two records have the same value under every key. -/
theorem deepEqual_record_iff (m n : OrderedMap String String) :
    deepEqual [] (record m) (.value (record n)) = true ↔ ∀ k, m.get k = n.get k := by
  have hnd : ∀ m : OrderedMap String String, m.entries.Nodup := fun m => m.nodup.of_map _
  have hperm : m.entries.Perm n.entries ↔ ∀ k, m.get k = n.get k := by
    rw [List.perm_ext_iff_of_nodup (hnd m) (hnd n)]
    constructor
    · intro h k
      ext v
      rw [OrderedMap.get_eq_some_iff, OrderedMap.get_eq_some_iff, h]
    · intro h e
      rw [← OrderedMap.get_eq_some_iff, ← OrderedMap.get_eq_some_iff, h]
  rw [← hperm, record, deepEqual_obj_iff]
  constructor
  · rintro ⟨⟨-, hlen, -⟩, h⟩
    have hsub : m.entries ⊆ n.entries := fun e he =>
      mem_entries_of_read (h (e.1, .str e.2) (List.mem_map_of_mem he) List.not_mem_nil)
    refine (List.subperm_of_subset (hnd m) hsub).perm_of_length_le ?_
    rw [record, keys_obj, List.length_map, List.length_map] at hlen
    exact hlen.ge
  · intro h
    have hread : ∀ e ∈ m.entries, (n.entries.map fun e => (e.1, Json.str e.2)).lookup e.1 =
        some (.str e.2) := by
      intro e he
      rw [lookup_record, (n.get_eq_some_iff ..).2 (h.subset he), Option.map_some]
    refine ⟨⟨rfl, ?_, fun e he => ?_⟩, fun e he _ => ?_⟩
    · rw [record, keys_obj, List.length_map, List.length_map, h.length_eq]
    · obtain ⟨e, hmem, rfl⟩ := List.mem_map.1 he
      rw [record, prop_field (hread e hmem), Option.isSome_some]
    · obtain ⟨e, hmem, rfl⟩ := List.mem_map.1 he
      rw [record, read_field (hread e hmem), deepEqual_str, beq_self_eq_true]

/-! ## Updates of a state -/

/-- Data passes for `undefined` nowhere. -/
theorem deepEqual_undefined (a : Json) : deepEqual excl a .undefined = false := by
  cases a <;> rfl

/-- Every field that an update writes is faithfully compared with the one it replaces. -/
def FaithfulUpdate (excl : List String) (old update : JsObject) : Prop :=
  ∀ k x y, k ∉ excl → old.get k = some (some x) → update.get k = some (some y) →
    x.Proper ∧ Faithful excl x y

/-- An update that passes for no change adds no field. -/
theorem mem_keys_of_deepEqualObject {old update : JsObject} {k : String} {v : Option Json}
    (h : deepEqualObject excl old (spread (some old) update) = true)
    (hk : update.get k = some v) : k ∈ old.keys := by
  have hlen : old.keys.length = (spread (some old) update).keys.length := by
    simp only [deepEqualObject, Bool.and_eq_true, beq_iff_eq] at h
    exact h.1.1
  by_contra hold
  have hnd : (k :: old.keys).Nodup := List.nodup_cons.2 ⟨hold, old.nodup⟩
  have hsub : k :: old.keys ⊆ (spread (some old) update).keys := by
    intro q hq
    by_contra hn
    rw [← OrderedMap.get_eq_none_iff, get_spread, Option.or_eq_none_iff] at hn
    rcases List.mem_cons.1 hq with rfl | hq
    · rw [hk] at hn
      cases hn.1
    · exact (OrderedMap.get_eq_none_iff old q).1 hn.2 hq
  have := (List.subperm_of_subset hnd hsub).length_le
  rw [List.length_cons] at this
  omega

/-- An update that passes for no change leaves the state the same up to the excluded keys. -/
theorem sameState_of_deepEqualState {old update : JsObject} (hf : FaithfulUpdate excl old update)
    (h : deepEqualState excl (some old) (some (spread (some old) update)) = true) :
    SameState excl (some old) (some (spread (some old) update)) := by
  rw [sameState_some_iff]
  funext k
  unfold JsObject.tree
  split_ifs with hk
  · rfl
  · rw [get_spread]
    cases hu : update.get k with
    | none => rfl
    | some v =>
      have hmem : k ∈ old.keys := mem_keys_of_deepEqualObject h hu
      cases ho : old.get k with
      | none => exact absurd hmem ((OrderedMap.get_eq_none_iff old k).1 ho)
      | some u =>
        have hfield : deepEqualField excl u (v.elim .undefined .value) = true := by
          simp only [deepEqualState, deepEqualObject, Bool.and_eq_true, List.all_eq_true] at h
          have := (contains_or_iff _ _).1 (h.2 (k, u) ((OrderedMap.get_eq_some_iff ..).1 ho)) hk
          rwa [propOf, get_spread, hu, Option.some_or, Option.elim_some, Option.getD_some] at this
        cases u with
        | none => cases v with
          | none => rfl
          | some y => cases hfield
        | some x => cases v with
          | none => exact absurd hfield (by simp [deepEqualField, deepEqual_undefined])
          | some y =>
            obtain ⟨hx, hxy⟩ := hf k x y hk ho hu
            exact congrArg some (((deepEqual_decides_iff hx).2 hxy).1 hfield)

end StytchBrowser.DeepEqual
