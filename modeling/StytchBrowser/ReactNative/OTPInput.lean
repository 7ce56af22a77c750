import StytchBrowser.Lib.Effects
import StytchBrowser.Lib.Machine

/-!
# The input for one-time passcodes

Six boxes show the entries of an array, which a change of a text replaces. An effect calls
`onCodeComplete` when the array has six entries and none is the empty string; a rejection sets
`codeIsInvalid`, and the effect declared before empties the boxes. Two things go wrong:

* the effects of the commit of a rejection still see the array that was rejected, so that a complete
  one is submitted once more (`App.reject_eq`);
* a pasted text replaces the array by one of its own length, and a text entered beyond its end leaves
  entries missing, which pass for characters (`leavesGap_iff`).

`exact_iff`: a run is as it should be if and only if neither happens in it.

A text is a list of code units, of any type.
-/

namespace StytchBrowser.ReactNative.OTPInput

open Effects Machine

variable {κ : Type}

def codeLength : ℕ := 6

/-- The array of the texts: an entry is `none` when it is a hole or `undefined`, which `every`,
`join` and the boxes treat alike. -/
abbrev Numbers (κ : Type) := List (Option (List κ))

def blank : Numbers κ := List.replicate codeLength (some [])

/-- `value === ''`. -/
def isEmptyString : Option (List κ) → Bool
  | some [] => true
  | _ => false

/-- The test of the effect that submits. -/
def complete (numbers : Numbers κ) : Bool :=
  numbers.length = codeLength && numbers.all fun value => !isEmptyString value

/-- `numbers.join('')`. -/
def join (numbers : Numbers κ) : List κ := numbers.flatMap fun value => value.getD []

/-- What the six boxes hold. -/
def boxes (numbers : Numbers κ) : List (List κ) :=
  (List.range codeLength).map fun index => numbers[index]?.join.getD []

/-- `newNumbers[index] = value`, which may be beyond the end of the array. -/
def assign (numbers : Numbers κ) (index : ℕ) (value : List κ) : Numbers κ :=
  if index < numbers.length then numbers.set index (some value)
  else numbers ++ List.replicate (index - numbers.length) none ++ [some value]

/-- The array that `handleChangeText` sets. -/
def handleChangeText (numbers : Numbers κ) (code : List κ) (index : ℕ) : Numbers κ :=
  if code.length > 1 then code.map fun c => some [c] else assign numbers index code

/-- The array that `handleKeyPress` sets, if it sets one. -/
def handleKeyPress (numbers : Numbers κ) (keyValue : String) (index : ℕ) : Option (Numbers κ) :=
  if keyValue = "Backspace" then
    let clearAndSetFocusTo := if isEmptyString numbers[index]?.join then index - 1 else index
    some (assign numbers clearAndSetFocusTo [])
  else none

/-! ## The component -/

/-- The state of the component, and which function the prop is. -/
structure Hooks (κ : Type) where
  numbers : Numbers κ
  /-- Which array `numbers` is: `setNumbers` is always called with a new one. -/
  array : ℕ
  codeIsInvalid : Bool
  isSubmitting : Bool
  onCodeComplete : ℕ

namespace Hooks

def setNumbers (numbers : Numbers κ) (s : Hooks κ) : Hooks κ :=
  { s with numbers, array := s.array + 1 }

def setCodeIsInvalid (codeIsInvalid : Bool) (s : Hooks κ) : Hooks κ := { s with codeIsInvalid }

def setIsSubmitting (isSubmitting : Bool) (s : Hooks κ) : Hooks κ := { s with isSubmitting }

end Hooks

/-- A call of `onCodeComplete`, and what the boxes hold when it is made. -/
structure Call (κ : Type) where
  code : List κ
  boxes : List (List κ)

/-- The effect on `[codeIsInvalid, inputRefsArray, applyFocusToRef]`. -/
def clearWhenInvalid : Effect (Hooks κ) (Call κ) where
  due old new := old.codeIsInvalid != new.codeIsInvalid
  run s := (if s.codeIsInvalid then [Hooks.setNumbers blank] else [], [])

/-- The effect on `[isSubmitting, numbers, onCodeComplete]`. -/
def submitWhenComplete : Effect (Hooks κ) (Call κ) where
  due old new := old.isSubmitting != new.isSubmitting || old.array != new.array ||
    old.onCodeComplete != new.onCodeComplete
  run s :=
    if s.isSubmitting then ([], [])
    else if complete s.numbers then
      ([Hooks.setCodeIsInvalid false, Hooks.setIsSubmitting true], [⟨join s.numbers, boxes s.numbers⟩])
    else ([], [])

/-- The effects, in the order of their declaration. -/
def effects : List (Effect (Hooks κ) (Call κ)) := [clearWhenInvalid, submitWhenComplete]

/-- The commits that an update of the state leads to. -/
def commit (old new : Hooks κ) : Option (Hooks κ × List (Call κ)) := settle effects 2 old new

/-! ## Runs -/

/-- What is observed of a run. -/
inductive Event (κ : Type) where
  /-- The user has changed the texts: the boxes before and after. -/
  | input (before after : List (List κ))
  | call (c : Call κ)
  /-- A rejection has been processed: the boxes then, and whether a submission is in progress. -/
  | rejected (boxes : List (List κ)) (isSubmitting : Bool)

structure App (κ : Type) where
  hooks : Hooks κ
  /-- The submissions that have been neither resolved nor rejected. -/
  pending : ℕ
  /-- What was observed, newest first. -/
  trace : List (Event κ)

inductive Action (κ : Type) where
  | changeText (code : List κ) (index : ℕ)
  | keyPress (keyValue : String) (index : ℕ)
  | resolve
  | reject
  /-- The component is rendered with another `onCodeComplete`. -/
  | rerender

def maxLength (index : ℕ) : ℕ := if index = 0 then codeLength else 1

namespace App

def initial : App κ := ⟨⟨blank, 0, false, false, 0⟩, 0, []⟩

/-- The user has made `numbers` the array. -/
def setNumbers (s : App κ) (numbers : Numbers κ) : Option (App κ) :=
  (commit s.hooks (s.hooks.setNumbers numbers)).map fun (hooks, calls) =>
    ⟨hooks, s.pending + calls.length,
      (calls.map .call).reverse ++ .input (boxes s.hooks.numbers) (boxes numbers) :: s.trace⟩

/-- One step, `none` when it is not possible. -/
def next (s : App κ) : Action κ → Option (App κ)
  | .changeText code index =>
      if index < codeLength ∧ code.length ≤ maxLength index then
        s.setNumbers (handleChangeText s.hooks.numbers code index)
      else none
  | .keyPress keyValue index =>
      if index < codeLength then
        match handleKeyPress s.hooks.numbers keyValue index with
        | some numbers => s.setNumbers numbers
        | none => some s
      else none
  | .resolve => if 0 < s.pending then some { s with pending := s.pending - 1 } else none
  | .reject =>
      if 0 < s.pending then
        (commit s.hooks ((s.hooks.setCodeIsInvalid true).setIsSubmitting false)).map
          fun (hooks, calls) =>
            ⟨hooks, s.pending - 1 + calls.length,
              .rejected (boxes hooks.numbers) hooks.isSubmitting ::
                ((calls.map .call).reverse ++ s.trace)⟩
      else none
  | .rerender =>
      (commit s.hooks { s.hooks with onCodeComplete := s.hooks.onCodeComplete + 1 }).map
        fun (hooks, calls) =>
          ⟨hooks, s.pending + calls.length, (calls.map .call).reverse ++ s.trace⟩

end App

/-- The component as a machine. -/
def machine (κ : Type) : Machine (App κ) (Action κ) where
  init s := s = App.initial
  next := App.next

/-- A box was changed by the user since the last call. -/
def Fresh : List (Event κ) → Prop
  | [] => True
  | .input before after :: trace => before ≠ after ∨ Fresh trace
  | .call _ :: _ => False
  | .rejected _ _ :: trace => Fresh trace

/-- Every call is made when all boxes hold a character, with these characters, and after a change
since the last call; after a rejection all boxes are empty and no submission is in progress. -/
def Exact : List (Event κ) → Prop
  | [] => True
  | .input _ _ :: trace => Exact trace
  | .call c :: trace =>
      (∀ box ∈ c.boxes, box.length = 1) ∧ c.code = c.boxes.flatten ∧ Fresh trace ∧ Exact trace
  | .rejected boxes isSubmitting :: trace =>
      (∀ box ∈ boxes, box = []) ∧ isSubmitting = false ∧ Exact trace

/-- A character entered in the box makes the array as long as there are boxes, no other entry is the
empty string, and another one is missing. -/
def LeavesGap (numbers : Numbers κ) (code : List κ) (index : ℕ) : Prop :=
  code.length = 1 ∧ (numbers.length = codeLength ∨ index + 1 = codeLength) ∧
    (∀ i, i ≠ index → numbers[i]? ≠ some (some [])) ∧
    ∃ i < codeLength, i ≠ index ∧ numbers[i]?.join = none

/-- The steps that do not go wrong: no character leaves a gap while nothing is being submitted, and
no rejection comes while the array is complete. -/
def Spared : Guard (App κ) (Action κ) := fun _ s a =>
  match a with
  | .changeText code index =>
      s.hooks.isSubmitting = true ∨ ¬LeavesGap s.hooks.numbers code index
  | .reject => complete s.hooks.numbers = false
  | _ => True

/-! ## Commits -/

/-- A code has been handed over. -/
def Hooks.submitted (s : Hooks κ) : Hooks κ := (s.setCodeIsInvalid false).setIsSubmitting true

@[simp] theorem setNumbers_codeIsInvalid (numbers : Numbers κ) (s : Hooks κ) :
    (s.setNumbers numbers).codeIsInvalid = s.codeIsInvalid := rfl

/-- Nothing is queued by the commit after a submission. -/
theorem quiet_of_isSubmitting (old : Hooks κ) {new : Hooks κ} (hc : new.codeIsInvalid = false)
    (hs : new.isSubmitting = true) : updates effects old new = [] ∧ calls effects old new = [] := by
  simp [updates, calls, effects, clearWhenInvalid, submitWhenComplete, hc, hs]

/-- An array that is set is submitted when it is complete, unless a code is being submitted. -/
theorem commit_setNumbers (s : Hooks κ) (numbers : Numbers κ) :
    commit s (s.setNumbers numbers) =
      some (if s.isSubmitting = false ∧ complete numbers = true then
        ((s.setNumbers numbers).submitted, [⟨join numbers, boxes numbers⟩])
      else (s.setNumbers numbers, [])) := by
  split_ifs with h
  · have hu : updates effects s (s.setNumbers numbers) =
        [Hooks.setCodeIsInvalid false, Hooks.setIsSubmitting true] := by
      simp [updates, effects, clearWhenInvalid, submitWhenComplete, Hooks.setNumbers, h]
    have hc : calls effects s (s.setNumbers numbers) = [⟨join numbers, boxes numbers⟩] := by
      simp [calls, effects, clearWhenInvalid, submitWhenComplete, Hooks.setNumbers, h]
    have hquiet := quiet_of_isSubmitting (s.setNumbers numbers)
      (rfl : (s.setNumbers numbers).submitted.codeIsInvalid = false) rfl
    exact (settle_twice hu nofun hquiet).trans (by rw [hc]; rfl)
  · have hrun : submitWhenComplete.run (s.setNumbers numbers) = ([], []) := by
      cases hs : s.isSubmitting with
      | true => simp [submitWhenComplete, Hooks.setNumbers, hs]
      | false =>
        have hn : ¬complete numbers = true := fun hn => h ⟨hs, hn⟩
        simp [submitWhenComplete, Hooks.setNumbers, hs, hn]
    have hu : updates effects s (s.setNumbers numbers) = [] := by
      simp [updates, effects, hrun, clearWhenInvalid]
    have hc : calls effects s (s.setNumbers numbers) = [] := by
      simp [calls, effects, hrun, clearWhenInvalid]
    exact (settle_of_quiet hu).trans (by rw [hc])

theorem complete_blank : complete (blank : Numbers κ) = false := rfl

/-- The state when a rejection is committed. -/
def Hooks.rejected (s : Hooks κ) : Hooks κ := (s.setCodeIsInvalid true).setIsSubmitting false

/-- A rejection empties the boxes, and submits the array that was there when it is complete. -/
theorem commit_rejected (s : Hooks κ) (hs : s.isSubmitting = true)
    (hc : s.codeIsInvalid = false) :
    commit s s.rejected =
      some (if complete s.numbers = true then
        ((s.rejected.setNumbers blank).submitted, [⟨join s.numbers, boxes s.numbers⟩])
      else (s.rejected.setNumbers blank, [])) := by
  split_ifs with h
  · have hu : updates effects s s.rejected =
        [Hooks.setNumbers blank, Hooks.setCodeIsInvalid false, Hooks.setIsSubmitting true] := by
      simp [updates, effects, clearWhenInvalid, submitWhenComplete, Hooks.rejected,
        Hooks.setCodeIsInvalid, Hooks.setIsSubmitting, hs, hc, h]
    have hcalls : calls effects s s.rejected = [⟨join s.numbers, boxes s.numbers⟩] := by
      simp [calls, effects, clearWhenInvalid, submitWhenComplete, Hooks.rejected,
        Hooks.setCodeIsInvalid, Hooks.setIsSubmitting, hs, h]
    have hquiet := quiet_of_isSubmitting s.rejected
      (rfl : (s.rejected.setNumbers blank).submitted.codeIsInvalid = false) rfl
    exact (settle_twice hu nofun hquiet).trans (by rw [hcalls]; rfl)
  · have hu : updates effects s s.rejected = [Hooks.setNumbers blank] := by
      simp [updates, effects, clearWhenInvalid, submitWhenComplete, Hooks.rejected,
        Hooks.setCodeIsInvalid, Hooks.setIsSubmitting, hs, hc, h]
    have hcalls : calls effects s s.rejected = [] := by
      simp [calls, effects, clearWhenInvalid, submitWhenComplete, Hooks.rejected,
        Hooks.setCodeIsInvalid, Hooks.setIsSubmitting, h]
    have hquiet : updates effects s.rejected (s.rejected.setNumbers blank) = [] ∧
        calls effects s.rejected (s.rejected.setNumbers blank) = [] := by
      simp [updates, calls, effects, clearWhenInvalid, submitWhenComplete, Hooks.setNumbers,
        complete_blank]
    exact (settle_twice hu nofun hquiet).trans (by rw [hcalls]; rfl)

/-- Another `onCodeComplete` changes nothing where a complete array is being submitted. -/
theorem commit_rerender (s : Hooks κ) (h : complete s.numbers = true → s.isSubmitting = true)
    (k : ℕ) : commit s { s with onCodeComplete := k } = some ({ s with onCodeComplete := k }, []) := by
  have hrun : submitWhenComplete.run { s with onCodeComplete := k } = ([], []) := by
    cases hs : s.isSubmitting with
    | true => rfl
    | false =>
      have hn : ¬complete s.numbers = true := fun hn => by simp [h hn] at hs
      simp [submitWhenComplete, hn]
  have hu : updates effects s { s with onCodeComplete := k } = [] := by
    simp [updates, effects, hrun, clearWhenInvalid]
  have hc : calls effects s { s with onCodeComplete := k } = [] := by
    simp [calls, effects, hrun, clearWhenInvalid]
  exact (settle_of_quiet hu).trans (by rw [hc])

/-! ## The arrays that the user makes -/

theorem complete_iff {numbers : Numbers κ} :
    complete numbers = true ↔ numbers.length = codeLength ∧ some [] ∉ numbers := by
  simp only [complete, Bool.and_eq_true, decide_eq_true_eq, List.all_eq_true, Bool.not_eq_true']
  refine and_congr_right fun _ => ⟨fun h hmem => ?_, fun h value hmem => ?_⟩
  · cases h _ hmem
  · match value with
    | none => rfl
    | some (_ :: _) => rfl
    | some [] => exact absurd hmem h

theorem length_assign (numbers : Numbers κ) (index : ℕ) (value : List κ) :
    (assign numbers index value).length = max numbers.length (index + 1) := by
  unfold assign
  split_ifs
  · rw [List.length_set]
    omega
  · simp only [List.length_append, List.length_replicate, List.length_singleton]
    omega

/-- The entries after an assignment: the one assigned, the others as they were, and holes. -/
theorem getElem?_assign (numbers : Numbers κ) {index : ℕ} (value : List κ) {i : ℕ}
    (hi : i < max numbers.length (index + 1)) :
    (assign numbers index value)[i]? =
      some (if i = index then some value else numbers[i]?.join) := by
  unfold assign
  split_ifs with hlt heq heq
  · rw [heq, List.getElem?_set_self hlt]
  · have hin : i < numbers.length := by omega
    rw [List.getElem?_set_ne (Ne.symm heq), List.getElem?_eq_getElem hin, Option.join_some]
  · rw [List.getElem?_append_right (by simp; omega)]
    simp only [List.length_append, List.length_replicate]
    rw [show i - (numbers.length + (index - numbers.length)) = 0 by omega]
    rfl
  · rw [List.getElem?_append_left (by simp; omega)]
    by_cases hin : i < numbers.length
    · rw [List.getElem?_append_left hin, List.getElem?_eq_getElem hin, Option.join_some]
    · have hlt : i - numbers.length < index - numbers.length := by omega
      rw [List.getElem?_append_right (Nat.le_of_not_lt hin), List.getElem?_replicate, if_pos hlt,
        List.getElem?_eq_none (Nat.le_of_not_lt hin)]
      rfl

theorem mem_assign (numbers : Numbers κ) (index : ℕ) (value : List κ) :
    some value ∈ assign numbers index value := by
  refine List.mem_of_getElem? (i := index) ?_
  rw [getElem?_assign numbers value (by omega), if_pos rfl]

/-- When a text completes the array with an entry missing. -/
theorem leavesGap_iff {numbers : Numbers κ} (hlen : numbers.length ≤ codeLength) {code : List κ}
    {index : ℕ} (hindex : index < codeLength) :
    LeavesGap numbers code index ↔ complete (handleChangeText numbers code index) = true ∧
      none ∈ handleChangeText numbers code index := by
  unfold handleChangeText
  split_ifs with hcode
  · constructor
    · rintro ⟨h1, -⟩
      omega
    · rintro ⟨-, hmem⟩
      simp at hmem
  · rw [complete_iff, length_assign]
    have hentry : ∀ i < codeLength, max numbers.length (index + 1) = codeLength →
        (assign numbers index code)[i]? =
          some (if i = index then some code else numbers[i]?.join) :=
      fun i hi hmax => getElem?_assign numbers code (by omega)
    constructor
    · rintro ⟨h1, hsize, hne, i, hi, hii, hnone⟩
      have hmax : max numbers.length (index + 1) = codeLength := by omega
      refine ⟨⟨hmax, fun hmem => ?_⟩, ?_⟩
      · obtain ⟨j, hj⟩ := List.mem_iff_getElem?.1 hmem
        obtain ⟨hj', -⟩ := List.getElem?_eq_some_iff.1 hj
        rw [length_assign, hmax] at hj'
        rw [hentry j hj' hmax] at hj
        split_ifs at hj with heq
        · rw [Option.some.inj (Option.some.inj hj)] at h1
          cases h1
        · exact hne j heq (Option.join_eq_some_iff.1 (Option.some.inj hj))
      · refine List.mem_of_getElem? (i := i) ?_
        rw [hentry i hi hmax, if_neg hii, hnone]
    · rintro ⟨⟨hmax, hne⟩, hmem⟩
      have hpos : code.length ≠ 0 := fun h0 =>
        hne (List.length_eq_zero_iff.1 h0 ▸ mem_assign numbers index code)
      refine ⟨by omega, by omega, fun i hi hmem' => hne ?_, ?_⟩
      · obtain ⟨hi', -⟩ := List.getElem?_eq_some_iff.1 hmem'
        refine List.mem_of_getElem? (i := i) ?_
        rw [hentry i (by omega) hmax, if_neg hi, hmem', Option.join_some]
      · obtain ⟨i, hi⟩ := List.mem_iff_getElem?.1 hmem
        obtain ⟨hi', -⟩ := List.getElem?_eq_some_iff.1 hi
        rw [length_assign, hmax] at hi'
        rw [hentry i hi' hmax] at hi
        split_ifs at hi with heq
        · cases Option.some.inj hi
        · exact ⟨i, hi', heq, Option.some.inj hi⟩

/-! ## What every run keeps -/

/-- There are no more entries than boxes, and each is a character or the empty string. -/
structure Characters (numbers : Numbers κ) : Prop where
  length : numbers.length ≤ codeLength
  entries : ∀ text, some text ∈ numbers → text.length ≤ 1

structure Settled (s : App κ) : Prop where
  characters : Characters s.hooks.numbers
  submitted : complete s.hooks.numbers = true → s.hooks.isSubmitting = true
  valid : s.hooks.isSubmitting = true → s.hooks.codeIsInvalid = false
  pending : s.pending = 0 ∨ s.pending = 1 ∧ s.hooks.isSubmitting = true

theorem Characters.assign {numbers : Numbers κ} (h : Characters numbers) {index : ℕ}
    (hindex : index < codeLength) {value : List κ} (hv : value.length ≤ 1) :
    Characters (assign numbers index value) := by
  constructor
  · rw [length_assign]
    exact Nat.max_le.2 ⟨h.length, hindex⟩
  · intro text hmem
    obtain ⟨i, hi⟩ := List.mem_iff_getElem?.1 hmem
    obtain ⟨hi', -⟩ := List.getElem?_eq_some_iff.1 hi
    rw [length_assign] at hi'
    rw [getElem?_assign numbers value hi'] at hi
    split_ifs at hi
    · rwa [← Option.some.inj (Option.some.inj hi)]
    · exact h.entries text (List.mem_of_getElem? (Option.join_eq_some_iff.1 (Option.some.inj hi)))

theorem maxLength_le (index : ℕ) : maxLength index ≤ codeLength := by
  unfold maxLength
  split_ifs <;> decide

theorem Characters.handleChangeText {numbers : Numbers κ} (h : Characters numbers)
    {code : List κ} {index : ℕ} (hindex : index < codeLength)
    (hcode : code.length ≤ maxLength index) : Characters (handleChangeText numbers code index) := by
  unfold OTPInput.handleChangeText
  split_ifs with hl
  · constructor
    · rw [List.length_map]
      exact Nat.le_trans hcode (maxLength_le index)
    · intro text hmem
      obtain ⟨c, -, hc⟩ := List.mem_map.1 hmem
      rw [← Option.some.inj hc]
      exact Nat.le_refl 1
  · exact h.assign hindex (Nat.le_of_not_lt hl)

/-- A backspace leaves an empty string. -/
theorem handleKeyPress_eq_some {numbers numbers' : Numbers κ} {keyValue : String} {index : ℕ}
    (h : handleKeyPress numbers keyValue index = some numbers') :
    ∃ i ≤ index, numbers' = assign numbers i [] := by
  unfold handleKeyPress at h
  by_cases hk : keyValue = "Backspace"
  · rw [if_pos hk] at h
    refine ⟨_, ?_, (Option.some.inj h).symm⟩
    split_ifs
    · exact Nat.sub_le _ _
    · exact Nat.le_refl _
  · rw [if_neg hk] at h
    cases h

/-! ## Steps -/

/-- A text that the user changes: what it submits, if anything. -/
theorem App.setNumbers_eq (s : App κ) (numbers : Numbers κ) :
    s.setNumbers numbers =
      some (if s.hooks.isSubmitting = false ∧ complete numbers = true then
        ⟨(s.hooks.setNumbers numbers).submitted, s.pending + 1,
          .call ⟨join numbers, boxes numbers⟩ ::
            .input (boxes s.hooks.numbers) (boxes numbers) :: s.trace⟩
      else
        ⟨s.hooks.setNumbers numbers, s.pending,
          .input (boxes s.hooks.numbers) (boxes numbers) :: s.trace⟩) := by
  rw [App.setNumbers, commit_setNumbers]
  split_ifs <;> rfl

/-- A rejection: it submits once more what it finds complete. -/
theorem App.reject_eq {s : App κ} (hs : Settled s) (hp : 0 < s.pending) :
    s.next .reject =
      some (if complete s.hooks.numbers = true then
        ⟨(s.hooks.rejected.setNumbers blank).submitted, 1,
          .rejected (boxes (blank : Numbers κ)) true ::
            .call ⟨join s.hooks.numbers, boxes s.hooks.numbers⟩ :: s.trace⟩
      else
        ⟨s.hooks.rejected.setNumbers blank, 0,
          .rejected (boxes (blank : Numbers κ)) false :: s.trace⟩) := by
  obtain ⟨hone, hsub⟩ := hs.pending.resolve_left (Nat.pos_iff_ne_zero.1 hp)
  have hcommit := commit_rejected s.hooks hsub (hs.valid hsub)
  rw [App.next, if_pos hp]
  unfold Hooks.rejected at hcommit
  rw [hcommit, hone]
  split_ifs <;> rfl

/-- What a step is: the user changes a text, a submission is rejected, or only its result or the
function to call next is another one. -/
theorem App.next_cases {s s' : App κ} (hs : Settled s) {a : Action κ} (h : s.next a = some s') :
    (∃ numbers, Characters numbers ∧ s.setNumbers numbers = some s' ∧
        ((∃ code index, a = .changeText code index ∧ index < codeLength ∧
            numbers = handleChangeText s.hooks.numbers code index) ∨
          complete numbers = false ∧ ∀ past, Spared past s a)) ∨
      (a = .reject ∧ 0 < s.pending) ∨
      ((∀ past, Spared past s a) ∧ s'.trace = s.trace ∧ s'.pending ≤ s.pending ∧
        ∃ k, s'.hooks = { s.hooks with onCodeComplete := k }) := by
  cases a with
  | changeText code index =>
    rw [App.next] at h
    split_ifs at h with hin
    exact .inl ⟨_, hs.characters.handleChangeText hin.1 hin.2, h, .inl ⟨code, index, rfl, hin.1, rfl⟩⟩
  | keyPress keyValue index =>
    rw [App.next] at h
    split_ifs at h with hindex
    cases hk : handleKeyPress s.hooks.numbers keyValue index with
    | some numbers =>
      rw [hk] at h
      obtain ⟨i, hi, rfl⟩ := handleKeyPress_eq_some hk
      have hincomplete : complete (assign s.hooks.numbers i []) = false := by
        rw [Bool.eq_false_iff, Ne, complete_iff]
        exact fun hc => hc.2 (mem_assign ..)
      exact .inl ⟨_, hs.characters.assign (Nat.lt_of_le_of_lt hi hindex) (Nat.zero_le _), h,
        .inr ⟨hincomplete, fun _ => trivial⟩⟩
    | none =>
      rw [hk] at h
      obtain rfl := Option.some.inj h
      exact .inr (.inr ⟨fun _ => trivial, rfl, Nat.le_refl _, _, rfl⟩)
  | resolve =>
    rw [App.next] at h
    split_ifs at h
    obtain rfl := Option.some.inj h
    exact .inr (.inr ⟨fun _ => trivial, rfl, Nat.sub_le _ _, _, rfl⟩)
  | reject =>
    right
    left
    refine ⟨rfl, ?_⟩
    rw [App.next] at h
    split_ifs at h with hp
    exact hp
  | rerender =>
    rw [App.next, commit_rerender s.hooks hs.submitted] at h
    obtain rfl := Option.some.inj h
    exact .inr (.inr ⟨fun _ => trivial, rfl, Nat.le_refl _, _, rfl⟩)

theorem characters_blank : Characters (blank : Numbers κ) where
  length := Nat.le_refl _
  entries text hmem := by
    have := List.eq_of_mem_replicate hmem
    rw [Option.some.inj this]
    exact Nat.zero_le 1

theorem settled_initial : Settled (App.initial : App κ) where
  characters := characters_blank
  submitted h := by cases h
  valid h := by cases h
  pending := .inl rfl

theorem Settled.step {s s' : App κ} (hs : Settled s) {a : Action κ} (h : s.next a = some s') :
    Settled s' := by
  rcases App.next_cases hs h with ⟨numbers, hc, hset, -⟩ | ⟨rfl, hp⟩ | ⟨-, -, hp, k, hk⟩
  · rw [App.setNumbers_eq] at hset
    obtain rfl := Option.some.inj hset
    split_ifs with hsub
    · refine ⟨hc, fun _ => rfl, fun _ => rfl, .inr ⟨?_, rfl⟩⟩
      have hzero : s.pending = 0 := hs.pending.resolve_right fun hp => by simp [hp.2] at hsub
      exact congrArg (· + 1) hzero
    · refine ⟨hc, fun hn => ?_, hs.valid, hs.pending⟩
      by_contra hfalse
      exact hsub ⟨Bool.eq_false_iff.2 hfalse, hn⟩
  · rw [App.reject_eq hs hp] at h
    obtain rfl := Option.some.inj h
    split_ifs with hsub
    · exact ⟨characters_blank, fun _ => rfl, fun _ => rfl, .inr ⟨rfl, rfl⟩⟩
    · exact ⟨characters_blank, nofun, nofun, .inl rfl⟩
  · obtain ⟨hooks, pending, trace⟩ := s'
    obtain rfl : hooks = _ := hk
    refine ⟨hs.characters, hs.submitted, hs.valid, ?_⟩
    have hp : pending ≤ s.pending := hp
    rcases hs.pending with hzero | ⟨hone, hsub⟩
    · exact .inl (by dsimp only; omega)
    · rcases Nat.eq_zero_or_pos pending with h0 | hpos
      · exact .inl h0
      · exact .inr ⟨by dsimp only; omega, hsub⟩

theorem settled_of_reach {past : List (Action κ)} {s : App κ}
    (hr : Reach (machine κ) anyStep past s) : Settled s := by
  refine hr.invariant (I := fun _ s => Settled s) ?_ ?_
  · rintro s rfl
    exact settled_initial
  · exact fun _ _ _ _ hs _ hn => hs.step hn

/-! ## What the boxes hold -/

theorem boxes_eq {numbers : Numbers κ} (h : numbers.length = codeLength) :
    boxes numbers = numbers.map fun value => value.getD [] := by
  apply List.ext_getElem
  · simp [boxes, h]
  · intro i hi hi'
    have hlt : i < numbers.length := by simpa using hi'
    simp [boxes, List.getElem?_eq_getElem hlt]

/-- A complete array without missing entries is a character in every box. -/
theorem box_of_complete {numbers : Numbers κ} (hc : Characters numbers)
    (h : complete numbers = true) (hgap : none ∉ numbers) :
    ∀ box ∈ boxes numbers, box.length = 1 := by
  obtain ⟨hlen, hne⟩ := complete_iff.1 h
  rw [boxes_eq hlen]
  intro box hbox
  obtain ⟨value, hmem, rfl⟩ := List.mem_map.1 hbox
  cases value with
  | none => exact absurd hmem hgap
  | some text =>
    have hle := hc.entries text hmem
    have hpos : text.length ≠ 0 := fun h0 => hne (List.length_eq_zero_iff.1 h0 ▸ hmem)
    rw [Option.getD_some]
    omega

theorem join_eq_flatten {numbers : Numbers κ} (h : complete numbers = true) :
    join numbers = (boxes numbers).flatten := by
  rw [boxes_eq (complete_iff.1 h).1, join, List.flatMap_def]

/-- A box of a missing entry is empty. -/
theorem nil_mem_boxes {numbers : Numbers κ} (h : complete numbers = true)
    (hgap : none ∈ numbers) : [] ∈ boxes numbers := by
  rw [boxes_eq (complete_iff.1 h).1]
  exact List.mem_map.2 ⟨none, hgap, rfl⟩

theorem boxes_blank : ∀ box ∈ boxes (blank : Numbers κ), box = [] := by
  have hlen : (blank : Numbers κ).length = codeLength := List.length_replicate
  rw [boxes_eq hlen]
  intro box hbox
  obtain ⟨value, hmem, rfl⟩ := List.mem_map.1 hbox
  rw [List.eq_of_mem_replicate hmem]
  rfl

/-! ## Runs that are as they should be -/

theorem exact_of_append {l trace : List (Event κ)} (h : Exact (l ++ trace)) : Exact trace := by
  induction l with
  | nil => exact h
  | cons e l ih =>
    cases e with
    | input => exact ih h
    | call => exact ih h.2.2.2
    | rejected => exact ih h.2.2

/-- What holds while no step has gone wrong: unless a code is being submitted, a box was changed
since the last call, or the boxes are empty. -/
structure Clean (s : App κ) : Prop where
  settled : Settled s
  trace : Exact s.trace
  fresh : s.hooks.isSubmitting = false → Fresh s.trace ∨ ∀ box ∈ boxes s.hooks.numbers, box = []

theorem clean_initial : Clean (App.initial : App κ) :=
  ⟨settled_initial, trivial, fun _ => .inr boxes_blank⟩

theorem Clean.step {s s' : App κ} (hs : Clean s) {past : List (Action κ)} {a : Action κ}
    (hspared : Spared past s a) (h : s.next a = some s') : Clean s' := by
  have hsettled := hs.settled.step h
  rcases App.next_cases hs.settled h with
    ⟨numbers, hc, hset, hgap⟩ | ⟨rfl, hp⟩ | ⟨-, htrace, -, k, hk⟩
  · rw [App.setNumbers_eq] at hset
    obtain rfl := Option.some.inj hset
    split_ifs at hsettled ⊢ with hsub
    · have hno : none ∉ numbers := by
        rcases hgap with ⟨code, index, rfl, hindex, rfl⟩ | ⟨hincomplete, -⟩
        · rcases hspared with h | h
          · rw [hsub.1] at h
            cases h
          · exact fun hnone =>
              h ((leavesGap_iff hs.settled.characters.length hindex).2 ⟨hsub.2, hnone⟩)
        · rw [hsub.2] at hincomplete
          cases hincomplete
      have hbox := box_of_complete hc hsub.2 hno
      refine ⟨hsettled, ⟨hbox, join_eq_flatten hsub.2, ?_, hs.trace⟩, nofun⟩
      rcases hs.fresh hsub.1 with hfresh | hempty
      · exact .inr hfresh
      · left
        intro heq
        obtain ⟨box, hmem⟩ : ∃ box, box ∈ boxes numbers := ⟨_, List.mem_map_of_mem (List.mem_range.2
          (by decide : 0 < codeLength))⟩
        have := hbox box hmem
        rw [hempty box (heq ▸ hmem)] at this
        cases this
    · refine ⟨hsettled, hs.trace, fun hns => ?_⟩
      rcases hs.fresh hns with hfresh | hempty
      · exact .inl (.inr hfresh)
      · by_cases heq : boxes s.hooks.numbers = boxes numbers
        · right
          intro box hmem
          exact hempty box (heq ▸ hmem)
        · exact .inl (.inl heq)
  · rw [App.reject_eq hs.settled hp] at h
    have hcomplete : complete s.hooks.numbers = false := hspared
    rw [hcomplete] at h
    obtain rfl := Option.some.inj h
    exact ⟨hsettled, ⟨boxes_blank, rfl, hs.trace⟩, fun _ => .inr boxes_blank⟩
  · refine ⟨hsettled, ?_, ?_⟩
    · rw [htrace]
      exact hs.trace
    · rw [htrace, hk]
      exact hs.fresh

/-- A step that goes wrong shows in what is observed. -/
theorem not_exact_of_not_spared {s s' : App κ} (hs : Settled s) {past : List (Action κ)}
    {a : Action κ} (hspared : ¬Spared past s a) (h : s.next a = some s') : ¬Exact s'.trace := by
  rcases App.next_cases hs h with ⟨numbers, hc, hset, hgap⟩ | ⟨rfl, hp⟩ | ⟨hall, -⟩
  · rcases hgap with ⟨code, index, rfl, hindex, rfl⟩ | ⟨-, hall⟩
    · obtain ⟨hsub, hgap⟩ := not_or.1 hspared
      have hsub : s.hooks.isSubmitting = false := Bool.eq_false_iff.2 hsub
      obtain ⟨hcomplete, hnone⟩ :=
        (leavesGap_iff hs.characters.length hindex).1 (not_not.1 hgap)
      rw [App.setNumbers_eq, if_pos ⟨hsub, hcomplete⟩] at hset
      obtain rfl := Option.some.inj hset
      rintro ⟨hbox, -⟩
      cases hbox [] (nil_mem_boxes hcomplete hnone)
    · exact absurd (hall past) hspared
  · have hcomplete : complete s.hooks.numbers = true := Bool.ne_false_iff.1 hspared
    rw [App.reject_eq hs hp, if_pos hcomplete] at h
    obtain rfl := Option.some.inj h
    rintro ⟨-, hfalse, -⟩
    cases hfalse
  · exact absurd (hall past) hspared

/-- A step only adds to what was observed. -/
theorem exists_trace_eq {s s' : App κ} (hs : Settled s) {a : Action κ} (h : s.next a = some s') :
    ∃ l, s'.trace = l ++ s.trace := by
  rcases App.next_cases hs h with ⟨numbers, -, hset, -⟩ | ⟨rfl, hp⟩ | ⟨-, htrace, -⟩
  · rw [App.setNumbers_eq] at hset
    obtain rfl := Option.some.inj hset
    split_ifs
    · exact ⟨[_, _], rfl⟩
    · exact ⟨[_], rfl⟩
  · rw [App.reject_eq hs hp] at h
    obtain rfl := Option.some.inj h
    split_ifs
    · exact ⟨[_, _], rfl⟩
    · exact ⟨[_], rfl⟩
  · exact ⟨[], htrace⟩

/-- A run is as it should be if and only if none of its steps goes wrong. -/
theorem exact_iff {past : List (Action κ)} {s : App κ} (hr : Reach (machine κ) anyStep past s) :
    Exact s.trace ↔ Reach (machine κ) Spared past s := by
  constructor
  · intro hex
    induction hr with
    | start h0 => exact .start h0
    | step hr _ hn ih =>
      have hs := settled_of_reach hr
      obtain ⟨l, hl⟩ := exists_trace_eq hs hn
      refine (ih (exact_of_append (hl ▸ hex))).step ?_ hn
      by_contra hspared
      exact not_exact_of_not_spared hs hspared hn hex
  · intro hr
    have hclean : Clean s := by
      refine hr.invariant (I := fun _ s => Clean s) ?_ ?_
      · rintro s rfl
        exact clean_initial
      · exact fun _ _ _ _ hs hspared hn => hs.step hspared hn
    exact hclean.trace

/-- A run in which a pasted code is accepted. -/
theorem exact_iff_accepted : ∃ s : App Char,
    (machine Char).exec App.initial [.changeText "123456".toList 0, .resolve] = some s ∧
      (Exact s.trace ↔
        Reach (machine Char) Spared [.resolve, .changeText "123456".toList 0] s) :=
  ⟨_, rfl, exact_iff (reach_of_exec rfl rfl)⟩

/-- A pasted code is rejected, and submitted again. -/
theorem rejected_code_submitted_again : ∃ s : App Char,
    (machine Char).exec App.initial [.changeText "123456".toList 0, .reject] = some s ∧
      ¬Exact s.trace :=
  ⟨_, rfl, fun h => by cases h.2.1⟩

end StytchBrowser.ReactNative.OTPInput
