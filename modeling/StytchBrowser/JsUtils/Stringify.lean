import Mathlib.Data.Rat.Encodable
import StytchBrowser.JsUtils.Json
import StytchBrowser.Lib.Digits

/-!
# The text of JSON data

`JSON.stringify` writes the fields of an object in the order in which the object lists them, and no
white space. How a number is written is a parameter: a finite number is read back from its text, which
consists of the characters of numbers. What is written determines the data, the order of fields
included (`stringify_injective`).
-/

namespace StytchBrowser

/-- The characters in which numbers are written. -/
def numberChars : List Char := "0123456789+-.e".toList

/-- `Number::toString` of a finite number. -/
structure NumberText where
  text : ℚ → String
  injective : Function.Injective text
  nonempty : ∀ x, (text x).toList ≠ []
  chars : ∀ x, ∀ c ∈ (text x).toList, c ∈ numberChars

theorem mem_numberChars {n : ℕ} {c : Char} (h : c ∈ Nat.toDigits 10 n) : c ∈ numberChars := by
  have hall : ∀ d < 10, Nat.digitChar d ∈ numberChars := by decide
  obtain ⟨d, hd, rfl⟩ := Digits.mem_toDigits (by decide) h
  exact hall d hd

/-- Numbers written as their places in an enumeration. -/
def NumberText.enumerated : NumberText where
  text x := toString (Encodable.encode x)
  injective := Digits.toString_injective.comp Encodable.encode_injective
  nonempty x := by
    rw [Digits.toList_toString]
    exact Nat.toDigits_ne_nil
  chars x c hc := by
    rw [Digits.toList_toString] at hc
    exact mem_numberChars hc

namespace Json

/-- What follows the backslash when a character is escaped. -/
def escapeCode (c : Char) : Option (List Char) :=
  if c = '"' then some ['"']
  else if c = '\\' then some ['\\']
  else if c.toNat = 8 then some ['b']
  else if c.toNat = 12 then some ['f']
  else if c.toNat = 10 then some ['n']
  else if c.toNat = 13 then some ['r']
  else if c.toNat = 9 then some ['t']
  else if c.toNat < 32 then some ('u' :: Digits.padded 16 4 c.toNat)
  else none

/-- A character in a string. -/
def escape (c : Char) : List Char := (escapeCode c).elim [c] ('\\' :: ·)

/-- A string in quotes. -/
def quote (s : String) : List Char := '"' :: s.toList.flatMap escape ++ ['"']

variable (numbers : NumberText)

mutual

/-- `JSON.stringify`. -/
def stringify : Json → List Char
  | .null => "null".toList
  | .bool true => "true".toList
  | .bool false => "false".toList
  | .num x => (numbers.text x).toList
  | .str s => quote s
  | .arr [] => ['[', ']']
  | .arr (x :: xs) => '[' :: (stringify x ++ stringifyElems xs)
  | .obj [] => ['{', '}']
  | .obj ((k, v) :: fields) => '{' :: (quote k ++ ':' :: (stringify v ++ stringifyFields fields))

/-- The elements after the first, and the bracket. -/
def stringifyElems : List Json → List Char
  | [] => [']']
  | x :: xs => ',' :: (stringify x ++ stringifyElems xs)

/-- The fields after the first, and the brace. -/
def stringifyFields : List (String × Json) → List Char
  | [] => ['}']
  | (k, v) :: fields => ',' :: (quote k ++ ':' :: (stringify v ++ stringifyFields fields))

end

theorem stringify_num (x : ℚ) : stringify numbers (.num x) = (numbers.text x).toList := rfl

theorem stringify_str (s : String) : stringify numbers (.str s) = quote s := rfl

theorem stringify_arr_nil : stringify numbers (.arr []) = ['[', ']'] := rfl

theorem stringify_arr_cons (x : Json) (xs : List Json) : stringify numbers (.arr (x :: xs)) =
    '[' :: (stringify numbers x ++ stringifyElems numbers xs) := rfl

theorem stringify_obj_nil : stringify numbers (.obj []) = ['{', '}'] := rfl

theorem stringify_obj_cons (k : String) (v : Json) (fields : List (String × Json)) :
    stringify numbers (.obj ((k, v) :: fields)) =
      '{' :: (quote k ++ ':' :: (stringify numbers v ++ stringifyFields numbers fields)) := rfl

theorem stringifyElems_nil : stringifyElems numbers [] = [']'] := rfl

theorem stringifyElems_cons (x : Json) (xs : List Json) : stringifyElems numbers (x :: xs) =
    ',' :: (stringify numbers x ++ stringifyElems numbers xs) := rfl

theorem stringifyFields_nil : stringifyFields numbers [] = ['}'] := rfl

theorem stringifyFields_cons (k : String) (v : Json) (fields : List (String × Json)) :
    stringifyFields numbers ((k, v) :: fields) =
      ',' :: (quote k ++ ':' :: (stringify numbers v ++ stringifyFields numbers fields)) := rfl

/-! ## Strings -/

/-- The first character of an escaped text, and what follows it. -/
def unescape : List Char → Option (Char × List Char)
  | '\\' :: '"' :: l => some ('"', l)
  | '\\' :: '\\' :: l => some ('\\', l)
  | '\\' :: 'b' :: l => some (Char.ofNat 8, l)
  | '\\' :: 'f' :: l => some (Char.ofNat 12, l)
  | '\\' :: 'n' :: l => some (Char.ofNat 10, l)
  | '\\' :: 'r' :: l => some (Char.ofNat 13, l)
  | '\\' :: 't' :: l => some (Char.ofNat 9, l)
  | '\\' :: 'u' :: a :: b :: c :: d :: l => some (Char.ofNat (Digits.decode 16 [a, b, c, d]), l)
  | c :: l => some (c, l)
  | [] => none

theorem eq_ofNat {c : Char} {n : ℕ} (h : c.toNat = n) : c = Char.ofNat n := by
  rw [← h, Char.ofNat_toNat]

theorem unescape_cons {c : Char} (h : c ≠ '\\') (l : List Char) :
    unescape (c :: l) = some (c, l) := by
  unfold unescape
  split
  all_goals simp_all

theorem unescape_escape (c : Char) (l : List Char) : unescape (escape c ++ l) = some (c, l) := by
  unfold escape escapeCode
  split_ifs with h₁ h₂ h₃ h₄ h₅ h₆ h₇ h₈
  · subst h₁
    rfl
  · subst h₂
    rfl
  · rw [eq_ofNat h₃]
    rfl
  · rw [eq_ofNat h₄]
    rfl
  · rw [eq_ofNat h₅]
    rfl
  · rw [eq_ofNat h₆]
    rfl
  · rw [eq_ofNat h₇]
    rfl
  · have hlength : (Digits.padded 16 4 c.toNat).length = 4 := by
      rw [Digits.length_padded (by decide), Digits.width_of_lt (by decide) (by omega)]
    have hdecode : Digits.decode 16 (Digits.padded 16 4 c.toNat) = c.toNat :=
      Digits.decode_padded (by decide) (by decide) _
    obtain ⟨d₁, d₂, d₃, d₄, hdigits⟩ := List.length_eq_four.1 hlength
    rw [hdigits] at hdecode ⊢
    show some (Char.ofNat (Digits.decode 16 [d₁, d₂, d₃, d₄]), l) = _
    rw [hdecode, Char.ofNat_toNat]
  · exact unescape_cons h₂ l

theorem escape_append_inj {c d : Char} {l l' : List Char} (h : escape c ++ l = escape d ++ l') :
    c = d ∧ l = l' := by
  have heq := congrArg unescape h
  rw [unescape_escape, unescape_escape] at heq
  exact Prod.mk.inj (Option.some.inj heq)

/-- An escaped character does not begin with a quote. -/
theorem escape_ne_quote (c : Char) (l rest : List Char) : escape c ++ l ≠ '"' :: rest := by
  unfold escape
  cases hcode : escapeCode c with
  | none =>
    intro h
    obtain ⟨rfl, -⟩ := List.cons.inj h
    exact absurd hcode (by decide)
  | some code =>
    intro h
    exact absurd (List.cons.inj h).1 (by decide)

theorem quoteTail_inj {l l' rest rest' : List Char}
    (h : l.flatMap escape ++ '"' :: rest = l'.flatMap escape ++ '"' :: rest') :
    l = l' ∧ rest = rest' := by
  induction l generalizing l' with
  | nil =>
    cases l' with
    | nil => exact ⟨rfl, (List.cons.inj h).2⟩
    | cons d l' =>
      rw [List.flatMap_cons, List.append_assoc] at h
      exact absurd h.symm (escape_ne_quote d _ _)
  | cons c l ih =>
    cases l' with
    | nil =>
      rw [List.flatMap_cons, List.append_assoc] at h
      exact absurd h (escape_ne_quote c _ _)
    | cons d l' =>
      rw [List.flatMap_cons, List.flatMap_cons, List.append_assoc, List.append_assoc] at h
      obtain ⟨rfl, htail⟩ := escape_append_inj h
      obtain ⟨rfl, hrest⟩ := ih htail
      exact ⟨rfl, hrest⟩

theorem quote_append_inj {s t : String} {rest rest' : List Char}
    (h : quote s ++ rest = quote t ++ rest') : s = t ∧ rest = rest' := by
  have htail : s.toList.flatMap escape ++ '"' :: rest = t.toList.flatMap escape ++ '"' :: rest' := by
    simpa [quote] using h
  obtain ⟨hlist, hrest⟩ := quoteTail_inj htail
  exact ⟨String.toList_injective hlist, hrest⟩

/-! ## Reading a text in one way -/

/-- The constructor of a value. -/
def kind : Json → ℕ
  | .null => 0
  | .bool true => 1
  | .bool false => 2
  | .num _ => 3
  | .str _ => 4
  | .arr _ => 5
  | .obj _ => 6

/-- The constructor of the values whose texts begin with a character. -/
def kindOfChar (c : Char) : ℕ :=
  if c = 'n' then 0
  else if c = 't' then 1
  else if c = 'f' then 2
  else if c ∈ numberChars then 3
  else if c = '"' then 4
  else if c = '[' then 5
  else if c = '{' then 6
  else 7

variable {numbers : NumberText}

theorem kindOfChar_number : ∀ c ∈ numberChars, kindOfChar c = 3 := by
  have h : numberChars.all (fun c => kindOfChar c = 3) = true := by decide
  simpa using h

theorem exists_stringify (j : Json) :
    ∃ c l, stringify numbers j = c :: l ∧ kindOfChar c = j.kind := by
  cases j with
  | null => exact ⟨_, _, rfl, by decide⟩
  | bool b =>
    cases b with
    | true => exact ⟨_, _, rfl, by decide⟩
    | false => exact ⟨_, _, rfl, by decide⟩
  | num x =>
    obtain ⟨c, l, htext⟩ := List.exists_cons_of_ne_nil (numbers.nonempty x)
    refine ⟨c, l, htext, kindOfChar_number c (numbers.chars x c ?_)⟩
    rw [htext]
    exact List.mem_cons_self
  | str s => exact ⟨_, _, rfl, (by decide : kindOfChar '"' = 4)⟩
  | arr xs =>
    cases xs with
    | nil => exact ⟨_, _, rfl, by decide⟩
    | cons x xs => exact ⟨_, _, rfl, (by decide : kindOfChar '[' = 5)⟩
  | obj fields =>
    cases fields with
    | nil => exact ⟨_, _, rfl, by decide⟩
    | cons e fields => exact ⟨_, _, rfl, (by decide : kindOfChar '{' = 6)⟩

theorem kind_eq {j j' : Json} {rest rest' : List Char}
    (h : stringify numbers j ++ rest = stringify numbers j' ++ rest') : j.kind = j'.kind := by
  obtain ⟨c, l, htext, hkind⟩ := @exists_stringify numbers j
  obtain ⟨c', l', htext', hkind'⟩ := @exists_stringify numbers j'
  rw [htext, htext'] at h
  rw [← hkind, ← hkind', (List.cons.inj h).1]

/-- The text does not go on with a character of numbers. -/
def Follows (rest : List Char) : Prop := ∀ c ∈ rest.head?, c ∉ numberChars

theorem number_append_inj {l l' rest rest' : List Char} (hl : ∀ c ∈ l, c ∈ numberChars)
    (hl' : ∀ c ∈ l', c ∈ numberChars) (hrest : Follows rest) (hrest' : Follows rest')
    (h : l ++ rest = l' ++ rest') : l = l' ∧ rest = rest' := by
  induction l generalizing l' with
  | nil =>
    cases l' with
    | nil => exact ⟨rfl, h⟩
    | cons c l' =>
      rw [List.nil_append] at h
      rw [h] at hrest
      exact absurd (hl' c List.mem_cons_self) (hrest c rfl)
  | cons c l ih =>
    cases l' with
    | nil =>
      rw [List.nil_append] at h
      rw [← h] at hrest'
      exact absurd (hl c List.mem_cons_self) (hrest' c rfl)
    | cons d l' =>
      obtain ⟨rfl, htail⟩ := List.cons.inj h
      obtain ⟨rfl, hrest⟩ := ih (fun c hc => hl c (List.mem_cons_of_mem _ hc))
        (fun c hc => hl' c (List.mem_cons_of_mem _ hc)) htail
      exact ⟨rfl, hrest⟩

variable (numbers) in
/-- A value is read back from its text and from nothing else. -/
def Unambiguous (j : Json) : Prop :=
  ∀ j' rest rest', Follows rest → Follows rest' →
    stringify numbers j ++ rest = stringify numbers j' ++ rest' → j = j' ∧ rest = rest'

theorem follows_elems (xs : List Json) (rest : List Char) :
    Follows (stringifyElems numbers xs ++ rest) := by
  cases xs with
  | nil =>
    rintro c ⟨⟩
    decide
  | cons x xs =>
    rintro c ⟨⟩
    decide

theorem follows_fields (fields : List (String × Json)) (rest : List Char) :
    Follows (stringifyFields numbers fields ++ rest) := by
  cases fields with
  | nil =>
    rintro c ⟨⟩
    decide
  | cons e fields =>
    rintro c ⟨⟩
    decide

theorem elems_append_inj {xs xs' : List Json} {rest rest' : List Char}
    (hxs : ∀ x ∈ xs, Unambiguous numbers x)
    (h : stringifyElems numbers xs ++ rest = stringifyElems numbers xs' ++ rest') :
    xs = xs' ∧ rest = rest' := by
  induction xs generalizing xs' with
  | nil =>
    cases xs' with
    | nil =>
      rw [stringifyElems_nil] at h
      exact ⟨rfl, List.append_cancel_left h⟩
    | cons x' xs' =>
      rw [stringifyElems_nil, stringifyElems_cons] at h
      exact absurd (List.cons.inj h).1 (by decide)
  | cons x xs ih =>
    cases xs' with
    | nil =>
      rw [stringifyElems_cons, stringifyElems_nil] at h
      exact absurd (List.cons.inj h).1 (by decide)
    | cons x' xs' =>
      rw [stringifyElems_cons, stringifyElems_cons, List.cons_append, List.cons_append,
        List.append_assoc, List.append_assoc] at h
      obtain ⟨rfl, htail⟩ := hxs x List.mem_cons_self _ _ _ (follows_elems xs rest)
        (follows_elems xs' rest') (List.cons.inj h).2
      obtain ⟨rfl, hrest⟩ := ih (fun x hx => hxs x (List.mem_cons_of_mem _ hx)) htail
      exact ⟨rfl, hrest⟩

/-- A field, after which the other fields come. -/
theorem field_append_inj {k k' : String} {v v' : Json} {fields fields' : List (String × Json)}
    {rest rest' : List Char} (hv : Unambiguous numbers v)
    (h : quote k ++ ':' :: (stringify numbers v ++ (stringifyFields numbers fields ++ rest)) =
      quote k' ++ ':' :: (stringify numbers v' ++ (stringifyFields numbers fields' ++ rest'))) :
    k = k' ∧ v = v' ∧
      stringifyFields numbers fields ++ rest = stringifyFields numbers fields' ++ rest' := by
  obtain ⟨hk, hvalue⟩ := quote_append_inj h
  obtain ⟨hv', hfields⟩ := hv _ _ _ (follows_fields fields rest) (follows_fields fields' rest')
    (List.cons.inj hvalue).2
  exact ⟨hk, hv', hfields⟩

theorem fields_append_inj {fields fields' : List (String × Json)} {rest rest' : List Char}
    (hfields : ∀ e ∈ fields, Unambiguous numbers e.2)
    (h : stringifyFields numbers fields ++ rest = stringifyFields numbers fields' ++ rest') :
    fields = fields' ∧ rest = rest' := by
  induction fields generalizing fields' with
  | nil =>
    cases fields' with
    | nil =>
      rw [stringifyFields_nil] at h
      exact ⟨rfl, List.append_cancel_left h⟩
    | cons e' fields' =>
      rw [stringifyFields_nil, stringifyFields_cons] at h
      exact absurd (List.cons.inj h).1 (by decide)
  | cons e fields ih =>
    obtain ⟨k, v⟩ := e
    cases fields' with
    | nil =>
      rw [stringifyFields_cons, stringifyFields_nil] at h
      exact absurd (List.cons.inj h).1 (by decide)
    | cons e' fields' =>
      obtain ⟨k', v'⟩ := e'
      rw [stringifyFields_cons, stringifyFields_cons] at h
      simp only [List.cons_append, List.append_assoc, List.cons.injEq, true_and] at h
      obtain ⟨rfl, rfl, htail⟩ := field_append_inj (hfields _ List.mem_cons_self) h
      obtain ⟨rfl, hrest⟩ := ih (fun e he => hfields e (List.mem_cons_of_mem _ he)) htail
      exact ⟨rfl, hrest⟩

theorem kind_lt (j : Json) : j.kind < 7 := by
  cases j with
  | bool b => cases b <;> decide
  | _ => simp [kind]

/-- A value does not begin with a closing bracket. -/
theorem stringify_ne_bracket (j : Json) (l rest : List Char) :
    stringify numbers j ++ l ≠ ']' :: rest := by
  obtain ⟨c, l', htext, hkind⟩ := @exists_stringify numbers j
  intro h
  rw [htext] at h
  rw [(List.cons.inj h).1] at hkind
  have hlt := kind_lt j
  rw [← hkind] at hlt
  exact absurd hlt (by decide)

theorem unambiguous_arr {xs : List Json} (hxs : ∀ x ∈ xs, Unambiguous numbers x) :
    Unambiguous numbers (.arr xs) := by
  intro j' rest rest' _ _ h
  have hkind := kind_eq h
  cases j' with
  | arr xs' =>
    match xs, xs' with
    | [], [] =>
      rw [stringify_arr_nil] at h
      exact ⟨rfl, List.append_cancel_left h⟩
    | [], x' :: xs' =>
      rw [stringify_arr_nil, stringify_arr_cons, List.cons_append, List.cons_append,
        List.cons_append, List.append_assoc] at h
      exact absurd (List.cons.inj h).2.symm (stringify_ne_bracket x' _ _)
    | x :: xs, [] =>
      rw [stringify_arr_cons, stringify_arr_nil, List.cons_append, List.cons_append,
        List.cons_append, List.append_assoc] at h
      exact absurd (List.cons.inj h).2 (stringify_ne_bracket x _ _)
    | x :: xs, x' :: xs' =>
      rw [stringify_arr_cons, stringify_arr_cons, List.cons_append, List.cons_append,
        List.append_assoc, List.append_assoc] at h
      obtain ⟨rfl, htail⟩ := hxs x List.mem_cons_self _ _ _ (follows_elems xs rest)
        (follows_elems xs' rest') (List.cons.inj h).2
      obtain ⟨rfl, hrest⟩ := elems_append_inj (fun x hx => hxs x (List.mem_cons_of_mem _ hx)) htail
      exact ⟨rfl, hrest⟩
  | bool b => cases b <;> simp [kind] at hkind
  | _ => simp [kind] at hkind

theorem unambiguous_obj {fields : List (String × Json)}
    (hfields : ∀ e ∈ fields, Unambiguous numbers e.2) : Unambiguous numbers (.obj fields) := by
  intro j' rest rest' _ _ h
  have hkind := kind_eq h
  cases j' with
  | obj fields' =>
    match fields, fields' with
    | [], [] =>
      rw [stringify_obj_nil] at h
      exact ⟨rfl, List.append_cancel_left h⟩
    | [], (k', v') :: fields' =>
      rw [stringify_obj_nil, stringify_obj_cons] at h
      exact absurd (List.cons.inj (List.cons.inj h).2).1 (by decide)
    | (k, v) :: fields, [] =>
      rw [stringify_obj_cons, stringify_obj_nil] at h
      exact absurd (List.cons.inj (List.cons.inj h).2).1 (by decide)
    | (k, v) :: fields, (k', v') :: fields' =>
      rw [stringify_obj_cons, stringify_obj_cons] at h
      simp only [List.cons_append, List.append_assoc, List.cons.injEq, true_and] at h
      obtain ⟨rfl, rfl, htail⟩ := field_append_inj (hfields _ List.mem_cons_self) h
      obtain ⟨rfl, hrest⟩ :=
        fields_append_inj (fun e he => hfields e (List.mem_cons_of_mem _ he)) htail
      exact ⟨rfl, hrest⟩
  | bool b => cases b <;> simp [kind] at hkind
  | _ => simp [kind] at hkind

theorem unambiguous (j : Json) : Unambiguous numbers j := by
  induction j using Json.induction with
  | null =>
    intro j' rest rest' _ _ h
    have hkind := kind_eq h
    cases j' with
    | null => exact ⟨rfl, List.append_cancel_left h⟩
    | bool b => cases b <;> simp [kind] at hkind
    | _ => simp [kind] at hkind
  | bool b =>
    intro j' rest rest' _ _ h
    have hkind := kind_eq h
    cases j' with
    | bool b' =>
      have hb : b = b' := by cases b <;> cases b' <;> simp [kind] at hkind ⊢
      subst hb
      exact ⟨rfl, List.append_cancel_left h⟩
    | _ => cases b <;> simp [kind] at hkind
  | num x =>
    intro j' rest rest' hrest hrest' h
    have hkind := kind_eq h
    cases j' with
    | num x' =>
      rw [stringify_num, stringify_num] at h
      obtain ⟨htext, hrest⟩ :=
        number_append_inj (numbers.chars x) (numbers.chars x') hrest hrest' h
      rw [numbers.injective (String.toList_injective htext)]
      exact ⟨rfl, hrest⟩
    | bool b => cases b <;> simp [kind] at hkind
    | _ => simp [kind] at hkind
  | str s =>
    intro j' rest rest' _ _ h
    have hkind := kind_eq h
    cases j' with
    | str s' =>
      rw [stringify_str, stringify_str] at h
      obtain ⟨rfl, hrest⟩ := quote_append_inj h
      exact ⟨rfl, hrest⟩
    | bool b => cases b <;> simp [kind] at hkind
    | _ => simp [kind] at hkind
  | arr xs ih => exact unambiguous_arr ih
  | obj fields ih => exact unambiguous_obj ih

/-- Data with the same text are the same, also in the order of their fields. -/
theorem stringify_injective : Function.Injective (stringify numbers) := by
  intro j j' h
  have hfollows : Follows [] := nofun
  exact (unambiguous j j' [] [] hfollows hfollows (by rw [h])).1

end Json

end StytchBrowser
