import Mathlib.Data.Bool.AllAny
import Mathlib.Data.List.DropRight
import StytchBrowser.Lib.Wildcards

/-!
# `extractFromPattern`

The slug of an organization is read off the URL of the page with a pattern. The pattern is turned into
a regular expression by three replacements in its text; `parseRegExp` reads the result with the part
of the syntax that comes out of them when the pattern has no other syntax characters.

A URL is given as it is serialized.
-/

namespace StytchBrowser.Web.B2B

open Wildcards

/-! ## URLs -/

/-- A serialized URL. -/
structure Location where
  before : List Char
  query : Option (List Char)
  fragment : Option (List Char)
  question : '?' ∉ before
  number : '#' ∉ before
  query_number : ∀ q, query = some q → '#' ∉ q
  /-- The serialization of a URL is printable ASCII without blanks. -/
  visible : ∀ c ∈ before ++ (query.elim [] ('?' :: ·) ++ fragment.elim [] ('#' :: ·)),
    0x20 < c.toNat ∧ c.toNat < 0x7F

/-- `url.toString()`. -/
def Location.href (url : Location) : List Char :=
  url.before ++ (url.query.elim [] ('?' :: ·) ++ url.fragment.elim [] ('#' :: ·))

/-- `url.search = ''`. -/
def Location.withoutSearch (url : Location) : Location where
  before := url.before
  query := none
  fragment := url.fragment
  question := url.question
  number := url.number
  query_number _ h := nomatch h
  visible c hc := by
    refine url.visible c ?_
    rw [Option.elim_none, List.nil_append] at hc
    rcases List.mem_append.1 hc with hc | hc
    · exact List.mem_append_left _ hc
    · exact List.mem_append_right _ (List.mem_append_right _ hc)

/-- The characters that `trim` removes. -/
def isSpace (c : Char) : Bool :=
  c.toNat ∈ [0x9, 0xA, 0xB, 0xC, 0xD, 0x20, 0xA0, 0x1680, 0x2028, 0x2029, 0x202F, 0x205F, 0x3000,
    0xFEFF] || decide (0x2000 ≤ c.toNat ∧ c.toNat ≤ 0x200A)

/-- `s.trim()`. -/
def trim (s : List Char) : List Char := (s.dropWhile isSpace).rdropWhile isSpace

/-! ## The regular expression -/

/-- `{{slug}}`. -/
def placeholder : List Char := ['{', '{', 's', 'l', 'u', 'g', '}', '}']

/-- `text.replace(/c/g, by)`. -/
def replaceAll (c : Char) (replacement : List Char) (text : List Char) : List Char :=
  text.flatMap fun d => if d = c then replacement else [d]

/-- `text.replace(needle, by)`: the first occurrence of a string. -/
def replaceFirst (needle replacement : List Char) : List Char → List Char
  | [] => []
  | c :: text =>
      if needle.isPrefixOf (c :: text) then replacement ++ (c :: text).drop needle.length
      else c :: replaceFirst needle replacement text

/-- `regexPattern`. -/
def regexPattern (pattern : List Char) : List Char :=
  replaceFirst placeholder ['(', '.', '+', ')']
    (replaceAll '*' ['(', '?', ':', '[', '^', '.', ']', '+', ')']
      (replaceAll '.' ['\\', '.'] pattern))

/-- The characters that do not stand for themselves in a regular expression. -/
def syntaxCharacters : List Char :=
  ['^', '$', '\\', '.', '*', '+', '?', '(', ')', '[', ']', '{', '}', '|']

/-- A term of the regular expression. -/
inductive Term where
  | character (c : Char)
  /-- `(?:[^.]+)`. -/
  | wildcard
  /-- `(.+)`. -/
  | group

/-- `new RegExp(text)`; `none` where the text uses a part of the syntax that is not covered here. -/
def parseRegExp : List Char → Option (List Term)
  | [] => some []
  | '\\' :: '.' :: rest => (parseRegExp rest).map (.character '.' :: ·)
  | '(' :: '?' :: ':' :: '[' :: '^' :: '.' :: ']' :: '+' :: ')' :: rest =>
      (parseRegExp rest).map (.wildcard :: ·)
  | '(' :: '.' :: '+' :: ')' :: rest => (parseRegExp rest).map (.group :: ·)
  | c :: rest => if c ∈ syntaxCharacters then none else (parseRegExp rest).map (.character c :: ·)

/-- What a term matches; `.` is anything but a line terminator. -/
def Term.part : Term → Wildcards.Part Char
  | .character c => .literal c
  | .wildcard => .run fun c => c != '.'
  | .group => .run fun c => !([0xA, 0xD, 0x2028, 0x2029].contains c.toNat)

/-- `match[1]`. -/
def captured : List Term → List (List Char) → Option (List Char)
  | .character _ :: terms, w => captured terms w
  | .wildcard :: terms, _ :: w => captured terms w
  | .group :: _, part :: _ => some part
  | _, _ => none

/-- `extractFromPattern`; the outer `none` is that of `parseRegExp`. -/
def extractFromPattern (pattern : Option (List Char)) (url : Location) : Option (Option (List Char)) :=
  match pattern with
  | none => some none
  | some pattern =>
      (parseRegExp (regexPattern pattern)).map fun terms =>
        ((search (terms.map Term.part) (trim url.withoutSearch.href)).bind (captured terms)).filter
          (· ≠ [])

/-! ## Slug patterns -/

/-- A pattern with one placeholder: elsewhere it has dots, wildcards and literal text. -/
structure SlugPattern where
  before : List Char
  after : List Char
  plain : ∀ c ∈ before ++ after, c = '.' ∨ c = '*' ∨ c ∉ syntaxCharacters

/-- The text of the pattern. -/
def SlugPattern.text (pattern : SlugPattern) : List Char :=
  pattern.before ++ (placeholder ++ pattern.after)

/-- The term for a character of a pattern. -/
def termOf (c : Char) : Term := if c = '*' then .wildcard else .character c

/-- The regular expression that the pattern is turned into. -/
def SlugPattern.terms (pattern : SlugPattern) : List Term :=
  pattern.before.map termOf ++ .group :: pattern.after.map termOf

/-- `Obtained slug pattern text`: the text is the pattern with the slug for the placeholder and
nonempty texts without dots for the wildcards. -/
inductive Obtained (slug : List Char) : List Char → List Char → Prop where
  | nil : Obtained slug [] []
  | slug {pattern text : List Char} :
      Obtained slug pattern text → Obtained slug (placeholder ++ pattern) (slug ++ text)
  | wildcard {pattern text part : List Char} : part ≠ [] → '.' ∉ part →
      Obtained slug pattern text → Obtained slug ('*' :: pattern) (part ++ text)
  | literal {pattern text : List Char} {c : Char} : c ≠ '*' → c ≠ '{' →
      Obtained slug pattern text → Obtained slug (c :: pattern) (c :: text)

/-- A pattern with no path behind the host. -/
def isHostPattern (pattern : List Char) : Bool :=
  decide ('/' ∉ (pattern.dropWhile (· ≠ '/')).drop 2)

/-- A URL obtained by substituting a slug into the pattern, whatever its query is; for a host pattern
a path and a hash may follow. -/
structure OfForm (pattern : SlugPattern) (slug : List Char) (url : Location) : Prop where
  nonempty : slug ≠ []
  dot : '.' ∉ slug
  slash : '/' ∉ slug
  obtained : ∃ text tail, Obtained slug pattern.text text ∧ url.before = text ++ tail ∧
    if isHostPattern pattern.text then tail = [] ∨ tail.head? = some '/'
    else tail = [] ∧ url.fragment = none

/-! ## The regular expression of a slug pattern -/

/-- The text that a character of a pattern is replaced by. -/
def escape (c : Char) : List Char :=
  if c = '.' then ['\\', '.']
  else if c = '*' then ['(', '?', ':', '[', '^', '.', ']', '+', ')']
  else [c]

theorem replaceAll_append (c : Char) (replacement text text' : List Char) :
    replaceAll c replacement (text ++ text') =
      replaceAll c replacement text ++ replaceAll c replacement text' :=
  List.flatMap_append

theorem replaceAll_replaceAll (text : List Char) :
    replaceAll '*' ['(', '?', ':', '[', '^', '.', ']', '+', ')'] (replaceAll '.' ['\\', '.'] text) =
      text.flatMap escape := by
  induction text with
  | nil => rfl
  | cons c text ih =>
    have hcons : replaceAll '.' ['\\', '.'] (c :: text) =
        replaceAll '.' ['\\', '.'] [c] ++ replaceAll '.' ['\\', '.'] text :=
      replaceAll_append '.' ['\\', '.'] [c] text
    rw [hcons, replaceAll_append, ih, List.flatMap_cons]
    congr 1
    unfold escape
    by_cases hdot : c = '.'
    · subst hdot
      rfl
    · by_cases hstar : c = '*'
      · subst hstar
        rfl
      · simp [replaceAll, hdot, hstar]

/-- The first `{` of a text begins the needle. -/
theorem replaceFirst_append {text : List Char} (h : '{' ∉ text) (replacement rest : List Char) :
    replaceFirst placeholder replacement (text ++ (placeholder ++ rest)) =
      text ++ (replacement ++ rest) := by
  induction text with
  | nil => rfl
  | cons c text ih =>
    rw [List.mem_cons, not_or] at h
    have hprefix : placeholder.isPrefixOf (c :: (text ++ (placeholder ++ rest))) = false := by
      have hc : ('{' == c) = false := beq_eq_false_iff_ne.2 h.1
      rw [placeholder, List.isPrefixOf, hc, Bool.false_and]
    rw [List.cons_append, replaceFirst, hprefix, if_neg Bool.false_ne_true, ih h.2, List.cons_append]

/-- A character of a pattern. -/
def Plain (c : Char) : Prop := c = '.' ∨ c = '*' ∨ c ∉ syntaxCharacters

theorem notMem_flatMap_escape {text : List Char} (h : ∀ c ∈ text, Plain c) :
    '{' ∉ text.flatMap escape := by
  intro hmem
  obtain ⟨c, hc, hmem⟩ := List.mem_flatMap.1 hmem
  unfold escape at hmem
  split_ifs at hmem with hdot hstar
  · exact absurd hmem (by decide)
  · exact absurd hmem (by decide)
  · obtain rfl := List.mem_singleton.1 hmem
    rcases h '{' hc with h | h | h
    · exact hdot h
    · exact hstar h
    · exact h (by decide)

theorem regexPattern_text (pattern : SlugPattern) :
    regexPattern pattern.text =
      pattern.before.flatMap escape ++ (['(', '.', '+', ')'] ++ pattern.after.flatMap escape) := by
  have hplaceholder : placeholder.flatMap escape = placeholder := rfl
  rw [regexPattern, replaceAll_replaceAll, SlugPattern.text, List.flatMap_append, List.flatMap_append,
    hplaceholder]
  exact replaceFirst_append
    (notMem_flatMap_escape fun c hc => pattern.plain c (List.mem_append_left _ hc)) _ _

theorem parseRegExp_character {c : Char} (hc : c ∉ syntaxCharacters) (rest : List Char) :
    parseRegExp (c :: rest) = (parseRegExp rest).map (.character c :: ·) := by
  have hslash : c ≠ '\\' := by
    rintro rfl
    exact hc (by decide)
  have hopen : c ≠ '(' := by
    rintro rfl
    exact hc (by decide)
  rw [parseRegExp, if_neg hc]
  · rintro _ rfl _
    exact hslash rfl
  · rintro _ rfl _
    exact hopen rfl
  · rintro _ rfl _
    exact hopen rfl

theorem parseRegExp_flatMap_escape {text : List Char} (h : ∀ c ∈ text, Plain c) (rest : List Char) :
    parseRegExp (text.flatMap escape ++ rest) =
      (parseRegExp rest).map (text.map termOf ++ ·) := by
  induction text with
  | nil =>
    rw [List.flatMap_nil, List.nil_append, List.map_nil]
    exact Option.map_id'.symm
  | cons c text ih =>
    rw [List.forall_mem_cons] at h
    have hcomp : (parseRegExp rest).map ((c :: text).map termOf ++ ·) =
        ((parseRegExp rest).map (text.map termOf ++ ·)).map (termOf c :: ·) := by
      rw [Option.map_map]
      rfl
    rw [List.flatMap_cons, List.append_assoc, hcomp, ← ih h.2, escape, termOf]
    by_cases hdot : c = '.'
    · subst hdot
      rfl
    · by_cases hstar : c = '*'
      · subst hstar
        rfl
      · have hc : c ∉ syntaxCharacters := (h.1.resolve_left hdot).resolve_left hstar
        rw [if_neg hdot, if_neg hstar, if_neg hstar]
        exact parseRegExp_character hc _

/-- The regular expression is the one the pattern stands for. -/
theorem parseRegExp_text (pattern : SlugPattern) :
    parseRegExp (regexPattern pattern.text) = some pattern.terms := by
  have hafter := parseRegExp_flatMap_escape
    (fun c hc => pattern.plain c (List.mem_append_right _ hc)) []
  rw [List.append_nil] at hafter
  rw [regexPattern_text, parseRegExp_flatMap_escape fun c hc =>
    pattern.plain c (List.mem_append_left _ hc)]
  show ((parseRegExp (pattern.after.flatMap escape)).map (.group :: ·)).map _ = _
  rw [hafter]
  simp [parseRegExp, SlugPattern.terms]

/-! ## What is extracted -/

theorem isSpace_of_visible {c : Char} (h : 0x20 < c.toNat ∧ c.toNat < 0x7F) : isSpace c = false := by
  simp only [isSpace, List.mem_cons, List.not_mem_nil, or_false, Bool.or_eq_false_iff,
    decide_eq_false_iff_not]
  omega

theorem trim_of_visible {s : List Char} (h : ∀ c ∈ s, 0x20 < c.toNat ∧ c.toNat < 0x7F) :
    trim s = s := by
  have hdrop : s.dropWhile isSpace = s := by
    cases s with
    | nil => rfl
    | cons c s =>
      rw [List.dropWhile_cons, isSpace_of_visible (h c List.mem_cons_self), if_neg Bool.false_ne_true]
  rw [trim, hdrop, List.rdropWhile_eq_self_iff]
  intro hne hlast
  rw [isSpace_of_visible (h _ (List.getLast_mem hne))] at hlast
  cases hlast

/-- The text that the expression is matched against. -/
def Location.shown (url : Location) : List Char := url.withoutSearch.href

theorem trim_shown (url : Location) : trim url.withoutSearch.href = url.shown :=
  trim_of_visible url.withoutSearch.visible

/-- The parts of a pattern. -/
def SlugPattern.parts (pattern : SlugPattern) : List (Wildcards.Part Char) := pattern.terms.map Term.part

theorem captured_of_reads {terms : List Term} (hg : .group ∈ terms) {s : List Char}
    {w : List (List Char)} (h : Reads (terms.map Term.part) s w) :
    ∃ slug, captured terms w = some slug ∧ slug ≠ [] := by
  induction terms generalizing s w with
  | nil => cases hg
  | cons term terms ih =>
    cases term with
    | character c =>
      have hg' := (List.mem_cons.1 hg).resolve_left Term.noConfusion
      cases h with
      | literal _ h => exact ih hg' h
    | wildcard =>
      have hg' := (List.mem_cons.1 hg).resolve_left Term.noConfusion
      cases h with
      | run _ _ h => exact ih hg' h
    | group =>
      cases h with
      | run hne _ _ => exact ⟨_, rfl, hne⟩

theorem group_mem_terms (pattern : SlugPattern) : .group ∈ pattern.terms :=
  List.mem_append_right _ List.mem_cons_self

/-- What is extracted with a slug pattern. -/
theorem extract_eq (pattern : SlugPattern) (url : Location) :
    extractFromPattern (some pattern.text) url =
      some ((search pattern.parts url.shown).bind (captured pattern.terms)) := by
  unfold extractFromPattern
  dsimp only
  rw [parseRegExp_text, Option.map_some, trim_shown]
  show some (Option.filter _ ((search pattern.parts url.shown).bind _)) = _
  cases hs : search pattern.parts url.shown with
  | none => rfl
  | some w =>
    obtain ⟨t, -, hr⟩ := reads_of_search hs
    obtain ⟨slug, hslug, hne⟩ := captured_of_reads (group_mem_terms pattern) hr
    rw [Option.bind_some, hslug, Option.filter_some, if_pos (decide_eq_true hne)]

theorem obtained_cons {slug pattern text : List Char} {c : Char} (hc : c ≠ '{')
    (h : Obtained slug (c :: pattern) text) :
    (c = '*' ∧ ∃ part rest, part ≠ [] ∧ '.' ∉ part ∧ text = part ++ rest ∧
        Obtained slug pattern rest) ∨
      (c ≠ '*' ∧ ∃ rest, text = c :: rest ∧ Obtained slug pattern rest) := by
  generalize hp : c :: pattern = p at h
  cases h with
  | nil => cases hp
  | slug h => exact absurd (List.cons.inj hp).1 hc
  | wildcard hne hdot h =>
    obtain ⟨rfl, rfl⟩ := List.cons.inj hp
    exact Or.inl ⟨rfl, _, _, hne, hdot, rfl, h⟩
  | literal hstar _ h =>
    obtain ⟨rfl, rfl⟩ := List.cons.inj hp
    exact Or.inr ⟨hstar, _, rfl, h⟩

theorem obtained_nil {slug text : List Char} (h : Obtained slug [] text) : text = [] := by
  generalize hp : [] = p at h
  cases h with
  | nil => rfl
  | _ => cases hp

theorem obtained_placeholder {slug pattern text : List Char}
    (h : Obtained slug (placeholder ++ pattern) text) :
    ∃ rest, text = slug ++ rest ∧ Obtained slug pattern rest := by
  generalize hp : placeholder ++ pattern = p at h
  cases h with
  | nil => cases hp
  | slug h =>
    rw [List.append_cancel_left hp]
    exact ⟨_, rfl, h⟩
  | wildcard _ _ _ => cases (List.cons.inj hp).1
  | literal _ hbrace _ => exact absurd (List.cons.inj hp).1.symm hbrace

theorem ne_brace {c : Char} (h : Plain c) : c ≠ '{' := by
  rintro rfl
  rcases h with h | h | h
  · exact absurd h (by decide)
  · exact absurd h (by decide)
  · exact h (by decide)

/-- A text obtained from plain pattern text is read with it. -/
theorem reads_of_obtained {slug l rest : List Char} (hl : ∀ c ∈ l, Plain c) {text : List Char}
    (h : Obtained slug (l ++ rest) text) :
    ∃ text₁ text₂, text = text₁ ++ text₂ ∧ Obtained slug rest text₂ ∧
      ∀ parts after w, Reads parts after w →
        ∃ w', Reads ((l.map termOf).map Term.part ++ parts) (text₁ ++ after) w' := by
  induction l generalizing text with
  | nil => exact ⟨[], text, rfl, h, fun parts after w hw => ⟨w, hw⟩⟩
  | cons c l ih =>
    rw [List.forall_mem_cons] at hl
    rcases obtained_cons (ne_brace hl.1) h with
      ⟨rfl, part, rest', hne, hdot, rfl, hob⟩ | ⟨hstar, rest', rfl, hob⟩
    · obtain ⟨text₁, text₂, rfl, hrest, hreads⟩ := ih hl.2 hob
      refine ⟨part ++ text₁, text₂, (List.append_assoc ..).symm, hrest, fun parts after w hw => ?_⟩
      obtain ⟨w', hw'⟩ := hreads parts after w hw
      rw [List.append_assoc]
      refine ⟨part :: w', .run hne (fun a ha => bne_iff_ne.2 ?_) hw'⟩
      rintro rfl
      exact hdot ha
    · obtain ⟨text₁, text₂, rfl, hrest, hreads⟩ := ih hl.2 hob
      refine ⟨c :: text₁, text₂, rfl, hrest, fun parts after w hw => ?_⟩
      obtain ⟨w', hw'⟩ := hreads parts after w hw
      rw [List.map_cons, List.map_cons, termOf, if_neg hstar]
      exact ⟨w', .literal c hw'⟩

/-- A URL of the form of the pattern is read with it from its beginning on. -/
theorem OfForm.reads {pattern : SlugPattern} {slug : List Char} {url : Location}
    (h : OfForm pattern slug url) : ∃ w, Reads pattern.parts url.shown w := by
  obtain ⟨text, tail, hobtained, hbefore, -⟩ := h.obtained
  obtain ⟨text₁, text₂, rfl, hrest, hreads⟩ := reads_of_obtained
    (fun c hc => pattern.plain c (List.mem_append_left _ hc)) hobtained
  obtain ⟨text₃, rfl, hafter⟩ := obtained_placeholder hrest
  rw [← List.append_nil pattern.after] at hafter
  obtain ⟨text₄, text₅, rfl, -, hreads'⟩ := reads_of_obtained
    (fun c hc => pattern.plain c (List.mem_append_right _ hc)) hafter
  have hshown : url.shown = text₁ ++ (slug ++ (text₄ ++ (text₅ ++ tail ++
      url.fragment.elim [] ('#' :: ·)))) := by
    show url.before ++ ([] ++ url.fragment.elim [] ('#' :: ·)) = _
    rw [hbefore]
    simp only [List.append_assoc, List.nil_append]
  have hslug : ∀ c ∈ slug, (!([0xA, 0xD, 0x2028, 0x2029].contains c.toNat)) = true := by
    intro c hc
    have hvisible := url.visible c (List.mem_append_left _ (by
      rw [hbefore]
      simp [hc]))
    rw [Bool.not_eq_true', Bool.eq_false_iff, ne_eq, List.contains_iff_mem]
    simp only [List.mem_cons, List.not_mem_nil, or_false]
    omega
  obtain ⟨w₁, hw₁⟩ := hreads' [] _ [] (.nil (text₅ ++ tail ++ url.fragment.elim [] ('#' :: ·)))
  rw [List.append_nil] at hw₁
  obtain ⟨w₂, hw₂⟩ := hreads _ _ _ (Reads.run h.nonempty hslug hw₁)
  refine ⟨w₂, ?_⟩
  rw [hshown, SlugPattern.parts, SlugPattern.terms, List.map_append, List.map_cons]
  exact hw₂

/-! ## When the extraction inverts the substitution -/

/-- From a URL of the form of the pattern its slug is extracted, from any other URL nothing. -/
def Inverts (pattern : SlugPattern) (url : Location) : Prop :=
  (∀ slug, OfForm pattern slug url →
    extractFromPattern (some pattern.text) url = some (some slug)) ∧
  ((∀ slug, ¬ OfForm pattern slug url) →
    extractFromPattern (some pattern.text) url = some none)

theorem obtained_literals {slug l rest text : List Char} (hl : ∀ c ∈ l, c ≠ '*' ∧ c ≠ '{')
    (h : Obtained slug (l ++ rest) text) : ∃ text', text = l ++ text' ∧ Obtained slug rest text' := by
  induction l generalizing text with
  | nil => exact ⟨text, rfl, h⟩
  | cons c l ih =>
    rw [List.forall_mem_cons] at hl
    rcases obtained_cons hl.1.2 h with ⟨rfl, -⟩ | ⟨-, rest', rfl, hob⟩
    · exact absurd rfl hl.1.1
    · obtain ⟨text', rfl, hob'⟩ := ih hl.2 hob
      exact ⟨text', rfl, hob'⟩

/-- `https://example.com/{{slug}}`. -/
def orgPattern : SlugPattern where
  before := "https://example.com/".toList
  after := []
  plain := List.all_iff_forall_prop.1 (by decide)

/-- `https://example.com/acme/login`. -/
def loginPage : Location where
  before := "https://example.com/acme/login".toList
  query := none
  fragment := none
  question := by decide
  number := by decide
  query_number _ h := nomatch h
  visible := List.all_iff_forall_prop.1 (by decide)

end StytchBrowser.Web.B2B
