import StytchBrowser.Lib.Digits
import StytchBrowser.Lib.RawQuery

/-!
# The host of a URL

What the URL parser of the WHATWG standard, without a base URL, makes of a string, as far as the host:
whether it fails, and the host name that it finds, which is empty for a URL without a host. Whatever
follows the authority cannot make it fail.

The parser of hosts of special URLs, which needs the tables of IDNA, is a parameter `HostParser`.

* `hostname_eq_nil_iff`: the strings that are URLs with an empty host;
* `hostname_address`: a host name with a port and a path is a URL of another scheme when the host name
  could be the name of a scheme.
-/

namespace UrlHost

open FormUrlEncoded (blank kept encodeUtf8)

/-! ## Hosts -/

/-- The code points that end the authority of a special URL. -/
def delimiter (c : Char) : Bool := c = '/' || c = '?' || c = '#' || c = '\\'

/-- The parser of the hosts of special URLs, and of addresses in brackets, with the serializer. -/
structure HostParser where
  parse : List Char → Option (List Char)
  parse_ne_nil : ∀ s host, parse s = some host → host ≠ []
  parse_delimiter : ∀ s host, parse s = some host → ∀ c ∈ host, delimiter c = false
  /-- A number is an IPv4 address. -/
  parse_number : ∀ s host, s ≠ [] → (∀ c ∈ s, c.isDigit) → parse s = some host →
    ∀ c ∈ host, c.isDigit ∨ c = '.'

/-- The forbidden host code points. -/
def forbidden (c : Char) : Bool :=
  c = '\x00' || c = '\t' || c = '\n' || c = '\r' || c = ' ' || c = '#' || c = '/' || c = ':' ||
    c = '<' || c = '>' || c = '?' || c = '@' || c = '[' || c = '\\' || c = ']' || c = '^' || c = '|'

/-- A code point in the percent-encoding of the hosts of other URLs. -/
def encodeC0 (c : Char) : List Char :=
  if c.toNat ≤ 0x1F ∨ 0x7E < c.toNat then
    (encodeUtf8 (String.singleton c)).flatMap fun b =>
      ['%', (Nat.digitChar (b.toNat / 16)).toUpper, (Nat.digitChar (b.toNat % 16)).toUpper]
  else [c]

variable (P : HostParser)

/-- The host parser. -/
def parseHost (special : Bool) (s : List Char) : Option (List Char) :=
  if special then P.parse s
  else if s.head? = some '[' then P.parse s
  else if s.any forbidden then none
  else some (s.flatMap encodeC0)

/-! ## Authorities -/

/-- The code points that end an authority. -/
def endsAuthority (special : Bool) (c : Char) : Bool :=
  c = '/' || c = '?' || c = '#' || (special && c = '\\')

/-- What follows the last `@`. -/
def afterCredentials (authority : List Char) : List Char := authority.rtakeWhile (· != '@')

/-- The host state: the host, and the port after the first colon that is not in brackets. -/
def splitPort (insideBrackets : Bool) : List Char → List Char × Option (List Char)
  | [] => ([], none)
  | c :: cs =>
      if c = ':' ∧ ¬ insideBrackets then ([], some cs)
      else
        let split := splitPort (if c = '[' then true else if c = ']' then false else insideBrackets) cs
        (c :: split.1, split.2)

/-- The port state does not fail. -/
def validPort (port : List Char) : Bool :=
  port.all Char.isDigit && decide (Digits.decode 10 port ≤ 65535)

/-- The host of the authority that a string starts with. -/
def parseAuthority (special : Bool) (s : List Char) : Option (List Char) :=
  let authority := s.takeWhile (!endsAuthority special ·)
  let hostPort := afterCredentials authority
  if '@' ∈ authority ∧ hostPort = [] then none
  else
    match splitPort false hostPort with
    | (host, none) => if special ∧ host = [] then none else parseHost P special host
    | (host, some port) => if host = [] ∨ ¬ validPort port then none else parseHost P special host

/-! ## URLs -/

/-- What the parser leaves of its input. -/
def strip (s : List Char) : List Char := ((s.dropWhile blank).rdropWhile blank).filter kept

def schemeChar (c : Char) : Bool := c.isAlphanum || c = '+' || c = '-' || c = '.'

/-- A scheme and what follows its colon, if there is one. -/
def splitScheme (s : List Char) : Option (List Char × List Char) :=
  if s.head?.any Char.isAlpha then
    match s.dropWhile schemeChar with
    | ':' :: rest => some ((s.takeWhile schemeChar).map Char.toLower, rest)
    | _ => none
  else none

/-- The special schemes other than `file`. -/
def specialSchemes : List (List Char) :=
  ["http".toList, "https".toList, "ws".toList, "wss".toList, "ftp".toList]

def slash (c : Char) : Bool := c = '/' || c = '\\'

/-- `C:` or `C|`. -/
def driveLetter : List Char → Bool
  | [c, d] => c.isAlpha && (d = ':' || d = '|')
  | _ => false

/-- The file states, after the colon. -/
def parseFile : List Char → Option (List Char)
  | a :: b :: rest =>
      if slash a ∧ slash b then
        let host := rest.takeWhile (!endsAuthority true ·)
        if host = [] ∨ driveLetter host then some []
        else (P.parse host).map fun h => if h = "localhost".toList then [] else h
      else some []
  | _ => some []

/-- The states after the scheme. -/
def parseAfterScheme (scheme rest : List Char) : Option (List Char) :=
  if scheme = "file".toList then parseFile P rest
  else if scheme ∈ specialSchemes then parseAuthority P true (rest.dropWhile slash)
  else match rest with
    | '/' :: '/' :: rest => parseAuthority P false rest
    | _ => some []

/-- `new URL(s).hostname`, `none` when the constructor throws. -/
def hostname (s : List Char) : Option (List Char) :=
  (splitScheme (strip s)).bind fun r => parseAfterScheme P r.1 r.2

variable {P} {s host : List Char} {special : Bool}

/-! ## What hosts are made of -/

theorem encodeC0_ne_nil (c : Char) : encodeC0 c ≠ [] := by
  unfold encodeC0
  split_ifs
  · have hbytes : encodeUtf8 (String.singleton c) ≠ [] := by
      rw [encodeUtf8, String.toList_singleton, List.flatMap_singleton]
      exact String.utf8EncodeChar_ne_nil
    obtain ⟨b, bs, hcons⟩ := List.exists_cons_of_ne_nil hbytes
    rw [hcons, List.flatMap_cons]
    exact List.cons_ne_nil _ _
  · exact List.cons_ne_nil _ _

theorem delimiter_digitChar {n : ℕ} (h : n < 16) : delimiter (Nat.digitChar n).toUpper = false := by
  revert n
  decide

theorem delimiter_encodeC0 {c d : Char} (hc : delimiter c = false) (hd : d ∈ encodeC0 c) :
    delimiter d = false := by
  unfold encodeC0 at hd
  split_ifs at hd
  · obtain ⟨b, -, hb⟩ := List.mem_flatMap.1 hd
    have hlt := b.toNat_lt
    rcases List.mem_cons.1 hb with rfl | hb
    · rfl
    · rcases List.mem_cons.1 hb with rfl | hb
      · exact delimiter_digitChar (by omega)
      · obtain rfl := List.mem_singleton.1 hb
        exact delimiter_digitChar (by omega)
  · obtain rfl := List.mem_singleton.1 hd
    exact hc

theorem delimiter_of_forbidden {c : Char} (h : ¬ forbidden c = true) : delimiter c = false := by
  by_contra hd
  rw [Bool.not_eq_false, delimiter] at hd
  refine h ?_
  simp only [Bool.or_eq_true, decide_eq_true_eq] at hd
  rcases hd with ((rfl | rfl) | rfl) | rfl <;> decide

theorem parseHost_ne_nil (hs : s ≠ []) (h : parseHost P special s = some host) : host ≠ [] := by
  unfold parseHost at h
  split_ifs at h
  · exact P.parse_ne_nil s host h
  · exact P.parse_ne_nil s host h
  · obtain rfl := Option.some.inj h
    obtain ⟨c, cs, rfl⟩ := List.exists_cons_of_ne_nil hs
    rw [List.flatMap_cons]
    exact fun hnil => encodeC0_ne_nil c (List.append_eq_nil_iff.1 hnil).1

theorem parseHost_delimiter (h : parseHost P special s = some host) :
    ∀ c ∈ host, delimiter c = false := by
  unfold parseHost at h
  split_ifs at h with _ _ hany
  · exact P.parse_delimiter s host h
  · exact P.parse_delimiter s host h
  · obtain rfl := Option.some.inj h
    intro d hd
    obtain ⟨c, hc, hd⟩ := List.mem_flatMap.1 hd
    refine delimiter_encodeC0 (delimiter_of_forbidden fun hf => hany ?_) hd
    exact List.any_eq_true.2 ⟨c, hc, hf⟩

/-! ## Authorities with an empty host -/

theorem splitPort_none {inside : Bool} {buffer : List Char}
    (h : splitPort inside s = (buffer, none)) : buffer = s := by
  induction s generalizing inside buffer with
  | nil => exact (Prod.mk.inj h).1.symm
  | cons c cs ih =>
    rw [splitPort] at h
    split_ifs at h
    · cases (Prod.mk.inj h).2
    all_goals
      obtain ⟨rfl, hnone⟩ := Prod.mk.inj h
      exact congrArg (c :: ·) (ih (Prod.ext rfl hnone))

theorem afterCredentials_eq_self (h : '@' ∉ s) : afterCredentials s = s :=
  List.rtakeWhile_eq_self_iff.2 fun _ hc => bne_iff_ne.2 fun heq => h (heq ▸ hc)

/-- The host of a special URL is not empty. -/
theorem parseAuthority_special (h : parseAuthority P true s = some host) : host ≠ [] := by
  unfold parseAuthority at h
  dsimp only at h
  split_ifs at h
  split at h
  · split_ifs at h with hempty
    exact parseHost_ne_nil (fun hnil => hempty ⟨rfl, hnil⟩) h
  · split_ifs at h with hbad
    exact parseHost_ne_nil (fun hnil => hbad (.inl hnil)) h

/-- The host of another URL is empty exactly when the authority is. -/
theorem parseAuthority_eq_nil_iff :
    parseAuthority P false s = some [] ↔ s.takeWhile (!endsAuthority false ·) = [] := by
  constructor
  · intro h
    unfold parseAuthority at h
    dsimp only at h
    split_ifs at h with hat
    split at h
    · next buffer hsplit =>
      obtain rfl := splitPort_none hsplit
      by_contra hne
      refine parseHost_ne_nil (fun hnil => ?_) (by simpa using h) rfl
      have hmem : '@' ∉ s.takeWhile (!endsAuthority false ·) := fun hmem => hat ⟨hmem, hnil⟩
      exact hne ((afterCredentials_eq_self hmem).symm.trans hnil)
    · next buffer port hsplit =>
      split_ifs at h with hbad
      exact absurd rfl (parseHost_ne_nil (fun hnil => hbad (.inl hnil)) h)
  · intro h
    unfold parseAuthority
    rw [h]
    rfl

theorem parseAuthority_delimiter (h : parseAuthority P special s = some host) :
    ∀ c ∈ host, delimiter c = false := by
  unfold parseAuthority at h
  dsimp only at h
  split_ifs at h
  split at h
  · split_ifs at h
    exact parseHost_delimiter h
  · split_ifs at h
    exact parseHost_delimiter h

/-! ## URLs with an empty host -/

variable (P) in
/-- What makes the host of a `file` URL empty. -/
def EmptyFileHost (rest : List Char) : Prop :=
  ∀ a b tail, rest = a :: b :: tail → slash a → slash b →
    let host := tail.takeWhile (!endsAuthority true ·)
    host = [] ∨ driveLetter host ∨ P.parse host = some "localhost".toList

variable (P) in
/-- What makes the host of a URL empty: it is a `file` URL with such a host, or not a special URL, and
has no authority or an empty one. -/
def EmptyHost (s : List Char) : Prop :=
  ∃ scheme rest, splitScheme (strip s) = some (scheme, rest) ∧
    (scheme = "file".toList ∧ EmptyFileHost P rest ∨
      scheme ≠ "file".toList ∧ scheme ∉ specialSchemes ∧
        ∀ tail, rest = '/' :: '/' :: tail → tail.takeWhile (!endsAuthority false ·) = [])

theorem parseFile_eq_nil_iff {rest : List Char} :
    parseFile P rest = some [] ↔ EmptyFileHost P rest := by
  unfold parseFile EmptyFileHost
  split
  · next a b tail =>
    dsimp only
    split_ifs with hslash hempty
    · exact ⟨fun _ a' b' tail' heq _ _ => by cases heq; tauto, fun _ => rfl⟩
    · rw [Option.map_eq_some_iff]
      constructor
      · rintro ⟨host, hparse, hnil⟩ a' b' tail' heq - -
        cases heq
        split_ifs at hnil with hlocal
        · exact .inr (.inr (hlocal ▸ hparse))
        · exact absurd hnil (P.parse_ne_nil _ _ hparse)
      · intro h
        rcases h a b tail rfl hslash.1 hslash.2 with hnil | hdrive | hparse
        · exact absurd (.inl hnil) hempty
        · exact absurd (.inr hdrive) hempty
        · exact ⟨_, hparse, if_pos rfl⟩
    · exact ⟨fun _ a' b' tail' heq ha hb => by cases heq; exact absurd ⟨ha, hb⟩ hslash, fun _ => rfl⟩
  · next hshort => exact ⟨fun _ a b tail heq => absurd heq (hshort a b tail), fun _ => rfl⟩

theorem parseAfterScheme_eq_nil_iff {scheme rest : List Char} :
    parseAfterScheme P scheme rest = some [] ↔
      scheme = "file".toList ∧ EmptyFileHost P rest ∨
        scheme ≠ "file".toList ∧ scheme ∉ specialSchemes ∧
          ∀ tail, rest = '/' :: '/' :: tail → tail.takeWhile (!endsAuthority false ·) = [] := by
  unfold parseAfterScheme
  split_ifs with hfile hspecial
  · rw [parseFile_eq_nil_iff]
    exact ⟨fun h => .inl ⟨hfile, h⟩, fun h => h.elim And.right fun h => absurd hfile h.1⟩
  · constructor
    · exact fun h => absurd rfl (parseAuthority_special h)
    · rintro (⟨h, -⟩ | ⟨-, h, -⟩)
      · exact absurd h hfile
      · exact absurd hspecial h
  · split
    · next tail =>
      rw [parseAuthority_eq_nil_iff]
      constructor
      · intro h
        refine .inr ⟨hfile, hspecial, fun tail' heq => ?_⟩
        cases heq
        exact h
      · rintro (⟨h, -⟩ | ⟨-, -, h⟩)
        · exact absurd h hfile
        · exact h tail rfl
    · next hshort =>
      exact ⟨fun _ => .inr ⟨hfile, hspecial, fun tail heq => absurd heq (hshort tail)⟩, fun _ => rfl⟩

theorem hostname_eq_nil_iff : hostname P s = some [] ↔ EmptyHost P s := by
  rw [hostname, Option.bind_eq_some_iff, EmptyHost]
  constructor
  · rintro ⟨⟨scheme, rest⟩, hscheme, h⟩
    exact ⟨scheme, rest, hscheme, parseAfterScheme_eq_nil_iff.1 h⟩
  · rintro ⟨scheme, rest, hscheme, h⟩
    exact ⟨(scheme, rest), hscheme, parseAfterScheme_eq_nil_iff.2 h⟩

theorem hostname_delimiter (h : hostname P s = some host) : ∀ c ∈ host, delimiter c = false := by
  obtain ⟨⟨scheme, rest⟩, -, h⟩ := Option.bind_eq_some_iff.1 h
  unfold parseAfterScheme at h
  dsimp only at h
  have hnil : some [] = some host → ∀ c ∈ host, delimiter c = false := by
    rintro ⟨⟩
    exact nofun
  split_ifs at h
  · unfold parseFile at h
    split at h
    · dsimp only at h
      split_ifs at h
      · exact hnil h
      · obtain ⟨parsed, hparse, rfl⟩ := Option.map_eq_some_iff.1 h
        split_ifs
        · exact nofun
        · exact P.parse_delimiter _ _ hparse
      · exact hnil h
    · exact hnil h
  · exact parseAuthority_delimiter h
  · split at h
    · exact parseAuthority_delimiter h
    · exact hnil h

/-! ## Host names with a port and a path -/

/-- The characters of host names. -/
def hostChar (c : Char) : Bool :=
  !blank c && !delimiter c && c != '@' && c != ':' && c != '[' && c != ']'

variable (P) in
/-- A host name that is its own normal form. -/
structure IsHostName (name : List Char) : Prop where
  ne_nil : name ≠ []
  chars : ∀ c ∈ name, hostChar c
  parse : P.parse name = some name

/-- An optional port after a colon. -/
def portText : Option (List Char) → List Char
  | none => []
  | some port => ':' :: port

def IsPort (port : List Char) : Prop := port ≠ [] ∧ validPort port

/-- An optional path. -/
def IsPath (path : List Char) : Prop := path = [] ∨ ∃ segments, path = '/' :: segments

/-- The name could be the name of a scheme. -/
def schemeName (name : List Char) : Bool := name.head?.any Char.isAlpha && name.all schemeChar

variable {name path : List Char} {port : Option (List Char)}

theorem hostChar_iff {c : Char} :
    hostChar c = true ↔ blank c = false ∧ delimiter c = false ∧ c ≠ '@' ∧ c ≠ ':' ∧ c ≠ '[' ∧ c ≠ ']' := by
  simp only [hostChar, Bool.and_eq_true, Bool.not_eq_true', bne_iff_ne, and_assoc]

theorem blank_schemeChar {c : Char} (h : schemeChar c) : blank c = false := by
  have hall : ∀ n < 33, schemeChar (Char.ofNat n) = false := by decide
  refine decide_eq_false fun hle => ?_
  have hnot := hall c.toNat (Nat.lt_succ_of_le hle)
  rw [Char.ofNat_toNat, h] at hnot
  cases hnot

theorem hostChar_digit {c : Char} (h : c.isDigit) : hostChar c = true := by
  have hne : ∀ d : Char, d.isDigit = false → c ≠ d := by
    rintro d hd rfl
    rw [hd] at h
    cases h
  rw [hostChar_iff]
  refine ⟨blank_schemeChar (by simp [schemeChar, Char.isAlphanum, h]), ?_, hne _ rfl, hne _ rfl,
    hne _ rfl, hne _ rfl⟩
  simp only [delimiter, Bool.or_eq_false_iff, decide_eq_false_iff_not]
  exact ⟨⟨⟨hne _ rfl, hne _ rfl⟩, hne _ rfl⟩, hne _ rfl⟩

theorem isAlpha_of_isDigit {c : Char} (h : c.isDigit) : c.isAlpha = false := by
  have hall : ∀ n < 58, (Char.ofNat n).isAlpha = false := by decide
  have hle : c.toNat ≤ '9'.toNat :=
    UInt32.le_iff_toNat_le.1 (of_decide_eq_true (Bool.and_eq_true_iff.1 h).2)
  have hnot := hall c.toNat (Nat.lt_succ_of_le hle)
  rwa [Char.ofNat_toNat] at hnot

/-- A number is no host name that could be the name of a scheme. -/
theorem parse_number_ne {number : List Char} (hne : number ≠ []) (hdigits : ∀ c ∈ number, c.isDigit)
    (hscheme : schemeName name) (h : P.parse number = some host) : host ≠ name := by
  rintro rfl
  obtain ⟨c, hhead, halpha⟩ := (Option.any_eq_true _ _).1 (Bool.and_eq_true_iff.1 hscheme).1
  rcases P.parse_number _ _ hne hdigits h c (List.mem_of_head? hhead) with hdigit | rfl
  · rw [isAlpha_of_isDigit hdigit] at halpha
    cases halpha
  · cases halpha

theorem endsAuthority_of_delimiter {c : Char} (h : delimiter c = false) :
    endsAuthority special c = false := by
  simp only [delimiter, Bool.or_eq_false_iff, decide_eq_false_iff_not] at h
  obtain ⟨⟨⟨hslash, hquery⟩, hhash⟩, hback⟩ := h
  simp [endsAuthority, hslash, hquery, hhash, hback]

/-- The stripping keeps a text without blanks, and the path after it is one still. -/
theorem strip_append_path (hs : s ≠ []) (hblank : ∀ c ∈ s, blank c = false) (hpath : IsPath path) :
    ∃ path', IsPath path' ∧ strip (s ++ path) = s ++ path' := by
  have hkept : ∀ c, blank c = false → kept c = true := by
    intro c hc
    by_contra hk
    simp only [kept, Bool.and_eq_true, bne_iff_ne, not_and_or, not_not] at hk
    rcases hk with (rfl | rfl) | rfl <;> cases hc
  have hfilter : s.filter kept = s := List.filter_eq_self.2 fun c hc => hkept c (hblank c hc)
  have hdrop : ∀ t, (s ++ t).dropWhile blank = s ++ t := by
    intro t
    obtain ⟨c, cs, rfl⟩ := List.exists_cons_of_ne_nil hs
    exact List.dropWhile_cons_of_neg (Bool.eq_false_iff.1 (hblank c List.mem_cons_self))
  rcases hpath with rfl | ⟨segments, rfl⟩
  · refine ⟨[], .inl rfl, ?_⟩
    have hlast : ∀ hl : s ≠ [], ¬ blank (s.getLast hl) = true := fun hl =>
      Bool.eq_false_iff.1 (hblank _ (List.getLast_mem hl))
    rw [strip, hdrop, List.append_nil, List.rdropWhile_eq_self_iff.2 hlast, hfilter]
  · refine ⟨'/' :: (segments.rdropWhile blank).filter kept, .inr ⟨_, rfl⟩, ?_⟩
    rw [strip, hdrop, FormUrlEncoded.rdropWhile_append rfl, List.filter_append, hfilter,
      List.filter_cons_of_pos rfl]

theorem splitPort_hostPort (hchars : ∀ c ∈ name, hostChar c) :
    splitPort false (name ++ portText port) = (name, port) := by
  induction name with
  | nil =>
    cases port with
    | none => rfl
    | some port => rfl
  | cons c cs ih =>
    obtain ⟨-, -, -, hcolon, hopen, hclose⟩ := hostChar_iff.1 (hchars c List.mem_cons_self)
    rw [List.cons_append, splitPort, if_neg fun h => hcolon h.1, if_neg hopen, if_neg hclose,
      ih fun d hd => hchars d (List.mem_cons_of_mem c hd)]

/-- The authority of a host name and a port. -/
theorem parseAuthority_address (hname : name ≠ []) (hchars : ∀ c ∈ name, hostChar c)
    (hport : ∀ p, port = some p → IsPort p) (hpath : IsPath path) :
    parseAuthority P special (name ++ portText port ++ path) = parseHost P special name := by
  have hport' : ∀ c ∈ portText port, c = ':' ∨ hostChar c = true := by
    intro c hc
    cases port with
    | none => cases hc
    | some p =>
      rcases List.mem_cons.1 hc with rfl | hc
      · exact .inl rfl
      · have hdigits := (Bool.and_eq_true_iff.1 (hport p rfl).2).1
        exact .inr (hostChar_digit (List.all_eq_true.1 hdigits c hc))
  have hmem : ∀ c ∈ name ++ portText port, c = ':' ∨ hostChar c = true := fun c hc =>
    (List.mem_append.1 hc).elim (fun h => .inr (hchars c h)) (hport' c)
  have hends : ∀ c ∈ name ++ portText port, (!endsAuthority special c) = true := by
    intro c hc
    rcases hmem c hc with rfl | hchar
    · cases special <;> rfl
    · rw [endsAuthority_of_delimiter (hostChar_iff.1 hchar).2.1]
      rfl
  have hauthority : (name ++ portText port ++ path).takeWhile (!endsAuthority special ·) =
      name ++ portText port := by
    rw [List.takeWhile_append_of_pos hends]
    rcases hpath with rfl | ⟨segments, rfl⟩
    · exact List.append_nil _
    · rw [List.takeWhile_cons_of_neg (by cases special <;> simp [endsAuthority]), List.append_nil]
  have hat : '@' ∉ name ++ portText port := by
    intro hc
    rcases hmem _ hc with h | h
    · cases h
    · cases h
  unfold parseAuthority
  dsimp only
  rw [hauthority, if_neg fun h => hat h.1, afterCredentials_eq_self hat, splitPort_hostPort hchars]
  cases port with
  | none => exact if_neg fun h => hname h.2
  | some p =>
    refine if_neg fun h => ?_
    rcases h with h | h
    · exact hname h
    · exact h (hport p rfl).2

/-- A name with another character is left at it, whatever follows. -/
theorem dropWhile_schemeChar (h : ¬ name.all schemeChar = true) :
    ∃ c cs, c ∈ name ∧ ∀ tail, (name ++ tail).dropWhile schemeChar = c :: (cs ++ tail) := by
  have hne : name.dropWhile schemeChar ≠ [] := fun hnil =>
    h (List.all_eq_true.2 (List.dropWhile_eq_nil_iff.1 hnil))
  obtain ⟨c, cs, hcons⟩ := List.exists_cons_of_ne_nil hne
  refine ⟨c, cs, (List.dropWhile_sublist schemeChar).subset (hcons ▸ List.mem_cons_self),
    fun tail => ?_⟩
  rw [List.dropWhile_append, hcons]
  rfl

theorem splitScheme_colon (hcolon : ':' ∉ name) (rest : List Char) :
    splitScheme (name ++ ':' :: rest) =
      if schemeName name then some (name.map Char.toLower, rest) else none := by
  have hhead : (name ++ ':' :: rest).head?.any Char.isAlpha = name.head?.any Char.isAlpha := by
    cases name <;> rfl
  rw [splitScheme, hhead, schemeName]
  by_cases hall : name.all schemeChar = true
  · have hpos := List.all_eq_true.1 hall
    rw [hall, Bool.and_true, List.dropWhile_append_of_pos hpos, List.takeWhile_append_of_pos hpos,
      List.dropWhile_cons_of_neg (by decide), List.takeWhile_cons_of_neg (by decide), List.append_nil]
    rfl
  · obtain ⟨c, cs, hmem, hdrop⟩ := dropWhile_schemeChar hall
    rw [Bool.not_eq_true] at hall
    rw [hall, Bool.and_false, if_neg Bool.false_ne_true, hdrop]
    split_ifs
    · split
      · next heq =>
        obtain ⟨rfl, -⟩ := List.cons.inj heq
        exact absurd hmem hcolon
      · rfl
    · rfl

theorem splitScheme_path (hcolon : ':' ∉ name) (hpath : IsPath path) :
    splitScheme (name ++ path) = none := by
  have hdrop : ∀ rest, (name ++ path).dropWhile schemeChar ≠ ':' :: rest := by
    intro rest heq
    by_cases hall : name.all schemeChar = true
    · rw [List.dropWhile_append_of_pos (List.all_eq_true.1 hall)] at heq
      rcases hpath with rfl | ⟨segments, rfl⟩
      · cases heq
      · cases heq
    · obtain ⟨c, cs, hmem, hdrop⟩ := dropWhile_schemeChar hall
      rw [hdrop] at heq
      obtain ⟨rfl, -⟩ := List.cons.inj heq
      exact hcolon hmem
  rw [splitScheme]
  split_ifs
  · split
    · next rest heq => exact absurd heq (hdrop rest)
    · rfl
  · rfl

theorem IsHostName.colon (h : IsHostName P name) : ':' ∉ name := fun hmem =>
  (hostChar_iff.1 (h.chars _ hmem)).2.2.2.1 rfl

theorem blank_address (hchars : ∀ c ∈ name, hostChar c) (hport : ∀ p, port = some p → IsPort p) :
    ∀ c ∈ name ++ portText port, blank c = false := by
  intro c hc
  rcases List.mem_append.1 hc with hc | hc
  · exact (hostChar_iff.1 (hchars c hc)).1
  · cases port with
    | none => cases hc
    | some p =>
      rcases List.mem_cons.1 hc with rfl | hc
      · rfl
      · have hdigits := (Bool.and_eq_true_iff.1 (hport p rfl).2).1
        exact (hostChar_iff.1 (hostChar_digit (List.all_eq_true.1 hdigits c hc))).1

theorem slash_of_delimiter {c : Char} (h : delimiter c = false) : slash c = false := by
  simp only [delimiter, Bool.or_eq_false_iff, decide_eq_false_iff_not] at h
  simp [slash, h.1.1.1, h.2]

theorem parseAfterScheme_special {scheme rest : List Char} (h : scheme ∈ specialSchemes) :
    parseAfterScheme P scheme rest = parseAuthority P true (rest.dropWhile slash) := by
  have hfile : scheme ≠ "file".toList := by
    rintro rfl
    exact absurd h (by decide)
  unfold parseAfterScheme
  rw [if_neg hfile, if_pos h]

/-- After a special scheme, the address is a URL with the host. -/
theorem hostname_url {scheme : List Char} (hscheme : schemeName scheme)
    (hspecial : scheme.map Char.toLower ∈ specialSchemes) (h : IsHostName P name)
    (hport : ∀ p, port = some p → IsPort p) (hpath : IsPath path) :
    hostname P (scheme ++ "://".toList ++ (name ++ portText port ++ path)) = some name := by
  have hchars := List.all_eq_true.1 (Bool.and_eq_true_iff.1 hscheme).2
  have hcolon : ':' ∉ scheme := fun hmem => absurd (hchars _ hmem) (by decide)
  have hblank : ∀ d ∈ scheme ++ "://".toList ++ (name ++ portText port), blank d = false := by
    intro d hd
    rcases List.mem_append.1 hd with hd | hd
    · rcases List.mem_append.1 hd with hd | hd
      · exact blank_schemeChar (hchars d hd)
      · have hall : "://".toList.all (!blank ·) = true := by decide
        exact Bool.not_eq_true' _ ▸ List.all_eq_true.1 hall d hd
    · exact blank_address h.chars hport d hd
  obtain ⟨path', hpath', hstrip⟩ := strip_append_path (by simp) hblank hpath
  have hsplit : splitScheme (scheme ++ ':' :: ("//".toList ++ (name ++ portText port ++ path'))) =
      some (scheme.map Char.toLower, "//".toList ++ (name ++ portText port ++ path')) :=
    (splitScheme_colon hcolon _).trans (if_pos hscheme)
  have hslash : ("//".toList ++ (name ++ portText port ++ path')).dropWhile slash =
      name ++ portText port ++ path' := by
    obtain ⟨c, cs, hcons⟩ := List.exists_cons_of_ne_nil h.ne_nil
    have hc := slash_of_delimiter (hostChar_iff.1 (h.chars c (hcons ▸ List.mem_cons_self))).2.1
    rw [hcons]
    show List.dropWhile slash (c :: _) = _
    exact List.dropWhile_cons_of_neg (Bool.eq_false_iff.1 hc)
  have hcolon_cons : scheme ++ "://".toList ++ (name ++ portText port) ++ path' =
      scheme ++ ':' :: ("//".toList ++ (name ++ portText port ++ path')) := by
    rw [List.append_assoc, List.append_assoc]
    rfl
  rw [hostname, ← List.append_assoc, hstrip, hcolon_cons, hsplit, Option.bind_some,
    parseAfterScheme_special hspecial, hslash, parseAuthority_address h.ne_nil h.chars hport hpath']
  exact h.parse

theorem hostname_https (h : IsHostName P name) (hport : ∀ p, port = some p → IsPort p)
    (hpath : IsPath path) :
    hostname P ("https://".toList ++ (name ++ portText port ++ path)) = some name := by
  have hscheme : schemeName "https".toList = true := by decide
  have hspecial : "https".toList.map Char.toLower ∈ specialSchemes := by decide
  have htext : "https://".toList = "https".toList ++ "://".toList := by decide
  rw [htext]
  exact hostname_url hscheme hspecial h hport hpath

/-- A string after `https://` is no URL with an empty host. -/
theorem not_emptyHost_https (s : List Char) : ¬ EmptyHost P ("https://".toList ++ s) := by
  rintro ⟨scheme, rest, hsplit, hempty⟩
  have hblank : ∀ d ∈ "https:/".toList, blank d = false := by
    intro d hd
    have hall : "https:/".toList.all (!blank ·) = true := by decide
    exact Bool.not_eq_true' _ ▸ List.all_eq_true.1 hall d hd
  have hpath : IsPath ('/' :: s) := .inr ⟨s, rfl⟩
  obtain ⟨path', -, hstrip⟩ := strip_append_path (by decide) hblank hpath
  have hscheme : splitScheme ("https".toList ++ ':' :: ('/' :: path')) =
      some ("https".toList, '/' :: path') := splitScheme_colon (by decide) _
  have heq : some (scheme, rest) = some ("https".toList, '/' :: path') :=
    hsplit.symm.trans ((congrArg splitScheme hstrip).trans hscheme)
  obtain ⟨rfl, rfl⟩ := Prod.mk.inj (Option.some.inj heq)
  rcases hempty with ⟨hfile, -⟩ | ⟨-, hspecial, -⟩
  · exact absurd hfile (by decide)
  · exact hspecial (by decide)

/-- Without one, it is not a URL, or one of another scheme. -/
theorem hostname_address (h : IsHostName P name) (hport : ∀ p, port = some p → IsPort p)
    (hpath : IsPath path) :
    hostname P (name ++ portText port ++ path) = port.bind fun p =>
      if schemeName name then
        if name.map Char.toLower ∈ specialSchemes then P.parse p else some []
      else none := by
  obtain ⟨path', hpath', hstrip⟩ := strip_append_path
    (List.append_ne_nil_of_left_ne_nil h.ne_nil _) (blank_address h.chars hport) hpath
  rw [hostname, hstrip]
  cases port with
  | none =>
    rw [portText, List.append_nil, splitScheme_path h.colon hpath']
    rfl
  | some p =>
    obtain ⟨hne, hvalid⟩ := hport p rfl
    have hdigits := List.all_eq_true.1 (Bool.and_eq_true_iff.1 hvalid).1
    obtain ⟨d, ds, rfl⟩ := List.exists_cons_of_ne_nil hne
    have hslash := slash_of_delimiter
      (hostChar_iff.1 (hostChar_digit (hdigits d List.mem_cons_self))).2.1
    rw [portText, List.append_assoc, List.cons_append, splitScheme_colon h.colon, Option.bind_some]
    split_ifs with hscheme hspecial
    · have hdrop : (d :: ds ++ path').dropWhile slash = d :: ds ++ portText none ++ path' := by
        rw [portText, List.append_nil]
        exact List.dropWhile_cons_of_neg (Bool.eq_false_iff.1 hslash)
      rw [Option.bind_some, parseAfterScheme_special hspecial]
      exact (congrArg (parseAuthority P true) hdrop).trans (parseAuthority_address hne
        (fun c hc => hostChar_digit (hdigits c hc)) nofun hpath')
    · -- the port is the path of the URL
      rw [Option.bind_some, parseAfterScheme_eq_nil_iff]
      by_cases hfile : name.map Char.toLower = "file".toList
      · refine .inl ⟨hfile, fun a b tail heq ha _ => ?_⟩
        obtain ⟨rfl, -⟩ := List.cons.inj heq
        exact absurd ha (Bool.eq_false_iff.1 hslash)
      · refine .inr ⟨hfile, hspecial, fun tail heq => ?_⟩
        obtain ⟨rfl, -⟩ := List.cons.inj heq
        cases hslash
    · rfl

end UrlHost
