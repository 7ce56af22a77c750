import Mathlib.Data.List.Sort
import StytchBrowser.Lib.OrderedMap

/-!
# The cookies of one host

A browser keys cookies by name, domain and path and keeps them in the order in which they were
created; overwriting a cookie keeps its place. What a browser files a `Domain` attribute under, and
whether it refuses it, is a parameter of the page (`fileDomain`), and so is whether a cookie path is
visible on the page. `Cookies` follows `js-cookie`, which encodes the names it writes and decodes those
it reads; the jar has the names as the SDK knows them. The attributes `secure` and `sameSite` do not
affect the jar and are left out.
-/

namespace StytchBrowser.Web

/-- `s || null`. -/
def orNull (s : Option String) : Option String := s.filter (· ≠ "")

/-- What identifies a cookie. A host-only cookie has no domain. -/
structure CookieKey where
  name : String
  domain : Option String
  path : String
  deriving DecidableEq

/-- The cookies of one host, oldest first. -/
abbrev Jar := OrderedMap CookieKey String

/-- Where a page stands. -/
structure Page where
  /-- `window.location.host`. -/
  host : String
  /-- `window.location.hostname`. -/
  hostname : String
  /-- What a cookie with a `Domain` attribute is filed under: `none` when the browser refuses it,
  `some none` when it makes it host-only. -/
  fileDomain : String → Option (Option String)
  /-- Whether cookies of a path are visible on the page. -/
  pathVisible : String → Bool
  /-- The name that `js-cookie` writes for a cookie name: it percent-encodes what may not stand in
  one. -/
  encodeName : String → String
  encodeName_injective : Function.Injective encodeName

/-- The attributes of a cookie. `expires` is in milliseconds, `none` for an invalid date. -/
structure CookieAttributes where
  expires : Option ℤ
  path : Option String
  domain : Option String

namespace Cookies

variable (page : Page)

/-- What a cookie with the given attributes is filed under. An empty `Domain` attribute is left out
and the path defaults to `/`. -/
def keyOf (name : String) (attributes : CookieAttributes) : Option CookieKey :=
  match orNull attributes.domain with
  | none => some ⟨name, none, attributes.path.getD "/"⟩
  | some domain =>
      (page.fileDomain domain).map fun domain => ⟨name, domain, attributes.path.getD "/"⟩

/-- Whether a cookie is expired when it is written; its date is written in whole seconds. -/
def expired (now : ℤ) (attributes : CookieAttributes) : Bool :=
  attributes.expires.any fun t => t / 1000 * 1000 ≤ now

/-- `Cookies.set`. -/
def set (now : ℤ) (name value : String) (attributes : CookieAttributes) (jar : Jar) : Jar :=
  match keyOf page name attributes with
  | none => jar
  | some key => if expired now attributes then jar.erase key else jar.set key value

/-- `Cookies.remove`, which sets an expired cookie. -/
def remove (name : String) (attributes : CookieAttributes) (jar : Jar) : Jar :=
  match keyOf page name attributes with
  | none => jar
  | some key => jar.erase key

/-- `document.cookie`: longer paths first, older cookies first among paths of one length. The names
are decoded. -/
def documentCookie (jar : Jar) : List (String × String) :=
  ((jar.entries.filter fun e => page.pathVisible e.1.path).insertionSort
    fun a b => b.1.path.length ≤ a.1.path.length).map fun e => (e.1.name, e.2)

/-- `Cookies.get`. -/
def get (name : String) (jar : Jar) : Option String := (documentCookie page jar).lookup name

/-- `hasMultipleCookies`, which compares with the names as they were written. -/
def hasMultipleCookies (name : String) (jar : Jar) : Bool :=
  1 < ((documentCookie page jar).filter fun e => page.encodeName e.1 = name).length

variable {page}

theorem get_remove (name : String) (attributes : CookieAttributes) (jar : Jar) (key : CookieKey) :
    (remove page name attributes jar).get key =
      if keyOf page name attributes = some key then none else jar.get key := by
  unfold remove
  cases hk : keyOf page name attributes with
  | none => simp
  | some k =>
    rw [OrderedMap.get_erase]
    by_cases h : key = k
    · simp [h]
    · simp [h, Ne.symm h]

/-- A cookie is in the jar after a write only if it was before or is the one written. -/
theorem get_set_eq_some {now : ℤ} {name value : String} {attributes : CookieAttributes} {jar : Jar}
    {key : CookieKey} {v : String} (h : (set page now name value attributes jar).get key = some v) :
    (keyOf page name attributes = some key ∧ value = v) ∨ jar.get key = some v := by
  unfold set at h
  cases hk : keyOf page name attributes with
  | none =>
    rw [hk] at h
    exact .inr h
  | some k =>
    rw [hk] at h
    dsimp only at h
    split_ifs at h
    · rw [OrderedMap.get_erase] at h
      split_ifs at h
      exact .inr h
    · rw [OrderedMap.get_set] at h
      split_ifs at h with hkey
      · exact .inl ⟨by rw [hkey], Option.some.inj h⟩
      · exact .inr h

theorem keyOf_spec {name : String} {attributes : CookieAttributes} {key : CookieKey}
    (h : keyOf page name attributes = some key) :
    key.name = name ∧ key.path = attributes.path.getD "/" := by
  unfold keyOf at h
  split at h
  · cases h
    exact ⟨rfl, rfl⟩
  · obtain ⟨domain, -, rfl⟩ := Option.map_eq_some_iff.1 h
    exact ⟨rfl, rfl⟩

/-! ### The cookies of one name -/

/-- The cookies of a name. -/
def named (name : String) (jar : Jar) : Jar := jar.restrict fun key => key.name = name

theorem named_set_self {now : ℤ} {name value : String} {attributes : CookieAttributes}
    {key : CookieKey} (hkey : keyOf page name attributes = some key)
    (hexp : expired now attributes = false) (jar : Jar) :
    named name (set page now name value attributes jar) = (named name jar).set key value := by
  unfold set
  rw [hkey]
  dsimp only
  rw [if_neg (by simp [hexp])]
  exact jar.restrict_set_of_true (by simpa using (keyOf_spec hkey).1) value

theorem named_set_of_ne {now : ℤ} {name name' value : String} {attributes : CookieAttributes}
    (hne : name' ≠ name) (jar : Jar) :
    named name (set page now name' value attributes jar) = named name jar := by
  unfold set
  cases hkey : keyOf page name' attributes with
  | none => rfl
  | some key =>
    have hname : (key.name = name : Bool) = false := by simpa [(keyOf_spec hkey).1] using hne
    dsimp only
    split_ifs
    · exact jar.restrict_erase_of_false hname
    · exact jar.restrict_set_of_false hname value

theorem named_remove (name name' : String) (attributes : CookieAttributes) (jar : Jar) :
    named name (remove page name' attributes jar) = remove page name' attributes (named name jar) := by
  unfold remove
  cases keyOf page name' attributes with
  | none => rfl
  | some key => exact jar.restrict_erase _ key

theorem named_remove_of_ne {name name' : String} {attributes : CookieAttributes}
    (hne : name' ≠ name) (jar : Jar) :
    named name (remove page name' attributes jar) = named name jar := by
  unfold remove
  cases hkey : keyOf page name' attributes with
  | none => rfl
  | some key => exact jar.restrict_erase_of_false (by simpa [(keyOf_spec hkey).1] using hne)

/-- The cookies are all filed at the path `path`, and the page sees them. -/
structure OnePath (page : Page) (path : String) (jar : Jar) : Prop where
  filed : ∀ key v, jar.get key = some v → key.path = path
  visible : page.pathVisible path = true

theorem OnePath.set {path : String} {jar : Jar} (h : OnePath page path jar) (now : ℤ)
    (name value : String) {attributes : CookieAttributes}
    (hpath : attributes.path.getD "/" = path) :
    OnePath page path (set page now name value attributes jar) := by
  refine ⟨fun key v hv => ?_, h.visible⟩
  rcases get_set_eq_some hv with ⟨hkey, -⟩ | hold
  · rw [← hpath]
    exact (keyOf_spec hkey).2
  · exact h.filed key v hold

theorem OnePath.remove {path : String} {jar : Jar} (h : OnePath page path jar) (name : String)
    (attributes : CookieAttributes) : OnePath page path (remove page name attributes jar) := by
  refine ⟨fun key v hv => ?_, h.visible⟩
  rw [get_remove] at hv
  split_ifs at hv
  exact h.filed key v hv

theorem documentCookie_of_onePath {path : String} {jar : Jar} (h : OnePath page path jar) :
    documentCookie page jar = jar.entries.map fun e => (e.1.name, e.2) := by
  have hpath : ∀ e ∈ jar.entries, e.1.path = path := fun e he =>
    h.filed e.1 e.2 ((jar.get_eq_some_iff ..).2 he)
  have hall : jar.entries.filter (fun e => page.pathVisible e.1.path) = jar.entries := by
    refine List.filter_eq_self.2 fun e he => ?_
    rw [hpath e he, h.visible]
  unfold documentCookie
  rw [hall, List.Pairwise.insertionSort_eq]
  refine List.pairwise_of_forall_mem_list fun a ha b hb => ?_
  rw [hpath a ha, hpath b hb]

/-- The page reads the oldest cookie of a name. -/
theorem get_of_onePath {path : String} {jar : Jar} (h : OnePath page path jar) (name : String) :
    get page name jar = (named name jar).oldest.map Prod.snd := by
  rw [get, documentCookie_of_onePath h]
  change _ = (jar.entries.filter fun e => e.1.name = name).head?.map Prod.snd
  induction jar.entries with
  | nil => rfl
  | cons e l ih =>
    rw [List.map_cons, List.lookup_cons, List.filter_cons, ih]
    by_cases he : e.1.name = name
    · simp [he]
    · simp [he, beq_false_of_ne (Ne.symm he)]

/-- A name is seen as often as the jar has it when `js-cookie` writes it as it is. -/
theorem hasMultipleCookies_of_onePath {path : String} {jar : Jar} (h : OnePath page path jar)
    {name : String} (hname : page.encodeName name = name) :
    hasMultipleCookies page name jar = decide (1 < (named name jar).entries.length) := by
  have hencode : ∀ name', page.encodeName name' = name ↔ name' = name := fun name' =>
    ⟨fun he => page.encodeName_injective (he.trans hname.symm), fun he => he ▸ hname⟩
  rw [hasMultipleCookies, documentCookie_of_onePath h, List.filter_map, List.length_map]
  simp only [Function.comp_def, hencode]
  rfl

end Cookies

/-! ## `isLocalhost` -/

/-- `25[0-5]|2[0-4][0-9]|[01]?[0-9][0-9]?`. -/
def isOctet : List Char → Bool
  | [a] => a.isDigit
  | [a, b] => a.isDigit && b.isDigit
  | [a, b, c] =>
      if a = '2' then (b = '5' && c.isDigit && c.toNat ≤ '5'.toNat) ||
        (b.isDigit && b.toNat ≤ '4'.toNat && c.isDigit)
      else (a = '0' || a = '1') && b.isDigit && c.isDigit
  | _ => false

/-- `isLocalhost`. -/
def isLocalhost (page : Page) : Bool :=
  page.hostname = "localhost" || page.hostname = "[::1]" ||
    match page.hostname.toList.splitOn '.' with
    | [a, b, c, d] => a = ['1', '2', '7'] && isOctet b && isOctet c && isOctet d
    | _ => false

end StytchBrowser.Web
