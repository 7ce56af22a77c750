import Mathlib.Data.List.TakeWhile
import StytchBrowser.Lib.FormUrlEncoded
import StytchBrowser.Lib.OrderedMap

/-!
# URLs and their search parameters

`UrlStandard Url` is what a page uses of the URL standard: parsing, serializing, and the query of a
URL with the update that its `searchParams` make. Of the two laws one says that a serialized URL
parses to itself, the other that an update writes the serialized parameters.

* `get` and `delete` are those of `URLSearchParams`; `searchParams_delete` says that the parameters
  left by `delete` keep their values and their order.
* `splitUrl` is the standard on URLs that are already serialized: a URL is what stands before the
  query, the query and the fragment.
-/

universe u

open FormUrlEncoded

/-- The query of a URL with the given parameters: absent when there are none. -/
def queryOf (l : List (String × String)) : Option Bytes :=
  if serialize l = [] then none else some (serialize l)

theorem parse_queryOf (l : List (String × String)) : parse ((queryOf l).getD []) = l := by
  unfold queryOf
  split_ifs with h
  · exact (congrArg parse h.symm).trans (parse_serialize l)
  · exact parse_serialize l

/-- `URLSearchParams.set`: the first pair with the name gets the value and any other is removed; without
one the pair is appended. -/
def setPair : List (String × String) → String → String → List (String × String)
  | [], name, value => [(name, value)]
  | p :: l, name, value =>
      if p.1 = name then (name, value) :: l.filter fun q => q.1 ≠ name
      else p :: setPair l name value

/-- On a map, this writes the key. -/
theorem setPair_entries (m : OrderedMap String String) (name value : String) :
    setPair m.entries name value = (m.set name value).entries := by
  have h : ∀ l : List (String × String), (l.map Prod.fst).Nodup → setPair l name value =
      if (l.lookup name).isSome then l.map fun e => if e.1 = name then (name, value) else e
      else l ++ [(name, value)] := by
    intro l hl
    induction l with
    | nil => rfl
    | cons e l ih =>
      rw [List.map_cons, List.nodup_cons] at hl
      rw [setPair, List.lookup_cons]
      by_cases he : e.1 = name
      · have hne : ∀ q ∈ l, q.1 ≠ name := by
          rintro q hq rfl
          exact hl.1 (he ▸ List.mem_map_of_mem hq)
        have hsome : (some e.2).isSome = true := rfl
        rw [if_pos he, beq_iff_eq.2 he.symm]
        dsimp only
        rw [if_pos hsome, List.map_cons, if_pos he, List.filter_eq_self.2 fun q hq => decide_eq_true (hne q hq)]
        refine congrArg _ ((List.map_congr_left fun q hq => if_neg (hne q hq)).trans ?_).symm
        exact List.map_id _
      · rw [if_neg he, ih hl.2, beq_eq_false_iff_ne.2 (Ne.symm he)]
        dsimp only
        rw [List.map_cons, if_neg he]
        split_ifs <;> rfl
  exact h m.entries m.nodup

/-- The part of the URL standard that a page uses. -/
structure UrlStandard (Url : Type u) where
  /-- `new URL(href)`, `none` where it throws. -/
  parse : Bytes → Option Url
  href : Url → Bytes
  query : Url → Option Bytes
  /-- The update of the URL by its search parameters. -/
  update : Url → List (String × String) → Url
  parse_href : ∀ u, parse (href u) = some u
  query_update : ∀ u l, query (update u l) = queryOf l

namespace UrlStandard

variable {Url : Type u} (U : UrlStandard Url)

/-- `url.searchParams`. -/
def searchParams (u : Url) : List (String × String) := FormUrlEncoded.parse ((U.query u).getD [])

/-- `url.searchParams.get(name)`. -/
def get (u : Url) (name : String) : Option String :=
  ((U.searchParams u).find? fun p => p.1 = name).map Prod.snd

/-- `url.searchParams.delete(name)`. -/
def delete (u : Url) (name : String) : Url :=
  U.update u ((U.searchParams u).filter fun p => p.1 ≠ name)

/-- `url.searchParams.set(name, value)`. -/
def set (u : Url) (name value : String) : Url := U.update u (setPair (U.searchParams u) name value)

theorem searchParams_update (u : Url) (l : List (String × String)) :
    U.searchParams (U.update u l) = l := by
  rw [searchParams, U.query_update, parse_queryOf]

theorem searchParams_delete (u : Url) (name : String) :
    U.searchParams (U.delete u name) = (U.searchParams u).filter fun p => p.1 ≠ name :=
  U.searchParams_update u _

theorem searchParams_set (u : Url) (name value : String) :
    U.searchParams (U.set u name value) = setPair (U.searchParams u) name value :=
  U.searchParams_update u _

theorem get_eq_none {u : Url} {name : String} (h : ∀ p ∈ U.searchParams u, p.1 ≠ name) :
    U.get u name = none := by
  rw [get, List.find?_eq_none.2 fun p hp he => h p hp (of_decide_eq_true he)]
  rfl

end UrlStandard

/-! ### Serialized URLs -/

section Cutting

variable {sep : UInt8} {a l : Bytes}

/-- The bytes before the first separator and those after it. -/
def cut (sep : UInt8) (l : Bytes) : Bytes × Option Bytes :=
  (l.takeWhile (· != sep), (l.dropWhile (· != sep)).tail?)

/-- The two parts with the separator between them. -/
def glue (sep : UInt8) (a : Bytes) (rest : Option Bytes) : Bytes :=
  a ++ rest.elim [] (sep :: ·)

theorem sep_notMem_cut : sep ∉ (cut sep l).1 := by
  intro h
  have := List.mem_takeWhile_imp h
  rw [bne_self_eq_false] at this
  exact absurd this (by decide)

theorem mem_of_mem_cut {b : UInt8} (h : b ∈ (cut sep l).1) : b ∈ l :=
  (List.takeWhile_subset _) h

theorem mem_of_mem_cut_rest {b : UInt8} {rest : Bytes} (h : (cut sep l).2 = some rest)
    (hb : b ∈ rest) : b ∈ l := by
  refine (List.dropWhile_suffix (· != sep)).subset ?_
  dsimp only [cut] at h
  cases hl : l.dropWhile (· != sep) with
  | nil =>
    rw [hl] at h
    cases h
  | cons c tail =>
    rw [hl] at h
    obtain rfl := Option.some.inj h
    exact List.mem_cons_of_mem c hb

theorem cut_glue (h : sep ∉ a) (rest : Option Bytes) : cut sep (glue sep a rest) = (a, rest) := by
  have ha : ∀ b ∈ a, (b != sep) = true := fun b hb => bne_iff_ne.2 fun he => h (he ▸ hb)
  rw [cut, glue, List.takeWhile_append_of_pos ha, List.dropWhile_append_of_pos ha]
  cases rest with
  | none => simp
  | some rest => simp

end Cutting

/-- A serialized URL. -/
structure SplitUrl where
  /-- The scheme, the host and the path. -/
  before : Bytes
  query : Option Bytes
  fragment : Option Bytes
  before_question : 0x3F ∉ before
  before_number : 0x23 ∉ before
  query_number : ∀ q, query = some q → 0x23 ∉ q
  deriving DecidableEq

namespace SplitUrl

/-- `before?query#fragment`. -/
def href (u : SplitUrl) : Bytes := glue 0x23 (glue 0x3F u.before u.query) u.fragment

def ofHref (href : Bytes) : SplitUrl where
  before := (cut 0x3F (cut 0x23 href).1).1
  query := (cut 0x3F (cut 0x23 href).1).2
  fragment := (cut 0x23 href).2
  before_question := sep_notMem_cut
  before_number h := sep_notMem_cut (mem_of_mem_cut h)
  query_number _ hq h := sep_notMem_cut (mem_of_mem_cut_rest hq h)

theorem number_notMem_glue (u : SplitUrl) : 0x23 ∉ glue 0x3F u.before u.query := by
  intro h
  rcases List.mem_append.1 h with h | h
  · exact u.before_number h
  · cases hq : u.query with
    | none =>
      rw [hq] at h
      exact List.not_mem_nil h
    | some q =>
      rw [hq] at h
      rcases List.mem_cons.1 h with he | h
      · exact absurd he (by decide)
      · exact u.query_number q hq h

theorem ofHref_href (u : SplitUrl) : ofHref u.href = u := by
  have h : cut 0x23 u.href = (glue 0x3F u.before u.query, u.fragment) :=
    cut_glue u.number_notMem_glue u.fragment
  have h' := cut_glue u.before_question u.query
  cases u
  simp only [ofHref, h, h']

def update (u : SplitUrl) (l : List (String × String)) : SplitUrl where
  before := u.before
  query := queryOf l
  fragment := u.fragment
  before_question := u.before_question
  before_number := u.before_number
  query_number q hq h := by
    unfold queryOf at hq
    split_ifs at hq
    obtain rfl := Option.some.inj hq
    exact number_sign_notMem_serialize l h

end SplitUrl

/-- The standard on serialized URLs. -/
def splitUrl : UrlStandard SplitUrl where
  parse href := some (SplitUrl.ofHref href)
  href := SplitUrl.href
  query := SplitUrl.query
  update := SplitUrl.update
  parse_href u := congrArg some u.ofHref_href
  query_update _ _ := rfl
