import Mathlib.Data.List.Induction
import Mathlib.Data.List.Nodup
import Mathlib.Tactic.SplitIfs

/-!
# Insertion-ordered maps

An `OrderedMap κ α` is a list of entries with distinct keys, kept in the order in which the keys
were first inserted: writing a key that is present replaces its value in place, writing a new key
appends it. JavaScript objects and the cookie stores of browsers are such maps.

Reads of the map after each operation are given by one lemma (`get_set`, `get_erase`, `get_merge`,
`get_filterMap`), so that no proof about a map looks at its list of entries.
-/

universe u v w

/-- A finite map whose entries are kept in insertion order. -/
@[ext]
structure OrderedMap (κ : Type u) (α : Type v) where
  entries : List (κ × α)
  nodup : (entries.map Prod.fst).Nodup

namespace OrderedMap

variable {κ : Type u} {α : Type v} {β : Type w} [DecidableEq κ]

/-- The map with no entries. -/
def empty : OrderedMap κ α := ⟨[], List.nodup_nil⟩

/-- The value stored under a key. -/
def get (m : OrderedMap κ α) (k : κ) : Option α := m.entries.lookup k

/-- The keys, oldest first. -/
def keys (m : OrderedMap κ α) : List κ := m.entries.map Prod.fst

/-- Whether a key has a value. -/
def contains (m : OrderedMap κ α) (k : κ) : Bool := (m.get k).isSome

/-- Keep the entries that meet a test. -/
def filter (m : OrderedMap κ α) (p : κ → α → Bool) : OrderedMap κ α :=
  ⟨m.entries.filter fun e => p e.1 e.2, m.nodup.sublist (List.filter_sublist.map _)⟩

/-- Remove a key. -/
def erase (m : OrderedMap κ α) (k : κ) : OrderedMap κ α := m.filter fun k' _ => k' ≠ k

/-! ## Entries and reads -/

theorem mem_of_lookup {l : List (κ × α)} {k : κ} {v : α} (h : l.lookup k = some v) :
    (k, v) ∈ l := by
  obtain ⟨l₁, l₂, rfl, -⟩ := List.lookup_eq_some_iff.1 h
  simp

theorem lookup_of_mem {l : List (κ × α)} (hl : (l.map Prod.fst).Nodup) {k : κ} {v : α}
    (h : (k, v) ∈ l) : l.lookup k = some v := by
  obtain ⟨l₁, l₂, rfl⟩ := List.append_of_mem h
  rw [List.map_append, List.nodup_append] at hl
  refine List.lookup_eq_some_iff.2 ⟨l₁, l₂, rfl, fun e he => ?_⟩
  have hne := hl.2.2 e.1 (List.mem_map_of_mem he) k (by simp)
  simpa using hne.symm

theorem get_eq_some_iff (m : OrderedMap κ α) (k : κ) (v : α) :
    m.get k = some v ↔ (k, v) ∈ m.entries :=
  ⟨mem_of_lookup, lookup_of_mem m.nodup⟩

theorem get_eq_none_iff (m : OrderedMap κ α) (k : κ) : m.get k = none ↔ k ∉ m.keys := by
  rw [keys, List.mem_map, get, List.lookup_eq_none_iff]
  constructor
  · rintro h ⟨e, he, rfl⟩
    exact absurd (h e he) (by simp)
  · intro h e he
    simpa using fun hk : k = e.1 => h ⟨e, he, hk.symm⟩

@[simp] theorem get_empty (k : κ) : (empty : OrderedMap κ α).get k = none := rfl

theorem get_filter (m : OrderedMap κ α) (p : κ → α → Bool) (k : κ) :
    (m.filter p).get k = (m.get k).filter (p k) := by
  ext v
  simp only [get_eq_some_iff, filter, List.mem_filter, Option.filter_eq_some_iff]

theorem get_erase (m : OrderedMap κ α) (k k' : κ) :
    (m.erase k).get k' = if k' = k then none else m.get k' := by
  rw [erase, get_filter]
  split_ifs with h <;> cases m.get k' <;> simp [h, Option.filter]

/-! ## Writing -/

theorem nodup_set (m : OrderedMap κ α) (k : κ) (v : α) :
    ((if m.contains k then m.entries.map fun e => if e.1 = k then (k, v) else e
      else m.entries ++ [(k, v)]).map Prod.fst).Nodup := by
  split_ifs with h
  · have hkeys : Prod.fst ∘ (fun e : κ × α => if e.1 = k then (k, v) else e) = Prod.fst := by
      funext e
      by_cases he : e.1 = k <;> simp [he]
    rw [List.map_map, hkeys]
    exact m.nodup
  · rw [contains, Option.not_isSome_iff_eq_none, get_eq_none_iff] at h
    rw [List.map_append, List.nodup_append]
    refine ⟨m.nodup, List.nodup_singleton _, fun a ha b hb hab => h ?_⟩
    rw [hab, List.mem_singleton.1 hb] at ha
    exact ha

/-- Write a key: in place when it is present, at the end when it is new. -/
def set (m : OrderedMap κ α) (k : κ) (v : α) : OrderedMap κ α :=
  ⟨if m.contains k then m.entries.map fun e => if e.1 = k then (k, v) else e
    else m.entries ++ [(k, v)], m.nodup_set k v⟩

theorem lookup_replace (l : List (κ × α)) (k k' : κ) (v : α) :
    (l.map fun e => if e.1 = k then (k, v) else e).lookup k' =
      if k' = k then (l.lookup k).map fun _ => v else l.lookup k' := by
  induction l with
  | nil => simp
  | cons e l ih =>
    obtain ⟨a, b⟩ := e
    simp only [List.map_cons]
    by_cases hak : a = k
    · subst hak
      by_cases hk' : k' = a
      · simp [hk']
      · simp [List.lookup_cons, beq_false_of_ne hk', ih, hk']
    · by_cases hk' : k' = k
      · subst hk'
        simp [List.lookup_cons, hak, beq_false_of_ne (Ne.symm hak), ih]
      · simp [List.lookup_cons, hak, ih, hk']

theorem get_set (m : OrderedMap κ α) (k k' : κ) (v : α) :
    (m.set k v).get k' = if k' = k then some v else m.get k' := by
  unfold set get
  dsimp only
  split_ifs with hc hk hk
  · subst hk
    obtain ⟨w, hw⟩ := Option.isSome_iff_exists.1 hc
    rw [get] at hw
    rw [lookup_replace, if_pos rfl, hw, Option.map_some]
  · rw [lookup_replace, if_neg hk]
  · subst hk
    rw [contains, Option.not_isSome_iff_eq_none, get] at hc
    simp [List.lookup_append, hc]
  · simp [List.lookup_append, List.lookup_cons, beq_false_of_ne hk]

/-- Which keys have a value depends on the keys only. -/
theorem contains_congr {m : OrderedMap κ α} {n : OrderedMap κ β} (h : m.keys = n.keys) (k : κ) :
    m.contains k = n.contains k := by
  have hiff : m.get k = none ↔ n.get k = none := by rw [get_eq_none_iff, get_eq_none_iff, h]
  rw [contains, contains, Bool.eq_iff_iff, Option.isSome_iff_ne_none, Option.isSome_iff_ne_none]
  exact not_congr hiff

theorem keys_set_of_contains {m : OrderedMap κ α} {k : κ} (h : m.contains k = true) (v : α) :
    (m.set k v).keys = m.keys := by
  unfold set keys
  dsimp only
  rw [if_pos h, List.map_map]
  refine List.map_congr_left fun e _ => ?_
  by_cases he : e.1 = k <;> simp [he]

/-- Elements with new and distinct keys are appended. -/
theorem entries_foldl_set {γ : Type w} (key : γ → κ) (val : γ → α) {l : List γ}
    (hl : (l.map key).Nodup) {m : OrderedMap κ α} (hm : ∀ c ∈ l, key c ∉ m.keys) :
    (l.foldl (fun m c => m.set (key c) (val c)) m).entries =
      m.entries ++ l.map fun c => (key c, val c) := by
  induction l generalizing m with
  | nil => simp
  | cons c l ih =>
    rw [List.map_cons, List.nodup_cons] at hl
    have hset : (m.set (key c) (val c)).entries = m.entries ++ [(key c, val c)] := by
      have hnew : ¬m.contains (key c) = true := by
        rw [contains, Option.not_isSome_iff_eq_none, get_eq_none_iff]
        exact hm c List.mem_cons_self
      exact if_neg hnew
    rw [List.foldl_cons, ih hl.2, hset, List.map_cons, List.append_assoc, List.singleton_append]
    intro c' hc' hmem
    rw [keys, hset, List.map_append, List.mem_append, List.map_singleton, List.mem_singleton] at hmem
    rcases hmem with hmem | heq
    · exact hm c' (List.mem_cons_of_mem _ hc') hmem
    · have hmem := List.mem_map_of_mem (f := key) hc'
      rw [heq] at hmem
      exact hl.1 hmem

/-- Maps with the same keys in the same order and the same values are equal. -/
theorem ext_of_keys {m n : OrderedMap κ α} (hk : m.keys = n.keys) (hg : ∀ k, m.get k = n.get k) :
    m = n := by
  ext1
  apply List.ext_getElem?
  intro i
  have hi : (m.entries[i]?).map Prod.fst = (n.entries[i]?).map Prod.fst := by
    rw [← List.getElem?_map, ← List.getElem?_map]
    exact congrArg (·[i]?) hk
  cases hm : m.entries[i]? with
  | none =>
    rw [hm, Option.map_none, eq_comm, Option.map_eq_none_iff] at hi
    exact hi.symm
  | some e =>
    rw [hm, Option.map_some, eq_comm, Option.map_eq_some_iff] at hi
    obtain ⟨e', he', hfst⟩ := hi
    have hv : m.get e.1 = some e.2 := (m.get_eq_some_iff ..).2 (List.mem_of_getElem? hm)
    have hv' : n.get e'.1 = some e'.2 := (n.get_eq_some_iff ..).2 (List.mem_of_getElem? he')
    rw [hg, ← hfst, hv'] at hv
    rw [he']
    exact congrArg some (Prod.ext hfst.symm (Option.some.inj hv).symm)

/-- Writing an entry for every element of a list leaves, under each key, what the last element with
that key was written as. -/
theorem get_foldl_set_key {γ : Type w} (key : γ → κ) (val : γ → α) (l : List γ)
    (m : OrderedMap κ α) (k : κ) :
    (l.foldl (fun acc x => acc.set (key x) (val x)) m).get k =
      ((l.filter fun x => key x = k).getLast?.map val).or (m.get k) := by
  induction l using List.reverseRecOn with
  | nil => simp
  | append_singleton l x ih =>
    rw [List.foldl_append, List.foldl_cons, List.foldl_nil, get_set, ih, List.filter_append]
    by_cases hk : key x = k
    · subst hk
      simp
    · simp [hk, Ne.symm hk]

/-! ## The entries of some keys, and the oldest of them -/

/-- The entries whose key meets a test. -/
def restrict (m : OrderedMap κ α) (p : κ → Bool) : OrderedMap κ α := m.filter fun k _ => p k

/-- The oldest entry. -/
def oldest (m : OrderedMap κ α) : Option (κ × α) := m.entries.head?

theorem get_restrict_eq_some {m : OrderedMap κ α} {p : κ → Bool} {k : κ} {v : α} :
    (m.restrict p).get k = some v ↔ m.get k = some v ∧ p k = true := by
  rw [restrict, get_filter, Option.filter_eq_some_iff]

omit [DecidableEq κ] in
theorem restrict_restrict (m : OrderedMap κ α) (p q : κ → Bool) :
    (m.restrict p).restrict q = (m.restrict q).restrict p := by
  ext1
  exact List.filter_comm ..

omit [DecidableEq κ] in
theorem restrict_eq_self {m : OrderedMap κ α} {p : κ → Bool} (h : ∀ e ∈ m.entries, p e.1 = true) :
    m.restrict p = m := by
  ext1
  exact List.filter_eq_self.2 h

theorem restrict_set_of_true (m : OrderedMap κ α) {p : κ → Bool} {k : κ} (hk : p k = true)
    (v : α) : (m.set k v).restrict p = (m.restrict p).set k v := by
  have hc : (m.restrict p).contains k = m.contains k := by
    rw [contains, contains, restrict, get_filter]
    cases m.get k <;> simp [Option.filter, hk]
  ext1
  change ((m.set k v).entries.filter fun e => p e.1) =
    if (m.restrict p).contains k then (m.restrict p).entries.map fun e => if e.1 = k then (k, v) else e
    else (m.restrict p).entries ++ [(k, v)]
  rw [hc]
  unfold set restrict filter
  dsimp only
  split_ifs
  · rw [List.filter_map]
    congr 1
    refine List.filter_congr fun e _ => ?_
    by_cases he : e.1 = k
    · simp [he]
    · simp [he]
  · simp [List.filter_append, hk]

theorem restrict_set_of_false (m : OrderedMap κ α) {p : κ → Bool} {k : κ} (hk : p k = false)
    (v : α) : (m.set k v).restrict p = m.restrict p := by
  ext1
  unfold set restrict filter
  dsimp only
  split_ifs
  · rw [List.filter_map]
    refine (List.map_congr_left fun e he => ?_).trans ((List.map_id _).trans ?_)
    · have hne : e.1 ≠ k := by
        rintro rfl
        simp [hk] at he
      simp [hne]
    · refine List.filter_congr fun e _ => ?_
      by_cases he : e.1 = k
      · simp [he]
      · simp [he]
  · simp [List.filter_append, hk]

theorem restrict_erase (m : OrderedMap κ α) (p : κ → Bool) (k : κ) :
    (m.erase k).restrict p = (m.restrict p).erase k :=
  restrict_restrict m (fun k' => k' ≠ k) p

theorem restrict_erase_of_false (m : OrderedMap κ α) {p : κ → Bool} {k : κ} (hk : p k = false) :
    (m.erase k).restrict p = m.restrict p := by
  rw [restrict_erase]
  refine restrict_eq_self fun e he => ?_
  have hne : e.1 ≠ k := by
    rintro rfl
    simp [restrict, filter, hk] at he
  simpa using hne

theorem erase_set_of_ne (m : OrderedMap κ α) {k k' : κ} (h : k ≠ k') (v : α) :
    (m.set k v).erase k' = (m.erase k').set k v :=
  m.restrict_set_of_true (by simpa using h) v

theorem erase_set_self (m : OrderedMap κ α) (k : κ) (v : α) : (m.set k v).erase k = m.erase k :=
  m.restrict_set_of_false (by simp) v

/-- Erasing a key that has no value changes nothing. -/
theorem erase_of_get_eq_none {m : OrderedMap κ α} {k : κ} (h : m.get k = none) : m.erase k = m :=
  restrict_eq_self fun _ he => decide_eq_true fun hk =>
    (m.get_eq_none_iff k).1 h (hk ▸ List.mem_map_of_mem he)

/-- Up to their order the entries are the written one and those of the other keys. -/
theorem entries_set_perm (m : OrderedMap κ α) (k : κ) (v : α) :
    (m.set k v).entries.Perm ((k, v) :: (m.erase k).entries) := by
  have hfresh : (k, v) ∉ (m.erase k).entries := fun hmem => by
    have hget := ((m.erase k).get_eq_some_iff k v).2 hmem
    rw [get_erase, if_pos rfl] at hget
    cases hget
  refine (List.perm_ext_iff_of_nodup (List.Nodup.of_map _ (m.set k v).nodup)
    (List.nodup_cons.2 ⟨hfresh, List.Nodup.of_map _ (m.erase k).nodup⟩)).2 fun e => ?_
  rw [List.mem_cons, ← get_eq_some_iff, ← get_eq_some_iff, get_set, get_erase]
  by_cases hk : e.1 = k
  · rw [if_pos hk, if_pos hk]
    constructor
    · exact fun h => .inl (Prod.ext hk (Option.some.inj h).symm)
    · rintro (rfl | h)
      · rfl
      · cases h
  · rw [if_neg hk, if_neg hk]
    constructor
    · exact .inr
    · rintro (rfl | h)
      · exact absurd rfl hk
      · exact h

theorem get_of_oldest {m : OrderedMap κ α} {e : κ × α} (h : m.oldest = some e) :
    m.get e.1 = some e.2 :=
  (m.get_eq_some_iff ..).2 (List.mem_of_mem_head? h)

theorem oldest_erase_ne {m : OrderedMap κ α} {k : κ} {e : κ × α} (h : (m.erase k).oldest = some e) :
    e.1 ≠ k := by
  rintro rfl
  have hget := get_of_oldest h
  rw [get_erase, if_pos rfl] at hget
  cases hget

/-- A map with one entry reads that entry only. -/
theorem get_unique {m : OrderedMap κ α} (hm : m.entries.length ≤ 1) {k k' : κ} {v v' : α}
    (h : m.get k = some v) (h' : m.get k' = some v') : k = k' ∧ v = v' := by
  rw [get_eq_some_iff] at h h'
  match hl : m.entries with
  | [] =>
    rw [hl] at h
    cases h
  | [e] =>
    rw [hl, List.mem_singleton] at h h'
    exact Prod.mk.inj (h.trans h'.symm)
  | _ :: _ :: _ => simp [hl] at hm

/-- A map whose only key is `k`. -/
theorem entries_eq_singleton {m : OrderedMap κ α} {k : κ} {v : α} (hk : m.get k = some v)
    (honly : ∀ k' v', m.get k' = some v' → k' = k) : m.entries = [(k, v)] := by
  have hall : ∀ e ∈ m.entries, e = (k, v) := fun e he => by
    have hget := (m.get_eq_some_iff e.1 e.2).2 he
    have hkey := honly e.1 e.2 hget
    rw [hkey, hk] at hget
    exact Prod.ext hkey (Option.some.inj hget).symm
  have hnodup := List.Nodup.of_map _ m.nodup
  have hmem : (k, v) ∈ m.entries := (m.get_eq_some_iff k v).1 hk
  cases hm : m.entries with
  | nil =>
    rw [hm] at hmem
    cases hmem
  | cons e l =>
    rw [hm] at hall hnodup
    cases l with
    | nil => rw [hall e List.mem_cons_self]
    | cons e' l =>
      have heq : e = e' := (hall e List.mem_cons_self).trans
        (hall e' (List.mem_cons_of_mem _ List.mem_cons_self)).symm
      exact absurd (heq ▸ List.mem_cons_self) (List.nodup_cons.1 hnodup).1

/-- A map with several entries has one whose key is not `k`. -/
theorem oldest_erase_isSome {m : OrderedMap κ α} (h : 1 < m.entries.length) (k : κ) :
    (m.erase k).oldest.isSome := by
  rw [oldest, List.isSome_head?]
  intro hnil
  have hall : ∀ k' ∈ m.entries.map Prod.fst, k' = k := by
    intro k' hk'
    obtain ⟨e, he, rfl⟩ := List.mem_map.1 hk'
    by_contra hne
    have hmem : e ∈ (m.erase k).entries := List.mem_filter.2 ⟨he, by simpa using hne⟩
    rw [hnil] at hmem
    cases hmem
  have hnodup := m.nodup
  rw [List.eq_replicate_of_mem hall, List.nodup_replicate, List.length_map] at hnodup
  omega

/-- An entry that is written is the oldest when its key was, or when there was none. -/
theorem oldest_set (m : OrderedMap κ α) (k : κ) (v : α) :
    (m.set k v).oldest = some ((m.oldest.map fun e => if e.1 = k then (k, v) else e).getD (k, v)) := by
  unfold oldest set
  dsimp only
  split_ifs with hc
  · cases hm : m.entries with
    | nil =>
      obtain ⟨w, hw⟩ := Option.isSome_iff_exists.1 hc
      rw [get_eq_some_iff, hm] at hw
      cases hw
    | cons e l => rfl
  · cases hm : m.entries with
    | nil => rfl
    | cons e l =>
      have hne : e.1 ≠ k := by
        rintro rfl
        have hget : m.get e.1 = some e.2 := (m.get_eq_some_iff ..).2 (by simp [hm])
        exact hc (by rw [contains, hget, Option.isSome_some])
      simp [hne]

/-! ## Merging -/

/-- Write every entry of `n` over `m`, as the object literal `{ ...m, ...n }` does. -/
def merge (m n : OrderedMap κ α) : OrderedMap κ α :=
  n.entries.foldl (fun acc e => acc.set e.1 e.2) m

/-- Write every entry of `n` that passes a test over `m`. -/
def mergeIf (p : κ → α → Bool) (m n : OrderedMap κ α) : OrderedMap κ α :=
  n.entries.foldl (fun acc e => if p e.1 e.2 then acc.set e.1 e.2 else acc) m

theorem get_foldl_set_if (p : κ → α → Bool) (l : List (κ × α)) (hl : (l.map Prod.fst).Nodup)
    (m : OrderedMap κ α) (k : κ) :
    (l.foldl (fun acc e => if p e.1 e.2 then acc.set e.1 e.2 else acc) m).get k =
      ((l.lookup k).filter (p k)).or (m.get k) := by
  induction l generalizing m with
  | nil => simp
  | cons e l ih =>
    rw [List.map_cons, List.nodup_cons] at hl
    rw [List.foldl_cons, ih hl.2, List.lookup_cons]
    by_cases hk : k = e.1
    · have hnone : l.lookup k = none := by
        cases hv : l.lookup k with
        | none => rfl
        | some v => exact absurd (List.mem_map_of_mem (mem_of_lookup hv)) (hk ▸ hl.1)
      by_cases hp : p e.1 e.2 = true
      · simp [hk ▸ hnone, hk, hp, get_set, Option.filter]
      · simp [hk ▸ hnone, hk, hp, Option.filter]
    · rw [beq_eq_false_iff_ne.2 hk]
      by_cases hp : p e.1 e.2 = true
      · rw [if_pos hp, get_set, if_neg hk]
      · rw [if_neg hp]

theorem get_mergeIf (p : κ → α → Bool) (m n : OrderedMap κ α) (k : κ) :
    (m.mergeIf p n).get k = ((n.get k).filter (p k)).or (m.get k) :=
  get_foldl_set_if p n.entries n.nodup m k

/-- Overwriting keys that are present leaves the keys as they are. -/
theorem keys_mergeIf {p : κ → α → Bool} {m n : OrderedMap κ α}
    (hp : ∀ k v, n.get k = some v → p k v = true → m.contains k = true) :
    (m.mergeIf p n).keys = m.keys := by
  have hfold : ∀ l : List (κ × α), (∀ e ∈ l, p e.1 e.2 = true → m.contains e.1 = true) →
      ∀ acc : OrderedMap κ α, acc.keys = m.keys →
      (l.foldl (fun acc e => if p e.1 e.2 then acc.set e.1 e.2 else acc) acc).keys = m.keys := by
    intro l hl
    induction l with
    | nil => exact fun _ h => h
    | cons e l ih =>
      intro acc hacc
      rw [List.foldl_cons]
      apply ih fun e' he' => hl e' (List.mem_cons_of_mem _ he')
      split_ifs with hpe
      · rw [keys_set_of_contains, hacc]
        rw [contains_congr hacc, hl e List.mem_cons_self hpe]
      · exact hacc
  exact hfold n.entries (fun e he => hp e.1 e.2 ((n.get_eq_some_iff ..).2 he)) m rfl

theorem get_foldl_set (l : List (κ × α)) (hl : (l.map Prod.fst).Nodup) (m : OrderedMap κ α)
    (k : κ) : (l.foldl (fun acc e => acc.set e.1 e.2) m).get k = (l.lookup k).or (m.get k) := by
  have h := get_foldl_set_if (fun _ _ => true) l hl m k
  simp only [if_true] at h
  rw [h]
  cases l.lookup k <;> rfl

theorem get_merge (m n : OrderedMap κ α) (k : κ) :
    (m.merge n).get k = (n.get k).or (m.get k) :=
  get_foldl_set n.entries n.nodup m k

theorem contains_merge_iff (m n : OrderedMap κ α) (k : κ) :
    (m.merge n).contains k ↔ n.contains k ∨ m.contains k := by
  rw [contains, get_merge, Option.isSome_or, Bool.or_eq_true]
  rfl

theorem contains_erase_iff (m : OrderedMap κ α) (k k' : κ) :
    (m.erase k).contains k' ↔ k' ≠ k ∧ m.contains k' := by
  rw [contains, get_erase]
  split_ifs with h
  · simp [h]
  · exact (and_iff_right h).symm

theorem contains_set_iff (m : OrderedMap κ α) (k k' : κ) (v : α) :
    (m.set k v).contains k' ↔ k' = k ∨ m.contains k' := by
  rw [contains, get_set]
  split_ifs with h
  · simp [h]
  · exact (or_iff_right h).symm

/-- Writing a value that a key already has changes nothing. -/
theorem set_eq_self {m : OrderedMap κ α} {k : κ} {v : α} (h : m.get k = some v) :
    m.set k v = m := by
  have hc : m.contains k = true := by rw [contains, h, Option.isSome_some]
  ext1
  unfold set
  dsimp only
  rw [if_pos hc]
  conv_rhs => rw [← List.map_id m.entries]
  refine List.map_congr_left fun e he => ?_
  split_ifs with hk
  · have hv : m.get e.1 = some e.2 := (m.get_eq_some_iff ..).2 he
    rw [hk, h] at hv
    rw [Option.some.inj hv, ← hk]
    rfl
  · rfl

/-- Up to their order the entries are what is stored under a key and those of the other keys. -/
theorem entries_perm_of_get {m : OrderedMap κ α} {k : κ} {v : α} (h : m.get k = some v) :
    m.entries.Perm ((k, v) :: (m.erase k).entries) := by
  have hset := m.entries_set_perm k v
  rwa [set_eq_self h] at hset

/-- Merging changes nothing exactly when every entry is there already. -/
theorem merge_eq_self_iff (m n : OrderedMap κ α) :
    m.merge n = m ↔ ∀ k v, n.get k = some v → m.get k = some v := by
  constructor
  · intro h k v hv
    rw [← h, get_merge, hv, Option.some_or]
  · intro h
    have hfold : ∀ l : List (κ × α), (∀ e ∈ l, m.get e.1 = some e.2) →
        l.foldl (fun acc e => acc.set e.1 e.2) m = m := by
      intro l hl
      induction l with
      | nil => rfl
      | cons e l ih =>
        rw [List.foldl_cons, set_eq_self (hl e List.mem_cons_self)]
        exact ih fun e' he' => hl e' (List.mem_cons_of_mem _ he')
    exact hfold n.entries fun e he => h e.1 e.2 ((n.get_eq_some_iff ..).2 he)

theorem merge_self (m : OrderedMap κ α) : m.merge m = m :=
  (merge_eq_self_iff m m).2 fun _ _ h => h

/-! ## Mapping and dropping values -/

/-- Map every value, dropping the entries whose image is `none`. -/
def filterMap (m : OrderedMap κ α) (f : α → Option β) : OrderedMap κ β :=
  ⟨m.entries.filterMap fun e => (f e.2).map fun v => (e.1, v), by
    refine m.nodup.sublist ?_
    induction m.entries with
    | nil => simp
    | cons e l ih =>
      cases hf : f e.2 with
      | none => simpa [hf] using ih.cons e.1
      | some v => simpa [hf] using ih.cons_cons e.1⟩

theorem get_filterMap (m : OrderedMap κ α) (f : α → Option β) (k : κ) :
    (m.filterMap f).get k = (m.get k).bind f := by
  ext v
  simp only [get_eq_some_iff, filterMap, List.mem_filterMap, Option.map_eq_some_iff,
    Prod.mk.injEq, Option.bind_eq_some_iff]
  constructor
  · rintro ⟨⟨k', a⟩, he, v', hv, rfl, rfl⟩
    exact ⟨a, he, hv⟩
  · rintro ⟨a, ha, hv⟩
    exact ⟨(k, a), ha, v, hv, rfl, rfl⟩

end OrderedMap
