import Mathlib.Data.List.DropRight
import StytchBrowser.Lib.FormDecoding

/-!
# Query strings written without encoding

A query that is put together from pairs as they are, and what the URL standard reads from a URL that
ends with it. What is read weighs less than the query by the separators, so that nothing may be lost
anywhere when the pairs come back, in whatever order: they come back exactly when every pair is read
as it is written (`readPairs_shown_perm_iff`).
-/

namespace FormUrlEncoded

/-! ### Weights of pairs -/

def pairWeight (p : String × String) : ℕ := weight p.1.toList + weight p.2.toList

def totalWeight (l : List (String × String)) : ℕ := (l.map pairWeight).sum

theorem totalWeight_append (l l' : List (String × String)) :
    totalWeight (l ++ l') = totalWeight l + totalWeight l' := by
  rw [totalWeight, List.map_append, List.sum_append, totalWeight, totalWeight]

theorem totalWeight_cons (p : String × String) (l : List (String × String)) :
    totalWeight (p :: l) = pairWeight p + totalWeight l := by
  rw [totalWeight, List.map_cons, List.sum_cons, totalWeight]

theorem weight_pos {cs : List Char} (h : cs ≠ []) : 0 < weight cs := by
  have := List.length_pos_iff.2 h
  unfold weight
  omega

theorem totalWeight_pos {p : String × String} (h : p.1 ≠ "") (l : List (String × String)) :
    0 < totalWeight (p :: l) := by
  have hname := weight_pos (mt String.toList_eq_nil_iff.1 h)
  rw [totalWeight_cons, pairWeight]
  omega

/-- A text without `=` is a name, any other one a name and a value with the first `=` between. -/
theorem takeWhile_eq_or (cs : List Char) :
    ('=' ∉ cs ∧ cs.takeWhile (· != '=') = cs ∧ (cs.dropWhile (· != '=')).drop 1 = []) ∨
      cs = cs.takeWhile (· != '=') ++ '=' :: (cs.dropWhile (· != '=')).drop 1 := by
  induction cs with
  | nil => exact Or.inl ⟨List.not_mem_nil, rfl, rfl⟩
  | cons c cs ih =>
    by_cases hc : c = '='
    · subst hc
      right
      simp
    · have hne : (c != '=') = true := bne_iff_ne.2 hc
      rw [List.takeWhile_cons, List.dropWhile_cons, if_pos hne, if_pos hne]
      rcases ih with ⟨hnot, ht, hd⟩ | ih
      · refine Or.inl ⟨?_, by rw [ht], hd⟩
        rw [List.mem_cons, not_or]
        exact ⟨Ne.symm hc, hnot⟩
      · right
        rw [List.cons_append, ← ih]

theorem weight_of_eq {cs : List Char} {name value : List Char} (h : cs = name ++ '=' :: value) :
    weight cs = weight name + weight value + 1 := by
  have he : weight ['='] = 1 := rfl
  rw [h, weight_append, weight_cons, he]
  omega

/-- What a piece is read as weighs less than the piece by the `=`. -/
theorem pairWeight_readPair_le (cs : List Char) :
    pairWeight (readPair cs) + (if '=' ∈ cs then 1 else 0) ≤ weight cs := by
  have hname := weight_read_le (cs.takeWhile (· != '='))
  have hvalue := weight_read_le ((cs.dropWhile (· != '=')).drop 1)
  unfold pairWeight readPair
  dsimp only
  rcases takeWhile_eq_or cs with ⟨hnot, ht, hd⟩ | heq
  · have hnil : weight [] = 0 := rfl
    rw [if_neg hnot]
    rw [ht] at hname ⊢
    rw [hd, hnil] at hvalue
    rw [hd]
    omega
  · have hw := weight_of_eq heq
    split_ifs <;> omega

/-- What a query is read as weighs less than the query by the separators. -/
theorem totalWeight_readPairs_le (cs : List Char) :
    totalWeight (readPairs cs) + cs.count '&' + (if '=' ∈ cs then 1 else 0) ≤ weight cs := by
  induction hn : cs.length using Nat.strong_induction_on generalizing cs with
  | _ n ih =>
    by_cases hamp : '&' ∈ cs
    · obtain ⟨as, bs, rfl⟩ := List.append_of_mem hamp
      rw [List.length_append, List.length_cons] at hn
      have has := ih as.length (by omega) as rfl
      have hbs := ih bs.length (by omega) bs rfl
      have hw : weight (as ++ '&' :: bs) = weight as + (1 + weight bs) := by
        rw [weight_append, weight_cons]
        rfl
      have hif : (if '=' ∈ as ++ '&' :: bs then 1 else 0) ≤
          (if '=' ∈ as then 1 else 0) + (if '=' ∈ bs then 1 else 0) := by
        by_cases h₁ : '=' ∈ as
        · rw [if_pos h₁]
          split_ifs <;> omega
        · by_cases h₂ : '=' ∈ bs
          · rw [if_pos h₂]
            split_ifs <;> omega
          · have h₃ : '=' ∉ as ++ '&' :: bs := by
              rw [List.mem_append, List.mem_cons, not_or, not_or]
              exact ⟨h₁, by decide, h₂⟩
            rw [if_neg h₃]
            omega
      rw [readPairs_append, totalWeight_append, hw, List.count_append, List.count_cons_self]
      omega
    · rw [List.count_eq_zero.2 hamp, readPairs_piece hamp]
      by_cases hnil : cs = []
      · rw [if_pos hnil, hnil]
        exact le_rfl
      · have h := pairWeight_readPair_le cs
        rw [if_neg hnil]
        have hone : totalWeight [readPair cs] = pairWeight (readPair cs) := List.sum_singleton
        rw [hone]
        omega

/-- A text with `=` that is read without loss is one verbatim pair. -/
theorem of_totalWeight_eq {cs : List Char} (he : '=' ∈ cs)
    (h : totalWeight (readPairs cs) + 1 = weight cs) :
    '&' ∉ cs ∧ Verbatim (cs.takeWhile (· != '=')) ∧
      Verbatim ((cs.dropWhile (· != '=')).drop 1) := by
  have hle := totalWeight_readPairs_le cs
  rw [if_pos he] at hle
  have hamp : '&' ∉ cs := List.count_eq_zero.1 (by omega)
  have hnil : cs ≠ [] := List.ne_nil_of_mem he
  have hone : totalWeight [readPair cs] = pairWeight (readPair cs) := List.sum_singleton
  rw [readPairs_piece hamp, if_neg hnil, hone] at h
  rcases takeWhile_eq_or cs with ⟨hnot, -⟩ | heq
  · exact absurd he hnot
  · have hw := weight_of_eq heq
    have hname := weight_read_le (cs.takeWhile (· != '='))
    have hvalue := weight_read_le ((cs.dropWhile (· != '=')).drop 1)
    unfold pairWeight readPair at h
    dsimp only at h
    refine ⟨hamp, (weight_read_eq_iff _).1 ?_, (weight_read_eq_iff _).1 ?_⟩
    · omega
    · omega

/-! ### Pairs written as they are -/

/-- `name=value`. -/
def rawPair (p : String × String) : List Char := p.1.toList ++ '=' :: p.2.toList

/-- The pairs with a `&` between any two. -/
def rawQuery (l : List (String × String)) : List Char := ['&'].intercalate (l.map rawPair)

/-- A C0 control or a space, which the URL parser removes at the ends. -/
def blank (c : Char) : Bool := c.toNat ≤ 0x20

/-- Tabs and line breaks are removed everywhere. -/
def kept (c : Char) : Bool := c != '\t' && c != '\n' && c != '\r'

/-- What the URL parser leaves of a query at the end of a URL. -/
def shown (cs : List Char) : List Char := ((cs.rdropWhile blank).filter kept).takeWhile (· != '#')

/-- The query of a URL. -/
def queryChars (cs : List Char) : List Char :=
  (((((cs.dropWhile blank).rdropWhile blank).filter kept).takeWhile (· != '#')).dropWhile
    (· != '?')).drop 1

/-- The parameters of a URL. The percent-encoding that the URL parser applies to a query is left out:
it is undone when the query is read. -/
def urlParams (url : String) : List (String × String) := parse (bytesOf (queryChars url.toList))

theorem rdropWhile_append {c : Char} (hc : blank c = false) (as bs : List Char) :
    (as ++ c :: bs).rdropWhile blank = as ++ c :: bs.rdropWhile blank := by
  induction bs using List.reverseRecOn with
  | nil =>
    rw [List.rdropWhile_concat_neg _ _ _ (by simp [hc])]
    rfl
  | append_singleton bs b ih =>
    have hassoc : as ++ c :: (bs ++ [b]) = (as ++ c :: bs) ++ [b] := by simp
    rw [hassoc, List.rdropWhile_concat, List.rdropWhile_concat]
    split_ifs with hb
    · exact ih
    · simp

theorem weight_le_of_sublist {cs ds : List Char} (h : cs.Sublist ds) : weight cs ≤ weight ds :=
  Nat.add_le_add h.length_le (h.count_le _)

theorem eq_of_weight {cs ds : List Char} (h : cs.Sublist ds) (hw : weight ds ≤ weight cs) : cs = ds := by
  have hcount := h.count_le '+'
  unfold weight at hw
  exact h.eq_of_length_le (by omega)

theorem not_mem_takeWhile (c : Char) (cs : List Char) : c ∉ cs.takeWhile (· != c) := by
  intro h
  have := List.mem_takeWhile_imp h
  rw [bne_self_eq_false] at this
  exact Bool.false_ne_true this

theorem takeWhile_append_of_mem {c : Char} {cs : List Char} (h : c ∈ cs) (ds : List Char) :
    (cs ++ ds).takeWhile (· != c) = cs.takeWhile (· != c) := by
  rw [List.takeWhile_append, if_neg]
  intro hlen
  have hall := (List.takeWhile_sublist (· != c)).eq_of_length hlen
  exact not_mem_takeWhile c cs (hall.symm ▸ h)

theorem takeWhile_append_of_notMem {c : Char} {cs : List Char} (h : c ∉ cs) (ds : List Char) :
    (cs ++ ds).takeWhile (· != c) = cs ++ ds.takeWhile (· != c) := by
  refine List.takeWhile_append_of_pos fun d hd => bne_iff_ne.2 ?_
  rintro rfl
  exact h hd

theorem weight_rawPair (p : String × String) : weight (rawPair p) = pairWeight p + 1 :=
  weight_of_eq rfl

/-- What is left of a pair, its value perhaps shortened, is read as something of at most its weight,
and of its weight only when everything is left. -/
theorem totalWeight_left_le {p : String × String} {value : List Char}
    (hv : value.Sublist p.2.toList) :
    totalWeight (readPairs (((p.1.toList ++ '=' :: value).filter kept).takeWhile (· != '#'))) ≤
        pairWeight p ∧
      (pairWeight p ≤ totalWeight
          (readPairs (((p.1.toList ++ '=' :: value).filter kept).takeWhile (· != '#'))) →
        ((p.1.toList ++ '=' :: value).filter kept).takeWhile (· != '#') = rawPair p) := by
  have hsplit : (p.1.toList ++ '=' :: value).filter kept =
      p.1.toList.filter kept ++ '=' :: value.filter kept := by
    rw [List.filter_append, List.filter_cons_of_pos (by decide)]
  rw [hsplit]
  by_cases hnum : '#' ∈ p.1.toList.filter kept
  · -- The name is cut, so that the separator is gone and the `#` as well.
    have hsub : ((p.1.toList.filter kept).takeWhile (· != '#')).Sublist p.1.toList :=
      (List.takeWhile_sublist _).trans List.filter_sublist
    have hlt : weight ((p.1.toList.filter kept).takeWhile (· != '#')) < weight p.1.toList := by
      refine lt_of_le_of_ne (weight_le_of_sublist hsub) fun hw => ?_
      have heq := eq_of_weight hsub hw.ge
      exact not_mem_takeWhile '#' _ (heq.symm ▸ List.mem_of_mem_filter hnum)
    have hle := totalWeight_readPairs_le ((p.1.toList.filter kept).takeWhile (· != '#'))
    rw [takeWhile_append_of_mem hnum]
    unfold pairWeight
    refine ⟨by omega, fun h => by omega⟩
  · have hpass : (p.1.toList.filter kept ++ '=' :: value.filter kept).takeWhile (· != '#') =
        p.1.toList.filter kept ++ '=' :: (value.filter kept).takeWhile (· != '#') := by
      rw [takeWhile_append_of_notMem hnum, List.takeWhile_cons_of_pos (by decide)]
    have hsub : (p.1.toList.filter kept ++ '=' :: (value.filter kept).takeWhile (· != '#')).Sublist
        (rawPair p) := by
      refine List.filter_sublist.append (List.Sublist.cons_cons _ ?_)
      exact (List.takeWhile_sublist _).trans (List.filter_sublist.trans hv)
    have hle := totalWeight_readPairs_le
      (p.1.toList.filter kept ++ '=' :: (value.filter kept).takeWhile (· != '#'))
    have hmem : '=' ∈ p.1.toList.filter kept ++ '=' :: (value.filter kept).takeWhile (· != '#') := by
      simp
    have hw := weight_le_of_sublist hsub
    rw [if_pos hmem] at hle
    rw [weight_rawPair] at hw
    rw [hpass]
    refine ⟨by omega, fun h => eq_of_weight hsub ?_⟩
    rw [weight_rawPair]
    omega

theorem rawQuery_cons_cons (p q : String × String) (l : List (String × String)) :
    rawQuery (p :: q :: l) = rawPair p ++ '&' :: rawQuery (q :: l) := by
  rw [rawQuery, List.map_cons, List.map_cons, List.intercalate_cons_cons, List.append_assoc]
  rfl

theorem rawQuery_singleton (p : String × String) : rawQuery [p] = rawPair p := by
  rw [rawQuery, List.map_singleton, List.intercalate_singleton]

/-- A pair that the URL parser leaves as it is and that is read without loss. -/
def Whole (p : String × String) : Prop :=
  ((rawPair p).filter kept).takeWhile (· != '#') = rawPair p ∧
    pairWeight p ≤ totalWeight (readPairs (rawPair p))

theorem shown_rawQuery_cons (p q : String × String) (l : List (String × String)) :
    shown (rawQuery (p :: q :: l)) =
      if '#' ∈ (rawPair p).filter kept then ((rawPair p).filter kept).takeWhile (· != '#')
      else (rawPair p).filter kept ++ '&' :: shown (rawQuery (q :: l)) := by
  have hamp : kept '&' = true := rfl
  rw [shown, rawQuery_cons_cons, rdropWhile_append (by decide), List.filter_append,
    List.filter_cons_of_pos hamp]
  split_ifs with h
  · exact takeWhile_append_of_mem h _
  · rw [takeWhile_append_of_notMem h, List.takeWhile_cons_of_pos (by decide), shown]

theorem totalWeight_shown_singleton_le (p : String × String) :
    totalWeight (readPairs (shown (rawQuery [p]))) ≤ pairWeight p ∧
      (pairWeight p ≤ totalWeight (readPairs (shown (rawQuery [p]))) →
        shown (rawQuery [p]) = rawQuery [p] ∧ Whole p) := by
  have hshown : shown (rawQuery [p]) =
      ((p.1.toList ++ '=' :: p.2.toList.rdropWhile blank).filter kept).takeWhile (· != '#') := by
    rw [shown, rawQuery_singleton, rawPair, rdropWhile_append (by decide)]
  obtain ⟨hle, heq⟩ := totalWeight_left_le (p := p) (List.rdropWhile_prefix blank p.2.toList).sublist
  rw [hshown]
  refine ⟨hle, fun h => ?_⟩
  have hall := heq h
  rw [hall, rawQuery_singleton]
  refine ⟨rfl, ?_, ?_⟩
  · -- The value was not shortened either, for nothing is missing.
    have hsub : (p.1.toList ++ '=' :: p.2.toList.rdropWhile blank).Sublist (rawPair p) :=
      (List.Sublist.refl _).append
        (List.Sublist.cons_cons _ (List.rdropWhile_prefix blank p.2.toList).sublist)
    have hback : (rawPair p).Sublist (p.1.toList ++ '=' :: p.2.toList.rdropWhile blank) := by
      conv_lhs => rw [← hall]
      exact (List.takeWhile_sublist _).trans List.filter_sublist
    rw [hsub.antisymm hback] at hall
    exact hall
  · rwa [hall] at h

theorem totalWeight_shown_le (l : List (String × String)) (hl : ∀ p ∈ l, p.1 ≠ "") (hne : l ≠ []) :
    totalWeight (readPairs (shown (rawQuery l))) ≤ totalWeight l ∧
      (totalWeight l ≤ totalWeight (readPairs (shown (rawQuery l))) →
        shown (rawQuery l) = rawQuery l ∧ ∀ p ∈ l, Whole p) := by
  match l with
  | [] => exact absurd rfl hne
  | [p] =>
    have hone : totalWeight [p] = pairWeight p := List.sum_singleton
    rw [hone, List.forall_mem_singleton]
    exact totalWeight_shown_singleton_le p
  | p :: q :: l =>
    have ih := totalWeight_shown_le (q :: l) (fun r hr => hl r (List.mem_cons_of_mem _ hr))
      (List.cons_ne_nil _ _)
    have hpos := totalWeight_pos (hl q (List.mem_cons_of_mem _ List.mem_cons_self)) l
    obtain ⟨hle, heq⟩ := totalWeight_left_le (p := p) (List.Sublist.refl p.2.toList)
    rw [← rawPair] at hle heq
    rw [totalWeight_cons, shown_rawQuery_cons]
    split_ifs with hnum
    · exact ⟨by omega, fun h => by omega⟩
    · have htake : ((rawPair p).filter kept).takeWhile (· != '#') = (rawPair p).filter kept := by
        have h := takeWhile_append_of_notMem hnum []
        rwa [List.takeWhile_nil, List.append_nil] at h
      rw [readPairs_append, totalWeight_append]
      rw [htake] at hle heq
      refine ⟨by omega, fun h => ?_⟩
      obtain ⟨hq, hwhole⟩ := ih.2 (by omega)
      have hall := heq (by omega)
      rw [hall, hq, rawQuery_cons_cons, List.forall_mem_cons]
      refine ⟨rfl, ⟨htake.trans hall, ?_⟩, hwhole⟩
      rw [hall, hq] at h
      have hrest := ih.1
      rw [hq] at hrest
      omega

/-- A pair that is read as it is written. -/
structure Plain (p : String × String) : Prop where
  chars : ∀ c ∈ rawPair p, c ≠ '&' ∧ c ≠ '#' ∧ kept c = true
  name : '=' ∉ p.1.toList
  verbatim_name : Verbatim p.1.toList
  verbatim_value : Verbatim p.2.toList

theorem takeWhile_rawPair {p : String × String} (h : '=' ∉ p.1.toList) :
    (rawPair p).takeWhile (· != '=') = p.1.toList ∧
      ((rawPair p).dropWhile (· != '=')).drop 1 = p.2.toList := by
  have hne : ∀ c ∈ p.1.toList, (c != '=') = true := by
    intro c hc
    refine bne_iff_ne.2 ?_
    rintro rfl
    exact h hc
  rw [rawPair, List.takeWhile_append_of_pos hne, List.dropWhile_append_of_pos hne]
  constructor
  · rw [List.takeWhile_cons_of_neg (by decide), List.append_nil]
  · rw [List.dropWhile_cons_of_neg (by decide)]
    rfl

theorem read_of_verbatim {s : String} (h : Verbatim s.toList) : read s.toList = s :=
  String.toList_inj.1 (toList_read_of_verbatim h)

theorem Plain.readPair {p : String × String} (h : Plain p) : readPair (rawPair p) = p := by
  obtain ⟨ht, hd⟩ := takeWhile_rawPair h.name
  rw [FormUrlEncoded.readPair, ht, hd, read_of_verbatim h.verbatim_name,
    read_of_verbatim h.verbatim_value]

theorem equals_mem_rawPair (p : String × String) : '=' ∈ rawPair p :=
  List.mem_append_right _ List.mem_cons_self

theorem readPairs_rawQuery {l : List (String × String)} (hne : l ≠ [])
    (h : ∀ p ∈ l, '&' ∉ rawPair p) :
    readPairs (rawQuery l) = l.map fun p => readPair (rawPair p) := by
  have hpair : ∀ p : String × String, '&' ∉ rawPair p →
      readPairs (rawPair p) = [readPair (rawPair p)] := by
    intro p hp
    rw [readPairs_piece hp, if_neg (List.ne_nil_of_mem (equals_mem_rawPair p))]
  match l with
  | [] => exact absurd rfl hne
  | [p] =>
    rw [rawQuery_singleton, hpair p (h p List.mem_cons_self)]
    rfl
  | p :: q :: l =>
    rw [rawQuery_cons_cons, readPairs_append, hpair p (h p List.mem_cons_self),
      readPairs_rawQuery (List.cons_ne_nil _ _) fun r hr => h r (List.mem_cons_of_mem _ hr)]
    rfl

theorem mem_rawQuery {l : List (String × String)} {c : Char} (h : c ∈ rawQuery l) :
    c = '&' ∨ ∃ p ∈ l, c ∈ rawPair p := by
  match l with
  | [] => cases h
  | [p] =>
    rw [rawQuery_singleton] at h
    exact Or.inr ⟨p, List.mem_cons_self, h⟩
  | p :: q :: l =>
    rw [rawQuery_cons_cons, List.mem_append, List.mem_cons] at h
    rcases h with h | h | h
    · exact Or.inr ⟨p, List.mem_cons_self, h⟩
    · exact Or.inl h
    · refine (mem_rawQuery h).imp_right ?_
      rintro ⟨r, hr, hc⟩
      exact ⟨r, List.mem_cons_of_mem _ hr, hc⟩

/-- What a whole pair looks like, but for a `=` in its name. -/
theorem Whole.chars {p : String × String} (h : Whole p) :
    (∀ c ∈ rawPair p, c ≠ '&' ∧ c ≠ '#' ∧ kept c = true) ∧
      Verbatim ((rawPair p).takeWhile (· != '=')) ∧
      Verbatim (((rawPair p).dropWhile (· != '=')).drop 1) := by
  obtain ⟨hleft, hw⟩ := h
  have hle := totalWeight_readPairs_le (rawPair p)
  rw [if_pos (equals_mem_rawPair p), weight_rawPair] at hle
  obtain ⟨hamp, hname, hvalue⟩ := of_totalWeight_eq (equals_mem_rawPair p) (by
    rw [weight_rawPair]
    omega)
  refine ⟨fun c hc => ⟨?_, ?_, ?_⟩, hname, hvalue⟩
  · rintro rfl
    exact hamp hc
  · rintro rfl
    rw [← hleft] at hc
    exact not_mem_takeWhile _ _ hc
  · rw [← hleft] at hc
    exact (List.mem_filter.1 ((List.takeWhile_subset _) hc)).2

/-- Pairs written one after the other are read as these pairs exactly when each of them is read as it
is written and the query does not end with a blank. -/
theorem readPairs_shown_perm_iff {l : List (String × String)} (hl : ∀ p ∈ l, p.1 ≠ "")
    (hne : l ≠ []) :
    (readPairs (shown (rawQuery l))).Perm l ↔
      (∀ p ∈ l, Plain p) ∧ (rawQuery l).rdropWhile blank = rawQuery l := by
  constructor
  · intro h
    have hw : totalWeight (readPairs (shown (rawQuery l))) = totalWeight l :=
      (h.map pairWeight).sum_eq
    obtain ⟨hshown, hwhole⟩ := (totalWeight_shown_le l hl hne).2 hw.ge
    have hamp : ∀ p ∈ l, '&' ∉ rawPair p := fun p hp hc =>
      ((hwhole p hp).chars.1 _ hc).1 rfl
    rw [hshown, readPairs_rawQuery hne hamp] at h
    -- Every name is one that was read, and no such name contains a `=`.
    have hname : ∀ p ∈ l, '=' ∉ p.1.toList := by
      intro p hp
      obtain ⟨q, hq, rfl⟩ := List.mem_map.1 (h.mem_iff.2 hp)
      show '=' ∉ (read _).toList
      rw [toList_read_of_verbatim (hwhole q hq).chars.2.1]
      exact not_mem_takeWhile _ _
    constructor
    · intro p hp
      obtain ⟨hchars, hv, hv'⟩ := (hwhole p hp).chars
      obtain ⟨ht, hd⟩ := takeWhile_rawPair (hname p hp)
      rw [ht] at hv
      rw [hd] at hv'
      exact ⟨hchars, hname p hp, hv, hv'⟩
    · have hback : (rawQuery l).Sublist ((rawQuery l).rdropWhile blank) := by
        conv_lhs => rw [← hshown]
        exact (List.takeWhile_sublist _).trans List.filter_sublist
      exact (List.rdropWhile_prefix blank _).sublist.antisymm hback
  · rintro ⟨hplain, hblank⟩
    have hmem : ∀ c ∈ rawQuery l, kept c = true ∧ c ≠ '#' := by
      intro c hc
      rcases mem_rawQuery hc with rfl | ⟨p, hp, hcp⟩
      · exact ⟨rfl, by decide⟩
      · obtain ⟨-, hnum, hkept⟩ := (hplain p hp).chars c hcp
        exact ⟨hkept, hnum⟩
    have hshown : shown (rawQuery l) = rawQuery l := by
      rw [shown, hblank, List.filter_eq_self.2 fun c hc => (hmem c hc).1]
      exact List.takeWhile_eq_self_iff.2 fun c hc => bne_iff_ne.2 (hmem c hc).2
    have hamp : ∀ p ∈ l, '&' ∉ rawPair p := fun p hp hc => ((hplain p hp).chars _ hc).1 rfl
    rw [hshown, readPairs_rawQuery hne hamp]
    have hid : (l.map fun p => readPair (rawPair p)) = l :=
      (List.map_congr_left fun p hp => (hplain p hp).readPair).trans (List.map_id _)
    rw [hid]

/-- The query of a URL is what stands behind the first `?`. -/
theorem queryChars_append {before : List Char} (hq : '?' ∉ before) (hn : '#' ∉ before)
    (query : List Char) : queryChars (before ++ '?' :: query) = shown query := by
  have hdrop : (before ++ '?' :: query).dropWhile blank = before.dropWhile blank ++ '?' :: query := by
    rw [List.dropWhile_append]
    split_ifs with hnil
    · rw [List.isEmpty_iff.1 hnil, List.dropWhile_cons_of_neg (by decide)]
      rfl
    · rfl
  have hsub : ∀ c ∈ (before.dropWhile blank).filter kept, c ∈ before := fun c hc =>
    (List.dropWhile_suffix blank).subset (List.mem_of_mem_filter hc)
  have hquestion : kept '?' = true := rfl
  rw [queryChars, hdrop, rdropWhile_append (by decide), List.filter_append,
    List.filter_cons_of_pos hquestion, takeWhile_append_of_notMem fun h => hn (hsub _ h),
    List.takeWhile_cons_of_pos (by decide), List.dropWhile_append_of_pos, shown]
  · rw [List.dropWhile_cons_of_neg (by decide)]
    rfl
  · intro c hc
    refine bne_iff_ne.2 ?_
    rintro rfl
    exact hq (hsub _ hc)

end FormUrlEncoded
