import StytchBrowser.Lib.InsertionOrder
import StytchBrowser.Lib.Separators
import StytchBrowser.ReactNative.B2BUI.State

/-!
# `generateProductComponentsOrdering` of React Native

The components of the login screen: every product is mapped to a component, the components are put
into a set and dividers are added around the inputs. `generateProductComponentsOrdering_eq` reads the
result off the mapped list: the insertion of the combined component changes nothing, and there is at
most one input.
-/

namespace StytchBrowser.ReactNative.B2B

open InsertionOrder Separators

inductive B2BProducts where
  | emailMagicLinks
  | emailOtp
  | sso
  | passwords
  | oauth
  deriving DecidableEq

inductive Component where
  | EmailForm
  | EmailDiscoveryForm
  | OAuthButtons
  | SSOButtons
  | PasswordsEmailForm
  | PasswordEmailCombined
  | PasswordEmailCombinedDiscovery
  | Divider
  deriving DecidableEq

/-- The organization of the login screen, with the fields that its components depend on. -/
structure OrganizationBySlugMatch where
  ssoActiveConnections : Option (List Json)
  authMethods : String
  allowedAuthMethods : Option (List String)

/-- `organization?.sso_active_connections?.length ?? 0`. -/
def activeConnections (organization : Option OrganizationBySlugMatch) : ℕ :=
  ((organization.bind (·.ssoActiveConnections)).map List.length).getD 0

/-- A member of the enumeration as a condition: it is a string that is not empty. -/
def AuthFlowType.truthy : AuthFlowType → Bool
  | .Discovery | .Organization | .PasswordReset => true

def displayEmailAndPasswordsTogether (products : List B2BProducts) : Bool :=
  (products.contains .emailMagicLinks || products.contains .emailOtp) && products.contains .passwords

def emailPasswordCombinedComponent (flowStateType : AuthFlowType) : Component :=
  if flowStateType = .Organization then .PasswordEmailCombined else .PasswordEmailCombinedDiscovery

/-- The component for a product, if one is shown. -/
def productComponent (products : List B2BProducts) (flowStateType : AuthFlowType)
    (organization : Option OrganizationBySlugMatch) : B2BProducts → Option Component
  | .emailMagicLinks | .emailOtp =>
      if displayEmailAndPasswordsTogether products then
        some (emailPasswordCombinedComponent flowStateType)
      else some (if flowStateType = .Organization then .EmailForm else .EmailDiscoveryForm)
  | .oauth => some .OAuthButtons
  | .sso =>
      let isSsoValid := decide (activeConnections organization > 0)
      -- the second condition is the constant, not a comparison of `flowStateType` with it
      if flowStateType = .Discovery || (AuthFlowType.Organization.truthy && isSsoValid) then
        some .SSOButtons
      else none
  | .passwords =>
      if displayEmailAndPasswordsTogether products then
        some (emailPasswordCombinedComponent flowStateType)
      else some .PasswordsEmailForm

/-- `list.indexOf(a)`. -/
def indexOf {α : Type} [DecidableEq α] (list : List α) (a : α) : ℤ :=
  if a ∈ list then list.idxOf a else -1

/-- `list.splice(start, 0, a)`: a negative position counts from the end. -/
def splice {α : Type} (list : List α) (start : ℤ) (a : α) : List α :=
  let n := if start < 0 then (list.length + start).toNat else min start.toNat list.length
  list.take n ++ a :: list.drop n

def shouldAddDivider : Component → Bool
  | .EmailForm | .EmailDiscoveryForm | .PasswordsEmailForm | .PasswordEmailCombined
  | .PasswordEmailCombinedDiscovery => true
  | .OAuthButtons | .SSOButtons | .Divider => false

/-- What the loop pushes for one component of `length`. -/
def withDividers (length : ℕ) (component : Component) (index : ℕ) : List Component :=
  (if shouldAddDivider component && index > 0 then [.Divider] else []) ++ component ::
    (if shouldAddDivider component && index < length - 1 then [.Divider] else [])

def generateProductComponentsOrdering (products : List B2BProducts) (flowStateType : AuthFlowType)
    (organization : Option OrganizationBySlugMatch) : List Component :=
  let components := products.filterMap (productComponent products flowStateType organization)
  let components :=
    if displayEmailAndPasswordsTogether products then
      let firstEmailIndex := min (indexOf products .emailMagicLinks) (indexOf products .emailOtp)
      let firstProductIndex := min (indexOf products .passwords) firstEmailIndex
      splice components firstProductIndex (emailPasswordCombinedComponent flowStateType)
    else components
  let uniqueProductComponents := ofList components
  if uniqueProductComponents.length > 1 then
    uniqueProductComponents.zipIdx.flatMap fun entry =>
      withDividers uniqueProductComponents.length entry.1 entry.2
  else uniqueProductComponents

/-! ## The components of a screen -/

/-- The components that consist of buttons. -/
def Component.isButton : Component → Bool
  | .OAuthButtons | .SSOButtons => true
  | _ => false

/-- A login screen for a list of products: the components of the products, each once and in the order
of the first products that they stand for, and dividers between buttons and inputs. -/
structure Ordered (component : B2BProducts → Option Component) (products : List B2BProducts)
    (screen : List Component) : Prop where
  shown : ∀ c, c ≠ .Divider → (c ∈ screen ↔ ∃ p ∈ products, component p = some c)
  order : (screen.filter (· ≠ .Divider)).Pairwise fun a b =>
    products.findIdx (component · = some a) < products.findIdx (component · = some b)
  dividers : Separated Component.isButton .Divider screen

theorem ordered_separate {component : B2BProducts → Option Component} {products : List B2BProducts}
    (h : ∀ p, component p ≠ some .Divider) :
    Ordered component products
      (separate Component.isButton .Divider (ofList (products.filterMap component))) := by
  have hdivider : Component.Divider ∉ ofList (products.filterMap component) := fun hmem => by
    obtain ⟨p, -, hp⟩ := List.mem_filterMap.1 (mem_ofList.1 hmem)
    exact h p hp
  have hfilter := filter_separate Component.isButton hdivider
  refine ⟨fun c hc => ?_, ?_, separated_separate hdivider⟩
  · have hmem : c ∈ separate Component.isButton .Divider (ofList (products.filterMap component)) ↔
        c ∈ ofList (products.filterMap component) := by
      conv_rhs => rw [← hfilter]
      simp [hc]
    rw [hmem, mem_ofList, List.mem_filterMap]
  · rw [hfilter]
    exact (pairwise_ofList _).imp fun hlt => findIdx_lt_of_idxOf_filterMap_lt component hlt

/-! ## What the loops compute -/

theorem neg_one_le_indexOf {α : Type} [DecidableEq α] (l : List α) (a : α) : -1 ≤ indexOf l a := by
  unfold indexOf
  split_ifs <;> omega

/-- Putting a member in after its first occurrence, or before the last element, adds nothing. -/
theorem ofList_splice {l : List Component} {c : Component} {start : ℤ} (hc : c ∈ l)
    (hstart : start = -1 ∨ (l.idxOf c : ℤ) ≤ start) : ofList (splice l start c) = ofList l := by
  have hlt := List.idxOf_lt_length_of_mem hc
  unfold splice
  split_ifs with hneg
  · exact ofList_insert (by omega) hc
  · refine ofList_insert (Nat.le_min.2 ⟨?_, Nat.le_of_lt hlt⟩) hc
    omega

/-- The combined component stands where its first product does, or there is none of its email
products and the index is `-1`. -/
theorem firstProductIndex_spec {f : B2BProducts → Option Component} {products : List B2BProducts}
    {c : Component} (hc : ∀ p ∈ products, p = .emailMagicLinks ∨ p = .emailOtp ∨ p = .passwords →
      f p = some c) :
    let start := min (indexOf products .passwords)
      (min (indexOf products .emailMagicLinks) (indexOf products .emailOtp))
    start = -1 ∨ ((products.filterMap f).idxOf c : ℤ) ≤ start := by
  intro start
  by_cases hall : .passwords ∈ products ∧ .emailMagicLinks ∈ products ∧ .emailOtp ∈ products
  · obtain ⟨hp, hm, ho⟩ := hall
    right
    have h₁ := idxOf_filterMap_le f (hc _ hp (.inr (.inr rfl))) hp
    have h₂ := idxOf_filterMap_le f (hc _ hm (.inl rfl)) hm
    have h₃ := idxOf_filterMap_le f (hc _ ho (.inr (.inl rfl))) ho
    simp only [start, indexOf, if_pos hp, if_pos hm, if_pos ho]
    omega
  · left
    have h₁ := neg_one_le_indexOf products .passwords
    have h₂ := neg_one_le_indexOf products .emailMagicLinks
    have h₃ := neg_one_le_indexOf products .emailOtp
    have hmissing : indexOf products .passwords = -1 ∨ indexOf products .emailMagicLinks = -1 ∨
        indexOf products .emailOtp = -1 := by
      by_contra hnot
      simp only [indexOf, not_or] at hnot
      grind
    omega

theorem shouldAddDivider_eq {c : Component} (hc : c ≠ .Divider) : shouldAddDivider c = !c.isButton := by
  cases c <;> first | rfl | exact absurd rfl hc

/-- Of two neighbours one is a button: the divider after the one or before the other. -/
theorem divider_eq_gap {a b : Component} (ha : a ≠ .Divider) (hb : b ≠ .Divider)
    (h : a.isButton = true ∨ b.isButton = true) :
    (if shouldAddDivider a then [Component.Divider] else []) ++
      (if shouldAddDivider b then [.Divider] else []) = gap Component.isButton .Divider a b := by
  rw [shouldAddDivider_eq ha, shouldAddDivider_eq hb]
  unfold gap
  rcases h with h | h
  · cases b.isButton <;> rw [h] <;> rfl
  · cases a.isButton <;> rw [h] <;> rfl

/-- At most one component of a screen is an input. -/
def OneInput (l : List Component) : Prop :=
  l.Pairwise fun a b => a.isButton = true ∨ b.isButton = true

/-- The dividers before and after the one input are those between inputs and buttons. -/
theorem flatMap_withDividers {l : List Component} (hd : .Divider ∉ l) (h : OneInput l) (n : ℕ)
    (c : Component) (hl : l.head? = some c) :
    ((l.zipIdx n).flatMap fun entry => withDividers (n + l.length) entry.1 entry.2) =
      (if shouldAddDivider c && n > 0 then [.Divider] else []) ++
        separate Component.isButton .Divider l := by
  induction l generalizing n c with
  | nil => cases hl
  | cons a l ih =>
    obtain rfl : a = c := Option.some.inj hl
    obtain ⟨ha, hd⟩ := List.ne_and_not_mem_of_not_mem_cons hd
    obtain ⟨hone, htail⟩ := List.pairwise_cons.1 h
    rw [List.zipIdx_cons, List.flatMap_cons]
    cases l with
    | nil => simp [withDividers]
    | cons b l =>
      have hrest := ih hd htail (n + 1) b rfl
      have hb : b ≠ .Divider := fun e => hd (e ▸ List.mem_cons_self)
      have hlen : n + (a :: b :: l).length = n + 1 + (b :: l).length := by
        rw [List.length_cons]
        omega
      have hlast : n < n + 1 + (b :: l).length - 1 := by
        rw [List.length_cons]
        omega
      rw [hlen, hrest, separate_cons_cons,
        ← divider_eq_gap ha.symm hb (hone b List.mem_cons_self)]
      simp only [withDividers, hlast, Nat.zero_lt_succ, gt_iff_lt, decide_true, Bool.and_true,
        List.append_assoc, List.cons_append]

theorem productComponent_ne_divider (products : List B2BProducts) (flowStateType : AuthFlowType)
    (organization : Option OrganizationBySlugMatch) (p : B2BProducts) :
    productComponent products flowStateType organization p ≠ some .Divider := by
  unfold productComponent emailPasswordCombinedComponent
  cases p with
  | oauth => simp
  | emailMagicLinks | emailOtp | sso | passwords =>
    dsimp only
    split_ifs <;> decide

theorem displayEmailAndPasswordsTogether_of_mem {products : List B2BProducts} {p : B2BProducts}
    (hp : p ∈ products) (hemail : p = .emailMagicLinks ∨ p = .emailOtp)
    (hpasswords : .passwords ∈ products) : displayEmailAndPasswordsTogether products = true := by
  unfold displayEmailAndPasswordsTogether
  rcases hemail with rfl | rfl <;> simp [hp, hpasswords]

/-- The component of a product that is an input. -/
theorem productComponent_input {products : List B2BProducts} {flowStateType : AuthFlowType}
    {organization : Option OrganizationBySlugMatch} {p : B2BProducts} {a : Component}
    (ha : productComponent products flowStateType organization p = some a)
    (hinput : a.isButton = false) :
    (p = .emailMagicLinks ∨ p = .emailOtp) ∧
        productComponent products flowStateType organization .emailOtp = some a ∨
      p = .passwords := by
  cases p with
  | emailMagicLinks => exact .inl ⟨.inl rfl, ha⟩
  | emailOtp => exact .inl ⟨.inr rfl, ha⟩
  | passwords => exact .inr rfl
  | oauth =>
    obtain rfl := Option.some.inj ha
    exact absurd hinput (by decide)
  | sso =>
    simp only [productComponent] at ha
    split_ifs at ha with hshown
    obtain rfl := Option.some.inj ha
    exact absurd hinput (by decide)

/-- The inputs of the products of a screen are one and the same. -/
theorem productComponent_input_unique {products : List B2BProducts} {flowStateType : AuthFlowType}
    {organization : Option OrganizationBySlugMatch} {p q : B2BProducts} {a b : Component}
    (hp : p ∈ products) (hq : q ∈ products)
    (ha : productComponent products flowStateType organization p = some a)
    (hb : productComponent products flowStateType organization q = some b)
    (hia : a.isButton = false) (hib : b.isButton = false) : a = b := by
  -- with an email product and passwords both have the combined component
  have hmixed : ∀ {p : B2BProducts}, p ∈ products → (p = .emailMagicLinks ∨ p = .emailOtp) →
      .passwords ∈ products → productComponent products flowStateType organization .emailOtp =
        productComponent products flowStateType organization .passwords := by
    intro p hp hemail hpasswords
    have htogether := displayEmailAndPasswordsTogether_of_mem hp hemail hpasswords
    simp only [productComponent, if_pos htogether]
  rcases productComponent_input ha hia with ⟨hemail, hea⟩ | rfl
  · rcases productComponent_input hb hib with ⟨-, heb⟩ | rfl
    · exact Option.some.inj (hea.symm.trans heb)
    · exact Option.some.inj (hea.symm.trans ((hmixed hp hemail hq).trans hb))
  · rcases productComponent_input hb hib with ⟨hemail, heb⟩ | rfl
    · exact Option.some.inj (ha.symm.trans ((hmixed hq hemail hp).symm.trans heb))
    · exact Option.some.inj (ha.symm.trans hb)

theorem oneInput_ofList (products : List B2BProducts) (flowStateType : AuthFlowType)
    (organization : Option OrganizationBySlugMatch) :
    OneInput (ofList (products.filterMap (productComponent products flowStateType organization))) := by
  refine (nodup_ofList _).imp_of_mem fun {a b} ha hb hne => ?_
  obtain ⟨p, hp, ha⟩ := List.mem_filterMap.1 (mem_ofList.1 ha)
  obtain ⟨q, hq, hb⟩ := List.mem_filterMap.1 (mem_ofList.1 hb)
  by_contra hnot
  rw [not_or, Bool.not_eq_true, Bool.not_eq_true] at hnot
  exact hne (productComponent_input_unique hp hq ha hb hnot.1 hnot.2)

theorem generateProductComponentsOrdering_eq (products : List B2BProducts)
    (flowStateType : AuthFlowType) (organization : Option OrganizationBySlugMatch) :
    generateProductComponentsOrdering products flowStateType organization =
      separate Component.isButton .Divider
        (ofList (products.filterMap (productComponent products flowStateType organization))) := by
  have hset : ofList (if displayEmailAndPasswordsTogether products then
        splice (products.filterMap (productComponent products flowStateType organization))
          (min (indexOf products .passwords)
            (min (indexOf products .emailMagicLinks) (indexOf products .emailOtp)))
          (emailPasswordCombinedComponent flowStateType)
      else products.filterMap (productComponent products flowStateType organization)) =
      ofList (products.filterMap (productComponent products flowStateType organization)) := by
    split_ifs with htogether
    · have hcombined : ∀ p ∈ products, p = .emailMagicLinks ∨ p = .emailOtp ∨ p = .passwords →
          productComponent products flowStateType organization p =
            some (emailPasswordCombinedComponent flowStateType) := by
        rintro p - (rfl | rfl | rfl) <;> exact if_pos htogether
      refine ofList_splice ?_ (firstProductIndex_spec hcombined)
      have hpasswords : .passwords ∈ products := by
        simpa using (Bool.and_eq_true_iff.1 htogether).2
      exact List.mem_filterMap.2 ⟨_, hpasswords, hcombined _ hpasswords (.inr (.inr rfl))⟩
    · rfl
  have hdivider : Component.Divider ∉
      ofList (products.filterMap (productComponent products flowStateType organization)) := by
    intro hmem
    obtain ⟨p, -, hp⟩ := List.mem_filterMap.1 (mem_ofList.1 hmem)
    exact productComponent_ne_divider _ _ _ p hp
  have hone := oneInput_ofList products flowStateType organization
  unfold generateProductComponentsOrdering
  simp only [hset]
  generalize ofList (products.filterMap (productComponent products flowStateType organization)) = l
    at hdivider hone
  match l with
  | [] => rfl
  | [c] => rfl
  | a :: b :: l =>
    have h := flatMap_withDividers hdivider hone 0 a rfl
    rw [Nat.zero_add] at h
    rw [if_pos (by rw [List.length_cons, List.length_cons]; omega), h]
    simp

end StytchBrowser.ReactNative.B2B
