import StytchBrowser.ReactNative.B2BUI.ProductOrdering

/-!
# The login screens of web and React Native

`generateProductComponentsOrdering` of the web, and when it agrees with the one of React Native. The
web collects the components in a set and groups neighbouring buttons; flattened, its groups are the
separated list (`flatten_generateProductComponentsOrdering`), as on React Native. What differs is the
condition under which SSO is shown.
-/

namespace StytchBrowser.Web.B2B

open InsertionOrder Separators
open ReactNative.B2B (AuthFlowType B2BProducts Component Ordered OrganizationBySlugMatch
  activeConnections ordered_separate)

universe u

/-- `ProductId`: the strings of the `B2BProducts` of React Native. -/
abbrev ProductId := B2BProducts

/-- `MainScreenComponent`: the strings of the `Component` of React Native. -/
abbrev MainScreenComponent := Component

/-- A product, with what it brings to the screens as its parts. -/
structure StytchB2BProduct (Parts : Type u) where
  id : ProductId
  parts : Parts

variable {Parts : Type u}

def isButtonsComponent (component : MainScreenComponent) : Bool :=
  component = .OAuthButtons || component = .SSOButtons

/-- `prevComponent` at index `i` of `arr`. -/
def prevComponent (arr : List MainScreenComponent) (i : ℕ) : Option MainScreenComponent :=
  if i > 0 then arr[i - 1]? else none

/-- One round of the loop that groups the components. -/
def addToGroups (arr : List MainScreenComponent) (groups : List (List MainScreenComponent))
    (component : MainScreenComponent) (i : ℕ) : List (List MainScreenComponent) :=
  let shouldJoinPreviousGroup :=
    (prevComponent arr i).any fun prev => isButtonsComponent component && isButtonsComponent prev
  if shouldJoinPreviousGroup then
    groups.dropLast ++ [groups.getLast?.getD [] ++ [component]]
  else
    let differs := groups.getLast?.any fun prevGroup =>
      prevGroup.head?.any isButtonsComponent != isButtonsComponent component
    (if differs then groups ++ [[.Divider]] else groups) ++ [[component]]

def emailPasswordCombinedComponent (flowStateType : AuthFlowType) : MainScreenComponent :=
  if flowStateType = .Organization then .PasswordEmailCombined else .PasswordEmailCombinedDiscovery

/-- The component that a product adds to the set, if it adds one. -/
def productComponent (productsSet : List ProductId) (flowStateType : AuthFlowType)
    (organization : Option OrganizationBySlugMatch) (id : ProductId) : Option MainScreenComponent :=
  let displayEmailAndPasswordsTogether :=
    (productsSet.contains .emailMagicLinks || productsSet.contains .emailOtp) &&
      productsSet.contains .passwords
  match id with
  | .emailMagicLinks | .emailOtp =>
      if displayEmailAndPasswordsTogether then some (emailPasswordCombinedComponent flowStateType)
      else some (if flowStateType = .Organization then .EmailForm else .EmailDiscoveryForm)
  | .oauth => some .OAuthButtons
  | .sso =>
      let isSsoValid := flowStateType = .Discovery ||
        (flowStateType = .Organization && activeConnections organization > 0)
      if isSsoValid then some .SSOButtons else none
  | .passwords =>
      some (if displayEmailAndPasswordsTogether then emailPasswordCombinedComponent flowStateType
        else .PasswordsEmailForm)

def generateProductComponentsOrdering (products : List (StytchB2BProduct Parts))
    (flowStateType : AuthFlowType) (organization : Option OrganizationBySlugMatch) :
    List (List MainScreenComponent) :=
  let productsSet := ofList (products.map (·.id))
  let productComponentsSet := products.foldl (fun components product =>
    match productComponent productsSet flowStateType organization product.id with
    | some component => add components component
    | none => components) []
  productComponentsSet.zipIdx.foldl
    (fun groups entry => addToGroups productComponentsSet groups entry.1 entry.2) []

/-! ## The groups -/

/-- The groups for a list of components: flattened they are the separated list, and the last one
begins with a component of the kind of the last component. -/
structure Grouped (l : List MainScreenComponent) (groups : List (List MainScreenComponent)) :
    Prop where
  flatten : groups.flatten = separate Component.isButton .Divider l
  nil : l = [] → groups = []
  last : ∀ l' b, l = l' ++ [b] → ∃ init a g, groups = init ++ [a :: g] ∧ a.isButton = b.isButton

theorem isButtonsComponent_eq (c : MainScreenComponent) : isButtonsComponent c = c.isButton := by
  cases c <;> rfl

/-- The component before the one at the end of a prefix. -/
theorem prevComponent_concat (l : List MainScreenComponent) (b : MainScreenComponent)
    (r : List MainScreenComponent) : prevComponent (l ++ [b] ++ r) (l ++ [b]).length = some b := by
  rw [prevComponent, List.length_append, List.length_singleton, if_pos (Nat.succ_pos _),
    Nat.add_sub_cancel, List.append_assoc, List.getElem?_append_right (Nat.le_refl _),
    Nat.sub_self]
  rfl

/-- A round of the loop adds its component, after a divider if it is of the other kind. -/
theorem Grouped.addToGroups {l : List MainScreenComponent}
    {groups : List (List MainScreenComponent)} (h : Grouped l groups) (c : MainScreenComponent)
    (r : List MainScreenComponent) :
    Grouped (l ++ [c]) (addToGroups (l ++ c :: r) groups c l.length) := by
  have hlast : ∀ l' b, l ++ [c] = l' ++ [b] → c = b := fun l' b e =>
    (List.cons.inj (List.append_inj' e rfl).2).1
  rcases List.eq_nil_or_concat l with rfl | ⟨l', b, rfl⟩
  · obtain rfl := h.nil rfl
    refine ⟨rfl, fun e => absurd e (List.cons_ne_nil _ _), fun l' b e => ⟨[], c, [], rfl, ?_⟩⟩
    rw [hlast l' b e]
  · rw [List.concat_eq_append] at h hlast ⊢
    obtain ⟨init, a, g, rfl, hab⟩ := h.last l' b rfl
    have hflat := h.flatten
    have hsep : separate Component.isButton .Divider (l' ++ [b] ++ [c]) =
        (init ++ [a :: g]).flatten ++ (gap Component.isButton .Divider b c ++ [c]) := by
      rw [hflat, List.append_assoc]
      exact separate_append l' b c []
    have hnil : l' ++ [b] ++ [c] ≠ [] :=
      List.append_ne_nil_of_right_ne_nil _ (List.cons_ne_nil _ _)
    unfold Web.B2B.addToGroups
    rw [prevComponent_concat]
    simp only [Option.any_some, List.getLast?_concat, List.dropLast_concat, Option.getD_some,
      List.head?_cons, isButtonsComponent_eq, hab]
    split_ifs with hjoin hdiffers
    · -- both are buttons: the component joins the last group
      obtain ⟨hc, hb⟩ := Bool.and_eq_true_iff.1 hjoin
      refine ⟨?_, fun e => absurd e hnil, fun l'' b' e => ⟨init, a, g ++ [c], rfl, ?_⟩⟩
      · rw [hsep, gap_of_eq (hb.trans hc.symm)]
        simp
      · rw [hab, hb, ← hlast l'' b' e, hc]
    · refine ⟨?_, fun e => absurd e hnil, fun l'' b' e => ⟨_, c, [], rfl, ?_⟩⟩
      · rw [hsep, gap_of_ne (by simpa using hdiffers)]
        simp
      · rw [← hlast l'' b' e]
    · refine ⟨?_, fun e => absurd e hnil, fun l'' b' e => ⟨_, c, [], rfl, ?_⟩⟩
      · rw [hsep, gap_of_eq (by simpa using hdiffers)]
        simp
      · rw [← hlast l'' b' e]

theorem Grouped.foldl {l : List MainScreenComponent} {groups : List (List MainScreenComponent)}
    (h : Grouped l groups) (r : List MainScreenComponent) :
    Grouped (l ++ r) ((r.zipIdx l.length).foldl
      (fun groups entry => Web.B2B.addToGroups (l ++ r) groups entry.1 entry.2) groups) := by
  induction r generalizing l groups with
  | nil => simpa using h
  | cons c r ih =>
    have hstep := ih (h.addToGroups c r)
    rw [List.append_assoc, List.length_append] at hstep
    exact hstep

/-- Flattened, the groups are the components of the products with the dividers. -/
theorem flatten_generateProductComponentsOrdering (products : List (StytchB2BProduct Parts))
    (flowStateType : AuthFlowType) (organization : Option OrganizationBySlugMatch) :
    (generateProductComponentsOrdering products flowStateType organization).flatten =
      separate Component.isButton .Divider (ofList ((products.map (·.id)).filterMap
        (productComponent (ofList (products.map (·.id))) flowStateType organization))) := by
  have hset : ∀ (f : ProductId → Option MainScreenComponent) (s : List MainScreenComponent),
      products.foldl (fun components product =>
        match f product.id with
        | some component => add components component
        | none => components) s = ((products.map (·.id)).filterMap f).foldl add s := by
    intro f
    induction products with
    | nil => intro s; rfl
    | cons p products ih =>
      intro s
      rw [List.foldl_cons, List.map_cons, ih]
      cases hp : f p.id with
      | none => rw [List.filterMap_cons_none hp]
      | some c => rw [List.filterMap_cons_some hp, List.foldl_cons]
  have hgroups : Grouped [] [] := ⟨rfl, fun _ => rfl, fun l' b e => absurd e.symm
    (List.append_ne_nil_of_right_ne_nil _ (List.cons_ne_nil _ _))⟩
  unfold generateProductComponentsOrdering
  simp only [hset]
  exact (hgroups.foldl _).flatten

/-! ## Both platforms -/

/-- Web and React Native show the same components in the same order, and it is the order of a login
screen on both. -/
structure SameOrdering (products : List (StytchB2BProduct Parts)) (flowStateType : AuthFlowType)
    (organization : Option OrganizationBySlugMatch) : Prop where
  same : (generateProductComponentsOrdering products flowStateType organization).flatten =
    ReactNative.B2B.generateProductComponentsOrdering (products.map (·.id)) flowStateType organization
  web : Ordered (productComponent (ofList (products.map (·.id))) flowStateType organization)
    (products.map (·.id))
    (generateProductComponentsOrdering products flowStateType organization).flatten
  native : Ordered
    (ReactNative.B2B.productComponent (products.map (·.id)) flowStateType organization)
    (products.map (·.id))
    (ReactNative.B2B.generateProductComponentsOrdering (products.map (·.id)) flowStateType
      organization)

theorem contains_ofList (ids : List ProductId) (id : ProductId) :
    (ofList ids).contains id = ids.contains id := by
  rw [Bool.eq_iff_iff, List.contains_iff_mem, List.contains_iff_mem, mem_ofList]

theorem productComponent_ne_divider (ids : List ProductId) (flowStateType : AuthFlowType)
    (organization : Option OrganizationBySlugMatch) (id : ProductId) :
    productComponent ids flowStateType organization id ≠ some .Divider := by
  unfold productComponent emailPasswordCombinedComponent
  cases id with
  | oauth => simp
  | emailMagicLinks | emailOtp | sso | passwords =>
    dsimp only
    split_ifs <;> simp

/-- The products have the same components on both platforms, SSO aside. -/
theorem productComponent_eq (ids : List ProductId) (flowStateType : AuthFlowType)
    (organization : Option OrganizationBySlugMatch) {id : ProductId} (hid : id ≠ .sso) :
    productComponent (ofList ids) flowStateType organization id =
      ReactNative.B2B.productComponent ids flowStateType organization id := by
  unfold productComponent ReactNative.B2B.productComponent
  simp only [contains_ofList]
  cases id with
  | sso => exact absurd rfl hid
  | oauth => rfl
  | emailMagicLinks | emailOtp => rfl
  | passwords => exact apply_ite some _ _ _

/-- React Native shows SSO in the password reset flow, the web does not. -/
theorem productComponent_sso_eq_iff (ids : List ProductId) (flowStateType : AuthFlowType)
    (organization : Option OrganizationBySlugMatch) :
    productComponent (ofList ids) flowStateType organization .sso =
        ReactNative.B2B.productComponent ids flowStateType organization .sso ↔
      ¬(flowStateType = .PasswordReset ∧ 0 < activeConnections organization) := by
  simp only [productComponent, ReactNative.B2B.productComponent, AuthFlowType.truthy]
  cases flowStateType <;> by_cases h : 0 < activeConnections organization <;> simp [h]

/-- The web does not show SSO in the password reset flow. -/
theorem productComponent_ne_sso (ids : List ProductId)
    (organization : Option OrganizationBySlugMatch) (id : ProductId) :
    productComponent ids .PasswordReset organization id ≠ some .SSOButtons := by
  unfold productComponent emailPasswordCombinedComponent
  cases id with
  | oauth | sso => simp
  | emailMagicLinks | emailOtp | passwords =>
    dsimp only
    split_ifs <;> simp

/-- The orderings agree unless React Native shows SSO in a password reset flow. -/
theorem sameOrdering_iff (products : List (StytchB2BProduct Parts)) (flowStateType : AuthFlowType)
    (organization : Option OrganizationBySlugMatch) :
    SameOrdering products flowStateType organization ↔
      ¬(flowStateType = .PasswordReset ∧ .sso ∈ products.map (·.id) ∧
        0 < activeConnections organization) := by
  constructor
  · rintro h ⟨rfl, hsso, hactive⟩
    have hshown : Component.SSOButtons ∈ ReactNative.B2B.generateProductComponentsOrdering
        (products.map (·.id)) .PasswordReset organization :=
      (h.native.shown _ (by decide)).2 ⟨.sso, hsso, by
        simp [ReactNative.B2B.productComponent, AuthFlowType.truthy, hactive]⟩
    rw [← h.same] at hshown
    obtain ⟨p, -, hp⟩ := (h.web.shown _ (by decide)).1 hshown
    exact productComponent_ne_sso _ _ p hp
  · intro h
    have hsame : (products.map (·.id)).filterMap
          (productComponent (ofList (products.map (·.id))) flowStateType organization) =
        (products.map (·.id)).filterMap (ReactNative.B2B.productComponent (products.map (·.id))
          flowStateType organization) := by
      refine List.filterMap_congr fun id hid => ?_
      by_cases hsso : id = .sso
      · subst hsso
        exact (productComponent_sso_eq_iff _ _ _).2 fun hreset =>
          h ⟨hreset.1, hid, hreset.2⟩
      · exact productComponent_eq _ _ _ hsso
    refine ⟨?_, ?_, ?_⟩
    · rw [flatten_generateProductComponentsOrdering,
        ReactNative.B2B.generateProductComponentsOrdering_eq, hsame]
    · rw [flatten_generateProductComponentsOrdering]
      exact ordered_separate (productComponent_ne_divider _ _ _)
    · rw [ReactNative.B2B.generateProductComponentsOrdering_eq]
      exact ordered_separate (ReactNative.B2B.productComponent_ne_divider _ _ _)

/-- An organization with an active connection, in a password reset flow. -/
theorem sso_shown_on_reset :
    ¬SameOrdering [⟨.oauth, ()⟩, ⟨.sso, ()⟩] .PasswordReset
      (some ⟨some [.str "sso_1"], "ALL_ALLOWED", none⟩) := by
  intro h
  exact absurd h.same (by decide)

end StytchBrowser.Web.B2B
