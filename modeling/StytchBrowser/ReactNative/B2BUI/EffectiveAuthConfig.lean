import StytchBrowser.Lib.OrderedMap
import StytchBrowser.ReactNative.B2BUI.ProductOrdering

/-!
# `useEffectiveAuthConfig` of React Native

The products and OAuth providers that the login screen offers: the configured ones, cut down to the
authentication methods that the primary-required step or the organization allows. If the step allows
none of the configured methods, others are offered instead (`Fallback`).

* `authMethodsToShow_of_not_fallback`, `authMethodsToShow_of_fallback`: the methods that are shown.
* `products_of_methods`, `providers_of_methods`: how they are mapped back.
* `Respects`: what the hook promises, stated for both platforms.

A method is looked up only if it comes from the tables of this file, so that nothing is found on the
prototypes of the tables.
-/

namespace StytchBrowser.ReactNative.B2B

open InsertionOrder

inductive B2BOAuthProviders where
  | Google
  | Microsoft
  | HubSpot
  | Slack
  | GitHub
  deriving DecidableEq

def allOauthProviders : List B2BOAuthProviders := [.Google, .Microsoft, .HubSpot, .Slack, .GitHub]

/-- A provider by its name, or an object with its options. -/
inductive B2BOAuthProviderConfig where
  | provider (type : B2BOAuthProviders)
  | options (type : B2BOAuthProviders) (one_tap cancel_on_tap_outside : Option Bool)
      (customScopes : Option (List String)) (providerParams : Option (OrderedMap String String))

/-- `getParamsFromB2BOAuthProviderConfig(provider)`. -/
structure OauthProviderParams where
  type : B2BOAuthProviders
  one_tap : Bool
  customScopes : List String
  providerParams : OrderedMap String String

def getParamsFromB2BOAuthProviderConfig : B2BOAuthProviderConfig → OauthProviderParams
  | .provider type => ⟨type, false, [], .empty⟩
  | .options type one_tap _ customScopes providerParams =>
      ⟨type, type = .Google && one_tap.getD false, customScopes.getD [], providerParams.getD .empty⟩

/-! ## Products, providers and methods -/

def productsToAuthMethods : B2BProducts → Option String
  | .oauth => none
  | .sso => some "sso"
  | .emailMagicLinks => some "magic_link"
  | .passwords => some "password"
  | .emailOtp => some "email_otp"

def oauthProvidersToAuthMethods : B2BOAuthProviders → String
  | .Google => "google_oauth"
  | .Microsoft => "microsoft_oauth"
  | .HubSpot => "hubspot_oauth"
  | .Slack => "slack_oauth"
  | .GitHub => "github_oauth"

/-- The products in the order of `productsToAuthMethods`. -/
def allProducts : List B2BProducts := [.oauth, .sso, .emailMagicLinks, .passwords, .emailOtp]

def authMethodsToProducts : List (String × B2BProducts) :=
  allProducts.filterMap fun product => (productsToAuthMethods product).map (·, product)

def oauthMethodsToOauthProviders : List (String × B2BOAuthProviders) :=
  allOauthProviders.map fun provider => (oauthProvidersToAuthMethods provider, provider)

def oauthMethodToOauthProvider (authMethod : String) : Option B2BOAuthProviders :=
  oauthMethodsToOauthProviders.lookup authMethod

def authMethodToProduct (authMethod : String) : Option B2BProducts :=
  if (oauthMethodsToOauthProviders.lookup authMethod).isSome then some .oauth
  else authMethodsToProducts.lookup authMethod

/-- The methods of one product, with the types of the OAuth providers. -/
def methodsOf (oauthProviders : List B2BOAuthProviders) (product : B2BProducts) : List String :=
  if product = .oauth then oauthProviders.map oauthProvidersToAuthMethods
  else (productsToAuthMethods product).toList

def flattenConfigToAuthMethods (products : List B2BProducts)
    (oauthProviders : List B2BOAuthProviders) : List String :=
  products.flatMap (methodsOf oauthProviders)

/-! ## The hook -/

/-- What the hook reads of the state. -/
structure LoginState where
  primaryAuthMethods : Option (List String)
  organization : Option OrganizationBySlugMatch

/-- `organization?.auth_methods === 'RESTRICTED'`. -/
def LoginState.organizationRestricts (state : LoginState) : Bool :=
  state.organization.any (·.authMethods = "RESTRICTED")

def hasPrimaryAuthMethods (state : LoginState) : Bool := state.primaryAuthMethods.isSome

def restrictedAuthMethods (state : LoginState) : Option (List String) :=
  match state.primaryAuthMethods with
  | some methods => some methods
  | none =>
      if state.organizationRestricts then
        some ((state.organization.bind (·.allowedAuthMethods)).getD [])
      else none

/-- `authMethodsToShow`, with the methods that are shown for a restricting organization when none of
the configured methods is left. -/
def authMethodsToShow (flattenedConfiguredAuthMethods allAuthMethods : List String)
    (state : LoginState) : List String :=
  match restrictedAuthMethods state with
  | none => flattenedConfiguredAuthMethods
  | some restricted =>
      let restrictedAuthMethodsInUiConfig :=
        flattenedConfiguredAuthMethods.filter fun authMethod => restricted.contains authMethod
      if restrictedAuthMethodsInUiConfig.length > 0 || !hasPrimaryAuthMethods state then
        restrictedAuthMethodsInUiConfig
      else if state.organizationRestricts then
        allAuthMethods.filter fun authMethod => restricted.contains authMethod
      else ["magic_link"]

/-- What the hook reads of the configuration: the products and `oauthOptions?.providers`. -/
structure ProductConfig where
  products : List B2BProducts
  providers : Option (List B2BOAuthProviderConfig)

def oauthProviderConfigs (config : ProductConfig) : List OauthProviderParams :=
  (config.providers.getD []).map getParamsFromB2BOAuthProviderConfig

/-- What the hook returns. -/
structure EffectiveAuthConfig where
  products : List B2BProducts
  oauthProviderSettings : List OauthProviderParams

def useEffectiveAuthConfig (config : ProductConfig) (state : LoginState) : EffectiveAuthConfig :=
  let oauthProviderConfigs := oauthProviderConfigs config
  let methods := authMethodsToShow
    (flattenConfigToAuthMethods config.products (oauthProviderConfigs.map (·.type)))
    (flattenConfigToAuthMethods allProducts allOauthProviders) state
  { products := ofList (methods.filterMap authMethodToProduct)
    oauthProviderSettings := methods.filterMap fun authMethod =>
      (oauthMethodToOauthProvider authMethod).map fun provider =>
        (oauthProviderConfigs.find? (·.type = provider)).getD
          (getParamsFromB2BOAuthProviderConfig (.provider provider)) }

/-! ## What is offered -/

/-- The restriction in force, if there is one, has the method: that of the primary-required step if
it gives one, else that of the organization. -/
def permitted (state : LoginState) (authMethod : String) : Bool :=
  (restrictedAuthMethods state).all (·.contains authMethod)

/-- The primary-required step gives methods and none of the configured ones is among them. -/
def Fallback (configured : List String) (state : LoginState) : Prop :=
  hasPrimaryAuthMethods state = true ∧ ∀ m ∈ configured, permitted state m = false

/-- What is offered for the configured products and providers respects the restriction in force.
`available` are the products that the screens have. -/
structure Respects {Params : Type} (type : Params → B2BOAuthProviders) (products : List B2BProducts)
    (configs : List Params) (available : List B2BProducts) (state : LoginState)
    (offered : List B2BProducts) (settings : List Params) : Prop where
  /-- The products are the configured ones with a permitted method. -/
  configured : ¬Fallback (flattenConfigToAuthMethods products (configs.map type)) state →
    ∀ p, p ∈ offered ↔ p ∈ products ∧ p ∈ available ∧
      ∃ m ∈ methodsOf (configs.map type) p, permitted state m = true
  /-- They stand in the configured order. -/
  order : ¬Fallback (flattenConfigToAuthMethods products (configs.map type)) state →
    offered.Pairwise fun p q => products.idxOf p < products.idxOf q
  /-- The providers are the configured ones whose methods are permitted, with their settings and in
  the configured order. -/
  providers : ¬Fallback (flattenConfigToAuthMethods products (configs.map type)) state →
    (∀ s ∈ settings, s ∈ configs) ∧
      settings.map type = (products.flatMap fun p => if p = .oauth then configs.map type else []).filter
        fun t => permitted state (oauthProvidersToAuthMethods t)
  /-- For an organization that restricts its methods, the fallback has permitted methods only. -/
  restricted : Fallback (flattenConfigToAuthMethods products (configs.map type)) state →
    state.organizationRestricts = true →
    (∀ p, p ∈ offered ↔ p ∈ available ∧ ∃ m ∈ methodsOf allOauthProviders p, permitted state m = true) ∧
      ∀ s ∈ settings, permitted state (oauthProvidersToAuthMethods (type s)) = true
  /-- For other organizations it is the email fallback. -/
  email : Fallback (flattenConfigToAuthMethods products (configs.map type)) state →
    state.organizationRestricts = false → (∀ p ∈ offered, p = .emailMagicLinks) ∧ settings = []
  nodup : offered.Nodup
  nonempty : ∀ p ∈ products, p ∈ available →
    (∃ m ∈ methodsOf (configs.map type) p, permitted state m = true) → offered ≠ []

/-! ## The methods that are shown -/

variable {configured all : List String} {state : LoginState}

theorem permitted_eq {restricted : List String} (h : restrictedAuthMethods state = some restricted)
    (m : String) : permitted state m = restricted.contains m := by
  rw [permitted, h]
  rfl

theorem authMethodsToShow_of_not_fallback (h : ¬Fallback configured state) :
    authMethodsToShow configured all state = configured.filter (permitted state) := by
  unfold authMethodsToShow
  cases hr : restrictedAuthMethods state with
  | none =>
    have hall : ∀ m ∈ configured, permitted state m = true := fun m _ => by
      rw [permitted, hr]
      rfl
    exact (List.filter_eq_self.2 hall).symm
  | some restricted =>
    have hfilter : configured.filter (fun m => restricted.contains m) =
        configured.filter (permitted state) :=
      List.filter_congr fun m _ => (permitted_eq hr m).symm
    simp only [hfilter]
    rw [if_pos]
    -- otherwise nothing is left although the primary-required step gives methods
    by_contra hnot
    simp only [gt_iff_lt, List.length_pos_iff, ne_eq, Bool.or_eq_true, decide_eq_true_eq,
      Bool.not_eq_true', not_or, not_not, Bool.not_eq_false] at hnot
    refine h ⟨hnot.2, fun m hm => Bool.not_eq_true _ ▸ fun hperm => ?_⟩
    exact List.not_mem_nil (hnot.1 ▸ List.mem_filter.2 ⟨hm, hperm⟩)

theorem authMethodsToShow_of_fallback (h : Fallback configured state) :
    authMethodsToShow configured all state =
      if state.organizationRestricts then all.filter (permitted state) else ["magic_link"] := by
  obtain ⟨restricted, hprimary⟩ := Option.isSome_iff_exists.1 h.1
  have hr : restrictedAuthMethods state = some restricted := by rw [restrictedAuthMethods, hprimary]
  have hfilter : ∀ l : List String, l.filter (fun m => restricted.contains m) =
      l.filter (permitted state) := fun l => List.filter_congr fun m _ => (permitted_eq hr m).symm
  have hnone : configured.filter (permitted state) = [] :=
    List.filter_eq_nil_iff.2 fun m hm => Bool.not_eq_true _ ▸ h.2 m hm
  unfold authMethodsToShow
  simp only [hr, hfilter, hnone, h.1]
  rfl

/-! ## Back to products and providers -/

/-- A lookup that knows the methods of the tables finds the product of a method. -/
theorem toProduct_of_mem {toProduct : String → Option B2BProducts}
    (hoauth : ∀ t, toProduct (oauthProvidersToAuthMethods t) = some .oauth)
    (hother : ∀ p, ∀ m ∈ productsToAuthMethods p, toProduct m = some p)
    (oauthProviders : List B2BOAuthProviders) (p : B2BProducts) :
    ∀ m ∈ methodsOf oauthProviders p, toProduct m = some p := by
  intro m hm
  unfold methodsOf at hm
  split_ifs at hm with hp
  · obtain ⟨t, -, rfl⟩ := List.mem_map.1 hm
    rw [hp]
    exact hoauth t
  · exact hother p m (Option.mem_toList.1 hm)

theorem authMethodToProduct_of_mem (oauthProviders : List B2BOAuthProviders) (p : B2BProducts) :
    ∀ m ∈ methodsOf oauthProviders p, authMethodToProduct m = some p :=
  toProduct_of_mem (fun t => by cases t <;> decide) (fun p => by cases p <;> decide) _ _

theorem oauthMethodToOauthProvider_method (t : B2BOAuthProviders) :
    oauthMethodToOauthProvider (oauthProvidersToAuthMethods t) = some t := by
  cases t <;> decide

theorem oauthMethodToOauthProvider_of_mem {oauthProviders : List B2BOAuthProviders}
    {p : B2BProducts} {m : String} (hm : m ∈ methodsOf oauthProviders p) (hp : p ≠ .oauth) :
    oauthMethodToOauthProvider m = none := by
  rw [methodsOf, if_neg hp, Option.mem_toList] at hm
  cases p with
  | oauth => exact absurd rfl hp
  | sso | emailMagicLinks | passwords | emailOtp =>
    obtain rfl := Option.some.inj hm
    decide

/-- The products of the methods that are left are the products with such a method. -/
theorem products_of_methods {toProduct : String → Option B2BProducts}
    {oauthProviders : List B2BOAuthProviders}
    (h : ∀ p, ∀ m ∈ methodsOf oauthProviders p, toProduct m = some p) (products : List B2BProducts)
    (q : String → Bool) :
    ofList (((flattenConfigToAuthMethods products oauthProviders).filter q).filterMap toProduct) =
      (ofList products).filter fun p => (methodsOf oauthProviders p).any q := by
  have hcopies : ∀ p ∈ products,
      ∀ b ∈ ((methodsOf oauthProviders p).filter q).filterMap toProduct, b = p := by
    intro p _ b hb
    obtain ⟨m, hm, hb⟩ := List.mem_filterMap.1 hb
    exact Option.some.inj (hb.symm.trans (h p m (List.mem_filter.1 hm).1))
  rw [flattenConfigToAuthMethods, List.filter_flatMap, List.filterMap_flatMap,
    ofList_flatMap hcopies]
  refine List.filter_congr fun p _ => ?_
  rw [Bool.eq_iff_iff, decide_eq_true_eq, List.any_eq_true]
  constructor
  · intro hne
    obtain ⟨b, hb⟩ := List.exists_mem_of_ne_nil _ hne
    obtain ⟨m, hm, -⟩ := List.mem_filterMap.1 hb
    exact ⟨m, List.mem_filter.1 hm⟩
  · rintro ⟨m, hm⟩
    exact List.ne_nil_of_mem (List.mem_filterMap.2 ⟨m, List.mem_filter.2 hm, h p m hm.1⟩)

/-- The providers of the methods that are left are those whose method is left. -/
theorem providers_of_methods (products : List B2BProducts) (oauthProviders : List B2BOAuthProviders)
    (q : String → Bool) :
    ((flattenConfigToAuthMethods products oauthProviders).filter q).filterMap
        oauthMethodToOauthProvider =
      (products.flatMap fun p => if p = .oauth then oauthProviders else []).filter
        fun t => q (oauthProvidersToAuthMethods t) := by
  rw [flattenConfigToAuthMethods, List.filter_flatMap, List.filterMap_flatMap, List.filter_flatMap]
  refine List.flatMap_congr fun p _ => ?_
  by_cases hp : p = .oauth
  · rw [methodsOf, if_pos hp, if_pos hp, List.filter_map, List.filterMap_map]
    have hsome : oauthMethodToOauthProvider ∘ oauthProvidersToAuthMethods = some :=
      funext oauthMethodToOauthProvider_method
    rw [hsome, List.filterMap_some]
    rfl
  · rw [if_neg hp, List.filter_nil, List.filterMap_eq_nil_iff]
    exact fun m hm => oauthMethodToOauthProvider_of_mem (List.mem_filter.1 hm).1 hp

/-! ## The offer -/

section Offer

variable {Params : Type} {type : Params → B2BOAuthProviders} {default : B2BOAuthProviders → Params}

/-- The settings of the providers of some methods: the first configuration of each, or its default. -/
def settingsOf (type : Params → B2BOAuthProviders) (default : B2BOAuthProviders → Params)
    (configs : List Params) (methods : List String) : List Params :=
  methods.filterMap fun m => (oauthMethodToOauthProvider m).map fun t =>
    (configs.find? (type · = t)).getD (default t)

theorem type_find (hdefault : ∀ t, type (default t) = t) (configs : List Params)
    (t : B2BOAuthProviders) : type ((configs.find? (type · = t)).getD (default t)) = t := by
  cases hfind : configs.find? (type · = t) with
  | none => exact hdefault t
  | some s => simpa using List.find?_some hfind

theorem map_type_settingsOf (hdefault : ∀ t, type (default t) = t) (configs : List Params)
    (methods : List String) :
    (settingsOf type default configs methods).map type =
      methods.filterMap oauthMethodToOauthProvider := by
  rw [settingsOf, List.map_filterMap]
  refine List.filterMap_congr fun m _ => ?_
  cases oauthMethodToOauthProvider m with
  | none => rfl
  | some t => exact congrArg some (type_find hdefault configs t)

/-- A setting for a configured provider is one of the configurations. -/
theorem mem_configs_of_mem_settingsOf {configs : List Params} {methods : List String} {s : Params}
    (hs : s ∈ settingsOf type default configs methods) (hdefault : ∀ t, type (default t) = t)
    (htype : type s ∈ configs.map type) : s ∈ configs := by
  obtain ⟨m, -, hm⟩ := List.mem_filterMap.1 hs
  obtain ⟨t, -, rfl⟩ := Option.map_eq_some_iff.1 hm
  rw [type_find hdefault] at htype
  cases hfind : configs.find? (type · = t) with
  | some s => exact List.mem_of_find?_eq_some hfind
  | none =>
    obtain ⟨c, hc, rfl⟩ := List.mem_map.1 htype
    exact (List.find?_eq_none.1 hfind c hc (decide_eq_true rfl)).elim

theorem mem_settingsOf_filter {products : List B2BProducts} {oauthProviders : List B2BOAuthProviders}
    {q : String → Bool} {configs : List Params} {s : Params} (hdefault : ∀ t, type (default t) = t)
    (hs : s ∈ settingsOf type default configs
      ((flattenConfigToAuthMethods products oauthProviders).filter q)) :
    type s ∈ oauthProviders ∧ q (oauthProvidersToAuthMethods (type s)) = true := by
  have ht := List.mem_map_of_mem (f := type) hs
  rw [map_type_settingsOf hdefault, providers_of_methods, List.mem_filter, List.mem_flatMap] at ht
  obtain ⟨⟨p, -, hp⟩, hq⟩ := ht
  split_ifs at hp with hoauth
  · exact ⟨hp, hq⟩
  · exact absurd hp List.not_mem_nil

variable (type default) in
/-- What is shown is offered as the restriction asks. -/
theorem respects (hdefault : ∀ t, type (default t) = t) {toProduct : String → Option B2BProducts}
    (hproduct : ∀ (oauthProviders : List B2BOAuthProviders) (p : B2BProducts),
      ∀ m ∈ methodsOf oauthProviders p, toProduct m = some p)
    (products available : List B2BProducts) (configs : List Params) (state : LoginState) :
    Respects type products configs available state
      ((ofList ((authMethodsToShow (flattenConfigToAuthMethods products (configs.map type))
        (flattenConfigToAuthMethods available allOauthProviders) state).filterMap toProduct)).filter
          (· ∈ available))
      (settingsOf type default configs
        (authMethodsToShow (flattenConfigToAuthMethods products (configs.map type))
          (flattenConfigToAuthMethods available allOauthProviders) state)) := by
  -- the products with a permitted method, of the configured products or of all
  have hmem : ∀ (ps : List B2BProducts) (oauthProviders : List B2BOAuthProviders) (p : B2BProducts),
      p ∈ (ofList (((flattenConfigToAuthMethods ps oauthProviders).filter
        (permitted state)).filterMap toProduct)).filter (· ∈ available) ↔
      p ∈ ps ∧ p ∈ available ∧ ∃ m ∈ methodsOf oauthProviders p, permitted state m = true := by
    intro ps oauthProviders p
    rw [products_of_methods (hproduct oauthProviders), List.mem_filter, List.mem_filter, mem_ofList,
      List.any_eq_true, decide_eq_true_eq, and_assoc, and_comm (a := p ∈ available)]
  have hconfigured : ∀ p ∈ products, ∀ m ∈ methodsOf (configs.map type) p,
      m ∈ flattenConfigToAuthMethods products (configs.map type) :=
    fun p hp m hm => List.mem_flatMap.2 ⟨p, hp, hm⟩
  refine ⟨fun h => ?_, fun h => ?_, fun h => ?_, fun h hr => ?_, fun h hr => ?_,
    (nodup_ofList _).filter _, fun p hp havailable hm => ?_⟩
  · rw [authMethodsToShow_of_not_fallback h]
    exact hmem products _
  · rw [authMethodsToShow_of_not_fallback h, products_of_methods (hproduct _)]
    exact ((pairwise_ofList products).filter _).filter _
  · rw [authMethodsToShow_of_not_fallback h]
    refine ⟨fun s hs => ?_, ?_⟩
    · exact mem_configs_of_mem_settingsOf hs hdefault (mem_settingsOf_filter hdefault hs).1
    · rw [map_type_settingsOf hdefault, providers_of_methods]
  · rw [authMethodsToShow_of_fallback h, if_pos hr]
    refine ⟨fun p => ?_, fun s hs => (mem_settingsOf_filter hdefault hs).2⟩
    rw [hmem available]
    exact ⟨fun hp => hp.2, fun hp => ⟨hp.1, hp⟩⟩
  · rw [authMethodsToShow_of_fallback h, if_neg (by rw [hr]; exact Bool.false_ne_true)]
    have hemail : toProduct "magic_link" = some .emailMagicLinks :=
      hproduct [] .emailMagicLinks _ (by decide)
    refine ⟨fun p hp => ?_, ?_⟩
    · have hp := mem_ofList.1 (List.mem_filter.1 hp).1
      rw [List.filterMap_cons_some hemail] at hp
      exact List.mem_singleton.1 hp
    · rw [settingsOf, List.filterMap_cons_none (by
        rw [show oauthMethodToOauthProvider "magic_link" = none by decide, Option.map_none])]
      rfl
  · obtain ⟨m, hm, hperm⟩ := hm
    have h : ¬Fallback (flattenConfigToAuthMethods products (configs.map type)) state := fun h => by
      have hnot := h.2 m (hconfigured p hp m hm)
      rw [hperm] at hnot
      cases hnot
    rw [authMethodsToShow_of_not_fallback h]
    exact List.ne_nil_of_mem ((hmem products _ p).2 ⟨hp, havailable, m, hm, hperm⟩)

end Offer

/-- The hook of React Native respects the restriction in force. -/
theorem useEffectiveAuthConfig_respects (config : ProductConfig) (state : LoginState) :
    Respects (·.type) config.products (oauthProviderConfigs config) allProducts state
      (useEffectiveAuthConfig config state).products
      (useEffectiveAuthConfig config state).oauthProviderSettings := by
  have h := respects OauthProviderParams.type
    (fun t => getParamsFromB2BOAuthProviderConfig (.provider t)) (fun _ => rfl)
    authMethodToProduct_of_mem config.products allProducts
    (oauthProviderConfigs config) state
  rw [List.filter_eq_self.2 fun p _ => by cases p <;> decide] at h
  exact h

end StytchBrowser.ReactNative.B2B
