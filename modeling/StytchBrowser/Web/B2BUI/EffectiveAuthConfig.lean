import StytchBrowser.ReactNative.B2BUI.EffectiveAuthConfig
import StytchBrowser.Web.B2BUI.ProductOrdering

/-!
# `useEffectiveAuthConfig` of the web

The hook decides on the methods as the one of React Native does. Products are offered as their
entries in `organizationProducts`, which `AppContainer` sets to all products.
-/

namespace StytchBrowser.Web.B2B

open InsertionOrder
open ReactNative.B2B (B2BOAuthProviderConfig B2BOAuthProviders LoginState OrganizationBySlugMatch
  ProductConfig Respects allOauthProviders authMethodsToShow flattenConfigToAuthMethods methodsOf
  oauthMethodToOauthProvider oauthMethodsToOauthProviders productsToAuthMethods respects)

universe u

variable {Parts : Type u}

/-- `getParamsFromB2BOAuthProviderConfig(provider)`. -/
structure OauthProviderParams where
  type : B2BOAuthProviders
  one_tap : Bool
  customScopes : List String
  providerParams : OrderedMap String String
  cancel_on_tap_outside : Option Bool

def getParamsFromB2BOAuthProviderConfig : B2BOAuthProviderConfig → OauthProviderParams
  | .provider type => ⟨type, false, [], .empty, none⟩
  | .options type one_tap cancel_on_tap_outside customScopes providerParams =>
      let oneTap := type = .Google && one_tap.getD false
      ⟨type, oneTap, customScopes.getD [], providerParams.getD .empty,
        if oneTap then cancel_on_tap_outside else none⟩

/-! ## Products and methods -/

/-- The products in the order of `productsToAuthMethods`. -/
def productsToAuthMethodsKeys : List ProductId :=
  [.oauth, .sso, .emailMagicLinks, .emailOtp, .passwords]

/-- Every method with its product; what stands for OAuth is the key `undefined`. -/
def authMethodsToProducts : List (String × ProductId) :=
  productsToAuthMethodsKeys.map fun product =>
    ((productsToAuthMethods product).getD "undefined", product)

def authMethodToProduct (authMethod : String) : Option ProductId :=
  if (oauthMethodsToOauthProviders.lookup authMethod).isSome then some .oauth
  else authMethodsToProducts.lookup authMethod

/-! ## The hook -/

/-- What the hook reads of `StytchB2BUIConfig`: the products and `oauthOptions?.providers`. -/
structure StytchB2BUIConfig (Parts : Type u) where
  products : List (StytchB2BProduct Parts)
  providers : Option (List B2BOAuthProviderConfig)

structure StytchB2BExtendedLoginConfig (Parts : Type u) extends StytchB2BUIConfig Parts where
  organizationProducts : List (StytchB2BProduct Parts)

/-- The `internalConfig` of `AppContainer`: the exports of the module of the products, which are
listed by their names. -/
def internalConfig (parts : ProductId → Parts) (config : StytchB2BUIConfig Parts) :
    StytchB2BExtendedLoginConfig Parts :=
  { config with
    organizationProducts := [.emailMagicLinks, .emailOtp, .oauth, .passwords, .sso].map fun id =>
      ⟨id, parts id⟩ }

def oauthProviderConfigs (config : StytchB2BExtendedLoginConfig Parts) : List OauthProviderParams :=
  (config.providers.getD []).map getParamsFromB2BOAuthProviderConfig

/-- What the hook returns. -/
structure EffectiveAuthConfig (Parts : Type u) where
  products : List (StytchB2BProduct Parts)
  oauthProviderSettings : List OauthProviderParams

def useEffectiveAuthConfig (config : StytchB2BExtendedLoginConfig Parts) (state : LoginState) :
    EffectiveAuthConfig Parts :=
  let oauthProviderConfigs := oauthProviderConfigs config
  let methods := authMethodsToShow
    (flattenConfigToAuthMethods (config.products.map (·.id)) (oauthProviderConfigs.map (·.type)))
    (flattenConfigToAuthMethods (config.organizationProducts.map (·.id)) allOauthProviders) state
  let productIds := ofList (methods.filterMap authMethodToProduct)
  { products := productIds.filterMap fun productId =>
      config.organizationProducts.find? (·.id = productId)
    oauthProviderSettings := methods.filterMap fun authMethod =>
      (oauthMethodToOauthProvider authMethod).map fun provider =>
        (oauthProviderConfigs.find? (·.type = provider)).getD
          (getParamsFromB2BOAuthProviderConfig (.provider provider)) }

/-! ## What is offered -/

theorem authMethodToProduct_of_mem (oauthProviders : List B2BOAuthProviders) (p : ProductId) :
    ∀ m ∈ methodsOf oauthProviders p, authMethodToProduct m = some p :=
  ReactNative.B2B.toProduct_of_mem (fun t => by cases t <;> decide) (fun p => by cases p <;> decide)
    _ _

/-- The products that are found are those that are there. -/
theorem map_id_filterMap_find (available : List (StytchB2BProduct Parts)) (ids : List ProductId) :
    (ids.filterMap fun id => available.find? (·.id = id)).map (·.id) =
      ids.filter (· ∈ available.map (·.id)) := by
  induction ids with
  | nil => rfl
  | cons id ids ih =>
    rw [List.filterMap_cons]
    cases hfind : available.find? (·.id = id) with
    | none =>
      have hnot : id ∉ available.map (·.id) := fun hmem => by
        obtain ⟨product, hproduct, hid⟩ := List.mem_map.1 hmem
        exact List.find?_eq_none.1 hfind product hproduct (decide_eq_true hid)
      rw [List.filter_cons_of_neg (by simpa using hnot), ← ih]
    | some product =>
      have hid : product.id = id := by simpa using List.find?_some hfind
      have hmem : id ∈ available.map (·.id) :=
        List.mem_map.2 ⟨product, List.mem_of_find?_eq_some hfind, hid⟩
      rw [List.filter_cons_of_pos (by simpa using hmem), ← ih, List.map_cons, hid]

end StytchBrowser.Web.B2B
