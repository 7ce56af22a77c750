import StytchBrowser.JsUtils.PlainObject
import StytchBrowser.Lib.FailingFolds
import StytchBrowser.Lib.Splitting

/-!
# Adding an allowed OAuth tenant

The table of the allowed tenants of an organization, in `OrgSettingsUserOnboardingSection.tsx`. A
tenant is chosen from the linked accounts of the member or typed in; a linked account travels through
the select as `provider:tenantId`.

* `linkedAccounts_ok`: listing the linked accounts does not fail, and what it lists;
* `adds_selected_tenant_iff`: when adding a tenant adds exactly the chosen one.
-/

namespace StytchBrowser.AdminPortal.OAuthTenants

/-! ## Providers and methods -/

/-- `configAuthMethodMap`. -/
def configAuthMethodMap : List (String × String) :=
  [("emailMagicLinks", "magic_link"), ("emailOtp", "email_otp"), ("sso", "sso"),
    ("password", "password"), ("oauthGoogle", "google_oauth"), ("oauthMicrosoft", "microsoft_oauth"),
    ("oauthHubspot", "hubspot_oauth"), ("oauthSlack", "slack_oauth"), ("oauthGithub", "github_oauth")]

/-- What an inherited name maps to is a function, which is equal to no method: it is left out with
what is not truthy. -/
def useAllowedAuthMethods (allowedAuthMethods : Option (List String)) : List String :=
  (allowedAuthMethods.getD (configAuthMethodMap.map Prod.fst)).filterMap fun method =>
    configAuthMethodMap.lookup method

def ALL_OAUTH_TENANT_PROVIDERS : List String := ["github", "hubspot", "slack"]

def getMethodFromProvider (provider : String) : String := provider ++ "_oauth"

def getDisplayTenantProvider (provider : String) : String :=
  if provider = "github" then "GitHub"
  else if provider = "hubspot" then "HubSpot"
  else if provider = "slack" then "Slack"
  else provider

/-- What the select of the manual mode offers. -/
def availableOAuthProviders (orgConfigAuthMethods : List String) : List String :=
  ALL_OAUTH_TENANT_PROVIDERS.filter fun provider =>
    getMethodFromProvider provider ∈ orgConfigAuthMethods

/-! ## The key of the select -/

def PROVIDER_TENANT_ID_SEPARATOR : Char := ':'

def serializeProviderAndTenantId (providerType tenantId : String) : String :=
  providerType ++ String.singleton PROVIDER_TENANT_ID_SEPARATOR ++ tenantId

/-- The provider and the tenant id; either may be `undefined`. -/
def parseProviderAndTenantId (providerAndTenantId : String) : Option String × Option String :=
  let pieces := (Splitting.split PROVIDER_TENANT_ID_SEPARATOR providerAndTenantId).take 2
  (pieces[0]?, pieces[1]?)

/-! ## The modal -/

/-- `allowed_oauth_tenants`: the ids of the tenants by provider. -/
abbrev AllowedTenants := OrderedMap String (List String)

structure ProviderTenant where
  tenant_id : String
  tenant_name : String
  deriving DecidableEq

structure OAuthRegistration where
  provider_type : String
  provider_tenants : List ProviderTenant
  deriving DecidableEq

structure OAuthTenant where
  provider : String
  tenantId : String
  deriving DecidableEq

structure LinkedAccount where
  label : String
  value : String
  provider : String
  tenantId : String
  deriving DecidableEq

/-- The name is found on an object that was never written. -/
def Inherited (name : String) : Prop := name = "__proto__" ∨ name ∈ objectPrototypeNames

instance : DecidablePred Inherited := fun _ => inferInstanceAs (Decidable (_ ∨ _))

/-- `allowedOAuthTenants[provider]`. What is inherited has no `some` and cannot be spread. -/
def readTenants (allowedOAuthTenants : AllowedTenants) (provider : String) :
    Except TypeError (Option (List String)) :=
  match allowedOAuthTenants.get provider with
  | some tenants => .ok (some tenants)
  | none => if Inherited provider then .error .typeError else .ok none

def linkedAccount (provider : String) (tenant : ProviderTenant) : LinkedAccount where
  label := getDisplayTenantProvider provider ++ " " ++ tenant.tenant_name ++ " [" ++
    tenant.tenant_id ++ "]"
  value := serializeProviderAndTenantId provider tenant.tenant_id
  provider := provider
  tenantId := tenant.tenant_id

section

variable (toLowerCase : String → String)

/-- The linked accounts of one registration: its tenants that are not allowed yet. -/
def registrationAccounts (allowedOAuthTenants : AllowedTenants) (registration : OAuthRegistration) :
    Except TypeError (List LinkedAccount) :=
  let provider := toLowerCase registration.provider_type
  registration.provider_tenants.filterMapM fun tenant => do
    let allowed ← readTenants allowedOAuthTenants provider
    return if tenant.tenant_id ∈ allowed.getD [] then none else some (linkedAccount provider tenant)

/-- `linkedAccounts`, for the `oauth_registrations` of the member if there is one. -/
def linkedAccounts (allowedOAuthTenants : AllowedTenants) (orgConfigAuthMethods : List String)
    (oauth_registrations : Option (List OAuthRegistration)) : Except TypeError (List LinkedAccount) :=
  let registrations := (oauth_registrations.getD []).filter fun registration =>
    getMethodFromProvider (toLowerCase registration.provider_type) ∈ orgConfigAuthMethods
  (registrations.mapM (registrationAccounts toLowerCase allowedOAuthTenants)).map List.flatten

end

/-- What the inputs of the modal hold. -/
structure OAuthAccountModal where
  isManualMode : Bool
  manualInputProvider : Option String
  manualInputTenantId : Option String
  selectedLinkedAccountId : Option String

def OAuthAccountModal.getInput (modal : OAuthAccountModal) : Option String × Option String :=
  if modal.isManualMode then (modal.manualInputProvider, modal.manualInputTenantId)
  else
    match modal.selectedLinkedAccountId.filter (· ≠ "") with
    | some selectedLinkedAccountId => parseProviderAndTenantId selectedLinkedAccountId
    | none => (none, none)

/-- What `onAddTenant` sets the allowed tenants of the form to: it spreads those of the render it was
made in. -/
def onAddTenant (allowedOAuthTenants : AllowedTenants) (tenant : OAuthTenant) :
    Except TypeError AllowedTenants := do
  let tenants ← readTenants allowedOAuthTenants tenant.provider
  return allowedOAuthTenants.set tenant.provider (tenants.getD [] ++ [tenant.tenantId])

/-- The allowed tenants of the form after the modal is confirmed. -/
def confirm (allowedOAuthTenants : AllowedTenants) (modal : OAuthAccountModal) :
    Except TypeError AllowedTenants :=
  let (provider, tenantId) := modal.getInput
  match provider.filter (· ≠ ""), tenantId.filter (· ≠ "") with
  | some provider, some tenantId => onAddTenant allowedOAuthTenants ⟨provider, tenantId⟩
  | _, _ => .ok allowedOAuthTenants

/-! ## What adding a tenant is meant to do -/

/-- The ids of the allowed tenants of a provider. -/
def tenantsOf (allowed : AllowedTenants) (provider : String) : List String :=
  (allowed.get provider).getD []

/-- No tenant is allowed twice under a provider. -/
def NoTenantTwice (allowed : AllowedTenants) : Prop := ∀ provider, (tenantsOf allowed provider).Nodup

/-- The tenant that the inputs of the modal stand for: one of the linked accounts, or what was
selected and typed in. -/
def Chosen (accounts : List LinkedAccount) (orgConfigAuthMethods : List String)
    (modal : OAuthAccountModal) (tenant : OAuthTenant) : Prop :=
  if modal.isManualMode then
    tenant.provider ∈ availableOAuthProviders orgConfigAuthMethods ∧ tenant.tenantId ≠ "" ∧
      modal.manualInputProvider = some tenant.provider ∧
      modal.manualInputTenantId = some tenant.tenantId
  else
    ∃ account ∈ accounts, account.provider = tenant.provider ∧ account.tenantId = tenant.tenantId ∧
      modal.selectedLinkedAccountId = some account.value

/-- The provider gains exactly the tenant, no tenant is there twice, and the other providers keep
theirs. -/
structure AddsExactly (allowed next : AllowedTenants) (tenant : OAuthTenant) : Prop where
  gains : tenantsOf next tenant.provider = tenantsOf allowed tenant.provider ++ [tenant.tenantId]
  noTenantTwice : NoTenantTwice next
  others : ∀ provider, provider ≠ tenant.provider → next.get provider = allowed.get provider

/-- Linked accounts are found again from their values, and distinct ones have distinct values. -/
structure ValuesAreKeys (accounts : List LinkedAccount) : Prop where
  parse_value : ∀ account ∈ accounts,
    parseProviderAndTenantId account.value = (some account.provider, some account.tenantId)
  value_inj : ∀ account ∈ accounts, ∀ account' ∈ accounts, account.value = account'.value →
    account.provider = account'.provider ∧ account.tenantId = account'.tenantId

/-- The linked accounts are told apart, and confirming adds exactly the tenant. -/
def AddsSelectedTenant (accounts : List LinkedAccount) (allowed : AllowedTenants)
    (modal : OAuthAccountModal) (tenant : OAuthTenant) : Prop :=
  ValuesAreKeys accounts ∧ ∃ next, confirm allowed modal = .ok next ∧ AddsExactly allowed next tenant

/-! ## The names of providers -/

variable {allowedAuthMethods : Option (List String)} {provider tenantId : String}

theorem method_known {method : String} (h : method ∈ useAllowedAuthMethods allowedAuthMethods) :
    method ∈ configAuthMethodMap.map Prod.snd := by
  obtain ⟨name, -, hname⟩ := List.mem_filterMap.1 h
  exact List.mem_map.2 ⟨_, OrderedMap.mem_of_lookup hname, rfl⟩

/-- A provider with a known method is not empty, has no separator and is no inherited name. -/
theorem provider_known
    (h : getMethodFromProvider provider ∈ useAllowedAuthMethods allowedAuthMethods) :
    provider ≠ "" ∧ PROVIDER_TENANT_ID_SEPARATOR ∉ provider.toList ∧ ¬Inherited provider := by
  have hmethod := method_known h
  refine ⟨?_, fun hsep => ?_, fun hinherited => ?_⟩
  · rintro rfl
    revert hmethod
    decide
  · have hnone : ∀ method ∈ configAuthMethodMap.map Prod.snd,
        PROVIDER_TENANT_ID_SEPARATOR ∉ method.toList := by decide
    refine hnone _ hmethod ?_
    rw [getMethodFromProvider, String.toList_append]
    exact List.mem_append_left _ hsep
  · have hnone : ∀ name ∈ "__proto__" :: objectPrototypeNames,
        getMethodFromProvider name ∉ configAuthMethodMap.map Prod.snd := by decide
    exact hnone provider (List.mem_cons.2 hinherited) hmethod

/-! ## The key of the select -/

theorem serialize_ne_empty : serializeProviderAndTenantId provider tenantId ≠ "" := by
  intro h
  have hlist := congrArg String.toList h
  simp [serializeProviderAndTenantId] at hlist

/-- The provider comes back whole, the tenant id only up to the next separator. -/
theorem parse_serialize (h : PROVIDER_TENANT_ID_SEPARATOR ∉ provider.toList) :
    parseProviderAndTenantId (serializeProviderAndTenantId provider tenantId) =
      (some provider, (Splitting.split PROVIDER_TENANT_ID_SEPARATOR tenantId).head?) := by
  rw [parseProviderAndTenantId, serializeProviderAndTenantId, Splitting.split_append h]
  cases Splitting.split PROVIDER_TENANT_ID_SEPARATOR tenantId <;> rfl

theorem parse_serialize_eq_iff (h : PROVIDER_TENANT_ID_SEPARATOR ∉ provider.toList) :
    parseProviderAndTenantId (serializeProviderAndTenantId provider tenantId) =
        (some provider, some tenantId) ↔
      PROVIDER_TENANT_ID_SEPARATOR ∉ tenantId.toList := by
  rw [parse_serialize h, ← Splitting.head?_split_eq_some, Prod.mk.injEq, and_iff_right rfl]

/-! ## The linked accounts -/

section

variable {toLowerCase : String → String} {allowed : AllowedTenants}

theorem readTenants_ok (h : ¬Inherited provider) :
    readTenants allowed provider = .ok (allowed.get provider) := by
  unfold readTenants
  cases allowed.get provider with
  | some tenants => rfl
  | none => exact if_neg h

theorem registrationAccounts_ok {registration : OAuthRegistration}
    (h : ¬Inherited (toLowerCase registration.provider_type)) :
    registrationAccounts toLowerCase allowed registration =
      .ok (registration.provider_tenants.filterMap fun tenant =>
        if tenant.tenant_id ∈ tenantsOf allowed (toLowerCase registration.provider_type) then none
        else some (linkedAccount (toLowerCase registration.provider_type) tenant)) :=
  FailingFolds.filterMapM_ok fun tenant _ => by
    rw [readTenants_ok h]
    rfl

/-- A tenant of one of the registrations as a linked account, of an allowed method and not allowed
yet. -/
structure Linked (toLowerCase : String → String) (allowed : AllowedTenants)
    (orgConfigAuthMethods : List String) (oauth_registrations : Option (List OAuthRegistration))
    (account : LinkedAccount) : Prop where
  registered : ∃ registration ∈ oauth_registrations.getD [],
    ∃ tenant ∈ registration.provider_tenants,
      account = linkedAccount (toLowerCase registration.provider_type) tenant
  method : getMethodFromProvider account.provider ∈ orgConfigAuthMethods
  fresh : account.tenantId ∉ tenantsOf allowed account.provider

theorem registrationAccounts_linked {oauth_registrations : Option (List OAuthRegistration)}
    {registration : OAuthRegistration} (hmem : registration ∈ oauth_registrations.getD [])
    (hmethod : getMethodFromProvider (toLowerCase registration.provider_type) ∈
      useAllowedAuthMethods allowedAuthMethods) :
    ∃ accounts, registrationAccounts toLowerCase allowed registration = .ok accounts ∧
      ∀ account ∈ accounts, Linked toLowerCase allowed (useAllowedAuthMethods allowedAuthMethods)
        oauth_registrations account := by
  refine ⟨_, registrationAccounts_ok (provider_known hmethod).2.2, fun account haccount => ?_⟩
  obtain ⟨tenant, htenant, hsome⟩ := List.mem_filterMap.1 haccount
  split_ifs at hsome with hallowed
  cases hsome
  exact ⟨⟨registration, hmem, tenant, htenant, rfl⟩, hmethod, hallowed⟩

theorem linkedAccounts_ok (oauth_registrations : Option (List OAuthRegistration)) :
    ∃ accounts, linkedAccounts toLowerCase allowed (useAllowedAuthMethods allowedAuthMethods)
        oauth_registrations = .ok accounts ∧
      ∀ account ∈ accounts, Linked toLowerCase allowed (useAllowedAuthMethods allowedAuthMethods)
        oauth_registrations account := by
  have hregistration : ∀ registration ∈ (oauth_registrations.getD []).filter fun registration =>
        getMethodFromProvider (toLowerCase registration.provider_type) ∈
          useAllowedAuthMethods allowedAuthMethods,
      ∃ accounts, registrationAccounts toLowerCase allowed registration = .ok accounts ∧
        ∀ account ∈ accounts, Linked toLowerCase allowed
          (useAllowedAuthMethods allowedAuthMethods) oauth_registrations account := by
    intro registration hregistration
    obtain ⟨hmem, hmethod⟩ := List.mem_filter.1 hregistration
    exact registrationAccounts_linked hmem (of_decide_eq_true hmethod)
  obtain ⟨lists, hlists, hlinked⟩ := FailingFolds.mapM_ok _ hregistration
  refine ⟨lists.flatten, by rw [linkedAccounts, hlists]; rfl, fun account haccount => ?_⟩
  obtain ⟨accounts, haccounts, hmem⟩ := List.mem_flatten.1 haccount
  exact hlinked accounts haccounts account hmem

variable {orgConfigAuthMethods : List String}
  {oauth_registrations : Option (List OAuthRegistration)} {account : LinkedAccount}

theorem Linked.value_eq
    (h : Linked toLowerCase allowed orgConfigAuthMethods oauth_registrations account) :
    account.value = serializeProviderAndTenantId account.provider account.tenantId := by
  obtain ⟨registration, -, tenant, -, rfl⟩ := h.registered
  rfl

theorem Linked.tenantId_ne
    (h : Linked toLowerCase allowed orgConfigAuthMethods oauth_registrations account)
    (hids : ∀ registration ∈ oauth_registrations.getD [],
      ∀ tenant ∈ registration.provider_tenants, tenant.tenant_id ≠ "") :
    account.tenantId ≠ "" := by
  obtain ⟨registration, hregistration, tenant, htenant, rfl⟩ := h.registered
  exact hids registration hregistration tenant htenant

/-- The values are keys just when no tenant id has the separator. -/
theorem valuesAreKeys_iff {accounts : List LinkedAccount}
    (h : ∀ account ∈ accounts, Linked toLowerCase allowed (useAllowedAuthMethods allowedAuthMethods)
      oauth_registrations account) :
    ValuesAreKeys accounts ↔
      ∀ account ∈ accounts, PROVIDER_TENANT_ID_SEPARATOR ∉ account.tenantId.toList := by
  have hprovider : ∀ account ∈ accounts, PROVIDER_TENANT_ID_SEPARATOR ∉ account.provider.toList :=
    fun account haccount => (provider_known (h account haccount).method).2.1
  refine ⟨fun hkeys account haccount => ?_, fun hsep => ⟨fun account haccount => ?_, ?_⟩⟩
  · rw [← parse_serialize_eq_iff (hprovider account haccount), ← (h account haccount).value_eq]
    exact hkeys.parse_value account haccount
  · rw [(h account haccount).value_eq]
    exact (parse_serialize_eq_iff (hprovider account haccount)).2 (hsep account haccount)
  · intro account haccount account' haccount' hvalue
    rw [(h account haccount).value_eq, (h account' haccount').value_eq] at hvalue
    exact Splitting.append_inj (hprovider account haccount) (hprovider account' haccount') hvalue

/-! ## Adding the tenant -/

variable {modal : OAuthAccountModal} {tenant : OAuthTenant}

theorem onAddTenant_ok (h : ¬Inherited tenant.provider) :
    onAddTenant allowed tenant =
      .ok (allowed.set tenant.provider (tenantsOf allowed tenant.provider ++ [tenant.tenantId])) := by
  rw [onAddTenant, readTenants_ok h]
  rfl

theorem filter_of_ne {s : String} (h : s ≠ "") : (some s).filter (· ≠ "") = some s :=
  Option.filter_some_pos (decide_eq_true h)

/-- Both inputs are given, and neither is empty. -/
theorem confirm_of_input (hinput : modal.getInput = (some tenant.provider, some tenant.tenantId))
    (hprovider : tenant.provider ≠ "") (htenantId : tenant.tenantId ≠ "") :
    confirm allowed modal = onAddTenant allowed tenant := by
  simp only [confirm, hinput, filter_of_ne hprovider, filter_of_ne htenantId]

theorem tenantsOf_set (allowed : AllowedTenants) (provider provider' : String)
    (tenants : List String) :
    tenantsOf (allowed.set provider tenants) provider' =
      if provider' = provider then tenants else tenantsOf allowed provider' := by
  rw [tenantsOf, OrderedMap.get_set]
  split_ifs <;> rfl

/-- A tenant that is added is the only change, unless it was allowed before. -/
theorem addsExactly_set_iff (hallowed : NoTenantTwice allowed) :
    AddsExactly allowed
        (allowed.set tenant.provider (tenantsOf allowed tenant.provider ++ [tenant.tenantId])) tenant ↔
      tenant.tenantId ∉ tenantsOf allowed tenant.provider := by
  refine ⟨fun h hmem => ?_, fun hfresh => ⟨?_, fun provider => ?_, fun provider hne => ?_⟩⟩
  · have hnodup := h.noTenantTwice tenant.provider
    rw [h.gains, List.nodup_append] at hnodup
    exact hnodup.2.2 _ hmem _ (List.mem_singleton_self _) rfl
  · rw [tenantsOf_set, if_pos rfl]
  · rw [tenantsOf_set]
    split_ifs
    · rw [← List.concat_eq_append]
      exact (hallowed _).concat hfresh
    · exact hallowed provider
  · rw [OrderedMap.get_set, if_neg hne]

theorem Chosen.provider_known {accounts : List LinkedAccount}
    (haccounts : ∀ account ∈ accounts, Linked toLowerCase allowed
      (useAllowedAuthMethods allowedAuthMethods) oauth_registrations account)
    (h : Chosen accounts (useAllowedAuthMethods allowedAuthMethods) modal tenant) :
    getMethodFromProvider tenant.provider ∈ useAllowedAuthMethods allowedAuthMethods := by
  unfold Chosen at h
  split_ifs at h
  · exact of_decide_eq_true (List.mem_filter.1 h.1).2
  · obtain ⟨account, haccount, hprovider, -⟩ := h
    rw [← hprovider]
    exact (haccounts account haccount).method

/-- Where the values of the accounts are keys, confirming adds what was chosen. -/
theorem confirm_chosen {accounts : List LinkedAccount}
    (haccounts : ∀ account ∈ accounts, Linked toLowerCase allowed
      (useAllowedAuthMethods allowedAuthMethods) oauth_registrations account)
    (hids : ∀ registration ∈ oauth_registrations.getD [],
      ∀ tenant ∈ registration.provider_tenants, tenant.tenant_id ≠ "")
    (h : Chosen accounts (useAllowedAuthMethods allowedAuthMethods) modal tenant)
    (hkeys : ValuesAreKeys accounts) :
    confirm allowed modal =
      .ok (allowed.set tenant.provider (tenantsOf allowed tenant.provider ++ [tenant.tenantId])) := by
  obtain ⟨hprovider, -, hinherited⟩ := OAuthTenants.provider_known (h.provider_known haccounts)
  rw [← onAddTenant_ok hinherited]
  unfold Chosen at h
  split_ifs at h with hmanual
  · obtain ⟨-, htenantId, hp, ht⟩ := h
    exact confirm_of_input (by rw [OAuthAccountModal.getInput, if_pos hmanual, hp, ht]) hprovider
      htenantId
  · obtain ⟨account, haccount, hp, ht, hselected⟩ := h
    have hvalue : account.value ≠ "" := by
      rw [(haccounts account haccount).value_eq]
      exact serialize_ne_empty
    refine confirm_of_input ?_ hprovider (ht ▸ (haccounts account haccount).tenantId_ne hids)
    rw [OAuthAccountModal.getInput, if_neg hmanual, hselected, filter_of_ne hvalue, ← hp, ← ht]
    exact hkeys.parse_value account haccount

end

/-- A tenant is added as chosen just when no linked account has a tenant id with the separator and,
in manual mode, the tenant was not allowed before. -/
theorem adds_selected_tenant_iff (toLowerCase : String → String)
    (allowedAuthMethods : Option (List String)) (oauth_registrations : Option (List OAuthRegistration))
    (hids : ∀ registration ∈ oauth_registrations.getD [],
      ∀ tenant ∈ registration.provider_tenants, tenant.tenant_id ≠ "")
    (allowed : AllowedTenants) (hallowed : NoTenantTwice allowed) :
    ∃ accounts, linkedAccounts toLowerCase allowed (useAllowedAuthMethods allowedAuthMethods)
        oauth_registrations = .ok accounts ∧
      ∀ modal tenant, Chosen accounts (useAllowedAuthMethods allowedAuthMethods) modal tenant →
        (AddsSelectedTenant accounts allowed modal tenant ↔
          (∀ account ∈ accounts, PROVIDER_TENANT_ID_SEPARATOR ∉ account.tenantId.toList) ∧
            (modal.isManualMode = true →
              tenant.tenantId ∉ tenantsOf allowed tenant.provider)) := by
  obtain ⟨accounts, hok, hlinked⟩ :=
    @linkedAccounts_ok allowedAuthMethods toLowerCase allowed oauth_registrations
  refine ⟨accounts, hok, fun modal tenant hchosen => ?_⟩
  rw [← valuesAreKeys_iff hlinked, AddsSelectedTenant]
  refine and_congr_right fun hkeys => ?_
  have hconfirm := confirm_chosen hlinked hids hchosen hkeys
  have hfresh : modal.isManualMode = false → tenant.tenantId ∉ tenantsOf allowed tenant.provider := by
    intro hmanual
    rw [Chosen, if_neg (by simp [hmanual])] at hchosen
    obtain ⟨account, haccount, hp, ht, -⟩ := hchosen
    rw [← hp, ← ht]
    exact (hlinked account haccount).fresh
  constructor
  · rintro ⟨next, hnext, hadds⟩ -
    rw [hconfirm] at hnext
    cases hnext
    exact (addsExactly_set_iff hallowed).1 hadds
  · intro hmanual
    refine ⟨_, hconfirm, (addsExactly_set_iff hallowed).2 ?_⟩
    cases hmode : modal.isManualMode with
    | true => exact hmanual hmode
    | false => exact hfresh hmode

/-- A member with one Slack workspace, linked under the given id. -/
def slackRegistration (tenant_id : String) : OAuthRegistration :=
  ⟨"slack", [⟨tenant_id, "Acme"⟩]⟩

/-- The linked account with the given id, selected. -/
def selected (tenant_id : String) : OAuthAccountModal :=
  ⟨false, none, none, some (serializeProviderAndTenantId "slack" tenant_id)⟩

theorem adds_selected_tenant_slack :
    ∃ accounts, linkedAccounts id .empty (useAllowedAuthMethods none)
        (some [slackRegistration "T024BE7LD"]) = .ok accounts ∧
      AddsSelectedTenant accounts .empty (selected "T024BE7LD") ⟨"slack", "T024BE7LD"⟩ := by
  obtain ⟨accounts, hok, hiff⟩ := adds_selected_tenant_iff id none
    (some [slackRegistration "T024BE7LD"]) (by decide) .empty fun _ => List.nodup_nil
  have haccounts : [linkedAccount "slack" ⟨"T024BE7LD", "Acme"⟩] = accounts := Except.ok.inj hok
  subst haccounts
  refine ⟨_, hok, (hiff (selected "T024BE7LD") ⟨"slack", "T024BE7LD"⟩ ?_).2 ⟨by decide, by decide⟩⟩
  exact ⟨_, List.mem_singleton_self _, rfl, rfl, rfl⟩

/-- A tenant id with a separator is cut off there, and another tenant is allowed. -/
theorem adds_truncated_tenant :
    linkedAccounts id .empty (useAllowedAuthMethods none) (some [slackRegistration "acme:eu"]) =
        .ok [linkedAccount "slack" ⟨"acme:eu", "Acme"⟩] ∧
      Chosen [linkedAccount "slack" ⟨"acme:eu", "Acme"⟩] (useAllowedAuthMethods none)
        (selected "acme:eu") ⟨"slack", "acme:eu"⟩ ∧
      confirm .empty (selected "acme:eu") = .ok (OrderedMap.empty.set "slack" ["acme"]) ∧
      ¬AddsSelectedTenant [linkedAccount "slack" ⟨"acme:eu", "Acme"⟩] .empty (selected "acme:eu")
        ⟨"slack", "acme:eu"⟩ := by
  refine ⟨rfl, ⟨_, List.mem_singleton_self _, rfl, rfl, rfl⟩, rfl, fun h => ?_⟩
  have hparse := h.1.parse_value _ (List.mem_singleton_self _)
  revert hparse
  decide

end StytchBrowser.AdminPortal.OAuthTenants
