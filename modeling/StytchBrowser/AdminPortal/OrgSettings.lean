import StytchBrowser.AdminPortal.OAuthTenants
import StytchBrowser.AdminPortal.SameContents
import StytchBrowser.AdminPortal.SettingsForms

/-!
# The settings of an organization

The sections "Details", "Authentication settings" and "User onboarding" of the settings screen. Each
compares its form with what was fetched, property by property, and sends what differs; lists are
compared in any order.

* `settings_permitted_iff`: every property but `allowed_auth_methods` is only sent by a member who may
  set it, unless it has changed since the edit was started;
* `settings_saved`: after a save the organization is what the form showed, and does not restrict the
  authentication methods to none.
-/

namespace StytchBrowser.AdminPortal.OrgSettings

open Machine (Reach Since anyStep)
open OAuthTenants Settings

/-! ## Organizations -/

/-- Of invites and of JIT provisioning. -/
inductive Provisioning where
  | ALL_ALLOWED
  | RESTRICTED
  | NOT_ALLOWED
  deriving DecidableEq

inductive Methods where
  | ALL_ALLOWED
  | RESTRICTED
  deriving DecidableEq

inductive MfaPolicy where
  | OPTIONAL
  | REQUIRED_FOR_ALL
  deriving DecidableEq

/-- The properties of an organization that the sections are about. -/
inductive OrgProperty where
  | organization_name
  | organization_slug
  | auth_methods
  | allowed_auth_methods
  | mfa_methods
  | allowed_mfa_methods
  | mfa_policy
  | email_invites
  | email_jit_provisioning
  | email_allowed_domains
  | sso_jit_provisioning
  | sso_jit_provisioning_allowed_connections
  | oauth_tenant_jit_provisioning
  | allowed_oauth_tenants
  deriving DecidableEq

namespace OrgProperty

def all : List OrgProperty :=
  [organization_name, organization_slug, auth_methods, allowed_auth_methods, mfa_methods,
    allowed_mfa_methods, mfa_policy, email_invites, email_jit_provisioning, email_allowed_domains,
    sso_jit_provisioning, sso_jit_provisioning_allowed_connections, oauth_tenant_jit_provisioning,
    allowed_oauth_tenants]

theorem mem_all (p : OrgProperty) : p ∈ all := by cases p <;> decide

/-- The type of a property; three of them may be missing. -/
abbrev Value : OrgProperty → Type
  | organization_name | organization_slug => String
  | auth_methods => Methods
  | mfa_methods => Option Methods
  | allowed_auth_methods | allowed_mfa_methods => Option (List String)
  | mfa_policy => MfaPolicy
  | email_invites | email_jit_provisioning | sso_jit_provisioning
  | oauth_tenant_jit_provisioning => Provisioning
  | email_allowed_domains | sso_jit_provisioning_allowed_connections => List String
  | allowed_oauth_tenants => AllowedTenants

/-- `JSON.stringify` leaves out what is `undefined`. -/
def isDefined : (p : OrgProperty) → p.Value → Bool
  | mfa_methods, value => value.isSome
  | allowed_auth_methods, value | allowed_mfa_methods, value => value.isSome
  | _, _ => true

end OrgProperty

abbrev Organization : Type := ∀ p : OrgProperty, p.Value

/-- The actions on `stytch.organization` that the sections ask for. -/
inductive Permission where
  | updateInfoName
  | updateInfoSlug
  | allowedAuthMethods
  | mfaPolicy
  | allowedMfaMethods
  | emailJitProvisioning
  | emailInvites
  | allowedDomains
  | ssoJitProvisioning
  | oauthTenantJitProvisioning
  | allowedOauthTenants
  deriving DecidableEq

/-- The request for the properties that a section has put in an object, if there are any. -/
def mutate (mutatedProperties : Patch OrgProperty.Value) : Option (Patch OrgProperty.Value) :=
  if ∀ p ∈ OrgProperty.all, (mutatedProperties p).isNone then none
  else some fun p => (mutatedProperties p).filter p.isDefined

/-! ## Comparing lists -/

/-- `arraysHaveSameContents` for arrays of strings, see `arraysHaveSameContents_eq`. -/
def haveSameContents (arr1 arr2 : Option (List String)) : Bool :=
  match arr1, arr2 with
  | some arr1, some arr2 => decide (arr1.Perm arr2)
  | _, _ => false

theorem arraysHaveSameContents_eq (numbers : NumberText) (arr1 arr2 : Option (List String)) :
    arraysHaveSameContents numbers (arr1.map (·.map .str)) (arr2.map (·.map .str)) =
      .ok (haveSameContents arr1 arr2) := by
  cases arr1 with
  | none => rfl
  | some arr1 =>
    cases arr2 with
    | none => rfl
    | some arr2 => exact arraysHaveSameContents_strs numbers arr1 arr2

/-- The text of an entry of `allowed_oauth_tenants`, by which `sort` orders entries. -/
def entryText (entry : String × List String) : String :=
  entry.1 ++ "," ++ ",".intercalate entry.2

def entryJson (entry : String × List String) : Json := .arr [.str entry.1, .arr (entry.2.map .str)]

def sortedEntries (tenants : AllowedTenants) : List (String × List String) :=
  (objectEntries tenants).insertionSort fun entry entry' =>
    CodeUnits.Le (entryText entry) (entryText entry')

/-- `arraysHaveSameContents` for `Object.entries`, see `tenantsHaveSameContents_eq`. -/
def tenantsHaveSameContents (tenants1 tenants2 : AllowedTenants) : Bool :=
  decide (sortedEntries tenants1 = sortedEntries tenants2)

theorem entryJson_injective : Function.Injective entryJson := by
  rintro ⟨provider, tenants⟩ ⟨provider', tenants'⟩ h
  simp only [entryJson, Json.arr.injEq, List.cons.injEq, Json.str.injEq, and_true] at h
  have hinj : Function.Injective Json.str := fun _ _ h => Json.str.inj h
  exact Prod.ext h.1 (hinj.list_map h.2)

theorem tenantsHaveSameContents_eq (numbers : NumberText) (tenants1 tenants2 : AllowedTenants) :
    decide ((objectEntries tenants1).length = (objectEntries tenants2).length ∧
      ((sortedEntries tenants1).zip (sortedEntries tenants2)).all fun (value, other) =>
        (entryJson value).stringify numbers = (entryJson other).stringify numbers) =
      tenantsHaveSameContents tenants1 tenants2 := by
  have hlength : ∀ tenants, (sortedEntries tenants).length = (objectEntries tenants).length :=
    fun tenants => List.length_insertionSort _ _
  have hinj : Function.Injective fun entry => (entryJson entry).stringify numbers :=
    Json.stringify_injective.comp entryJson_injective
  rw [tenantsHaveSameContents, decide_eq_decide, ← hlength, ← hlength]
  constructor
  · rintro ⟨h, hall⟩
    exact (zip_all_iff hinj h).1 hall
  · intro h
    exact ⟨congrArg List.length h, (zip_all_iff hinj (congrArg List.length h)).2 h⟩

/-! ## Details -/

structure OrgDetailsFormState where
  organizationName : String
  organizationSlug : String

namespace OrgDetails

inductive Edit where
  | organizationName (value : String)
  | organizationSlug (value : String)

def remoteState (orgInfo : Organization) : OrgDetailsFormState where
  organizationName := orgInfo .organization_name
  organizationSlug := orgInfo .organization_slug

def offered (can : Permission → Bool) : Edit → Bool
  | .organizationName _ => can .updateInfoName
  | .organizationSlug _ => can .updateInfoSlug

def apply (localState : OrgDetailsFormState) : Edit → OrgDetailsFormState
  | .organizationName value => { localState with organizationName := value }
  | .organizationSlug value => { localState with organizationSlug := value }

def findMutatedProperties (localState remoteState : OrgDetailsFormState) :
    Patch OrgProperty.Value
  | .organization_name =>
      if remoteState.organizationName ≠ localState.organizationName ∧
          localState.organizationName.length > 0 then
        some localState.organizationName
      else none
  | .organization_slug =>
      if remoteState.organizationSlug ≠ localState.organizationSlug ∧
          localState.organizationSlug.length > 0 then
        some localState.organizationSlug
      else none
  | _ => none

end OrgDetails

open OrgDetails in
def OrgSettingsDetailsSection : Section OrgProperty.Value Permission where
  State := OrgDetailsFormState
  Edit := Edit
  Dialog := Empty
  dialogEq := inferInstance
  remoteState := remoteState
  hasCTA can := can .updateInfoName || can .updateInfoSlug
  onCancel _ localState := localState
  offered can _ := offered can
  opens _ _ := nofun
  dialogOf _ := none
  apply _ := apply
  disableSave localState remoteState :=
    (mutate (findMutatedProperties localState remoteState)).isNone
  handleSave localState remoteState := mutate (findMutatedProperties localState remoteState)

/-! ## Authentication settings -/

/-- What the page is configured with. -/
structure Config where
  allowedAuthMethods : Option (List String)
  allowedMfaAuthMethods : Option (List String)
  mfa_controls_enabled : Bool

def configMfaMethodMap : List (String × String) := [("smsOtp", "sms_otp"), ("totp", "totp")]

def useAllowedMfaMethods (allowedMfaAuthMethods : Option (List String)) : List String :=
  (allowedMfaAuthMethods.getD (configMfaMethodMap.map Prod.fst)).filterMap fun method =>
    configMfaMethodMap.lookup method

structure AuthSettingsFormState where
  authMethods : Methods
  allowedAuthMethods : Option (List String)
  mfaPolicy : MfaPolicy
  mfaMethods : Option Methods
  allowedMfaMethods : Option (List String)
  isPrimaryAuthAllAllowed : Bool
  isMfaPolicyRequiredForAll : Bool
  isSecondaryAuthAllAllowed : Bool

namespace Authentication

inductive Edit where
  | primaryAuth (value : Bool)
  | mfaPolicy (value : Bool)
  | secondaryAuth (value : Bool)
  | allowedAuthMethodClick (authMethod : String)
  | allowedMfaMethodClick (mfaMethod : String)

def remoteState (orgInfo : Organization) : AuthSettingsFormState where
  authMethods := orgInfo .auth_methods
  allowedAuthMethods := orgInfo .allowed_auth_methods
  mfaPolicy := orgInfo .mfa_policy
  mfaMethods := orgInfo .mfa_methods
  allowedMfaMethods := orgInfo .allowed_mfa_methods
  isPrimaryAuthAllAllowed := orgInfo .auth_methods = .ALL_ALLOWED
  isMfaPolicyRequiredForAll := orgInfo .mfa_policy = .REQUIRED_FOR_ALL
  isSecondaryAuthAllAllowed := orgInfo .mfa_methods = some .ALL_ALLOWED

/-- The boxes of the primary methods are there for everyone who may edit the section. -/
def offered (config : Config) (can : Permission → Bool) (localState : AuthSettingsFormState) :
    Edit → Bool
  | .primaryAuth _ => can .allowedAuthMethods
  | .allowedAuthMethodClick authMethod =>
      !localState.isPrimaryAuthAllAllowed &&
        authMethod ∈ useAllowedAuthMethods config.allowedAuthMethods
  | .mfaPolicy _ => config.mfa_controls_enabled && can .mfaPolicy
  | .secondaryAuth _ => config.mfa_controls_enabled && can .allowedMfaMethods
  | .allowedMfaMethodClick mfaMethod =>
      config.mfa_controls_enabled && !localState.isSecondaryAuthAllAllowed &&
        can .allowedMfaMethods && mfaMethod ∈ useAllowedMfaMethods config.allowedMfaAuthMethods

/-- A method that is clicked: without a list the handler throws. -/
def toggle (methods : Option (List String)) (method : String) : Option (List String) :=
  methods.map fun methods =>
    if method ∈ methods then methods.filter (· ≠ method) else methods ++ [method]

def apply (localState : AuthSettingsFormState) : Edit → AuthSettingsFormState
  | .primaryAuth value => { localState with isPrimaryAuthAllAllowed := value }
  | .mfaPolicy value => { localState with isMfaPolicyRequiredForAll := value }
  | .secondaryAuth value => { localState with isSecondaryAuthAllAllowed := value }
  | .allowedAuthMethodClick authMethod =>
      { localState with allowedAuthMethods := toggle localState.allowedAuthMethods authMethod }
  | .allowedMfaMethodClick mfaMethod =>
      { localState with allowedMfaMethods := toggle localState.allowedMfaMethods mfaMethod }

def mutatedProperties (localState remoteState : AuthSettingsFormState) : Patch OrgProperty.Value
  | .auth_methods =>
      if localState.isPrimaryAuthAllAllowed ≠ remoteState.isPrimaryAuthAllAllowed then
        some (if localState.isPrimaryAuthAllAllowed then Methods.ALL_ALLOWED else .RESTRICTED)
      else none
  | .allowed_auth_methods =>
      if haveSameContents localState.allowedAuthMethods remoteState.allowedAuthMethods then none
      else some localState.allowedAuthMethods
  | .mfa_methods =>
      if localState.isSecondaryAuthAllAllowed ≠ remoteState.isSecondaryAuthAllAllowed then
        some (if localState.isSecondaryAuthAllAllowed then some Methods.ALL_ALLOWED
          else some .RESTRICTED)
      else none
  | .allowed_mfa_methods =>
      if haveSameContents localState.allowedMfaMethods remoteState.allowedMfaMethods then none
      else some localState.allowedMfaMethods
  | .mfa_policy =>
      if localState.isMfaPolicyRequiredForAll ≠ remoteState.isMfaPolicyRequiredForAll then
        some (if localState.isMfaPolicyRequiredForAll then MfaPolicy.REQUIRED_FOR_ALL else .OPTIONAL)
      else none
  | _ => none

def disableSave (localState remoteState : AuthSettingsFormState) : Bool :=
  let isDeepEqual :=
    haveSameContents localState.allowedAuthMethods remoteState.allowedAuthMethods &&
      haveSameContents localState.allowedMfaMethods remoteState.allowedMfaMethods &&
      localState.isPrimaryAuthAllAllowed == remoteState.isPrimaryAuthAllAllowed &&
      localState.isMfaPolicyRequiredForAll == remoteState.isMfaPolicyRequiredForAll &&
      localState.isSecondaryAuthAllAllowed == remoteState.isSecondaryAuthAllAllowed
  let allowPrimaryAuth :=
    !localState.isPrimaryAuthAllAllowed && localState.allowedAuthMethods == some []
  let allowSecondaryAuth :=
    !localState.isSecondaryAuthAllAllowed && localState.allowedMfaMethods == some []
  isDeepEqual || allowPrimaryAuth || allowSecondaryAuth

end Authentication

open Authentication in
def OrgSettingsAuthenticationSettingsSection (config : Config) :
    Section OrgProperty.Value Permission where
  State := AuthSettingsFormState
  Edit := Edit
  Dialog := Empty
  dialogEq := inferInstance
  remoteState := remoteState
  hasCTA can := can .allowedAuthMethods || can .mfaPolicy || can .allowedMfaMethods
  onCancel remoteState _ := remoteState
  offered := offered config
  opens _ _ := nofun
  dialogOf _ := none
  apply _ := apply
  disableSave := disableSave
  handleSave localState remoteState := mutate (mutatedProperties localState remoteState)

/-! ## User onboarding -/

structure UserOnboardingFormState where
  emailInvites : Provisioning
  emailAllowedDomains : List String
  ssoJitProvisioning : Provisioning
  isEmailJitProvisioningAllowed : Bool
  ssoAllowedConnections : List String
  isOauthTenantJitProvisioningAllowed : Bool
  allowedOAuthTenants : AllowedTenants

def isOauthMethod (method : String) : Bool := method.endsWith "_oauth"

namespace Onboarding

inductive Dialog where
  | addEmail
  | addSsoConnection
  | addOAuthAccount
  deriving DecidableEq

inductive Edit where
  /-- The switch and the choice below it. -/
  | allowEmailInvites (value : Bool)
  | emailInvites (value : Provisioning)
  | isEmailJitProvisioningAllowed (value : Bool)
  | isOauthTenantJitProvisioningAllowed (value : Bool)
  /-- The box and the choice in the table. -/
  | allowSsoJitProvisioning (value : Bool)
  | ssoJitProvisioning (value : Provisioning)
  | deleteDomain (domain : String)
  | removeConnection (connectionId : String)
  | deleteTenant (tenant : OAuthTenant)
  | addDomain (email : String)
  | addConnection (selectedSsoConnectionId : String)
  | addTenant (modal : OAuthAccountModal)

def remoteState (orgInfo : Organization) : UserOnboardingFormState where
  emailInvites := orgInfo .email_invites
  emailAllowedDomains := orgInfo .email_allowed_domains
  isEmailJitProvisioningAllowed := orgInfo .email_jit_provisioning ≠ .NOT_ALLOWED
  ssoJitProvisioning := orgInfo .sso_jit_provisioning
  ssoAllowedConnections := orgInfo .sso_jit_provisioning_allowed_connections
  isOauthTenantJitProvisioningAllowed := orgInfo .oauth_tenant_jit_provisioning ≠ .NOT_ALLOWED
  allowedOAuthTenants := orgInfo .allowed_oauth_tenants

section Controls

variable (orgConfigAuthMethods : List String) (localState : UserOnboardingFormState)

def showEmailTable : Bool :=
  localState.emailInvites = .RESTRICTED || localState.isEmailJitProvisioningAllowed

def showOAuthJitCheckbox : Bool :=
  orgConfigAuthMethods.any isOauthMethod &&
    (availableOAuthProviders orgConfigAuthMethods ≠ [] ||
      localState.allowedOAuthTenants.entries ≠ [])

def showOAuthTable : Bool :=
  localState.isOauthTenantJitProvisioningAllowed &&
    showOAuthJitCheckbox orgConfigAuthMethods localState

def showSsoJitCheckbox : Bool := "sso" ∈ orgConfigAuthMethods

def showSsoComponents : Bool :=
  localState.ssoJitProvisioning ≠ .NOT_ALLOWED && showSsoJitCheckbox orgConfigAuthMethods

variable (can : Permission → Bool)

/-- The controls of the page, but for the buttons that open a dialog. -/
def offered : Edit → Bool
  | .allowEmailInvites _ => can .emailInvites
  | .emailInvites value =>
      can .emailInvites && localState.emailInvites ≠ .NOT_ALLOWED && value ≠ .NOT_ALLOWED
  | .isEmailJitProvisioningAllowed _ => can .emailJitProvisioning
  | .isOauthTenantJitProvisioningAllowed _ =>
      can .oauthTenantJitProvisioning && showOAuthJitCheckbox orgConfigAuthMethods localState
  | .allowSsoJitProvisioning _ =>
      can .ssoJitProvisioning && showSsoJitCheckbox orgConfigAuthMethods
  | .ssoJitProvisioning value =>
      can .ssoJitProvisioning && showSsoComponents orgConfigAuthMethods localState &&
        value ≠ .NOT_ALLOWED
  | .deleteDomain domain =>
      can .allowedDomains && showEmailTable localState && domain ∈ localState.emailAllowedDomains
  | .removeConnection connectionId =>
      can .ssoJitProvisioning && showSsoComponents orgConfigAuthMethods localState &&
        localState.ssoJitProvisioning = .RESTRICTED &&
          connectionId ∈ localState.ssoAllowedConnections
  | .deleteTenant tenant =>
      can .allowedOauthTenants && showOAuthTable orgConfigAuthMethods localState &&
        tenant.tenantId ∈ tenantsOf localState.allowedOAuthTenants tenant.provider
  | .addDomain _ | .addConnection _ | .addTenant _ => false

def opens : Dialog → Bool
  | .addEmail => can .allowedDomains && showEmailTable localState
  | .addSsoConnection =>
      can .ssoJitProvisioning && showSsoComponents orgConfigAuthMethods localState &&
        localState.ssoJitProvisioning = .RESTRICTED
  | .addOAuthAccount =>
      can .allowedOauthTenants && showOAuthTable orgConfigAuthMethods localState &&
        availableOAuthProviders orgConfigAuthMethods ≠ []

end Controls

def dialogOf : Edit → Option Dialog
  | .addDomain _ => some .addEmail
  | .addConnection _ => some .addSsoConnection
  | .addTenant _ => some .addOAuthAccount
  | _ => none

/-- The allowed tenants after the dialog for them is confirmed, `none` when nothing is added or the
handler throws. -/
def addTenant (allowedOAuthTenants : AllowedTenants) (modal : OAuthAccountModal) :
    Option AllowedTenants :=
  let (provider, tenantId) := modal.getInput
  match provider.filter (· ≠ ""), tenantId.filter (· ≠ "") with
  | some provider, some tenantId => (onAddTenant allowedOAuthTenants ⟨provider, tenantId⟩).toOption
  | _, _ => none

def apply (shown localState : UserOnboardingFormState) : Edit → UserOnboardingFormState
  | .allowEmailInvites value =>
      { localState with emailInvites := if value then .ALL_ALLOWED else .NOT_ALLOWED }
  | .emailInvites value => { localState with emailInvites := value }
  | .isEmailJitProvisioningAllowed value =>
      { localState with isEmailJitProvisioningAllowed := value }
  | .isOauthTenantJitProvisioningAllowed value =>
      { localState with isOauthTenantJitProvisioningAllowed := value }
  | .allowSsoJitProvisioning value =>
      { localState with ssoJitProvisioning := if value then .RESTRICTED else .NOT_ALLOWED }
  | .ssoJitProvisioning value => { localState with ssoJitProvisioning := value }
  | .deleteDomain domain =>
      { localState with
        emailAllowedDomains := localState.emailAllowedDomains.filter (· ≠ domain) }
  | .removeConnection connectionId =>
      { localState with
        ssoAllowedConnections := localState.ssoAllowedConnections.filter (· ≠ connectionId) }
  | .deleteTenant tenant =>
      { localState with
        allowedOAuthTenants := localState.allowedOAuthTenants.set tenant.provider
          ((tenantsOf localState.allowedOAuthTenants tenant.provider).filter
            (· ≠ tenant.tenantId)) }
  | .addDomain email =>
      { localState with
        emailAllowedDomains := (localState.emailAllowedDomains ++ [email]).eraseDups }
  | .addConnection selectedSsoConnectionId =>
      if selectedSsoConnectionId = "" then localState
      else
        { localState with
          ssoAllowedConnections := shown.ssoAllowedConnections ++ [selectedSsoConnectionId] }
  | .addTenant modal =>
      { localState with
        allowedOAuthTenants :=
          (addTenant shown.allowedOAuthTenants modal).getD localState.allowedOAuthTenants }

def mutatedProperties (localState remoteState : UserOnboardingFormState) :
    Patch OrgProperty.Value
  | .email_jit_provisioning =>
      if localState.isEmailJitProvisioningAllowed ≠ remoteState.isEmailJitProvisioningAllowed then
        some (if localState.isEmailJitProvisioningAllowed then Provisioning.RESTRICTED
          else .NOT_ALLOWED)
      else none
  | .email_invites =>
      if localState.emailInvites ≠ remoteState.emailInvites then some localState.emailInvites
      else none
  | .email_allowed_domains =>
      if haveSameContents (some localState.emailAllowedDomains)
          (some remoteState.emailAllowedDomains) then none
      else some localState.emailAllowedDomains
  | .sso_jit_provisioning =>
      if localState.ssoJitProvisioning ≠ remoteState.ssoJitProvisioning then
        some localState.ssoJitProvisioning
      else none
  | .sso_jit_provisioning_allowed_connections =>
      if haveSameContents (some localState.ssoAllowedConnections)
          (some remoteState.ssoAllowedConnections) then none
      else some localState.ssoAllowedConnections
  | .oauth_tenant_jit_provisioning =>
      if localState.isOauthTenantJitProvisioningAllowed ≠
          remoteState.isOauthTenantJitProvisioningAllowed then
        some (if localState.isOauthTenantJitProvisioningAllowed then Provisioning.RESTRICTED
          else .NOT_ALLOWED)
      else none
  | .allowed_oauth_tenants =>
      if tenantsHaveSameContents localState.allowedOAuthTenants remoteState.allowedOAuthTenants then
        none
      else some localState.allowedOAuthTenants
  | _ => none

def disableSave (localState remoteState : UserOnboardingFormState) : Bool :=
  haveSameContents (some localState.emailAllowedDomains) (some remoteState.emailAllowedDomains) &&
    localState.emailInvites = remoteState.emailInvites &&
    localState.isEmailJitProvisioningAllowed == remoteState.isEmailJitProvisioningAllowed &&
    localState.ssoJitProvisioning = remoteState.ssoJitProvisioning &&
    haveSameContents (some localState.ssoAllowedConnections)
      (some remoteState.ssoAllowedConnections) &&
    localState.isOauthTenantJitProvisioningAllowed ==
      remoteState.isOauthTenantJitProvisioningAllowed &&
    tenantsHaveSameContents localState.allowedOAuthTenants remoteState.allowedOAuthTenants

end Onboarding

open Onboarding in
def OrgSettingsUserOnboardingSection (config : Config) : Section OrgProperty.Value Permission where
  State := UserOnboardingFormState
  Edit := Edit
  Dialog := Dialog
  dialogEq := inferInstance
  remoteState := remoteState
  hasCTA can := can .emailJitProvisioning || can .emailInvites || can .allowedDomains ||
    can .ssoJitProvisioning || can .allowedOauthTenants || can .oauthTenantJitProvisioning
  onCancel _ localState := localState
  offered can localState :=
    offered (useAllowedAuthMethods config.allowedAuthMethods) localState can
  opens can localState := opens (useAllowedAuthMethods config.allowedAuthMethods) localState can
  dialogOf := dialogOf
  apply := apply
  disableSave := disableSave
  handleSave localState remoteState := mutate (mutatedProperties localState remoteState)

/-! ## The screen -/

inductive SectionName where
  | details
  | authentication
  | userOnboarding
  deriving DecidableEq

def OrgSettingsScreen (config : Config) : SectionName → Section OrgProperty.Value Permission
  | .details => OrgSettingsDetailsSection
  | .authentication => OrgSettingsAuthenticationSettingsSection config
  | .userOnboarding => OrgSettingsUserOnboardingSection config

/-- The section that a property is shown in. -/
def OrgProperty.section : OrgProperty → SectionName
  | organization_name | organization_slug => .details
  | auth_methods | allowed_auth_methods | mfa_methods | allowed_mfa_methods | mfa_policy =>
      .authentication
  | email_invites | email_jit_provisioning | email_allowed_domains | sso_jit_provisioning
  | sso_jit_provisioning_allowed_connections | oauth_tenant_jit_provisioning
  | allowed_oauth_tenants => .userOnboarding

/-- The permission to set a property. -/
def OrgProperty.permission : OrgProperty → Permission
  | organization_name => .updateInfoName
  | organization_slug => .updateInfoSlug
  | auth_methods | allowed_auth_methods => .allowedAuthMethods
  | mfa_methods | allowed_mfa_methods => .allowedMfaMethods
  | mfa_policy => .mfaPolicy
  | email_invites => .emailInvites
  | email_jit_provisioning => .emailJitProvisioning
  | email_allowed_domains => .allowedDomains
  | sso_jit_provisioning | sso_jit_provisioning_allowed_connections => .ssoJitProvisioning
  | oauth_tenant_jit_provisioning => .oauthTenantJitProvisioning
  | allowed_oauth_tenants => .allowedOauthTenants

/-! ## What is sent -/

section Sent

variable {config : Config} {can : Permission → Bool} {p : OrgProperty}

theorem changes_mutate (mutatedProperties : Patch OrgProperty.Value) (p : OrgProperty) :
    ((mutate mutatedProperties).getD fun _ => none) p = (mutatedProperties p).filter p.isDefined := by
  unfold mutate
  split_ifs with hnone
  · rw [Option.isNone_iff_eq_none.1 (hnone p p.mem_all)]
    rfl
  · rfl

/-- There is a request when there is something to send. -/
theorem mutate_of_some {mutatedProperties : Patch OrgProperty.Value} {v : p.Value}
    (h : mutatedProperties p = some v) :
    mutate mutatedProperties = some fun p => (mutatedProperties p).filter p.isDefined := by
  refine if_neg fun hnone => ?_
  have hp := hnone p p.mem_all
  rw [h] at hp
  cases hp

theorem haveSameContents_self (arr : List String) : haveSameContents (some arr) (some arr) = true :=
  decide_eq_true (List.Perm.refl arr)

theorem tenantsHaveSameContents_self (tenants : AllowedTenants) :
    tenantsHaveSameContents tenants tenants = true := decide_eq_true rfl

/-! ### Details -/

namespace OrgDetails

/-- The property that an edit is for. -/
def Edit.property : Edit → OrgProperty
  | .organizationName _ => .organization_name
  | .organizationSlug _ => .organization_slug

theorem permission_of_offered {edit : Edit} (h : offered can edit = true) :
    can edit.property.permission = true := by
  cases edit <;> exact h

theorem findMutatedProperties_apply (localState remoteState : OrgDetailsFormState) {edit : Edit}
    (h : p ≠ edit.property) :
    findMutatedProperties (apply localState edit) remoteState p =
      findMutatedProperties localState remoteState p := by
  cases edit <;> cases p <;> first | rfl | exact absurd rfl h

theorem findMutatedProperties_self (remoteState : OrgDetailsFormState) :
    findMutatedProperties remoteState remoteState p = none := by
  cases p <;> simp [findMutatedProperties]

/-- What is sent of a property depends on what was fetched of it. -/
theorem findMutatedProperties_congr (localState : OrgDetailsFormState) {r r' : Organization}
    (h : r p = r' p) :
    findMutatedProperties localState (remoteState r) p =
      findMutatedProperties localState (remoteState r') p := by
  cases p <;> simp only [findMutatedProperties, remoteState, h] <;> congr

end OrgDetails

/-! ### Authentication settings -/

namespace Authentication

def Edit.property : Edit → OrgProperty
  | .primaryAuth _ => .auth_methods
  | .allowedAuthMethodClick _ => .allowed_auth_methods
  | .mfaPolicy _ => .mfa_policy
  | .secondaryAuth _ => .mfa_methods
  | .allowedMfaMethodClick _ => .allowed_mfa_methods

/-- The boxes of the primary methods are the only controls that do not ask for the permission. -/
theorem permission_of_offered {localState : AuthSettingsFormState} {edit : Edit}
    (h : offered config can localState edit = true) :
    can edit.property.permission = true ∨
      edit.property = .allowed_auth_methods ∧ useAllowedAuthMethods config.allowedAuthMethods ≠ [] := by
  cases edit with
  | primaryAuth value => exact .inl h
  | allowedAuthMethodClick authMethod =>
    simp only [offered, Bool.and_eq_true, decide_eq_true_eq] at h
    exact .inr ⟨rfl, List.ne_nil_of_mem h.2⟩
  | mfaPolicy value =>
    simp only [offered, Bool.and_eq_true] at h
    exact .inl h.2
  | secondaryAuth value =>
    simp only [offered, Bool.and_eq_true] at h
    exact .inl h.2
  | allowedMfaMethodClick mfaMethod =>
    simp only [offered, Bool.and_eq_true] at h
    exact .inl h.1.2

theorem mutatedProperties_apply (localState remoteState : AuthSettingsFormState) {edit : Edit}
    (h : p ≠ edit.property) :
    mutatedProperties (apply localState edit) remoteState p =
      mutatedProperties localState remoteState p := by
  cases edit <;> cases p <;> first | rfl | exact absurd rfl h

/-- A list that is missing counts as different from itself, but is not sent. -/
theorem mutatedProperties_self (remoteState : AuthSettingsFormState) :
    (mutatedProperties remoteState remoteState p).filter p.isDefined = none := by
  have hlist : ∀ arr : Option (List String),
      (if haveSameContents arr arr then none else some arr).filter Option.isSome = none := by
    intro arr
    cases arr with
    | none => rfl
    | some arr => rw [haveSameContents_self]; rfl
  cases p with
  | allowed_auth_methods => exact hlist remoteState.allowedAuthMethods
  | allowed_mfa_methods => exact hlist remoteState.allowedMfaMethods
  | _ => simp [mutatedProperties]

/-- What is sent of a property depends on what was fetched of it. -/
theorem mutatedProperties_congr (localState : AuthSettingsFormState) {r r' : Organization}
    (h : r p = r' p) :
    mutatedProperties localState (remoteState r) p =
      mutatedProperties localState (remoteState r') p := by
  cases p <;> simp only [mutatedProperties, remoteState, h] <;> congr

end Authentication

/-! ### User onboarding -/

namespace Onboarding

def Edit.property : Edit → OrgProperty
  | .allowEmailInvites _ | .emailInvites _ => .email_invites
  | .isEmailJitProvisioningAllowed _ => .email_jit_provisioning
  | .isOauthTenantJitProvisioningAllowed _ => .oauth_tenant_jit_provisioning
  | .allowSsoJitProvisioning _ | .ssoJitProvisioning _ => .sso_jit_provisioning
  | .deleteDomain _ | .addDomain _ => .email_allowed_domains
  | .removeConnection _ | .addConnection _ => .sso_jit_provisioning_allowed_connections
  | .deleteTenant _ | .addTenant _ => .allowed_oauth_tenants

theorem permission_of_offered {orgConfigAuthMethods : List String}
    {localState : UserOnboardingFormState} {edit : Edit}
    (h : offered orgConfigAuthMethods localState can edit = true) :
    can edit.property.permission = true := by
  cases edit <;> simp only [offered, Bool.and_eq_true, Bool.false_eq_true] at h <;>
    first | exact h | exact h.1 | exact h.1.1 | exact h.1.1.1

theorem permission_of_opens {orgConfigAuthMethods : List String}
    {localState : UserOnboardingFormState} {dialog : Dialog}
    (h : opens orgConfigAuthMethods localState can dialog = true) {edit : Edit}
    (hdialog : dialogOf edit = some dialog) : can edit.property.permission = true := by
  cases edit with
  | addDomain email =>
    obtain rfl := Option.some.inj hdialog
    simp only [opens, Bool.and_eq_true] at h
    exact h.1
  | addConnection selectedSsoConnectionId =>
    obtain rfl := Option.some.inj hdialog
    simp only [opens, Bool.and_eq_true] at h
    exact h.1.1
  | addTenant modal =>
    obtain rfl := Option.some.inj hdialog
    simp only [opens, Bool.and_eq_true] at h
    exact h.1.1
  | _ => cases hdialog

theorem mutatedProperties_apply (shown localState remoteState : UserOnboardingFormState)
    {edit : Edit} (h : p ≠ edit.property) :
    mutatedProperties (apply shown localState edit) remoteState p =
      mutatedProperties localState remoteState p := by
  cases edit with
  | addConnection selectedSsoConnectionId =>
    simp only [apply]
    split_ifs
    · rfl
    · cases p <;> first | rfl | exact absurd rfl h
  | _ => cases p <;> first | rfl | exact absurd rfl h

theorem mutatedProperties_self (remoteState : UserOnboardingFormState) :
    mutatedProperties remoteState remoteState p = none := by
  cases p <;> simp [mutatedProperties, haveSameContents_self, tenantsHaveSameContents_self]

/-- What is sent of a property depends on what was fetched of it. -/
theorem mutatedProperties_congr (localState : UserOnboardingFormState) {r r' : Organization}
    (h : r p = r' p) :
    mutatedProperties localState (remoteState r) p =
      mutatedProperties localState (remoteState r') p := by
  cases p <;> simp only [mutatedProperties, remoteState, h] <;> congr

end Onboarding

/-! ### Permissions -/

/-- A property is guarded where the controls for it ask for its permission. -/
theorem guarded_of_controls {S : Section OrgProperty.Value Permission}
    {mutated : S.State → S.State → Patch OrgProperty.Value} (property : S.Edit → OrgProperty)
    (hsave : ∀ l r, S.handleSave l r = mutate (mutated l r))
    (hself : ∀ r, (mutated r r p).filter p.isDefined = none)
    (hremote : ∀ l {r r' : Organization}, r p = r' p →
      mutated l (S.remoteState r) p = mutated l (S.remoteState r') p)
    (happly : ∀ shown l r edit, p ≠ property edit →
      mutated (S.apply shown l edit) r p = mutated l r p)
    (hoffered : ∀ {can l edit}, S.offered can l edit = true → p = property edit →
      can p.permission = true)
    (hopens : ∀ {can l dialog}, S.opens can l dialog = true → ∀ edit,
      S.dialogOf edit = some dialog → p = property edit → can p.permission = true) :
    S.Guarded p p.permission := by
  have hchanges : ∀ l r, S.changes l r p = (mutated l r p).filter p.isDefined := by
    intro l r
    rw [Section.changes, hsave, changes_mutate]
  refine ⟨fun r => ?_, fun l r r' h => ?_, fun {can l edit} hcan _ hcontrol r => ?_,
    fun {can l dialog} hcan hcontrol edit hdialog l' r => ?_⟩
  · rw [hchanges, hself]
  · rw [hchanges, hchanges, hremote l h]
  · rw [hchanges, hchanges, happly]
    rintro rfl
    cases hcan.symm.trans (hoffered hcontrol rfl)
  · rw [hchanges, hchanges, happly]
    rintro rfl
    cases hcan.symm.trans (hopens hcontrol edit hdialog rfl)

theorem guarded_details (p : OrgProperty) : OrgSettingsDetailsSection.Guarded p p.permission :=
  guarded_of_controls OrgDetails.Edit.property (fun _ _ => rfl)
    (fun r => congrArg _ (OrgDetails.findMutatedProperties_self r))
    (fun l _ _ h => OrgDetails.findMutatedProperties_congr l h)
    (fun _ l r _ h => OrgDetails.findMutatedProperties_apply l r h)
    (fun h hp => hp ▸ OrgDetails.permission_of_offered h) nofun

theorem guarded_authentication
    (h : ¬(p = .allowed_auth_methods ∧ useAllowedAuthMethods config.allowedAuthMethods ≠ [])) :
    (OrgSettingsAuthenticationSettingsSection config).Guarded p p.permission :=
  guarded_of_controls Authentication.Edit.property (fun _ _ => rfl)
    Authentication.mutatedProperties_self
    (fun l _ _ h => Authentication.mutatedProperties_congr l h)
    (fun _ l r _ h => Authentication.mutatedProperties_apply l r h)
    (fun hoffered hp => by
      rcases Authentication.permission_of_offered hoffered with hcan | hbox
      · rwa [hp]
      · exact absurd (hp ▸ hbox) h) nofun

theorem guarded_userOnboarding (config : Config) (p : OrgProperty) :
    (OrgSettingsUserOnboardingSection config).Guarded p p.permission :=
  guarded_of_controls Onboarding.Edit.property (fun _ _ => rfl)
    (fun r => congrArg _ (Onboarding.mutatedProperties_self r))
    (fun l _ _ h => Onboarding.mutatedProperties_congr l h)
    (fun shown l r _ h => Onboarding.mutatedProperties_apply shown l r h)
    (fun h hp => hp ▸ Onboarding.permission_of_offered h)
    (fun h _ hdialog hp => hp ▸ Onboarding.permission_of_opens h hdialog)

end Sent

/-! ## What is saved -/

/-- Arrays in any order; a list that is missing in the form is not compared. -/
def SameList (shown saved : Option (List String)) : Prop :=
  ∀ methods, shown = some methods → ∃ methods', saved = some methods' ∧ methods'.Perm methods

/-- What the form of a section shows is what the organization has: lists in any order, but for a name
or a slug that is empty and a list that is missing, which are not sent. -/
def Shows (config : Config) : ∀ n, (OrgSettingsScreen config n).State → Organization → Prop
  | .details, (l : OrgDetailsFormState), org =>
      let stored := OrgDetails.remoteState org
      (l.organizationName ≠ "" → stored.organizationName = l.organizationName) ∧
        (l.organizationSlug ≠ "" → stored.organizationSlug = l.organizationSlug)
  | .authentication, (l : AuthSettingsFormState), org =>
      let stored := Authentication.remoteState org
      stored.isPrimaryAuthAllAllowed = l.isPrimaryAuthAllAllowed ∧
        SameList l.allowedAuthMethods stored.allowedAuthMethods ∧
        stored.isSecondaryAuthAllAllowed = l.isSecondaryAuthAllAllowed ∧
        SameList l.allowedMfaMethods stored.allowedMfaMethods ∧
        stored.isMfaPolicyRequiredForAll = l.isMfaPolicyRequiredForAll
  | .userOnboarding, (l : UserOnboardingFormState), org =>
      let stored := Onboarding.remoteState org
      stored.emailInvites = l.emailInvites ∧
        stored.emailAllowedDomains.Perm l.emailAllowedDomains ∧
        stored.isEmailJitProvisioningAllowed = l.isEmailJitProvisioningAllowed ∧
        stored.ssoJitProvisioning = l.ssoJitProvisioning ∧
        stored.ssoAllowedConnections.Perm l.ssoAllowedConnections ∧
        stored.isOauthTenantJitProvisioningAllowed = l.isOauthTenantJitProvisioningAllowed ∧
        stored.allowedOAuthTenants.entries.Perm l.allowedOAuthTenants.entries

/-- The methods of an organization are not restricted to none. -/
def Acceptable (config : Config) : ∀ n, (OrgSettingsScreen config n).State → Prop
  | .authentication, (l : AuthSettingsFormState) =>
      (l.isPrimaryAuthAllAllowed = false → l.allowedAuthMethods ≠ some []) ∧
        (l.isSecondaryAuthAllAllowed = false → l.allowedMfaMethods ≠ some [])
  | _, _ => True

section Saved

variable {config : Config} {p : OrgProperty} {m : Patch OrgProperty.Value} {v : p.Value}
  {c : Prop} [Decidable c] {org org' : Organization}

/-- A property of the organization after a request: what was sent of it, or what it was. -/
theorem apply_mutate (hm : m p = if c then some v else none) (hdefined : p.isDefined v = true)
    (h : org' p = org p) :
    ((mutate m).getD fun _ => none).apply org' p = if c then v else org p := by
  rw [Patch.apply, changes_mutate, hm, h]
  split_ifs
  · rw [Option.filter_some_pos hdefined]
    rfl
  · rfl

/-- A list is sent unless it has the same contents. -/
theorem apply_mutate_list (hm : m p = if c then none else some v) (hdefined : p.isDefined v = true)
    (h : org' p = org p) :
    ((mutate m).getD fun _ => none).apply org' p = if c then org p else v := by
  rw [← ite_not] at hm ⊢
  exact apply_mutate hm hdefined h

/-- A box is shown as it was when it was saved. -/
theorem shown_of_flag {α : Type} (shown : α → Bool) {b : Bool} {stored old on off : α}
    (hstored : stored = if b ≠ shown old then if b then on else off else old)
    (hon : shown on = true) (hoff : shown off = false) : shown stored = b := by
  rw [hstored]
  split_ifs with hne hb
  · rw [hon, hb]
  · rw [hoff, Bool.eq_false_iff.2 hb]
  · exact (not_not.1 hne).symm

theorem eq_of_choice {α : Type} [DecidableEq α] {stored old choice : α}
    (hstored : stored = if choice ≠ old then choice else old) : stored = choice := by
  rw [hstored]
  split_ifs with hne
  · rfl
  · exact (not_not.1 hne).symm

theorem perm_of_list {stored old list : List String}
    (hstored : stored = if haveSameContents (some list) (some old) then old else list) :
    stored.Perm list := by
  rw [hstored]
  split_ifs with hsame
  · exact (of_decide_eq_true hsame).symm
  · exact .refl list

theorem sameList_of_list {saved shown : Option (List String)} (old : Option (List String))
    (hsaved : ∀ methods, shown = some methods →
      saved = if haveSameContents shown old then old else some methods) : SameList shown saved := by
  rintro methods rfl
  have hsaved := hsaved methods rfl
  split_ifs at hsaved with hsame
  · cases old with
    | none => cases hsame
    | some old => exact ⟨old, hsaved, (of_decide_eq_true hsame).symm⟩
  · exact ⟨methods, hsaved, .refl methods⟩

theorem entries_perm_of_tenants {stored old tenants : AllowedTenants}
    (hstored : stored = if tenantsHaveSameContents tenants old then old else tenants) :
    stored.entries.Perm tenants.entries := by
  rw [hstored]
  split_ifs with hsame
  · have hsorted := StableSort.perm_of_insertionSort_eq (of_decide_eq_true hsame)
    exact (objectEntries_perm old).symm.trans (hsorted.symm.trans (objectEntries_perm tenants))
  · exact .refl _

theorem shows_details (l : OrgDetailsFormState) (h : ∀ p, p.section = .details → org' p = org p) :
    Shows config .details l
      ((OrgSettingsDetailsSection.changes l (OrgDetails.remoteState org)).apply org') := by
  refine ⟨fun hname => ?_, fun hslug => ?_⟩
  · have hlength : l.organizationName.length > 0 :=
      Nat.pos_of_ne_zero fun hzero => hname (String.length_eq_zero_iff.1 hzero)
    refine (apply_mutate (p := .organization_name) rfl rfl (h _ rfl)).trans ?_
    split_ifs with hne
    · rfl
    · exact not_not.1 fun hne' => hne ⟨hne', hlength⟩
  · have hlength : l.organizationSlug.length > 0 :=
      Nat.pos_of_ne_zero fun hzero => hslug (String.length_eq_zero_iff.1 hzero)
    refine (apply_mutate (p := .organization_slug) rfl rfl (h _ rfl)).trans ?_
    split_ifs with hne
    · rfl
    · exact not_not.1 fun hne' => hne ⟨hne', hlength⟩

theorem shows_authentication (l : AuthSettingsFormState)
    (h : ∀ p, p.section = .authentication → org' p = org p) :
    Shows config .authentication l
      (((OrgSettingsAuthenticationSettingsSection config).changes l
        (Authentication.remoteState org)).apply org') := by
  refine ⟨?_, sameList_of_list (org .allowed_auth_methods) fun methods hl => ?_, ?_,
    sameList_of_list (org .allowed_mfa_methods) fun methods hl => ?_, ?_⟩
  · exact shown_of_flag (fun methods : Methods => decide (methods = .ALL_ALLOWED))
      (apply_mutate (p := .auth_methods) rfl rfl (h _ rfl)) rfl rfl
  · refine apply_mutate_list (p := .allowed_auth_methods) ?_ rfl (h _ rfl)
    rw [← hl]
    rfl
  · refine shown_of_flag (fun methods : Option Methods => decide (methods = some .ALL_ALLOWED))
      (apply_mutate (p := .mfa_methods) rfl ?_ (h _ rfl)) rfl rfl
    split_ifs <;> rfl
  · refine apply_mutate_list (p := .allowed_mfa_methods) ?_ rfl (h _ rfl)
    rw [← hl]
    rfl
  · exact shown_of_flag (fun policy : MfaPolicy => decide (policy = .REQUIRED_FOR_ALL))
      (apply_mutate (p := .mfa_policy) rfl rfl (h _ rfl)) rfl rfl

theorem shows_userOnboarding (l : UserOnboardingFormState)
    (h : ∀ p, p.section = .userOnboarding → org' p = org p) :
    Shows config .userOnboarding l
      (((OrgSettingsUserOnboardingSection config).changes l
        (Onboarding.remoteState org)).apply org') := by
  refine ⟨?_, ?_, ?_, ?_, ?_, ?_, ?_⟩
  · exact eq_of_choice (apply_mutate (p := .email_invites) rfl rfl (h _ rfl))
  · exact perm_of_list (apply_mutate_list (p := .email_allowed_domains) rfl rfl (h _ rfl))
  · exact shown_of_flag (fun provisioning : Provisioning => decide (provisioning ≠ .NOT_ALLOWED))
      (apply_mutate (p := .email_jit_provisioning) rfl rfl (h _ rfl)) rfl rfl
  · exact eq_of_choice (apply_mutate (p := .sso_jit_provisioning) rfl rfl (h _ rfl))
  · exact perm_of_list
      (apply_mutate_list (p := .sso_jit_provisioning_allowed_connections) rfl rfl (h _ rfl))
  · exact shown_of_flag (fun provisioning : Provisioning => decide (provisioning ≠ .NOT_ALLOWED))
      (apply_mutate (p := .oauth_tenant_jit_provisioning) rfl rfl (h _ rfl)) rfl rfl
  · exact entries_perm_of_tenants
      (apply_mutate_list (p := .allowed_oauth_tenants) rfl rfl (h _ rfl))

theorem acceptable_of_disableSave {l remoteState : AuthSettingsFormState}
    (h : Authentication.disableSave l remoteState = false) :
    Acceptable config .authentication l := by
  simp only [Authentication.disableSave, Bool.or_eq_false_iff, Bool.and_eq_false_iff,
    Bool.not_eq_false', beq_eq_false_iff_ne] at h
  obtain ⟨⟨-, hprimary⟩, hsecondary⟩ := h
  refine ⟨fun hall => ?_, fun hall => ?_⟩
  · exact hprimary.resolve_left (by rw [hall]; exact Bool.false_ne_true)
  · exact hsecondary.resolve_left (by rw [hall]; exact Bool.false_ne_true)

/-- The form that the organization is shown in depends on the properties of the section. -/
theorem remoteState_of_eq (config : Config) (n : SectionName)
    (h : ∀ p, p.section = n → org' p = org p) :
    (OrgSettingsScreen config n).remoteState org' = (OrgSettingsScreen config n).remoteState org := by
  cases n with
  | details =>
    simp only [OrgSettingsScreen, OrgSettingsDetailsSection, OrgDetails.remoteState,
      h .organization_name rfl, h .organization_slug rfl]
  | authentication =>
    simp only [OrgSettingsScreen, OrgSettingsAuthenticationSettingsSection,
      Authentication.remoteState, h .auth_methods rfl, h .allowed_auth_methods rfl,
      h .mfa_policy rfl, h .mfa_methods rfl, h .allowed_mfa_methods rfl]
  | userOnboarding =>
    simp only [OrgSettingsScreen, OrgSettingsUserOnboardingSection, Onboarding.remoteState,
      h .email_invites rfl, h .email_allowed_domains rfl, h .email_jit_provisioning rfl,
      h .sso_jit_provisioning rfl, h .sso_jit_provisioning_allowed_connections rfl,
      h .oauth_tenant_jit_provisioning rfl, h .allowed_oauth_tenants rfl]

theorem saves (config : Config) :
    Saves (OrgSettingsScreen config) OrgProperty.section (Shows config) (Acceptable config) where
  own n l r p hp := by
    cases n with
    | details =>
      refine (changes_mutate (OrgDetails.findMutatedProperties l r) p).trans ?_
      cases p <;> first | rfl | exact absurd rfl hp
    | authentication =>
      refine (changes_mutate (Authentication.mutatedProperties l r) p).trans ?_
      cases p <;> first | rfl | exact absurd rfl hp
    | userOnboarding =>
      refine (changes_mutate (Onboarding.mutatedProperties l r) p).trans ?_
      cases p <;> first | rfl | exact absurd rfl hp
  shows n l r r' h := by
    cases n with
    | details => exact shows_details l h
    | authentication => exact shows_authentication l h
    | userOnboarding => exact shows_userOnboarding l h
  congr n l r r' h hshows := by
    have hstored := remoteState_of_eq config n h
    cases n with
    | details =>
      change OrgDetails.remoteState r' = OrgDetails.remoteState r at hstored
      dsimp only [Shows]
      rw [hstored]
      exact hshows
    | authentication =>
      change Authentication.remoteState r' = Authentication.remoteState r at hstored
      dsimp only [Shows]
      rw [hstored]
      exact hshows
    | userOnboarding =>
      change Onboarding.remoteState r' = Onboarding.remoteState r at hstored
      dsimp only [Shows]
      rw [hstored]
      exact hshows
  acceptable n l r h := by
    cases n with
    | authentication => exact acceptable_of_disableSave h
    | _ => trivial

end Saved

/-! ## The settings screen -/

section Screen

variable {config : Config}

theorem guarded (n : SectionName) (p : OrgProperty)
    (h : ¬(n = .authentication ∧ p = .allowed_auth_methods ∧
      useAllowedAuthMethods config.allowedAuthMethods ≠ [])) :
    (OrgSettingsScreen config n).Guarded p p.permission := by
  cases n with
  | details => exact guarded_details p
  | authentication => exact guarded_authentication fun hbox => h ⟨rfl, hbox⟩
  | userOnboarding => exact guarded_userOnboarding config p

/-- An organization that allows no method yet. -/
def restrictedOrganization : Organization
  | .organization_name => "Acme"
  | .organization_slug => "acme"
  | .auth_methods => .RESTRICTED
  | .allowed_auth_methods => some []
  | .mfa_methods => some .ALL_ALLOWED
  | .allowed_mfa_methods => some []
  | .mfa_policy => .OPTIONAL
  | .email_invites | .email_jit_provisioning | .sso_jit_provisioning
  | .oauth_tenant_jit_provisioning => .NOT_ALLOWED
  | .email_allowed_domains | .sso_jit_provisioning_allowed_connections => []
  | .allowed_oauth_tenants => ⟨[], List.nodup_nil⟩

def openedScreen (config : Config) (can : Permission → Bool) : Page (OrgSettingsScreen config) where
  server := restrictedOrganization
  orgInfo := restrictedOrganization
  can := can
  form n := ⟨(OrgSettingsScreen config n).remoteState restrictedOrganization, false, false, none, none⟩

/-- A screen whose section for authentication has the form, and which is like the one that was
opened otherwise. -/
def screenWith (config : Config) (can : Permission → Bool)
    (form : Form (OrgSettingsScreen config .authentication)) : Page (OrgSettingsScreen config) :=
  { openedScreen config can with
    form := Function.update (openedScreen config can).form .authentication form }

theorem next_screenWith {can : Permission → Bool}
    {form form' : Form (OrgSettingsScreen config .authentication)}
    {event : FormEvent (OrgSettingsScreen config .authentication)}
    (h : form.next restrictedOrganization can event = some form')
    (hserver : Page.serve restrictedOrganization form event = restrictedOrganization) :
    (page (OrgSettingsScreen config)).next (screenWith config can form)
      (.form .authentication event) = some (screenWith config can form') := by
  have hform : (screenWith config can form).form .authentication = form := by
    simp only [screenWith, Function.update_self]
  dsimp only [page, Page.next]
  rw [hform]
  change (form.next restrictedOrganization can event).map _ = _
  rw [h, Option.map_some]
  simp only [screenWith, openedScreen, hserver, Function.update_idem]

/-- A member who may only set the policy for MFA adds a primary method. -/
theorem sent_without_permission {method : String}
    (h : method ∈ useAllowedAuthMethods config.allowedAuthMethods) :
    ∃ t s, Since (page (OrgSettingsScreen config)) anyStep
        (Page.Started .authentication .allowedAuthMethods)
        (Page.Touched .allowed_auth_methods .allowedAuthMethods) t s ∧
      ∃ s' body, s.next (.form .authentication .confirm) = some s' ∧
        (s'.form .authentication).confirming = some body ∧
        body .allowed_auth_methods = some (some [method]) := by
  let can : Permission → Bool := fun permission => permission = .mfaPolicy
  let r := Authentication.remoteState restrictedOrganization
  let l : AuthSettingsFormState := { r with allowedAuthMethods := some [method] }
  let form (localState : AuthSettingsFormState) (editing isOpen : Bool) :
    Form (OrgSettingsScreen config .authentication) := ⟨localState, editing, isOpen, none, none⟩
  have hsame : haveSameContents (some [method]) (some []) = false := by simp [haveSameContents]
  have hedit : (form r false false).next restrictedOrganization can .edit = some (form r true false) :=
    rfl
  have hoffered : Authentication.offered config can r (.allowedAuthMethodClick method) = true :=
    decide_eq_true h
  have hchange : (form r true false).next restrictedOrganization can
      (.change (.allowedAuthMethodClick method)) = some (form l true false) :=
    (if_pos ⟨rfl, rfl, hoffered⟩).trans rfl
  have hdisable : Authentication.disableSave l r = false := by
    have hsame : haveSameContents l.allowedAuthMethods r.allowedAuthMethods = false := hsame
    rw [Authentication.disableSave, hsame]
    rfl
  have hsave : (form l true false).next restrictedOrganization can .save =
      some (form l true true) := by
    dsimp only [Form.next]
    exact if_pos ⟨rfl, rfl, rfl, hdisable⟩
  have hsent : Authentication.mutatedProperties l r .allowed_auth_methods = some (some [method]) :=
    (congrArg (fun same : Bool => if same then none else some (some [method])) hsame).trans rfl
  have hopened : Reach (page (OrgSettingsScreen config)) anyStep []
      (screenWith config can (form r false false)) := by
    refine .start fun n => ?_
    cases n <;> rfl
  have hstarted : Since (page (OrgSettingsScreen config)) anyStep
      (Page.Started .authentication .allowedAuthMethods)
      (Page.Touched .allowed_auth_methods .allowedAuthMethods) [.form .authentication .edit]
      (screenWith config can (form r true false)) :=
    .now hopened trivial (next_screenWith hedit rfl) ⟨rfl, rfl⟩
  have huntouched : ∀ s event, ¬Page.Touched (S := OrgSettingsScreen config) .allowed_auth_methods
      Permission.allowedAuthMethods s (.form .authentication event) := by
    rintro s event (⟨_, h, _⟩ | ⟨_, h, _⟩) <;> cases h
  have hbody := mutate_of_some hsent
  have hconfirm : (form l true true).next restrictedOrganization can .confirm =
      some ((form l true true).confirm r) := rfl
  refine ⟨_, _, (hstarted.later trivial (next_screenWith hchange rfl) (huntouched _ _)).later trivial
    (next_screenWith hsave rfl) (huntouched _ _), _,
    fun p => (Authentication.mutatedProperties l r p).filter p.isDefined,
    next_screenWith hconfirm rfl, ?_, ?_⟩
  · simp only [screenWith, Function.update_self]
    exact (Form.confirming_confirm (form l true true) r rfl).trans hbody
  · exact (congrArg (Option.filter (OrgProperty.isDefined .allowed_auth_methods)) hsent).trans rfl

theorem settings_permitted_iff (config : Config) (n : SectionName) (p : OrgProperty) :
    (∀ t s, Since (page (OrgSettingsScreen config)) anyStep (Page.Started n p.permission)
        (Page.Touched p p.permission) t s →
      ∀ s' body, s.next (.form n .confirm) = some s' → (s'.form n).confirming = some body →
        body p = none) ↔
      ¬(n = .authentication ∧ p = .allowed_auth_methods ∧
        useAllowedAuthMethods config.allowedAuthMethods ≠ []) := by
  constructor
  · rintro hnone ⟨rfl, rfl, hmethods⟩
    obtain ⟨method, hmethod⟩ := List.exists_mem_of_ne_nil _ hmethods
    obtain ⟨t, s, hs, s', body, hnext, hbody, hsent⟩ := sent_without_permission hmethod
    cases hsent.symm.trans (hnone t s hs s' body hnext hbody)
  · intro h t s hs s' body hnext hbody
    exact not_sent_of_guarded (guarded n p h) hs hnext hbody

theorem settings_saved (config : Config) (n : SectionName) (l : (OrgSettingsScreen config n).State)
    {t : List (PageEvent (OrgSettingsScreen config))} {s : Page (OrgSettingsScreen config)}
    (hs : Since (page (OrgSettingsScreen config)) anyStep (Page.Confirmed OrgProperty.section n l)
      (Page.Disturbed OrgProperty.section n) t s)
    (hanswered : (s.form n).confirming = none) :
    Shows config n l s.server ∧ Acceptable config n l :=
  shows_of_saves (saves config) hs hanswered

/-- The organization is renamed. -/
theorem settings_saved_details : ∃ t s,
    Since (page (OrgSettingsScreen ⟨none, none, true⟩)) anyStep
      (Page.Confirmed OrgProperty.section .details ⟨"Emca", "acme"⟩)
      (Page.Disturbed OrgProperty.section .details) t s ∧
      s.server .organization_name = "Emca" := by
  have hopened : Reach (page (OrgSettingsScreen ⟨none, none, true⟩)) anyStep []
      (openedScreen ⟨none, none, true⟩ fun _ => true) := by
    refine .start fun n => ?_
    cases n <;> rfl
  have hr := ((hopened.step (a := .form .details .edit) trivial rfl).step
    (a := .form .details (.change (.organizationName "Emca"))) trivial rfl).step
    (a := .form .details .save) trivial rfl
  have hs : Since (page (OrgSettingsScreen ⟨none, none, true⟩)) anyStep
      (Page.Confirmed OrgProperty.section .details ⟨"Emca", "acme"⟩)
      (Page.Disturbed OrgProperty.section .details) _ _ :=
    (Since.now hr (a := .form .details .confirm) trivial rfl ⟨rfl, rfl, fun _ _ => rfl⟩).later
      (a := .form .details (.settled true)) trivial rfl (by simp [Page.Disturbed])
  exact ⟨_, _, hs, (settings_saved _ .details _ hs rfl).1.1 (by decide)⟩

end Screen

end StytchBrowser.AdminPortal.OrgSettings
