import Mathlib.Data.List.Dedup
import StytchBrowser.Core.RBACPolicy
import StytchBrowser.Lib.Splitting

/-!
# The consent screen of an identity provider

The scopes that a user is asked to grant come as a list, are kept as one text in the state of the
consent screen and are split again when the screen is rendered. What is then shown is the manifest
of `fallbackConsentManifestGenerator`.

The screen shows what is granted exactly under the conditions of `consent_shows_granted_iff`.
-/

namespace StytchBrowser.Web

open StytchBrowser.Core (RBACPolicyRaw)

/-- `ScopeResult`. -/
structure ScopeResult where
  scope : String
  isGrantable : Bool
  description : String

/-- `IDPConsentItem`. -/
inductive IDPConsentItem where
  | line (text : String)
  | item (text : String) (details : List String)

/-- `IDPConsentSection`. -/
structure IDPConsentSection where
  header : String
  items : List IDPConsentItem

def OPENID_CONSENT_ITEM : IDPConsentItem :=
  .item "Verify your identity" ["View information stored within your account"]

/-- The text of `PROFILE_CONSENT_ITEM`. -/
def PROFILE_CONSENT_TEXT : String := "View your personal profile information"

def OFFLINE_ACCESS_CONSENT_ITEM : IDPConsentItem :=
  .item "Maintain access to your data even when you're not actively using the app"
    ["Access your data even when you are offline.",
      "Synchronize data and process background tasks on your behalf."]

def OPENID_SCOPE : String := "openid"
def PROFILE_SCOPE : String := "profile"
def EMAIL_SCOPE : String := "email"
def PHONE_SCOPE : String := "phone"
def FULL_ACCESS_SCOPE : String := "full_access"
def OFFLINE_ACCESS_SCOPE : String := "offline_access"

def DEFAULT_SCOPES : List String :=
  [OPENID_SCOPE, PROFILE_SCOPE, EMAIL_SCOPE, PHONE_SCOPE, FULL_ACCESS_SCOPE, OFFLINE_ACCESS_SCOPE]

def createProfileScopeDescription (containsProfile containsEmail containsPhoneNumber : Bool) :
    IDPConsentItem :=
  .item PROFILE_CONSENT_TEXT
    ((if containsProfile then ["Your name, profile picture, and language preferences"] else []) ++
      (if containsEmail then ["Your email address"] else []) ++
      (if containsPhoneNumber then ["Your phone number"] else []))

def createBuiltinScopeDescriptions (scopes : List String) : List IDPConsentItem :=
  (if scopes.contains OPENID_SCOPE then [OPENID_CONSENT_ITEM] else []) ++
    (if scopes.contains EMAIL_SCOPE || scopes.contains PROFILE_SCOPE ||
        scopes.contains PHONE_SCOPE then
      [createProfileScopeDescription (scopes.contains PROFILE_SCOPE) (scopes.contains EMAIL_SCOPE)
        (scopes.contains PHONE_SCOPE)]
    else []) ++
    (if scopes.contains OFFLINE_ACCESS_SCOPE then [OFFLINE_ACCESS_CONSENT_ITEM] else [])

/-- The line of a scope that is not built in. -/
def customScopeDescription (rbacPolicy : RBACPolicyRaw) (scope : String) : String :=
  match rbacPolicy.scopes.find? fun policyScope => policyScope.scope = scope with
  | some found =>
      if found.description ≠ "" then found.description else "Use the " ++ scope ++ " scope"
  | none => "Use the " ++ scope ++ " scope"

def createCustomScopeDescriptions (scopes : List String) (rbacPolicy : Option RBACPolicyRaw) :
    List String :=
  match rbacPolicy with
  | none => []
  | some rbacPolicy =>
      (scopes.filter fun scope => !DEFAULT_SCOPES.contains scope).map
        (customScopeDescription rbacPolicy)

def fallbackConsentManifestGenerator (scopes : List String) (clientName : String)
    (rbacPolicy : Option RBACPolicyRaw) : List IDPConsentSection :=
  [⟨clientName ++ " is requesting to:",
    createBuiltinScopeDescriptions scopes ++
      (createCustomScopeDescriptions scopes rbacPolicy).map .line⟩]

/-- The scopes of the results that the user may grant. -/
def grantableScopes (scopeResults : List ScopeResult) : List String :=
  (scopeResults.filter fun s => s.isGrantable).map ScopeResult.scope

/-- The `grantable_scope` of `COMPLETE_PREFLIGHT`. -/
def grantableScope (scopeResults : List ScopeResult) : String :=
  Splitting.join ' ' (grantableScopes scopeResults)

/-- The `ungrantable_scope` of `COMPLETE_PREFLIGHT`. -/
def ungrantableScope (scopeResults : List ScopeResult) : String :=
  Splitting.join ' ' ((scopeResults.filter fun s => !s.isGrantable).map ScopeResult.scope)

/-- The `manifest` of `IDPConsent`, without a custom generator. -/
def consentManifest (scopeResults : List ScopeResult) (clientName : String)
    (rbacPolicy : Option RBACPolicyRaw) : List IDPConsentSection :=
  fallbackConsentManifestGenerator (Splitting.split ' ' (grantableScope scopeResults)) clientName
    rbacPolicy

/-- `ungrantableScopeDescriptions`. -/
def ungrantableScopeDescriptions (scopeResults : List ScopeResult)
    (rbacPolicy : Option RBACPolicyRaw) : List String :=
  if ungrantableScope scopeResults = "" then []
  else
    createCustomScopeDescriptions (Splitting.split ' ' (ungrantableScope scopeResults)) rbacPolicy

/-! ## What is shown -/

/-- The granted scopes that are not built in. -/
def customScopes (scopeResults : List ScopeResult) : List String :=
  (grantableScopes scopeResults).filter fun scope => !DEFAULT_SCOPES.contains scope

/-- The policy without roles, resources and scopes. -/
def emptyPolicy : RBACPolicyRaw := ⟨[], [], []⟩

/-- The screen shows the items of the identity scopes that are granted and, in order, one line for
each other scope that is granted. -/
def ShowsGranted (scopeResults : List ScopeResult) (rbacPolicy : Option RBACPolicyRaw) : Prop :=
  ∀ clientName, consentManifest scopeResults clientName rbacPolicy =
    [⟨clientName ++ " is requesting to:",
      createBuiltinScopeDescriptions (grantableScopes scopeResults) ++
        ((customScopes scopeResults).dedup.map
          (customScopeDescription (rbacPolicy.getD emptyPolicy))).map .line⟩]

/-- The text of an item that is a single line. -/
def IDPConsentItem.asLine : IDPConsentItem → Option String
  | .line text => some text
  | .item _ _ => none

theorem asLine_builtin (scopes : List String) :
    (createBuiltinScopeDescriptions scopes).filterMap IDPConsentItem.asLine = [] := by
  unfold createBuiltinScopeDescriptions
  split_ifs <;> rfl

theorem asLine_lines (texts : List String) :
    (texts.map IDPConsentItem.line).filterMap IDPConsentItem.asLine = texts := by
  rw [List.filterMap_map]
  exact List.filterMap_some

variable {scopeResults : List ScopeResult}

/-- The lines that are shown are those of the custom scopes. -/
theorem ShowsGranted.lines {rbacPolicy : Option RBACPolicyRaw}
    (h : ShowsGranted scopeResults rbacPolicy) :
    createCustomScopeDescriptions (Splitting.split ' ' (grantableScope scopeResults)) rbacPolicy =
      (customScopes scopeResults).dedup.map
        (customScopeDescription (rbacPolicy.getD emptyPolicy)) := by
  have hsection := congrArg IDPConsentSection.items (List.head_eq_of_cons_eq (h ""))
  have hlines := congrArg (List.filterMap IDPConsentItem.asLine) hsection
  simpa only [List.filterMap_append, asLine_builtin, asLine_lines, List.nil_append] using hlines

theorem customScopeDescription_injective :
    Function.Injective (customScopeDescription emptyPolicy) := by
  intro s t h
  exact (String.append_right_inj _).1 ((String.append_left_inj _).1 h)

theorem not_space_of_default : ∀ scope ∈ DEFAULT_SCOPES, ' ' ∉ scope.toList := by decide

theorem mem_customScopes {scope : String} :
    scope ∈ customScopes scopeResults ↔
      scope ∈ grantableScopes scopeResults ∧ scope ∉ DEFAULT_SCOPES := by
  simp [customScopes]

/-- What the text in the state is split into. -/
theorem split_grantableScope
    (h : ∀ scope ∈ grantableScopes scopeResults, ' ' ∉ scope.toList) :
    Splitting.split ' ' (grantableScope scopeResults) =
      if grantableScopes scopeResults = [] then [""] else grantableScopes scopeResults :=
  Splitting.split_join h

/-- With a policy that describes no scope, the scopes that have a line are the custom scopes. -/
theorem ShowsGranted.scopes (h : ShowsGranted scopeResults (some emptyPolicy)) :
    (Splitting.split ' ' (grantableScope scopeResults)).filter
        (fun scope => !DEFAULT_SCOPES.contains scope) = (customScopes scopeResults).dedup :=
  customScopeDescription_injective.list_map h.lines

theorem ShowsGranted.not_space (h : ShowsGranted scopeResults (some emptyPolicy)) {scope : String}
    (hscope : scope ∈ grantableScopes scopeResults) : ' ' ∉ scope.toList := by
  by_cases hdefault : scope ∈ DEFAULT_SCOPES
  · exact not_space_of_default scope hdefault
  · have hcustom : scope ∈ (customScopes scopeResults).dedup :=
      List.mem_dedup.2 (mem_customScopes.2 ⟨hscope, hdefault⟩)
    rw [← h.scopes] at hcustom
    exact Splitting.not_mem_of_mem_split (List.mem_of_mem_filter hcustom)

theorem showsGranted_of_split {rbacPolicy : RBACPolicyRaw}
    (hsplit : Splitting.split ' ' (grantableScope scopeResults) = grantableScopes scopeResults)
    (hnodup : (customScopes scopeResults).Nodup) :
    ShowsGranted scopeResults (some rbacPolicy) := by
  intro clientName
  rw [consentManifest, fallbackConsentManifestGenerator, hsplit, List.dedup_eq_self.2 hnodup]
  rfl

/-- With a policy, the screen shows what is granted, whatever the policy says, exactly when some
scope is granted, none contains a space and the custom ones are distinct; without a policy, exactly
when no custom scope is granted. -/
theorem consent_shows_granted_iff (scopeResults : List ScopeResult) :
    ((∀ rbacPolicy, ShowsGranted scopeResults (some rbacPolicy)) ↔
      grantableScopes scopeResults ≠ [] ∧
        (∀ scope ∈ grantableScopes scopeResults, ' ' ∉ scope.toList) ∧
        (customScopes scopeResults).Nodup) ∧
      (ShowsGranted scopeResults none ↔ customScopes scopeResults = []) := by
  refine ⟨⟨fun h => ?_, fun ⟨hne, hspace, hnodup⟩ rbacPolicy => ?_⟩, fun h => ?_, fun h => ?_⟩
  · have hspace : ∀ scope ∈ grantableScopes scopeResults, ' ' ∉ scope.toList :=
      fun _ => (h emptyPolicy).not_space
    have hscopes := (h emptyPolicy).scopes
    rw [split_grantableScope hspace] at hscopes
    by_cases hnil : grantableScopes scopeResults = []
    · -- the empty text is split into one empty scope
      rw [if_pos hnil, customScopes, hnil] at hscopes
      exact absurd hscopes (by decide)
    · rw [if_neg hnil] at hscopes
      exact ⟨hnil, hspace, List.dedup_eq_self.1 hscopes.symm⟩
  · refine showsGranted_of_split ?_ hnodup
    rw [split_grantableScope hspace, if_neg hne]
  · have hlines : (customScopes scopeResults).dedup = [] := List.map_eq_nil_iff.1 h.lines.symm
    rwa [List.dedup_eq_nil] at hlines
  · have hspace : ∀ scope ∈ grantableScopes scopeResults, ' ' ∉ scope.toList := by
      intro scope hscope
      refine not_space_of_default scope (by_contra fun hdefault => ?_)
      have hcustom := mem_customScopes.2 ⟨hscope, hdefault⟩
      rw [h] at hcustom
      cases hcustom
    intro clientName
    rw [consentManifest, split_grantableScope hspace, h]
    split_ifs with hnil
    · rw [hnil]
      rfl
    · rfl

/-- When nothing can be granted, the screen asks for a scope without a name. -/
theorem consent_shows_empty_scope :
    consentManifest [] "App" (some emptyPolicy) =
        [⟨"App is requesting to:", [.line "Use the  scope"]⟩] ∧
      ¬ ShowsGranted [] (some emptyPolicy) := by
  have hmanifest : consentManifest [] "App" (some emptyPolicy) =
      [⟨"App is requesting to:", [.line "Use the  scope"]⟩] := rfl
  refine ⟨hmanifest, fun h => ?_⟩
  have hgranted := h "App"
  rw [hmanifest] at hgranted
  cases hgranted

end StytchBrowser.Web
