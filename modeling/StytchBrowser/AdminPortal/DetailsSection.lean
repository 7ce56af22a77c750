import StytchBrowser.JsUtils.DeepEqualLaws
import StytchBrowser.Lib.Requests

/-!
# The details of an SSO connection

The form for the details of a connection, its edits and `handleSave`, which deletes the certificates
marked for deletion one after another, then applies a metadata URL, and then sends one update with all
properties in which the form differs from the connection. The deletion of a certificate that the
server no longer has is taken to end the whole save: `return` stands where `continue` was meant.
-/

namespace StytchBrowser.AdminPortal.Details

open DeepEqual Requests

/-! ## Identity providers -/

/-- What the form reads of an entry of `samlIdpMap`: the label may be `false`. -/
structure SamlIdpInfo where
  metadataUrlLabel : Option String

/-- `IssuerTransformer`. -/
structure IssuerTransformer where
  issuerDerivedLabel : String
  extractIssuerFromInput : String → Option String
  transformInputToIssuer : String → String

/-- What the form reads of an entry of `oidcIdpMap`, which has all fields of a transformer or none. -/
structure OidcIdpInfo where
  issuerTransformer : Option IssuerTransformer

def samlIdpMap : List (String × SamlIdpInfo) :=
  [("generic", ⟨some "Metadata URL"⟩), ("microsoft-entra", ⟨some "App Federation Metadata Url"⟩),
    ("okta", ⟨some "Metadata URL"⟩), ("google-workspace", ⟨none⟩)]

def issuerPrefix : List Char := "https://login.microsoftonline.com/".toList

def issuerSuffix : List Char := "/v2.0".toList

/-- A character that `.` matches. -/
def matchesDot (c : Char) : Bool := !([0xA, 0xD, 0x2028, 0x2029].contains c.toNat)

/-- The group of `/^https:\/\/login\.microsoftonline\.com\/(.+)\/v2\.0$/`. -/
def extractIssuerFromInput (input : String) : Option String :=
  (input.toList.dropPrefix? issuerPrefix).bind fun rest =>
    (rest.dropSuffix? issuerSuffix).bind fun id =>
      if id ≠ [] ∧ id.all matchesDot then some (String.ofList id) else none

def transformInputToIssuer (id : String) : String :=
  String.ofList (issuerPrefix ++ id.toList ++ issuerSuffix)

def oidcIdpMap : List (String × OidcIdpInfo) :=
  [("generic", ⟨none⟩),
    ("microsoft-entra",
      ⟨some ⟨"Directory (tenant) ID", extractIssuerFromInput, transformInputToIssuer⟩⟩),
    ("okta", ⟨none⟩)]

/-- `getIdpInfo` for a SAML connection. A name that the map inherits finds a function, in which the
form sees what it sees in the entry of `generic`: no label that is `false`. -/
def samlIdpInfo (idp : String) : SamlIdpInfo :=
  (samlIdpMap.lookup idp).getD ⟨some "Metadata URL"⟩

/-- `getIdpInfo` for an OIDC connection; an inherited name has no transformer either. -/
def oidcIdpInfo (idp : String) : OidcIdpInfo := (oidcIdpMap.lookup idp).getD ⟨none⟩

/-! ## Connections and the form -/

structure SamlConnection where
  connectionId : String
  displayName : String
  identityProvider : String
  attributeMapping : OrderedMap String String
  idpEntityId : String
  idpSsoUrl : String
  /-- The ids of `verification_certificates`. -/
  verificationCertificates : List String

structure OidcConnection where
  connectionId : String
  displayName : String
  identityProvider : String
  attributeMapping : OrderedMap String String
  issuer : String
  clientId : String
  clientSecret : String
  authorizationUrl : String
  tokenUrl : String
  userinfoUrl : String
  jwksUrl : String

structure ExternalConnection where
  connectionId : String
  displayName : String

inductive TaggedConnection where
  | saml (connection : SamlConnection)
  | oidc (connection : OidcConnection)
  | external (connection : ExternalConnection)

/-- The fields of the form that hold a text. -/
inductive Slice where
  | displayName | identityProvider
  | metadataUrl | ssoUrl | entityId | certificate
  | clientId | clientSecret | issuer | issuerDerivedValue
  | authorizationUrl | tokenUrl | userInfoUrl | jwksUrl
  deriving DecidableEq

structure DetailsFormState where
  /-- A text, `none` for `undefined`. -/
  text : Slice → Option String
  attributeMapping : OrderedMap String String
  manualConfiguration : Bool
  deletedCertificateIds : Option (List String)

namespace TaggedConnection

def connectionId : TaggedConnection → String
  | .saml connection => connection.connectionId
  | .oidc connection => connection.connectionId
  | .external connection => connection.connectionId

/-- The transformer of `getIdpAndConnectionInfo(connection).idp`. -/
def issuerTransformer : TaggedConnection → Option IssuerTransformer
  | .oidc connection => (oidcIdpInfo connection.identityProvider).issuerTransformer
  | _ => none

def idpRequiresManualConfig : TaggedConnection → Bool
  | .saml connection => (samlIdpInfo connection.identityProvider).metadataUrlLabel.isNone
  | _ => false

def remoteState (connection : TaggedConnection) : DetailsFormState where
  text slice :=
    match connection, slice with
    | .saml connection, .displayName => some connection.displayName
    | .saml connection, .identityProvider => some connection.identityProvider
    | .saml connection, .entityId => some connection.idpEntityId
    | .saml connection, .ssoUrl => some connection.idpSsoUrl
    | .oidc connection, .displayName => some connection.displayName
    | .oidc connection, .identityProvider => some connection.identityProvider
    | .oidc connection, .authorizationUrl => some connection.authorizationUrl
    | .oidc connection, .clientId => some connection.clientId
    | .oidc connection, .clientSecret => some connection.clientSecret
    | .oidc connection, .issuer => some connection.issuer
    | .oidc connection, .issuerDerivedValue =>
        (oidcIdpInfo connection.identityProvider).issuerTransformer.bind fun idp =>
          idp.extractIssuerFromInput connection.issuer
    | .oidc connection, .jwksUrl => some connection.jwksUrl
    | .oidc connection, .tokenUrl => some connection.tokenUrl
    | .oidc connection, .userInfoUrl => some connection.userinfoUrl
    | .external connection, .displayName => some connection.displayName
    | _, _ => none
  attributeMapping :=
    match connection with
    | .saml connection => connection.attributeMapping
    | .oidc connection => connection.attributeMapping
    | .external _ => .empty
  manualConfiguration := false
  deletedCertificateIds := none

end TaggedConnection

/-- The text that an input shows. -/
def DetailsFormState.shownText (form : DetailsFormState) (slice : Slice) : String :=
  (form.text slice).getD ""

/-- The certificates marked for deletion. -/
def DetailsFormState.marked (form : DetailsFormState) : List String :=
  form.deletedCertificateIds.getD []

variable (connection : TaggedConnection) (form : DetailsFormState)

def isManualConfig : Bool := form.manualConfiguration || connection.idpRequiresManualConfig

/-! ## Editing -/

/-- Whether the form has an input for a text in the configuration mode it is in. -/
def hasInput (slice : Slice) : Bool :=
  match connection, slice with
  | _, .displayName => true
  | .saml _, .identityProvider | .oidc _, .identityProvider => true
  | .saml _, .metadataUrl => !isManualConfig connection form
  | .saml _, .ssoUrl | .saml _, .entityId | .saml _, .certificate => isManualConfig connection form
  | .oidc _, .clientId | .oidc _, .clientSecret => true
  | .oidc _, .issuer => connection.issuerTransformer.isNone
  | .oidc _, .issuerDerivedValue => connection.issuerTransformer.isSome
  | .oidc _, .authorizationUrl | .oidc _, .tokenUrl | .oidc _, .userInfoUrl | .oidc _, .jwksUrl =>
      isManualConfig connection form
  | _, _ => false

/-- Whether the form shows the table of the attributes. -/
def hasAttributeTable : Bool :=
  match connection with
  | .saml _ => true
  | _ => false

/-- What the user can do in the form. -/
inductive Edit where
  | setText (slice : Slice) (value : String)
  /-- Confirm the certificate to be added, or drop it. -/
  | setCertificate (certificate : Option String)
  | deleteCertificate (certificateId : String)
  | toggleManualConfiguration
  /-- The additions, changes and deletions in the table of the attributes. -/
  | setAttributeMapping (attributeMapping : OrderedMap String String)

/-- Whether the form offers an edit. -/
def Edit.offered : Edit → Bool
  | .setText .certificate _ => false
  | .setText slice _ => hasInput connection form slice
  | .setCertificate certificate =>
      match connection with
      | .saml connection' =>
          form.shownText .certificate ≠ "" ||
            (certificate.isSome && isManualConfig connection form &&
              connection'.verificationCertificates.length - form.marked.length < 5)
      | _ => false
  | .deleteCertificate certificateId =>
      match connection with
      | .saml connection =>
          connection.verificationCertificates.contains certificateId &&
            !form.marked.contains certificateId &&
            1 < connection.verificationCertificates.length - form.marked.length
      | _ => false
  | .toggleManualConfiguration =>
      match connection with
      | .saml _ => !connection.idpRequiresManualConfig
      | .oidc _ => true
      | .external _ => false
  | .setAttributeMapping _ => hasAttributeTable connection

/-- `useStateSliceSetter`. -/
def DetailsFormState.setSlice (form : DetailsFormState) (slice : Slice) (value : Option String) :
    DetailsFormState :=
  { form with text := Function.update form.text slice value }

def Edit.apply : Edit → DetailsFormState
  | .setText slice value => form.setSlice slice (some value)
  | .setCertificate certificate => form.setSlice .certificate certificate
  | .deleteCertificate certificateId =>
      { form with deletedCertificateIds := some (form.marked ++ [certificateId]) }
  | .toggleManualConfiguration =>
      { form with manualConfiguration := !isManualConfig connection form }
  | .setAttributeMapping attributeMapping => { form with attributeMapping }

/-- The form after edits of which those that are not offered do nothing. -/
def edited (edits : List Edit) : DetailsFormState :=
  edits.foldl (fun form edit => if edit.offered connection form then edit.apply connection form
    else form) connection.remoteState

/-! ## Saving -/

/-- The options of an update. -/
inductive Property where
  | display_name | identity_provider | idp_sso_url | idp_entity_id | x509_certificate
  | attribute_mapping | client_id | client_secret | authorization_url | token_url | userinfo_url
  | jwks_url | issuer

inductive Request where
  | deleteCertificate (connection_id certificate_id : String)
  | mutateByUrl (connection_id metadata_url : String)
  | mutate (connection_id : String) (mutatedProperties : List (Property × Option Json))

/-- What a mutation fails with. -/
inductive MutationError where
  | stytchSDKAPIError (error_type : String)
  | other

/-- The error means that the certificate was not there. -/
def MutationError.isNotFound : MutationError → Bool
  | .stytchSDKAPIError error_type => error_type = "sso_verification_key_not_found"
  | .other => false

/-- A property for a text that is not the one of the connection. -/
def changed (property : Property) (slice : Slice) : List (Property × Option Json) :=
  if form.text slice ≠ connection.remoteState.text slice then
    [(property, (form.text slice).map .str)]
  else []

/-- `getIssuer`. -/
def getIssuer : Option String :=
  match form.text .issuerDerivedValue with
  | some issuerDerivedValue =>
      if issuerDerivedValue = "" ∧ connection.remoteState.shownText .issuerDerivedValue = "" then none
      else connection.issuerTransformer.map fun idp => idp.transformInputToIssuer issuerDerivedValue
  | none => form.text .issuer

/-- `mutatedProperties` when the update is sent. -/
def mutatedProperties : List (Property × Option Json) :=
  changed connection form .display_name .displayName ++
    changed connection form .identity_provider .identityProvider ++
    match connection with
    | .saml _ =>
        (if isManualConfig connection form then
          changed connection form .idp_sso_url .ssoUrl ++
            changed connection form .idp_entity_id .entityId ++
            if form.shownText .certificate ≠ "" then
              [(.x509_certificate, (form.text .certificate).map .str)]
            else []
        else []) ++
          if deepEqual [] (record connection.remoteState.attributeMapping)
              (.value (record form.attributeMapping)) then []
          else [(.attribute_mapping, some (record form.attributeMapping))]
    | .oidc _ =>
        changed connection form .client_id .clientId ++
          changed connection form .client_secret .clientSecret ++
          (if isManualConfig connection form then
            changed connection form .authorization_url .authorizationUrl ++
              changed connection form .token_url .tokenUrl ++
              changed connection form .userinfo_url .userInfoUrl ++
              changed connection form .jwks_url .jwksUrl
          else []) ++
          match getIssuer connection form with
          | some issuer =>
              if some issuer ≠ connection.remoteState.text .issuer then
                [(.issuer, some (.str issuer))]
              else []
          | none => []
    | .external _ => []

/-- The request for the metadata URL, if there is one. -/
def mutateByUrl : List Request :=
  match connection with
  | .saml _ =>
      if !isManualConfig connection form && form.shownText .metadataUrl ≠ "" then
        [.mutateByUrl connection.connectionId (form.shownText .metadataUrl)]
      else []
  | _ => []

/-- The requests that follow the deletions. -/
def afterDeletions : List Request :=
  mutateByUrl connection form ++
    if mutatedProperties connection form = [] then []
    else [.mutate connection.connectionId (mutatedProperties connection form)]

/-- A save under way: the state of the form as it is now, and the requests that were answered. -/
structure Saving where
  localState : DetailsFormState
  log : Log Request MutationError

/-- A certificate that was deleted is no longer marked. -/
def DetailsFormState.unmark (form : DetailsFormState) (certificateId : String) : DetailsFormState :=
  { form with deletedCertificateIds :=
      form.deletedCertificateIds.map fun ids => ids.filter (· ≠ certificateId) }

section

variable (answers : ℕ → Except MutationError Unit)

/-- The loop over `deletedCertificateIds`, and how `handleSave` ends when it ends inside the loop. -/
def deleteCertificates (connectionId : String) :
    List String → Saving → Saving × Option (Except MutationError Unit)
  | [], s => (s, none)
  | certificateId :: ids, s =>
      match answers s.log.length with
      | .ok () =>
          deleteCertificates connectionId ids
            ⟨s.localState.unmark certificateId,
              s.log ++ [(.deleteCertificate connectionId certificateId, .ok ())]⟩
      | .error e =>
          (⟨s.localState, s.log ++ [(.deleteCertificate connectionId certificateId, .error e)]⟩,
            some (if e.isNotFound then .ok () else .error e))

/-- The certificates that a save deletes. -/
def toDelete : List String :=
  match connection with
  | .saml _ => form.marked
  | _ => []

def handleSave : Saving × Except MutationError Unit :=
  match deleteCertificates answers connection.connectionId (toDelete connection form) ⟨form, []⟩ with
  | (s, some result) => (s, result)
  | (s, none) =>
      let (log, result) := sendAll answers (afterDeletions connection form) s.log
      (⟨s.localState, log⟩, result)

/-- `save` of the settings container: whether the form is still open for editing afterwards. -/
def save : Saving × Bool :=
  match handleSave connection form answers with
  | (s, .ok ()) => (s, false)
  | (s, .error _) => (s, true)

end

end StytchBrowser.AdminPortal.Details
