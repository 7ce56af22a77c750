import StytchBrowser.JsUtils.Value

/-!
# Restoring errors that were marshalled

An error arrives from the iframe as a plain object of its fields. `unmarshall` looks at the name in it
and passes the object to the constructor of that class, which was written for other arguments
(`inflate`); then the fields are assigned to the new error, over what the constructor made of them.

Where the constructor throws nothing is restored: `construct_isSome` says which fields each class
accepts. What is restored has every field that arrived (`get_inflate`).
-/

namespace StytchBrowser.Core.ErrorMarshaller

/-- The classes that `unmarshall` knows. -/
inductive ErrorClass where
  | sdkAPIUnreachableError
  | stytchSDKSchemaError
  | stytchAPIUnreachableError
  | stytchAPISchemaError
  | stytchSDKAPIError
  | stytchAPIError
  | typeError
  | syntaxError
  | referenceError
  | rangeError
  | evalError
  | uriError
  | error
  deriving DecidableEq

/-- The name that the instances of a class have. -/
def ErrorClass.className : ErrorClass → String
  | .sdkAPIUnreachableError => "SDKAPIUnreachableError"
  | .stytchSDKSchemaError => "StytchSDKSchemaError"
  | .stytchAPIUnreachableError => "StytchAPIUnreachableError"
  | .stytchAPISchemaError => "StytchAPISchemaError"
  | .stytchSDKAPIError => "StytchSDKAPIError"
  | .stytchAPIError => "StytchAPIError"
  | .typeError => "TypeError"
  | .syntaxError => "SyntaxError"
  | .referenceError => "ReferenceError"
  | .rangeError => "RangeError"
  | .evalError => "EvalError"
  | .uriError => "URIError"
  | .error => "Error"

/-- The cases of the switch. -/
def switched : List ErrorClass :=
  [.sdkAPIUnreachableError, .stytchSDKSchemaError, .stytchAPIUnreachableError,
    .stytchAPISchemaError, .stytchSDKAPIError, .stytchAPIError, .typeError, .syntaxError,
    .referenceError, .rangeError, .evalError, .uriError]

/-- The class whose constructor the switch calls. -/
def classOf : Value → ErrorClass
  | .string s => (switched.find? fun c => c.className = s).getD .error
  | _ => .error

/-- An error object: its class and its own fields. -/
structure JsError where
  errorClass : ErrorClass
  own : Fields

/-! ### The constructors -/

/-- `data.k`. -/
def readField (data : Fields) (k : String) : Value := (data.get k).getD .undefined

/-- The text of the object itself. -/
def dataText (data : Fields) : Option String := (Value.object data.entries).text

def named (name message : String) : Fields :=
  (OrderedMap.empty.set "name" (.string name)).set "message" (.string message)

/-- `new SDKAPIUnreachableError(data)`: `data` is the message, and there are no details. -/
def newSDKAPIUnreachableError (data : Fields) : Option Fields :=
  (dataText data).map fun message =>
    (named "SDKAPIUnreachableError" (message ++ "\nundefined")).set "details" .undefined

/-- `new StytchAPIUnreachableError(data)`. -/
def newStytchAPIUnreachableError (data : Fields) : Option Fields :=
  (dataText data).map (named "StytchAPIUnreachableError")

/-- `new Error(data)`, and the same for the other classes of the language. -/
def newError (data : Fields) : Option Fields :=
  (dataText data).map fun message => OrderedMap.empty.set "message" (.string message)

/-- `${err.dataPath}: ${err.message}`. -/
def schemaMessage (err : Value) : Option String :=
  if err.nullish then none
  else
    match (err.field "dataPath").text, (err.field "message").text with
    | some dataPath, some message => some (dataPath ++ ": " ++ message)
    | _, _ => none

/-- `schemaError.body?.map(..).join('\n')`. -/
def schemaMessages (data : Fields) : Option String :=
  match readField data "body" with
  | .undefined => some "undefined"
  | .null => some "undefined"
  | .array errs => (errs.mapM schemaMessage).map fun messages => "\n".intercalate messages
  | _ => none

/-- `new StytchSDKSchemaError(data)`. -/
def newStytchSDKSchemaError (data : Fields) : Option Fields :=
  (schemaMessages data).map fun messages =>
    named "StytchSDKSchemaError" ("[400] Request does not match expected schema\n" ++ messages)

/-- `new StytchAPISchemaError(data)`. -/
def newStytchAPISchemaError (data : Fields) : Option Fields :=
  (schemaMessages data).map fun messages =>
    named "StytchAPISchemaError" ("Request does not match expected schema\n" ++ messages)

/-- A line of the message for a value that may be missing. -/
def optionalLine (v : Value) (line : Value → Option String) : Option String :=
  if v.truthy then line v else some ""

def requestLine (v : Value) : Option String := v.text.map fun t => "request_id: " ++ t ++ "\n"

def detailsLine (v : Value) : Option String :=
  v.jsonText.map fun t => "Details: \n" ++ t.getD "undefined" ++ "\n"

/-- The message of an API error. -/
def apiMessage (data : Fields) : Option String := do
  let status_code ← (readField data "status_code").text
  let error_type ← (readField data "error_type").text
  let error_message ← (readField data "error_message").text
  let error_url ← (readField data "error_url").text
  let request ← optionalLine (readField data "request_id") requestLine
  let details ← optionalLine (readField data "error_details") detailsLine
  return "[" ++ status_code ++ "] " ++ error_type ++ "\n" ++ error_message ++ "\n" ++ "See " ++
    error_url ++ " for more information.\n" ++ request ++ details

/-- The fields that the constructor of an API error copies. -/
def apiFields : List String :=
  ["error_type", "error_message", "error_url", "request_id", "status_code", "error_details"]

/-- `new StytchSDKAPIError(data)` and `new StytchAPIError(data)`. -/
def newAPIError (name : String) (data : Fields) : Option Fields :=
  (apiMessage data).map fun message =>
    apiFields.foldl (fun own k => own.set k (readField data k)) (named name message)

/-- `new ErrorClass(data)`: the own fields of the error, `none` where the constructor throws. -/
def construct : ErrorClass → Fields → Option Fields
  | .sdkAPIUnreachableError => newSDKAPIUnreachableError
  | .stytchSDKSchemaError => newStytchSDKSchemaError
  | .stytchAPIUnreachableError => newStytchAPIUnreachableError
  | .stytchAPISchemaError => newStytchAPISchemaError
  | .stytchSDKAPIError => newAPIError "StytchSDKAPIError"
  | .stytchAPIError => newAPIError "StytchAPIError"
  | .typeError => newError
  | .syntaxError => newError
  | .referenceError => newError
  | .rangeError => newError
  | .evalError => newError
  | .uriError => newError
  | .error => newError

/-- `inflate`. Assigning `__proto__` sets the prototype, which is then set again. -/
def inflate (errorClass : ErrorClass) (data : Fields) : Option JsError :=
  (construct errorClass data).map fun own => ⟨errorClass, own.merge (data.erase "__proto__")⟩

/-- `unmarshall`. -/
def unmarshall (data : Fields) : Option JsError :=
  match data.get "name" with
  | some name => inflate (classOf name) data
  | none => inflate .error data

/-! ### What the constructors accept -/

/-- The messages of a schema error can be written. -/
def SchemaReadable (body : Value) : Prop :=
  body.nullish = true ∨ ∃ errs, body = .array errs ∧ ∀ err ∈ errs, err.nullish = false ∧
    (err.field "dataPath").text.isSome = true ∧ (err.field "message").text.isSome = true

/-- The message of an API error can be written. -/
structure APIReadable (data : Fields) : Prop where
  status_code : (readField data "status_code").text.isSome = true
  error_type : (readField data "error_type").text.isSome = true
  error_message : (readField data "error_message").text.isSome = true
  error_url : (readField data "error_url").text.isSome = true
  request_id : (readField data "request_id").truthy = true → (readField data "request_id").text.isSome = true
  error_details : (readField data "error_details").truthy = true →
    (readField data "error_details").jsonText.isSome = true

/-- The fields from which the constructor of a class makes an error. -/
def Accepts : ErrorClass → Fields → Prop
  | .stytchSDKSchemaError, data => SchemaReadable (readField data "body")
  | .stytchAPISchemaError, data => SchemaReadable (readField data "body")
  | .stytchSDKAPIError, data => APIReadable data
  | .stytchAPIError, data => APIReadable data
  | .sdkAPIUnreachableError, data => data.get "toString" = none
  | .stytchAPIUnreachableError, data => data.get "toString" = none
  | .typeError, data => data.get "toString" = none
  | .syntaxError, data => data.get "toString" = none
  | .referenceError, data => data.get "toString" = none
  | .rangeError, data => data.get "toString" = none
  | .evalError, data => data.get "toString" = none
  | .uriError, data => data.get "toString" = none
  | .error, data => data.get "toString" = none

theorem dataText_isSome (data : Fields) : (dataText data).isSome = true ↔ data.get "toString" = none := by
  unfold dataText Value.text
  show (if (data.get "toString").isSome = true then none else some "[object Object]").isSome = true ↔ _
  cases data.get "toString" <;> simp

theorem schemaMessage_isSome (err : Value) :
    (schemaMessage err).isSome = true ↔ err.nullish = false ∧
      (err.field "dataPath").text.isSome = true ∧ (err.field "message").text.isSome = true := by
  unfold schemaMessage
  cases err.nullish with
  | true => simp
  | false => cases (err.field "dataPath").text <;> cases (err.field "message").text <;> simp

theorem mapM_isSome {α β : Type} (f : α → Option β) (l : List α) :
    (l.mapM f).isSome = true ↔ ∀ a ∈ l, (f a).isSome = true := by
  induction l with
  | nil => simp
  | cons a l ih =>
    rw [List.mapM_cons, List.forall_mem_cons, ← ih]
    cases f a <;> cases l.mapM f <;> simp

theorem schemaMessages_isSome (data : Fields) :
    (schemaMessages data).isSome = true ↔ SchemaReadable (readField data "body") := by
  unfold schemaMessages SchemaReadable
  cases readField data "body" with
  | array errs => simp [mapM_isSome, schemaMessage_isSome, Value.nullish]
  | _ => simp [Value.nullish]

theorem optionalLine_isSome (v : Value) (line : Value → Option String) :
    (optionalLine v line).isSome = true ↔ (v.truthy = true → (line v).isSome = true) := by
  unfold optionalLine
  split_ifs with h <;> simp [h]

theorem bind_isSome {α β : Type} (x : Option α) (f : α → Option β) {p : Prop}
    (hf : ∀ a, (f a).isSome = true ↔ p) : (x >>= f).isSome = true ↔ x.isSome = true ∧ p := by
  cases x with
  | none => simp
  | some a => simp [hf]

theorem apiMessage_isSome (data : Fields) : (apiMessage data).isSome = true ↔ APIReadable data := by
  have h : (apiMessage data).isSome = true ↔
      (readField data "status_code").text.isSome = true ∧ (readField data "error_type").text.isSome = true ∧
        (readField data "error_message").text.isSome = true ∧
          (readField data "error_url").text.isSome = true ∧
            (optionalLine (readField data "request_id") requestLine).isSome = true ∧
              (optionalLine (readField data "error_details") detailsLine).isSome = true ∧ True :=
    bind_isSome _ _ fun _ => bind_isSome _ _ fun _ => bind_isSome _ _ fun _ =>
      bind_isSome _ _ fun _ => bind_isSome _ _ fun _ => bind_isSome _ _ fun _ => by simp
  rw [h, optionalLine_isSome, optionalLine_isSome, requestLine, detailsLine, Option.isSome_map,
    Option.isSome_map]
  constructor
  · rintro ⟨h₁, h₂, h₃, h₄, h₅, h₆, -⟩
    exact ⟨h₁, h₂, h₃, h₄, h₅, h₆⟩
  · intro hr
    exact ⟨hr.status_code, hr.error_type, hr.error_message, hr.error_url, hr.request_id,
      hr.error_details, trivial⟩

theorem construct_isSome (errorClass : ErrorClass) (data : Fields) :
    (construct errorClass data).isSome = true ↔ Accepts errorClass data := by
  cases errorClass <;>
    simp only [construct, Accepts, newSDKAPIUnreachableError, newStytchSDKSchemaError,
      newStytchAPIUnreachableError, newStytchAPISchemaError, newAPIError, newError,
      Option.isSome_map, dataText_isSome, schemaMessages_isSome, apiMessage_isSome]

/-- What a class accepts depends only on the fields that its constructor reads. -/
theorem Accepts.congr {errorClass : ErrorClass} {data data' : Fields}
    (h : ∀ k ∈ "toString" :: "body" :: apiFields, data'.get k = data.get k) :
    Accepts errorClass data' ↔ Accepts errorClass data := by
  have hread : ∀ k ∈ "toString" :: "body" :: apiFields, readField data' k = readField data k := fun k hk => by
    rw [readField, readField, h k hk]
  have hapi : APIReadable data' ↔ APIReadable data := by
    rw [← apiMessage_isSome, ← apiMessage_isSome]
    unfold apiMessage
    rw [hread "status_code" (by decide), hread "error_type" (by decide),
      hread "error_message" (by decide), hread "error_url" (by decide),
      hread "request_id" (by decide), hread "error_details" (by decide)]
  cases errorClass <;> dsimp only [Accepts]
  all_goals first
    | exact hapi
    | rw [h "toString" (by decide)]
    | rw [hread "body" (by decide)]

/-! ### What is restored -/

theorem unmarshall_eq {data : Fields} {name : Value} (h : data.get "name" = some name) :
    unmarshall data = inflate (classOf name) data := by
  rw [unmarshall, h]

/-- An error is restored where the constructor accepts the fields. -/
theorem inflate_isSome (errorClass : ErrorClass) (data : Fields) :
    (inflate errorClass data).isSome = true ↔ Accepts errorClass data := by
  rw [inflate, Option.isSome_map, construct_isSome]

/-- Every field that arrived is a field of the restored error. -/
theorem get_inflate {errorClass : ErrorClass} {data : Fields} {e : JsError}
    (he : inflate errorClass data = some e) {k : String} (hk : k ≠ "__proto__") {v : Value}
    (hv : data.get k = some v) : e.errorClass = errorClass ∧ e.own.get k = some v := by
  obtain ⟨own, -, rfl⟩ := Option.map_eq_some_iff.1 he
  refine ⟨rfl, ?_⟩
  rw [OrderedMap.get_merge, OrderedMap.get_erase, if_neg hk, hv]
  rfl

/-- A field of an API error that did not arrive is `undefined`. -/
theorem get_inflate_stytchAPIError {data : Fields} {e : JsError}
    (he : inflate .stytchAPIError data = some e) {k : String} (hk : k ∈ apiFields)
    (hv : data.get k = none) : e.own.get k = some .undefined := by
  obtain ⟨own, hown, rfl⟩ := Option.map_eq_some_iff.1 he
  obtain ⟨message, -, rfl⟩ := Option.map_eq_some_iff.1 hown
  have hlast : ∀ k ∈ apiFields, (apiFields.filter fun x => x = k).getLast? = some k := by decide
  have hdata : (data.erase "__proto__").get k = none := by
    rw [OrderedMap.get_erase, hv, ite_self]
  dsimp only
  rw [OrderedMap.get_merge, hdata, OrderedMap.get_foldl_set_key, hlast k hk]
  show some ((data.get k).getD .undefined) = _
  rw [hv]
  rfl

/-! ### The classes that names designate -/

/-- The names of the classes of the SDK and of the language that the switch has no case for. -/
def otherClassNames : List String :=
  ["AggregateError", "StytchSDKUsageError", "NoCurrentSessionError", "Internal Error",
    "NoBiometricsRegistrationError", "BiometricsUnavailableError", "KeyInvalidatedError",
    "KeystoreUnavailableError", "NoBiometricsEnrolledError", "BiometricsAlreadyEnrolledError",
    "UserCancellationError", "UserLockedOutError", "DeviceCredentialsNotAllowedError",
    "MissingGoogleClientIDError", "MissingPKCEError", "MissingAuthorizationCredentialIDTokenError",
    "InvalidAuthorizationCredentialError", "NoCredentialsPresentError", "MissingPublicKeyError",
    "ChallengeSigningFailedError", "SDKNotConfiguredError", "FailedCodeChallengeError",
    "PasskeysUnsupportedError", "FailedToDecryptDataError", "BiometricsFailedError",
    "InvalidStartUrlError", "InvalidRedirectSchemeError", "MissingUrlError",
    "InvalidCredentialTypeError", "MissingAttestationObjectError",
    "JSONDataNotConvertibleToStringError", "RandomNumberGenerationFailed",
    "PasskeysInvalidEncoding", "PasskeysMisconfigured", "SignInWithAppleMisconfigured",
    "MissingCipherIv", "InvalidPrivateKeyLength", "BiometricRegistrationIdIsNullOrBlank",
    "DFPNotConfigured", "IDPOAuthFlowMissingParamError"]

/-- The class has the name, or no class has it and the class is `Error`. -/
def Designates (name : Value) (c : ErrorClass) : Prop :=
  name = .string c.className ∨
    c = .error ∧ ∀ s, name = .string s → s ∉ otherClassNames ∧ ∀ d : ErrorClass, d.className ≠ s

theorem className_notMem : ∀ c : ErrorClass, c.className ∉ otherClassNames := by
  intro c
  cases c <;> decide

theorem mem_switched {c : ErrorClass} (h : c ≠ .error) : c ∈ switched := by
  revert h
  cases c <;> decide

/-- The switch takes the class that the name designates, unless it is one it has no case for. -/
theorem designates_classOf (name : Value) :
    Designates name (classOf name) ↔ ∀ s, name = .string s → s ∉ otherClassNames := by
  cases name with
  | string s =>
    cases hfind : switched.find? fun c => c.className = s with
    | some c =>
      have hs : c.className = s := by simpa using List.find?_some hfind
      have hc : classOf (.string s) = c := by rw [classOf, hfind]; rfl
      rw [hc, ← hs]
      refine ⟨fun _ t ht => ?_, fun _ => Or.inl rfl⟩
      obtain rfl := Value.string.inj ht
      exact className_notMem c
    | none =>
      have hc : classOf (.string s) = .error := by rw [classOf, hfind]; rfl
      have hne : ∀ d : ErrorClass, d ≠ .error → d.className ≠ s := fun d hd he =>
        List.find?_eq_none.1 hfind d (mem_switched hd) (decide_eq_true he)
      rw [hc]
      constructor
      · rintro (he | ⟨-, hall⟩) t ht
        · obtain rfl := Value.string.inj ht
          obtain rfl := Value.string.inj he
          exact className_notMem .error
        · exact (hall t ht).1
      · intro hall
        by_cases hs : s = "Error"
        · exact Or.inl (congrArg _ hs)
        · refine Or.inr ⟨rfl, fun t ht => ⟨hall t ht, fun d => ?_⟩⟩
          obtain rfl := Value.string.inj ht
          by_cases hd : d = .error
          · subst hd
            exact fun he => hs he.symm
          · exact hne d hd
  | _ => exact ⟨fun _ s hs => (by cases hs), fun _ => Or.inr ⟨rfl, fun s hs => (by cases hs)⟩⟩

end StytchBrowser.Core.ErrorMarshaller
