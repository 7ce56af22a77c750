import StytchBrowser.Lib.Cells
import StytchBrowser.ReactNative.B2BUI.State

/-!
# The reducers of the React Native consumer screens

The state of the consumer screens, one inductive type for each group of actions and one reducer for
each, under the names of the source. The history is an array that states share: a state has the
reference of a cell, and a reducer that makes an array or changes one acts on the heap. What the
reducers only store is kept as `Json`, and of the responses of the API they have the fields that they
read.
-/

namespace StytchBrowser.ReactNative.B2C

open B2B (ErrorResponse)

/-! ## The state -/

/-- `Screen`. -/
inductive Screen where
  | Main
  | OTPConfirmation
  | EMLConfirmation
  | NewUser
  | ReturningUser
  | PasswordResetSent
  | SetPassword
  | Success
  deriving DecidableEq

inductive UserType where
  | new
  | password
  | passwordless
  deriving DecidableEq

inductive OTPMethod where
  | email
  | sms
  | whatsapp
  deriving DecidableEq

inductive PasswordResetType where
  | none
  | forgot
  | breached
  | dedupe
  deriving DecidableEq

inductive TokenType where
  | magic_links
  | oauth
  | reset_password
  deriving DecidableEq

structure ScreenState where
  isSubmitting : Bool
  error : Option ErrorResponse

structure PhoneNumberState where
  countryCode : String
  phoneNumber : Option String
  formattedPhoneNumber : Option String

structure EmailAddressState where
  emailAddress : Option String
  isValid : Option Bool

structure PasswordState where
  password : Option String
  passwordStrengthCheckResponse : Option Json
  resetType : Option PasswordResetType

structure UserState where
  userType : Option UserType
  emailAddress : EmailAddressState
  phoneNumber : PhoneNumberState
  password : PasswordState

structure AuthenticationState where
  otpMethod : Option OTPMethod
  methodId : Option String
  token : Option String

/-- `UIState`, where `η` is `Ref` in memory, and the screens themselves for what a state means. -/
structure UIState (η : Type) where
  screen : Screen
  history : η
  screenState : ScreenState
  userState : UserState
  authenticationState : AuthenticationState

def DEFAULT_UI_STATE : UIState (List Screen) where
  history := []
  screen := .Main
  screenState := ⟨false, none⟩
  userState := ⟨none, ⟨none, none⟩, ⟨"+1", none, none⟩, ⟨none, none, none⟩⟩
  authenticationState := ⟨none, none, none⟩

/-! ## Actions -/

/-- `updateState/..`. -/
inductive UpdateStateAction where
  | emailAddress (emailAddress : String) (isValid : Bool)
  | phoneNumber (countryCode : String) (phoneNumber formattedPhoneNumber : Option String)
  | password (password : String)
  | methodId (methodId : String)
  | token (token : String)
  | errorClear

/-- `userSearch/..`. -/
inductive UserSearchAction where
  | start
  | success (result : UserType)
  | error (error : Option ErrorResponse)

/-- `oauth/..`. -/
inductive OAuthAction where
  | start
  | startSuccess
  | startError (error : Option ErrorResponse)
  | authenticate
  | authenticateSuccess
  | authenticateError (error : Option ErrorResponse)

/-- `eml/..`. -/
inductive EMLAction where
  | loginOrCreate
  | loginOrCreateSuccess
  | loginOrCreateError (error : Option ErrorResponse)
  | authenticate
  | authenticateSuccess
  | authenticateError (error : Option ErrorResponse)

/-- `otp/..`, where the three methods have `loginOrCreate` actions. -/
inductive OTPAction where
  | loginOrCreate (method : OTPMethod)
  | loginOrCreateSuccess (method : OTPMethod) (methodId : String)
  | loginOrCreateError (method : OTPMethod) (error : Option ErrorResponse)
  | authenticate
  | authenticateSuccess
  | authenticateError (error : Option ErrorResponse)

/-- `passwords/..`. -/
inductive PasswordAction where
  | strengthCheck
  | strengthCheckSuccess (response : Json)
  | strengthCheckError (error : Option ErrorResponse)
  | create
  | createSuccess
  | createError (error : Option ErrorResponse)
  | authenticate
  | authenticateSuccess
  | authenticateError (error : Option ErrorResponse)
  | resetByEmailStart (resetType : PasswordResetType)
  | resetByEmailStartSuccess
  | resetByEmailStartError (error : Option ErrorResponse)
  | resetByEmail
  | resetByEmailSuccess
  | resetByEmailError (error : Option ErrorResponse)

/-- `deeplink/..`. -/
inductive DeeplinkAction where
  | parse
  | parseSuccess (tokenType : TokenType) (token : String)
  | parseError (error : Option ErrorResponse)
  | parseIgnored

/-- `navigate/..`. -/
inductive NavigationAction where
  | goBack

inductive B2CUIAction where
  | updateState (action : UpdateStateAction)
  | userSearch (action : UserSearchAction)
  | oauth (action : OAuthAction)
  | eml (action : EMLAction)
  | otp (action : OTPAction)
  | password (action : PasswordAction)
  | deeplink (action : DeeplinkAction)
  | navigation (action : NavigationAction)

/-! ## Arrays of screens -/

/-- `array.concat([screen])`, a new array. -/
def concat (array : Ref) (screen : Screen) : StateM (Heap (List Screen)) Ref := fun arrays =>
  Heap.alloc (arrays.read array ++ [screen]) arrays

/-- `array.pop()`, which takes the last element out of the array. -/
def pop (array : Ref) : StateM (Heap (List Screen)) (Option Screen) := fun arrays =>
  ((arrays.read array).getLast?, arrays.modify array List.dropLast)

/-! ## Reducers -/

namespace UIState

variable {η : Type}

/-- `{ ...state.screenState, isSubmitting: true, error: undefined }`. -/
def submitting (state : UIState η) : UIState η := { state with screenState := ⟨true, none⟩ }

/-- `{ ...state.screenState, isSubmitting }`. -/
def withSubmitting (state : UIState η) (isSubmitting : Bool) : UIState η :=
  { state with screenState := { state.screenState with isSubmitting } }

/-- `{ ...state.screenState, isSubmitting: false, error }`. -/
def submittedWith (state : UIState η) (error : Option ErrorResponse) : UIState η :=
  { state with screenState := ⟨false, error⟩ }

/-- `{ isSubmitting: false }`. -/
def settled (state : UIState η) : UIState η := { state with screenState := ⟨false, none⟩ }

/-- `{ ...state.screenState, error: undefined }`. -/
def withoutError (state : UIState η) : UIState η :=
  { state with screenState := { state.screenState with error := none } }

/-- The state on another screen, with a new history to which the last one is added. -/
def goTo (state : UIState Ref) (screen : Screen) : StateM (Heap (List Screen)) (UIState Ref) := do
  let history ← concat state.history state.screen
  return { state with history, screen }

end UIState

/-- What a reducer returns, after what it does to the arrays. -/
abbrev Reduced := StateM (Heap (List Screen)) (UIState Ref)

def UpdateStateReducer (state : UIState Ref) : UpdateStateAction → Reduced
  | .emailAddress emailAddress isValid =>
      return { state.withoutError with
        userState.emailAddress := ⟨some emailAddress, some isValid⟩ }
  | .phoneNumber countryCode phoneNumber formattedPhoneNumber =>
      return { state.withoutError with
        userState.phoneNumber := ⟨countryCode, phoneNumber, formattedPhoneNumber⟩ }
  | .password password =>
      return { state.withoutError with userState.password.password := some password }
  | .methodId methodId =>
      return { state.withoutError with authenticationState.methodId := some methodId }
  | .token token =>
      return { state.withoutError with authenticationState.token := some token }
  | .errorClear => return state.withoutError

def UserSearchReducer (state : UIState Ref) : UserSearchAction → Reduced
  | .start => return state.submitting
  | .success result => do
      let next ← match result with
        | .new => state.goTo .NewUser
        | .password => state.goTo .ReturningUser
        | .passwordless => pure state
      return { next.settled with userState.userType := some result }
  | .error error => return state.submittedWith error

def OAuthReducer (state : UIState Ref) : OAuthAction → Reduced
  | .start | .authenticate => return state.submitting
  | .startError error | .authenticateError error => return state.submittedWith error
  | .startSuccess => return state.submittedWith none
  | .authenticateSuccess => return (← state.goTo .Success).settled

def EMLReducer (state : UIState Ref) : EMLAction → Reduced
  | .loginOrCreate | .authenticate => return state.submitting
  | .loginOrCreateSuccess => return (← state.goTo .EMLConfirmation).settled
  | .loginOrCreateError error => return state.submittedWith error
  | .authenticateSuccess => return (← state.goTo .Success).settled
  | .authenticateError error => return state.submittedWith error

def OTPReducer (state : UIState Ref) : OTPAction → Reduced
  | .authenticate | .loginOrCreate _ => return state.submitting
  | .loginOrCreateSuccess method methodId =>
      return { (← state.goTo .OTPConfirmation).settled with
        authenticationState.methodId := some methodId
        authenticationState.otpMethod := some method }
  | .authenticateError error | .loginOrCreateError _ error => return state.submittedWith error
  | .authenticateSuccess => return (← state.goTo .Success).settled

def PasswordReducer (state : UIState Ref) : PasswordAction → Reduced
  | .strengthCheck => return state
  | .authenticate | .create | .resetByEmail => return state.submitting
  | .resetByEmailStart resetType =>
      return { state.submitting with userState.password.resetType := some resetType }
  | .authenticateError error | .createError error | .resetByEmailError error
  | .resetByEmailStartError error | .strengthCheckError error => return state.submittedWith error
  | .createSuccess | .authenticateSuccess | .resetByEmailSuccess =>
      return (← state.goTo .Success).settled
  | .resetByEmailStartSuccess => return (← state.goTo .PasswordResetSent).settled
  | .strengthCheckSuccess response =>
      return { state.submittedWith none with
        userState.password.passwordStrengthCheckResponse := some response }

def DeeplinkReducer (state : UIState Ref) : DeeplinkAction → Reduced
  | .parse => return state.withSubmitting true
  | .parseIgnored => return state.withSubmitting false
  | .parseError error => return state.submittedWith error
  | .parseSuccess tokenType token => do
      let newScreen := match tokenType with
        | .magic_links | .oauth => Screen.Success
        | .reset_password => Screen.SetPassword
      return { (← state.goTo newScreen).withSubmitting false with
        authenticationState.token := some token }

def NavigationReducer (state : UIState Ref) : NavigationAction → Reduced
  | .goBack => do
      let newScreen := (← pop state.history).getD .Main
      return { state.withoutError with screen := newScreen }

def GlobalReducer (state : UIState Ref) : B2CUIAction → Reduced
  | .updateState action => UpdateStateReducer state action
  | .userSearch action => UserSearchReducer state action
  | .oauth action => OAuthReducer state action
  | .eml action => EMLReducer state action
  | .otp action => OTPReducer state action
  | .password action => PasswordReducer state action
  | .deeplink action => DeeplinkReducer state action
  | .navigation action => NavigationReducer state action

/-! ## What a reducer does to the arrays -/

/-- The action that goes back. -/
abbrev goBack : B2CUIAction := .navigation .goBack

/-- All other actions keep the arrays, or make one array that has the screen on top of the history.
What they return depends on the heap only in the place of the new array. -/
theorem GlobalReducer_cases (state : UIState Ref) {action : B2CUIAction} (h : action ≠ goBack) :
    ∃ next : UIState Ref,
      (next.history = state.history ∧
        ∀ arrays, GlobalReducer state action arrays = (next, arrays)) ∨
      ∀ arrays, GlobalReducer state action arrays =
        ({ next with history := (concat state.history state.screen arrays).1 },
          (concat state.history state.screen arrays).2) := by
  refine ⟨(GlobalReducer state action []).1, ?_⟩
  cases action with
  | updateState action => cases action <;> exact .inl ⟨rfl, fun _ => rfl⟩
  | userSearch action =>
    cases action with
    | success result =>
      cases result with
      | passwordless => exact .inl ⟨rfl, fun _ => rfl⟩
      | new | password => exact .inr fun _ => rfl
    | start | error error => exact .inl ⟨rfl, fun _ => rfl⟩
  | oauth action =>
    cases action with
    | authenticateSuccess => exact .inr fun _ => rfl
    | _ => exact .inl ⟨rfl, fun _ => rfl⟩
  | eml action =>
    cases action with
    | loginOrCreateSuccess | authenticateSuccess => exact .inr fun _ => rfl
    | _ => exact .inl ⟨rfl, fun _ => rfl⟩
  | otp action =>
    cases action with
    | loginOrCreateSuccess method methodId => exact .inr fun _ => rfl
    | authenticateSuccess => exact .inr fun _ => rfl
    | _ => exact .inl ⟨rfl, fun _ => rfl⟩
  | password action =>
    cases action with
    | createSuccess | authenticateSuccess | resetByEmailSuccess | resetByEmailStartSuccess =>
      exact .inr fun _ => rfl
    | _ => exact .inl ⟨rfl, fun _ => rfl⟩
  | deeplink action =>
    cases action with
    | parseSuccess tokenType token => exact .inr fun _ => rfl
    | _ => exact .inl ⟨rfl, fun _ => rfl⟩
  | navigation action => exact absurd rfl h

/-- Going back takes the screen out of the array that the state has. -/
theorem GlobalReducer_goBack (state : UIState Ref) (arrays : Heap (List Screen)) :
    GlobalReducer state goBack arrays =
      ({ state.withoutError with screen := (arrays.read state.history).getLast?.getD .Main },
        arrays.modify state.history List.dropLast) :=
  rfl

end StytchBrowser.ReactNative.B2C
