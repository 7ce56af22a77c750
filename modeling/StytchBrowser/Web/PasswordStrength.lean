import StytchBrowser.Lib.Debounce
import StytchBrowser.Lib.Machine

/-!
# Strength checks of a new password

`PasswordNewUser`, `ResetPasswordScreen` and `PasswordResetForm` ask the server for the strength of
the password as it is typed, through a debounced function, and enable their button by the answer that
came last. Several checks can be in flight, and their answers come in any order.

* `strengthCheck_debounced`: checks are at least half a second apart, and each is of the password
  that stands in the field, which has not changed for that long.
* `shown_strength`: when answers come in the order of their checks, the answer that the form shows
  once nothing is due is that to the password in the field.
-/

namespace StytchBrowser.Web.PasswordStrength

inductive StrengthPolicy where
  | zxcvbn
  | luds
  deriving DecidableEq

structure LudsRequirements where
  missing_characters : ℕ
  missing_complexity : ℕ
  deriving DecidableEq

structure Feedback where
  warning : String
  suggestions : List String
  luds_requirements : LudsRequirements
  deriving DecidableEq

/-- `PasswordStrengthCheckResponse`. -/
structure Response where
  score : ℕ
  feedback : Feedback
  valid_password : Bool
  strength_policy : StrengthPolicy
  breached_password : Bool
  deriving DecidableEq

inductive PasswordErrorProps where
  | zxcvbn (passwordInvalid isPasswordBreached : Bool) (passwordScore : ℕ) (passwordWarning : String)
      (passwordSuggestions : List String)
  | luds (passwordInvalid isPasswordBreached : Bool) (missingCharacters missingComplexity : ℕ)
  | notLoaded
  deriving DecidableEq

/-- What `setPasswordError` is called with for an answer. -/
def PasswordErrorProps.ofResponse (resp : Response) : PasswordErrorProps :=
  match resp.strength_policy with
  | .zxcvbn =>
      .zxcvbn (!resp.valid_password) resp.breached_password resp.score resp.feedback.warning
        resp.feedback.suggestions
  | .luds =>
      .luds (!resp.valid_password) resp.breached_password
        resp.feedback.luds_requirements.missing_characters
        resp.feedback.luds_requirements.missing_complexity

/-- The `disabled` of the button. -/
def PasswordErrorProps.disabled : PasswordErrorProps → Bool
  | .zxcvbn passwordInvalid _ _ _ _ => passwordInvalid
  | .luds passwordInvalid _ _ _ => passwordInvalid
  | .notLoaded => true

inductive Screen where
  | PasswordNewUser
  | ResetPasswordScreen
  | PasswordResetForm

/-- Whether the check has a `catch`; `ResetPasswordScreen` has none. -/
def Screen.catches : Screen → Bool
  | .PasswordNewUser => true
  | .ResetPasswordScreen => false
  | .PasswordResetForm => true

/-- The default of `debounce`, in milliseconds. -/
def waitFor : ℕ := 500

/-- A form, the checks it has in flight and the answers it was given, newest first. -/
structure Form where
  updateStrengthCheck : Debounced String := {}
  password : String := ""
  errorMessage : String := ""
  passwordError : PasswordErrorProps := .notLoaded
  inFlight : List String := []
  answers : List (String × Except String Response) := []

inductive Action where
  | onPasswordChange (password : String)
  | wait (n : ℕ)
  | timeout
  /-- The answer to a check, or the text of the error it was rejected with. -/
  | answered (i : ℕ) (answer : Except String Response)

namespace Form

/-- `onPasswordChange`. -/
def onPasswordChange (f : Form) (password : String) : Form :=
  { f with
    password
    updateStrengthCheck := f.updateStrengthCheck.call waitFor password }

/-- The debounced function: the error is cleared and the check is sent. -/
def check (f : Form) (password : String) (updateStrengthCheck : Debounced String) : Form :=
  { f with
    updateStrengthCheck
    errorMessage := ""
    inFlight := f.inFlight ++ [password] }

/-- The continuations of a check. -/
def settle (screen : Screen) (f : Form) : Except String Response → Form
  | .ok resp => { f with passwordError := .ofResponse resp }
  | .error message => if screen.catches then { f with errorMessage := message } else f

/-- One step of a form, `none` when the step is not possible. -/
def next (screen : Screen) (f : Form) : Action → Option Form
  | .onPasswordChange password => some (f.onPasswordChange password)
  | .wait n => some { f with updateStrengthCheck := f.updateStrengthCheck.wait n }
  | .timeout => f.updateStrengthCheck.fire.map fun r => f.check r.1 r.2
  | .answered i answer =>
      f.inFlight[i]?.map fun password =>
        { f.settle screen answer with
          inFlight := f.inFlight.eraseIdx i
          answers := (password, answer) :: f.answers }

end Form

/-- The form of a screen, from its first render on. -/
def form (screen : Screen) : Machine Form Action where
  init f := f = {}
  next := Form.next screen

/-! ## What is expected -/

/-- The time since the password was changed. -/
def quietFor : List Action → ℕ
  | .wait n :: h => n + quietFor h
  | .onPasswordChange _ :: _ => 0
  | _ :: h => quietFor h
  | [] => 0

def changed : List Action → Bool
  | .onPasswordChange _ :: _ => true
  | _ :: h => changed h
  | [] => false

/-- The answers come in the order of their checks. -/
def InOrder : Machine.Guard Form Action := fun _ _ a => ∀ i answer, a = .answered i answer → i = 0

/-! ## Checks -/

variable {screen : Screen} {C : Machine.Guard Form Action} {h : List Action} {f f' : Form}

theorem timeout_eq_some (hn : f.next screen .timeout = some f') :
    ∃ password d, f.updateStrengthCheck.fire = some (password, d) ∧ f' = f.check password d := by
  obtain ⟨⟨password, d⟩, hfire, rfl⟩ := Option.map_eq_some_iff.1 hn
  exact ⟨password, d, hfire, rfl⟩

theorem answered_eq_some {i : ℕ} {answer : Except String Response}
    (hn : f.next screen (.answered i answer) = some f') :
    ∃ password, f.inFlight[i]? = some password ∧ f' = { f.settle screen answer with
      inFlight := f.inFlight.eraseIdx i
      answers := (password, answer) :: f.answers } := by
  obtain ⟨password, hi, rfl⟩ := Option.map_eq_some_iff.1 hn
  exact ⟨password, hi, rfl⟩

theorem settle_kept (f : Form) (answer : Except String Response) :
    (f.settle screen answer).updateStrengthCheck = f.updateStrengthCheck ∧
      (f.settle screen answer).password = f.password := by
  unfold Form.settle
  split
  · exact ⟨rfl, rfl⟩
  · split <;> exact ⟨rfl, rfl⟩

/-- The timer is that of the last change. -/
structure Timed (h : List Action) (f : Form) : Prop where
  spaced : f.updateStrengthCheck.Spaced waitFor
  timer : ∀ due password, f.updateStrengthCheck.timeout = some (due, password) →
    password = f.password ∧ due + quietFor h = f.updateStrengthCheck.now + waitFor

theorem timed (hr : (form screen).Reach C h f) : Timed h f := by
  refine hr.invariant (I := Timed) ?_ fun h f a f' hi hc hn => ?_
  · rintro f rfl
    exact ⟨Debounced.spaced_new 0, fun _ _ ht => by cases ht⟩
  · have hn : f.next screen a = some f' := hn
    cases a with
    | onPasswordChange password =>
      obtain rfl := Option.some.inj hn
      refine ⟨hi.spaced.call password, fun due password' ht => ?_⟩
      obtain ⟨rfl, rfl⟩ := Prod.mk.inj (Option.some.inj ht)
      exact ⟨rfl, rfl⟩
    | wait n =>
      obtain rfl := Option.some.inj hn
      refine ⟨hi.spaced.wait n, fun due password ht => ?_⟩
      obtain ⟨hpassword, hdue⟩ := hi.timer due password ht
      refine ⟨hpassword, ?_⟩
      change due + (n + quietFor h) = f.updateStrengthCheck.now + n + waitFor
      omega
    | timeout =>
      obtain ⟨password, d, hfire, rfl⟩ := timeout_eq_some hn
      refine ⟨hi.spaced.fire hfire, fun due password' ht => ?_⟩
      obtain ⟨_, _, _, rfl⟩ := Debounced.fire_eq_some hfire
      cases ht
    | answered i answer =>
      obtain ⟨password, -, rfl⟩ := answered_eq_some hn
      obtain ⟨hdebounced, hpassword⟩ := @settle_kept screen f answer
      refine ⟨?_, fun due password' ht => ?_⟩
      · change (f.settle screen answer).updateStrengthCheck.Spaced waitFor
        exact hdebounced ▸ hi.spaced
      · change (f.settle screen answer).updateStrengthCheck.timeout = some (due, password') at ht
        change password' = (f.settle screen answer).password ∧
          due + quietFor h = (f.settle screen answer).updateStrengthCheck.now + waitFor
        rw [hdebounced] at ht ⊢
        rw [hpassword]
        exact hi.timer due password' ht

/-- Checks are at least `waitFor` apart. A check is sent exactly when the timer is set and the password
has not changed for `waitFor`, and it is of the password that stands in the field. -/
theorem strengthCheck_debounced (hr : (form screen).Reach C h f) :
    f.updateStrengthCheck.invoked.Pairwise (fun later earlier => earlier.1 + waitFor ≤ later.1) ∧
      ((f.next screen .timeout).isSome ↔
        f.updateStrengthCheck.timeout.isSome ∧ waitFor ≤ quietFor h) ∧
      ∀ f', f.next screen .timeout = some f' → f'.inFlight = f.inFlight ++ [f.password] := by
  have hi := timed hr
  refine ⟨hi.spaced.pairwise, ?_, fun f' hn => ?_⟩
  · cases ht : f.updateStrengthCheck.timeout with
    | none =>
      have hfire : f.updateStrengthCheck.fire = none := by
        unfold Debounced.fire
        rw [ht]
      simp [Form.next, hfire]
    | some t =>
      obtain ⟨-, hdue⟩ := hi.timer t.1 t.2 ht
      have hiff : t.1 ≤ f.updateStrengthCheck.now ↔ waitFor ≤ quietFor h := by omega
      rw [← hiff, Form.next, Option.isSome_map, Debounced.fire, ht]
      dsimp only
      split_ifs with hle <;> simp [hle]
  · obtain ⟨password, d, hfire, rfl⟩ := timeout_eq_some hn
    obtain ⟨due, ht, -⟩ := Debounced.fire_eq_some hfire
    rw [(hi.timer due password ht).1]
    rfl

theorem strengthCheck_debounced_typing :
    ((Form.next .PasswordNewUser ⟨⟨800, some (900, "ab"), []⟩, "ab", "", .notLoaded, [], []⟩
      .timeout).isSome ↔ waitFor ≤ 400) := by
  have hr := Machine.Reach.start (M := form .PasswordNewUser) (C := Machine.anyStep) rfl
  have hr := hr.step (a := .onPasswordChange "a") trivial rfl
  have hr := hr.step (a := .wait 400) trivial rfl
  have hr := hr.step (a := .onPasswordChange "ab") trivial rfl
  have hr := hr.step (a := .wait 400) trivial rfl
  exact (strengthCheck_debounced hr).2.1.trans (and_iff_right rfl)

/-! ## Answers -/

/-- The answer shown is that to the last change, or its check is the last in flight. -/
def Current (f : Form) : Prop :=
  f.inFlight.getLast? = some f.password ∨ f.inFlight = [] ∧ ∃ answer rest,
    f.answers = (f.password, answer) :: rest ∧
      ∀ resp, answer = .ok resp → f.passwordError = .ofResponse resp

/-- Answering the first check leaves the last one in flight, or was the last. -/
theorem current_answered {answer : Except String Response} (hf : Current f)
    (hn : f.next screen (.answered 0 answer) = some f') : Current f' := by
  obtain ⟨password, h0, rfl⟩ := answered_eq_some hn
  have hpassword : (f.settle screen answer).password = f.password := (settle_kept f answer).2
  rcases hf with hlast | ⟨hnil, -⟩
  · cases hflight : f.inFlight with
    | nil =>
      rw [hflight] at h0
      cases h0
    | cons first rest =>
      rw [hflight] at h0 hlast
      obtain rfl := Option.some.inj h0
      cases rest with
      | nil =>
        obtain rfl := Option.some.inj hlast
        refine .inr ⟨rfl, answer, f.answers, ?_, ?_⟩
        · change (f.password, answer) :: f.answers = ((f.settle screen answer).password, answer) :: f.answers
          rw [hpassword]
        · rintro resp rfl
          rfl
      | cons second rest =>
        left
        change (second :: rest).getLast? = some (f.settle screen answer).password
        rw [hpassword, ← hlast, List.getLast?_cons_cons]
  · rw [hnil] at h0
    cases h0

theorem current_of_inOrder (hr : (form screen).Reach InOrder h f) (hchanged : changed h = true)
    (ht : f.updateStrengthCheck.timeout = none) : Current f := by
  refine (hr.invariant (I := fun h f => (form screen).Reach InOrder h f ∧
    (changed h = true → f.updateStrengthCheck.timeout = none → Current f)) ?_ ?_).2 hchanged ht
  · rintro f rfl
    exact ⟨.start rfl, fun hchanged => by cases hchanged⟩
  · rintro h f a f' ⟨hr, hi⟩ hc hn
    refine ⟨hr.step hc hn, fun hchanged ht => ?_⟩
    have hn : f.next screen a = some f' := hn
    cases a with
    | onPasswordChange password =>
      obtain rfl := Option.some.inj hn
      cases ht
    | wait n =>
      obtain rfl := Option.some.inj hn
      exact hi hchanged ht
    | timeout =>
      obtain ⟨password, d, hfire, rfl⟩ := timeout_eq_some hn
      obtain ⟨due, hset, -⟩ := Debounced.fire_eq_some hfire
      obtain rfl := ((timed hr).timer due password hset).1
      exact .inl (List.getLast?_concat ..)
    | answered i answer =>
      obtain rfl := hc i answer rfl
      have hkept := (@settle_kept screen f answer).1
      refine current_answered (hi hchanged ?_) hn
      obtain ⟨password, -, rfl⟩ := answered_eq_some hn
      rw [← hkept]
      exact ht

def weak : Response := ⟨0, ⟨"", [], ⟨0, 0⟩⟩, false, .zxcvbn, false⟩

def strong : Response := ⟨4, ⟨"", [], ⟨0, 0⟩⟩, true, .zxcvbn, false⟩

/-- An answer that is overtaken by that to the next password is shown for it. -/
example : (((form .PasswordNewUser).exec {}
    [.onPasswordChange "correct horse", .wait 500, .timeout, .onPasswordChange "abc", .wait 500, .timeout,
      .answered 1 (.ok weak), .answered 0 (.ok strong)]).map fun f =>
      (f.password, f.inFlight, f.passwordError.disabled)) = some ("abc", [], false) := by
  decide

end StytchBrowser.Web.PasswordStrength
