import Mathlib.Logic.Function.Basic
import StytchBrowser.Core.PKCEManager
import StytchBrowser.Lib.Machine
import StytchBrowser.Lib.Slots

/-!
# The web `PKCEManager` and the flows that start a transaction

The web manager keeps the pair of a namespace as one text in `localStorage`. Before they send an
email, `magicLinks.email.send`, `magicLinks.email.loginOrCreate` and `passwords.resetByEmailStart`
ask for the stored pair and start a transaction when there is none. Between the read and the write
lie two points at which the call waits, so that two calls can both find no pair, and the pair that
is written first is lost although its challenge is sent.

`s256` is the transform of a verifier to its challenge. A call that waits may be rejected.
-/

namespace StytchBrowser.Web

open StytchBrowser.Core (ProofkeyPair)

/-- `toHex`, which pads to two digits. -/
def toHex (n : ℕ) : List Char :=
  let str := Nat.toDigits 16 n
  if str.length = 1 then '0' :: str else str

/-- The code verifier of `createProofkeyPair`, made of 16 random words. -/
def codeVerifier (words : Fin 16 → UInt32) : List Char :=
  ((List.ofFn words).map fun word => toHex word.toNat).flatten

namespace PKCE

/-- The text under the key of a namespace. -/
inductive StoredText where
  | malformed
  | pair (pair : ProofkeyPair)

/-- The namespaces of the managers. -/
inductive Namespace where
  | magicLinks
  | passwords
  deriving DecidableEq

/-- The pair in a text; a missing or malformed text has none. -/
def pairIn : Option StoredText → Option ProofkeyPair
  | some (.pair pair) => some pair
  | _ => none

/-- `getPKPair`; a failed read finds nothing. -/
def getPKPair (failed : Bool) (stored : Option StoredText) : Option ProofkeyPair :=
  if failed then none else pairIn stored

/-- The flows that start a transaction. -/
inductive Method where
  | loginOrCreate
  | send
  | resetByEmailStart

/-- The namespace of the manager a flow uses. -/
def Method.namespace : Method → Namespace
  | .loginOrCreate => .magicLinks
  | .send => .magicLinks
  | .resetByEmailStart => .passwords

/-- `DynamicConfig`. -/
structure DynamicConfig where
  pkceRequiredForEmailMagicLinks : Bool
  pkceRequiredForPasswordResets : Bool

/-- Whether a flow sends a challenge. -/
def DynamicConfig.pkceRequired (config : DynamicConfig) : Method → Bool
  | .loginOrCreate => config.pkceRequiredForEmailMagicLinks
  | .send => config.pkceRequiredForEmailMagicLinks
  | .resetByEmailStart => config.pkceRequiredForPasswordResets

/-- What a call waits for. -/
inductive Phase where
  | config
  /-- `await getPKPair()`, with what it found. -/
  | pair (found : Option ProofkeyPair)
  /-- The digest of the verifier. -/
  | digest (codeVerifier : String)
  /-- The continuation of `startPKCETransaction`, which writes the pair. -/
  | created (pair : ProofkeyPair)
  /-- The telemetry that goes with the challenge. -/
  | telemetry (codeChallenge : Option String)
  | sent (codeChallenge : Option String)
  | rejected

structure Call where
  method : Method
  phase : Phase

/-- A web client: what is stored in each namespace, and its calls. -/
structure Client where
  stored : Namespace → Option StoredText
  calls : List Call

/-- What can happen on a client. -/
inductive Action where
  | call (method : Method)
  | getPKPair (i : ℕ) (failed : Bool)
  | useKeyPair (i : ℕ) (words : Fin 16 → UInt32)
  | digest (i : ℕ)
  | setItem (i : ℕ) (landed : Bool)
  | send (i : ℕ)
  | reject (i : ℕ)

namespace Client

variable (s256 : String → String) (config : DynamicConfig)

/-- Call `i` waits for something else. -/
def setPhase (c : Client) (i : ℕ) (method : Method) (phase : Phase) : Client :=
  { c with calls := c.calls.set i ⟨method, phase⟩ }

/-- `setItem` of a pair, which may fail. -/
def setItem (landed : Bool) (n : Namespace) (pair : ProofkeyPair) (c : Client) : Client :=
  { c with stored := if landed then Function.update c.stored n (some (.pair pair)) else c.stored }

/-- One step of a client, `none` when the step is not possible. -/
def next (c : Client) : Action → Option Client
  | .call method => some { c with calls := c.calls ++ [⟨method, .config⟩] }
  | .getPKPair i failed =>
      match c.calls[i]? with
      | some ⟨method, .config⟩ =>
          some (c.setPhase i method
            (if config.pkceRequired method then
              .pair (PKCE.getPKPair failed (c.stored method.namespace))
            else .telemetry none))
      | _ => none
  | .useKeyPair i words =>
      match c.calls[i]? with
      | some ⟨method, .pair (some pair)⟩ =>
          some (c.setPhase i method (.telemetry (some pair.codeChallenge)))
      | some ⟨method, .pair none⟩ =>
          some (c.setPhase i method (.digest (String.ofList (codeVerifier words))))
      | _ => none
  | .digest i =>
      match c.calls[i]? with
      | some ⟨method, .digest verifier⟩ =>
          some (c.setPhase i method (.created ⟨s256 verifier, verifier⟩))
      | _ => none
  | .setItem i landed =>
      match c.calls[i]? with
      | some ⟨method, .created pair⟩ =>
          some ((c.setItem landed method.namespace pair).setPhase i method
            (.telemetry (some pair.codeChallenge)))
      | _ => none
  | .send i =>
      match c.calls[i]? with
      | some ⟨method, .telemetry challenge⟩ => some (c.setPhase i method (.sent challenge))
      | _ => none
  | .reject i =>
      match c.calls[i]? with
      | some ⟨method, .config⟩ => some (c.setPhase i method .rejected)
      | some ⟨method, .digest _⟩ => some (c.setPhase i method .rejected)
      | some ⟨method, .telemetry _⟩ => some (c.setPhase i method .rejected)
      | _ => none

end Client

/-- The runs of a client, in which the pairs stored at the start have the challenges of their
verifiers. -/
def client (s256 : String → String) (config : DynamicConfig) : Machine Client Action where
  init c := c.calls = [] ∧ ∀ n pair, pairIn (c.stored n) = some pair →
    pair.codeChallenge = s256 pair.codeVerifier
  next := Client.next s256 config

end PKCE

end StytchBrowser.Web
