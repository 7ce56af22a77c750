import Mathlib.Data.Nat.Notation

/-!
# Proof key pairs

The pair a PKCE manager generates when a flow starts, and what a code verifier has to look like.
-/

namespace StytchBrowser.Core

/-- `ProofkeyPair`. -/
structure ProofkeyPair where
  codeChallenge : String
  codeVerifier : String
  deriving DecidableEq

/-- The characters a code verifier may consist of. -/
def isUnreserved (c : Char) : Bool := c.isAlphanum || c ∈ ['-', '.', '_', '~']

/-- A code verifier has 43 to 128 unreserved characters. -/
structure WellFormedVerifier (verifier : List Char) : Prop where
  unreserved : ∀ c ∈ verifier, isUnreserved c = true
  long : 43 ≤ verifier.length
  short : verifier.length ≤ 128

/-- A transform that tells verifiers apart. -/
def exampleS256 (codeVerifier : String) : String := "S256:" ++ codeVerifier

end StytchBrowser.Core
