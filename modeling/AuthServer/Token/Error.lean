/-!
Why a caller was not authenticated, and why a token could not be made.
-/

namespace AuthServer

inductive AuthError where
  | missingToken
  | malformedToken
  | unsupportedAlgorithm (name : String)
  | unknownKey (kid : String)
  | badSignature
  | expired
  | notYetValid
  | issuerMismatch
  | invalidCredentials
  | keyNotFound (kid : String)
  | signing (reason : String)
deriving DecidableEq, Repr

namespace AuthError

def message : AuthError → String
  | .missingToken => "authorization header is required"
  | .malformedToken => "token is malformed"
  | .unsupportedAlgorithm name => s!"unsupported signing algorithm: {name}"
  | .unknownKey kid => s!"unknown signing key: {kid}"
  | .badSignature => "token signature is invalid"
  | .expired => "token has expired"
  | .notYetValid => "token is not yet valid"
  | .issuerMismatch => "token issuer mismatch"
  | .invalidCredentials => "invalid credentials"
  | .keyNotFound kid => s!"signing key not found: {kid}"
  | .signing reason => s!"signing failed: {reason}"

def code : AuthError → String
  | .missingToken => "missing_token"
  | .malformedToken => "malformed_token"
  | .unsupportedAlgorithm _ => "unsupported_algorithm"
  | .unknownKey _ => "unknown_key"
  | .badSignature => "bad_signature"
  | .expired => "expired"
  | .notYetValid => "not_yet_valid"
  | .issuerMismatch => "issuer_mismatch"
  | .invalidCredentials => "invalid_credentials"
  | .keyNotFound _ => "key_not_found"
  | .signing _ => "signing_error"

def isCredentialFailure : AuthError → Bool
  | .keyNotFound _ | .signing _ => false
  | _ => true

end AuthError

end AuthServer
