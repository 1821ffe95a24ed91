import RealmAuth.Claims.Report
import RealmAuth.Halt
import RealmAuth.Jws.Fault

namespace RealmAuth

/-!
The refusals of the library.  Each has a status, a text for the log and a message
for the caller; only one of them says more to the caller while debugging.
-/

/-- What a refusal was caused by. -/
inductive Cause where
  | key (fault : KeyFault)
  | header (fault : HeaderFault)
  | verification (fault : VerificationFault)
  | claims (report : Report)
  /-- A cause from outside the library, known by its text. -/
  | other (text : Text)

def Cause.message [Platform] : Cause → Text
  | key fault => .plain fault.message
  | header fault => fault.message
  | verification fault => .plain fault.message
  | claims report => .plain report.message
  | other text => text

/-- A refusal. -/
inductive AuthError where
  /-- A refusal of no particular family. -/
  | general (text : Text)
  /-- A token could not be authenticated. -/
  | authentication (text : Text)
  /-- A token lacks a role, or carries one that it must not. -/
  | authorization (text : Text)
  /-- There is no authorization header. -/
  | headerMissing
  /-- The authorization header has characters that are not visible ASCII. -/
  | headerInvalid (reason : String)
  /-- The authorization header carries no bearer token. -/
  | bearerMissing
  /-- The key of the realm cannot be used. -/
  | decodingKey (cause : Cause)
  /-- The header of a token cannot be read or used. -/
  | headerDecode (cause : Cause)
  /-- A token was not verified. -/
  | tokenDecode (cause : Cause)
  /-- The claims of a token are not the standard ones. -/
  | claimsParse (cause : Cause)
  /-- The lifetime of a token is over. -/
  | tokenExpired
  /-- A token is well formed but of no use. -/
  | tokenInvalid (reason : String)
  /-- A role is expected that a token does not carry. -/
  | roleMissing (role : Text)
  /-- A token carries a role that it must not. -/
  | roleUnexpected

/-- The families of refusals. -/
inductive AuthError.Family where
  | setup
  | authentication
  | authorization
  deriving DecidableEq

namespace AuthError

def family : AuthError → Family
  | general _ => .setup
  | decodingKey _ => .setup
  | authorization _ => .authorization
  | roleMissing _ => .authorization
  | roleUnexpected => .authorization
  | _ => .authentication

def status : AuthError → Nat
  | general _ => 500
  | decodingKey _ => 500
  | headerMissing => 400
  | headerInvalid _ => 400
  | bearerMissing => 400
  | tokenInvalid _ => 400
  | _ => 401

def message [Platform] : AuthError → Text
  | general text => text
  | authentication text => text
  | authorization text => text
  | headerMissing => "The 'Authorization' header was not present on a request."
  | headerInvalid reason =>
      .plain <|
        "The 'Authorization' header was present on a request but its value could not be parsed. "
          ++ "Reason: " ++ reason
  | bearerMissing =>
      "The 'Authorization' header did not contain the expected 'Bearer ...token' format."
  | decodingKey cause =>
      .plain "The DecodingKey, required for decoding tokens, could not be created. Source: "
        ++ cause.message
  | headerDecode cause => .plain "The JWT header could not be decoded. Source: " ++ cause.message
  | tokenDecode cause => .plain "The JWT could not be decoded. Source: " ++ cause.message
  | claimsParse cause => .plain "Parts of the JWT could not be parsed. Source: " ++ cause.message
  | tokenExpired => "The tokens lifetime is expired."
  | tokenInvalid reason =>
      .plain <|
        "For a not further known reason, the token was deemed invalid: Reason: " ++ reason
  | roleMissing _ => "An expected role (omitted for security reasons) was missing."
  | roleUnexpected => "An unexpected role was present."

/-- The message for the caller; a missing role is only named while debugging. -/
def publicMessage [Platform] (debug : Bool) : AuthError → Text
  | roleMissing role =>
      if debug then .plain "Missing expected role: " ++ role else "Missing expected role"
  | error => error.message

def cause? : AuthError → Option Cause
  | decodingKey cause => some cause
  | headerDecode cause => some cause
  | tokenDecode cause => some cause
  | claimsParse cause => some cause
  | _ => none

end AuthError

/-- Why a request or a check of the library stopped. -/
abbrev Failure := Halt AuthError

end RealmAuth
