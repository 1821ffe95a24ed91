import RealmAuth.AuthError
import RealmAuth.Json.Basic
import RealmAuth.Text.Blank
import RealmAuth.Text.Split

namespace RealmAuth

/-!
What an application configures: given as values, whose types are only looked at
where they are used, or read from the texts of an environment.
-/

/-- The settings of an application. -/
structure Settings where
  /-- The key of the realm: a document, or its bare base 64 body. -/
  realmPublicKey : Json
  expectedAudiences : Json
  /-- The roles that every token has to carry. -/
  requiredRoles : Json
  /-- Whether answers name the role that is missing. -/
  debug : Json

namespace Settings

def fieldNames : List Text :=
  ["realm_public_key", "expected_audiences", "required_roles", "debug"]

/-- The settings among named values; two are required, and no other name is known. -/
def ofFields {ε : Type} (fields : Json.Fields) : Except (Halt ε) Settings :=
  if fields.names.all fieldNames.contains then
    match fields.get? "realm_public_key", fields.get? "expected_audiences" with
    | some key, some audiences =>
        .ok {
          realmPublicKey := key
          expectedAudiences := audiences
          requiredRoles := (fields.get? "required_roles").getD (.array [])
          debug := (fields.get? "debug").getD (.bool false) }
    | _, _ => escape .wrongType
  else escape .wrongType

def keyVariable : String := "KEYCLOAK_REALM_PUBLIC_KEY"

def audiencesVariable : String := "KEYCLOAK_EXPECTED_AUDIENCES"

def rolesVariable : String := "KEYCLOAK_REQUIRED_ROLES"

def debugVariable : String := "KEYCLOAK_AUTH_DEBUG"

/-- The values of an environment by name. -/
abbrev Environment := List (String × String)

/-- The items of a comma list: blanks around them are dropped, and so are blank items. -/
def items (cs : List Char) : List (List Char) :=
  ((Text.pieces ',' cs).map Text.strip).filter fun item => !item.isEmpty

def itemsOf (environment : Environment) (variableName : String) : List String :=
  match environment.lookup variableName with
  | some text => (items text.toList).map String.ofList
  | none => []

/-- The texts that switch a flag on, blanks and case aside. -/
def switchedOn : List String := ["1", "true", "yes", "on"]

def flagOf (environment : Environment) (variableName : String) : Bool :=
  match environment.lookup variableName with
  | some text =>
      switchedOn.contains (String.ofList (Text.lowerAscii (Text.strip text.toList)))
  | none => false

/-- The settings of an environment; the key and at least one audience are required. -/
def ofEnvironment {ε : Type} (environment : Environment) : Except (Halt ε) Settings :=
  let key := (environment.lookup keyVariable).getD ""
  let audiences := itemsOf environment audiencesVariable
  let missing :=
    (if key.isEmpty then [keyVariable] else []) ++
      (if audiences.isEmpty then [audiencesVariable] else [])
  if missing.isEmpty then
    .ok {
      realmPublicKey := .string key
      expectedAudiences := .array (audiences.map fun audience => .string (.plain audience))
      requiredRoles :=
        .array ((itemsOf environment rolesVariable).map fun role => .string (.plain role))
      debug := .bool (flagOf environment debugVariable) }
  else
    escape (.missingSettings ("Missing Keycloak auth settings: " ++ ", ".intercalate missing))

end Settings
end RealmAuth
