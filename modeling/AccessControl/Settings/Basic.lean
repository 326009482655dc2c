import AccessControl.Json.Basic

/-!
# Settings

What an installation is configured with. Every settings value has a secret, a positive token
lifetime and absolute endpoint paths.
-/
namespace AccessControl

inductive Method
  | get
  | post
  | put
  | patch
  | delete
  | head
  | options
  deriving DecidableEq, Repr

def Method.text : Method → String
  | .get => "GET"
  | .post => "POST"
  | .put => "PUT"
  | .patch => "PATCH"
  | .delete => "DELETE"
  | .head => "HEAD"
  | .options => "OPTIONS"

def Method.all : List Method := [.get, .post, .put, .patch, .delete, .head, .options]

def Method.ofText? (word : String) : Option Method :=
  Method.all.find? fun method => method.text = word

def IsAbsolute (path : String) : Prop := path.toList.head? = some '/'

instance (path : String) : Decidable (IsAbsolute path) :=
  inferInstanceAs (Decidable (path.toList.head? = some '/'))

structure Settings where
  secret : String
  algorithm : String
  lifetime : Int
  authenticationPath : String
  authenticationMethod : Method
  iamEnabled : Bool
  iamPath : String
  iamMethod : Method
  exemptPaths : List String
  secret_ne : secret ≠ ""
  lifetime_pos : 0 < lifetime
  authenticationPath_absolute : IsAbsolute authenticationPath
  iamPath_absolute : IsAbsolute iamPath
  deriving DecidableEq, Repr

/-- The settings with the secret in clear text. -/
def Settings.toJson (s : Settings) : Json :=
  .obj [("secret", .str s.secret), ("jwt_algorithm", .str s.algorithm),
    ("expiration_time_span", .int s.lifetime),
    ("authentication_path", .str s.authenticationPath),
    ("authentication_method", .str s.authenticationMethod.text),
    ("iam_endpoint_enabled", .bool s.iamEnabled), ("iam_path", .str s.iamPath),
    ("iam_method", .str s.iamMethod.text), ("exempt_paths", .ofTexts s.exemptPaths)]

end AccessControl
