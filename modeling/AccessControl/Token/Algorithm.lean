import AccessControl.Hash.Hmac

/-!
# Signing algorithms

Tokens are signed with a keyed hash under the installation's secret.
-/
namespace AccessControl

inductive Algorithm
  | hs256
  | hs384
  | hs512
  deriving DecidableEq, Repr

namespace Algorithm

def text : Algorithm → String
  | .hs256 => "HS256"
  | .hs384 => "HS384"
  | .hs512 => "HS512"

def ofText? (name : String) : Option Algorithm :=
  if name = "HS256" then some .hs256
  else if name = "HS384" then some .hs384
  else if name = "HS512" then some .hs512
  else none

def hmac (algorithm : Algorithm) (key message : Bytes) : Bytes :=
  match algorithm with
  | .hs256 => Sha2.hmac Sha2.sha256 key message
  | .hs384 => Sha2.hmac Sha2.sha384 key message
  | .hs512 => Sha2.hmac Sha2.sha512 key message

end Algorithm

/-- The name of the algorithm that does not sign at all. No secret is a key for it. -/
def unsignedAlgorithm : String := "none"

end AccessControl
