import AccessControl.Json.Basic
import AccessControl.Text.Surrogate

/-!
# Encodable values

Answers are sent as octets, which a text has only when it holds no half of a surrogate pair. A value
is looked through for texts that do, keys included.
-/
namespace AccessControl.Json

mutual

/-- Every text in a value has octets. -/
def isEncodable : Json → Bool
  | .str text => Text.isEncodable text
  | .arr items => allEncodable items
  | .obj members => membersEncodable members
  | _ => true

def allEncodable : List Json → Bool
  | [] => true
  | item :: rest => item.isEncodable && allEncodable rest

def membersEncodable : List (String × Json) → Bool
  | [] => true
  | (key, value) :: rest =>
    Text.isEncodable key && value.isEncodable && membersEncodable rest

end

end AccessControl.Json
