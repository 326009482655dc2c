import AccessControl.Binary64.Decimal
import AccessControl.Json.Basic
import AccessControl.Text.Quoted

/-!
# Values in messages

The literal form in which messages show a value: texts quoted, the words `None`, `True` and `False`,
and lists and objects with their parts in literal form.
-/
namespace AccessControl.Json

def displaySpelling : Binary64.Spelling := ⟨"nan", "inf"⟩

mutual

def display : Json → String
  | .null => "None"
  | .bool value => if value then "True" else "False"
  | .int value => value.repr
  | .float value => String.ofList (value.text displaySpelling)
  | .str text => Text.quoted text
  | .arr items => "[" ++ String.intercalate ", " (displayItems items) ++ "]"
  | .obj members => "\x7b" ++ String.intercalate ", " (displayMembers members) ++ "\x7d"

def displayItems : List Json → List String
  | [] => []
  | item :: rest => display item :: displayItems rest

def displayMembers : List (String × Json) → List String
  | [] => []
  | (key, value) :: rest => (Text.quoted key ++ ": " ++ display value) :: displayMembers rest

end

/-- A text as it is, any other value in literal form. -/
def plain : Json → String
  | .str text => text
  | value => display value

/-- The name under which messages show what kind of value a value is. -/
def typeName : Json → String
  | .null => "NoneType"
  | .bool _ => "bool"
  | .int _ => "int"
  | .float _ => "float"
  | .str _ => "str"
  | .arr _ => "list"
  | .obj _ => "dict"

end AccessControl.Json
