import AccessControl.Binary64.Decimal
import AccessControl.Json.Basic
import AccessControl.Text.Quoted

/-!
# Writing JSON

The ASCII text of a value: members in their order, short escapes where the format has them, and
`\u` escapes, in surrogate pairs beyond the first plane, for everything outside printable ASCII.
-/
namespace AccessControl.Json

/-- What stands between items and between a key and its value. -/
structure Layout where
  betweenItems : String
  afterKey : String
  deriving Repr

def Layout.compact : Layout := ⟨",", ":"⟩

def Layout.spaced : Layout := ⟨", ", ": "⟩

def writtenSpelling : Binary64.Spelling := ⟨"NaN", "Infinity"⟩

def unitEscape (unit : Nat) : List Char :=
  '\\' :: 'u' :: Text.hex 4 unit

def writePoint (n : Nat) : List Char :=
  let c := Char.ofNat n
  if c = '"' ∨ c = '\\' then ['\\', c]
  else if c = '\n' then ['\\', 'n']
  else if c = '\r' then ['\\', 'r']
  else if c = '\t' then ['\\', 't']
  else if c = '\x08' then ['\\', 'b']
  else if c = '\x0c' then ['\\', 'f']
  else if 0x20 ≤ n ∧ n < 0x7F then [c]
  else if n < 0x10000 then unitEscape n
  else
    let offset := n - 0x10000
    unitEscape (0xD800 + offset / 0x400) ++ unitEscape (0xDC00 + offset % 0x400)

def writeText (s : String) : List Char :=
  '"' :: (Text.codePoints s.toList).flatMap writePoint ++ ['"']

mutual

def write (layout : Layout) : Json → List Char
  | .null => ['n', 'u', 'l', 'l']
  | .bool value => if value then ['t', 'r', 'u', 'e'] else ['f', 'a', 'l', 's', 'e']
  | .int value => value.repr.toList
  | .float value => value.text writtenSpelling
  | .str text => writeText text
  | .arr items => '[' :: writeItems layout items ++ [']']
  | .obj members => '\x7b' :: writeMembers layout members ++ ['\x7d']

def writeItems (layout : Layout) : List Json → List Char
  | [] => []
  | [item] => write layout item
  | item :: rest => write layout item ++ layout.betweenItems.toList ++ writeItems layout rest

def writeMembers (layout : Layout) : List (String × Json) → List Char
  | [] => []
  | [(key, value)] => writeText key ++ layout.afterKey.toList ++ write layout value
  | (key, value) :: rest =>
    writeText key ++ layout.afterKey.toList ++ write layout value ++
      layout.betweenItems.toList ++ writeMembers layout rest

end

def compact (value : Json) : String :=
  String.ofList (write .compact value)

def spaced (value : Json) : String :=
  String.ofList (write .spaced value)

end AccessControl.Json
