import AccessControl.Text.Surrogate

/-!
# Path patterns

The path of a route may have gaps, written as a name in braces with or without a kind of text
behind a colon. A request's path fits when every gap can be filled with text of its kind; a line
feed at its end does not count.
-/
namespace AccessControl

/-- One part of a pattern: a character as it is, or a gap that text of a kind fills. -/
inductive PathPart
  | literal (c : Char)
  | gap (name kind : String)
  deriving DecidableEq, Repr

inductive PathFault
  | unknownKind (kind : String)
  | repeatedNames (names : List String) (path : String)
  deriving DecidableEq, Repr

def PathFault.message : PathFault → String
  | .unknownKind kind => "Unknown path convertor '" ++ kind ++ "'"
  | .repeatedNames names path =>
    "Duplicated param name" ++ (if names.length = 1 then "" else "s") ++ " " ++
      String.intercalate ", " names ++ " at path " ++ path

namespace PathPattern

def startsName (c : Char) : Bool := c.isAlpha || c = '_'

def inName (c : Char) : Bool := c.isAlphanum || c = '_'

def name? : List Char → Option (String × List Char)
  | c :: rest =>
    if startsName c then some (String.ofList (c :: rest.takeWhile inName), rest.dropWhile inName)
    else none
  | [] => none

/-- The kind of text that fills a gap where none is named. -/
def usualKind : String := "str"

/-- A gap in front of some characters, behind its brace, and the number of characters behind it. -/
def gap? (cs : List Char) : Option (PathPart × Nat) := do
  let (name, rest) ← name? cs
  match rest with
  | '\x7d' :: rest => some (.gap name usualKind, rest.length)
  | ':' :: rest =>
    let (kind, rest) ← name? rest
    match rest with
    | '\x7d' :: rest => some (.gap name kind, rest.length)
    | _ => none
  | _ => none

/-- The parts of a pattern, of which the first characters are passed over. -/
def partsFrom : (passed : Nat) → List Char → List PathPart
  | _, [] => []
  | passed + 1, _ :: rest => partsFrom passed rest
  | 0, c :: rest =>
    match if c = '\x7b' then gap? rest else none with
    | some (gap, left) => gap :: partsFrom (rest.length - left) rest
    | none => .literal c :: partsFrom 0 rest

def parts (path : String) : List PathPart :=
  partsFrom 0 path.toList

def isHex (c : Char) : Bool :=
  c.isDigit || 'a' ≤ c && c ≤ 'f' || 'A' ≤ c && c ≤ 'F'

/-- Groups of hexadecimal digits, given their sizes, with dashes between them or not. -/
def areHexGroups : List Nat → List Char → Bool
  | [], cs => cs.isEmpty
  | [size], cs => cs.length = size && cs.all isHex
  | size :: sizes, cs =>
    let (group, rest) := cs.splitAt size
    group.length = size && group.all isHex &&
      areHexGroups sizes (if rest.head? = some '-' then rest.drop 1 else rest)

def areDigits (cs : List Char) : Bool := !cs.isEmpty && cs.all Char.isDigit

def kinds : List (String × (List Char → Bool)) :=
  [("str", fun cs => !cs.isEmpty && cs.all (· ≠ '/')),
    ("path", fun cs => cs.all (· ≠ '\n')),
    ("int", areDigits),
    ("float", fun cs => areDigits (cs.takeWhile (· ≠ '.')) &&
      match cs.dropWhile (· ≠ '.') with
      | [] => true
      | _ :: places => areDigits places),
    ("uuid", areHexGroups [8, 4, 4, 4, 12])]

def isOfKind (kind : String) (cs : List Char) : Bool :=
  (kinds.lookup kind).any (· cs)

def cuts (cs : List Char) : List (List Char × List Char) :=
  let letters := Text.letters cs
  (List.range (letters.length + 1)).map fun size =>
    ((letters.take size).flatten, (letters.drop size).flatten)

/-- The parts of a pattern make up a path. -/
def fit : List PathPart → List Char → Bool
  | [], cs => cs = [] || cs = ['\n']
  | .literal c :: parts, d :: cs => c = d && fit parts cs
  | .literal _ :: _, [] => false
  | .gap _ kind :: parts, cs => (cuts cs).any fun (filling, rest) =>
    isOfKind kind filling && fit parts rest

def fits (pattern path : String) : Bool :=
  fit (parts pattern) path.toList

def names (parts : List PathPart) : List String :=
  parts.filterMap fun
    | .gap name _ => some name
    | .literal _ => none

/-- The names that come again behind one of the same spelling. -/
def repeated : List String → List String
  | [] => []
  | name :: rest => if rest.contains name then name :: repeated rest else repeated rest

/-- Why a pattern is refused, if it is: the first kind that is unknown, or names that come again. -/
def fault? (path : String) : Option PathFault :=
  let unknown := (parts path).findSome? fun
    | .gap _ kind => if (kinds.lookup kind).isNone then some (.unknownKind kind) else none
    | .literal _ => none
  match unknown, (repeated (names (parts path))).eraseDups.mergeSort with
  | some fault, _ => some fault
  | none, [] => none
  | none, names => some (.repeatedNames names path)

end PathPattern

end AccessControl
