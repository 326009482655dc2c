import AccessControl.Request.Kind

/-!
# Requests

What a request tells the gateway: its method, its path and its headers in the order in which they
were sent. The gateway goes by the path as it stands in the request's address, where it starts at
the root, the marks that would cut it short are quoted, and tabs and line ends have no place.
-/
namespace AccessControl

structure Request where
  method : String
  path : String
  headers : List (String × String)
  deriving DecidableEq, Repr

namespace Request

/-- The value of the first header with a name, whatever the letter case of either. -/
def header? (r : Request) (name : String) : Option String :=
  (r.headers.find? fun (key, _) => Text.lower key = Text.lower name).map (·.2)

def credentials? (r : Request) : Option String :=
  r.header? "authorization"

def addressChar : Char → List Char
  | '?' => "%3F".toList
  | '#' => "%23".toList
  | '\\' => "%5C".toList
  | '\t' | '\n' | '\r' => []
  | c => [c]

/-- The characters of a path in an address: it starts at the root, unless it is empty. -/
def addressChars : List Char → List Char
  | [] => []
  | '/' :: rest => '/' :: rest.flatMap addressChar
  | cs => '/' :: cs.flatMap addressChar

def addressPath (r : Request) : String :=
  String.ofList (addressChars r.path.toList)

def kind (r : Request) : String :=
  requestKind r.method r.addressPath

def isUnder (r : Request) (paths : List String) : Bool :=
  paths.any fun path => path.toList.isPrefixOf r.addressPath.toList

end Request

end AccessControl
