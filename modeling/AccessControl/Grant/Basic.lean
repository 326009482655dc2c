import AccessControl.Grant.ResourceSet
import AccessControl.Permission.Basic
import AccessControl.Vocabulary

/-!
# Grants

A grant says which resources of a scope one concrete action reaches: all of them, the default
capability alone, or a set of named ones. The empty set means that nothing was granted. Merging
takes the stronger of two grants, sets being united; all resources absorb everything and the default
capability absorbs sets.
-/
namespace AccessControl

/-- The resources that one concrete action reaches in a scope. -/
inductive Grant
  | all
  | default
  | specific (resources : ResourceSet)
  deriving DecidableEq, Repr

inductive GrantKind
  | all
  | default
  | specific
  deriving DecidableEq, Repr

def GrantKind.text : GrantKind → String
  | .all => "all"
  | .default => "default"
  | .specific => "specific"

def GrantKind.ofText? (word : String) : Option GrantKind :=
  if word = "all" then some .all
  else if word = "default" then some .default
  else if word = "specific" then some .specific
  else none

inductive GrantError
  | unknownKind (e : UnknownWord)
  | explicitResources (kind : GrantKind)
  deriving DecidableEq, Repr

def GrantError.message : GrantError → String
  | .unknownKind e => e.message
  | .explicitResources kind => kind.text ++ " grant cannot carry explicit resources"

namespace Grant

def empty : Grant := .specific .empty

def ofNames (names : List String) : Grant := .specific (.ofList names)

def ofResource (resource : String) : Grant :=
  if resource = allResources then .all
  else if resource = defaultResource then .default
  else ofNames [resource]

/-- The grant of a kind with a list of resources, which only specific grants carry. -/
def make (kind : Json) (resources : List String) : Except GrantError Grant :=
  match readWord .grantKinds GrantKind.ofText? kind with
  | .error e => .error (.unknownKind e)
  | .ok .specific => .ok (ofNames resources)
  | .ok .all => if resources.isEmpty then .ok .all else .error (.explicitResources .all)
  | .ok .default =>
    if resources.isEmpty then .ok .default else .error (.explicitResources .default)

def kind : Grant → GrantKind
  | .all => .all
  | .default => .default
  | .specific _ => .specific

def resources : Grant → ResourceSet
  | .specific resources => resources
  | _ => .empty

def isAll : Grant → Bool
  | .all => true
  | _ => false

def isDefault : Grant → Bool
  | .default => true
  | _ => false

def isEmpty : Grant → Bool
  | .specific resources => resources.isEmpty
  | _ => false

/-- A demand for a resource is met. -/
def allows : Grant → String → Bool
  | .all, _ => true
  | .default, resource => resource = defaultResource
  | .specific resources, resource => resources.contains resource

def merge : Grant → Grant → Grant
  | .all, _ | _, .all => .all
  | .default, _ | _, .default => .default
  | .specific r, .specific s => .specific (r.union s)

def includes : Grant → Grant → Bool
  | .all, _ => true
  | .default, .default => true
  | .default, granted => granted.isEmpty
  | .specific r, .specific s => s.subset r
  | .specific _, _ => false

/-- The wire form: a special resource name or the sorted list of names. -/
def toJson : Grant → Json
  | .all => .str allResources
  | .default => .str defaultResource
  | .specific resources => .ofTexts resources.names

/-- The form for readers: a special word or the sorted names in braces. -/
def text : Grant → String
  | .all => "ALL"
  | .default => "DEFAULT"
  | .specific resources => "\x7b" ++ String.intercalate ", " resources.names ++ "\x7d"

end Grant

end AccessControl
