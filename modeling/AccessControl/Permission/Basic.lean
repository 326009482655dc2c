/-!
# Permissions

A permission names a scope, an action on it and a resource of it, and is spelled
`Scope.Action[.Resource]`. Two resource names are special: one stands for every resource of the
scope, the other for the capability that needs no resource, which is also meant when the resource is
left out.
-/
namespace AccessControl

inductive Context
  | «local»
  | global
  deriving DecidableEq, Repr

def Context.text : Context → String
  | .local => "local"
  | .global => "global"

def Context.ofText? (word : String) : Option Context :=
  if word = "local" then some .local
  else if word = "global" then some .global
  else none

/-- What is done to a resource: one of the two concrete actions. -/
inductive Access
  | read
  | write
  deriving DecidableEq, Repr

inductive Action
  | read
  | write
  | readWrite
  deriving DecidableEq, Repr

/-- Every action, in the order in which messages list them. -/
def Action.all : List Action := [.read, .write, .readWrite]

def Action.text : Action → String
  | .read => "Read"
  | .write => "Write"
  | .readWrite => "ReadWrite"

def Action.ofText? (word : String) : Option Action :=
  if word = "Read" then some .read
  else if word = "Write" then some .write
  else if word = "ReadWrite" then some .readWrite
  else none

/-- The concrete actions that an action grants or demands. -/
def Action.accesses : Action → List Access
  | .read => [.read]
  | .write => [.write]
  | .readWrite => [.read, .write]

def Access.action : Access → Action
  | .read => .read
  | .write => .write

/-- The resource name that stands for every resource of a scope. -/
def allResources : String := "All"

/-- The resource name of the capability that needs no resource. -/
def defaultResource : String := "__INTERNAL::[DEFAULT]__"

/-- A permission once read: an omitted resource is the default one. -/
structure Permission where
  scope : String
  action : Action
  resource : String
  deriving DecidableEq, Repr

namespace Permission

def separator : Char := '.'

def isDefault (p : Permission) : Bool := p.resource = defaultResource

def isAll (p : Permission) : Bool := p.resource = allResources

/-- The canonical spelling: the default resource is left out. -/
def text (p : Permission) : String :=
  let head := p.scope ++ String.singleton separator ++ p.action.text
  if p.isDefault then head else head ++ String.singleton separator ++ p.resource

end Permission

end AccessControl
