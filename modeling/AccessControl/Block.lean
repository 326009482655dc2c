import AccessControl.Grant.Basic

/-!
# Blocks

A block holds what was granted in one context on one scope: the grants of reading and of writing.
Its flattened form lists the grants with the actions that they serve: one entry when both actions
reach the same resources, else one entry for each action that reaches any.
-/
namespace AccessControl

structure BlockKey where
  context : Context
  scope : String
  deriving DecidableEq, Repr

structure Block where
  read : Grant
  write : Grant
  deriving DecidableEq, Repr

/-- The action `ReadWrite` was asked for the grant of one concrete action. -/
structure CompositeAction where
  action : Action
  deriving DecidableEq, Repr

def CompositeAction.message (e : CompositeAction) : String :=
  e.action.text ++ " is not a concrete action"

structure FlatPermission where
  context : Context
  scope : String
  read : Bool
  write : Bool
  resources : Grant
  deriving DecidableEq, Repr

/-- The entry as the introspection answer shows it. -/
def FlatPermission.toJson (p : FlatPermission) : Json :=
  .obj [("context", .str p.context.text), ("scope", .str p.scope),
    ("action", .obj [("read", .bool p.read), ("write", .bool p.write)]),
    ("resources", p.resources.toJson)]

namespace Block

def empty : Block := ⟨.empty, .empty⟩

def grant (b : Block) : Access → Grant
  | .read => b.read
  | .write => b.write

/-- The grant of an action, which has to be concrete. -/
def grantFor (b : Block) : Action → Except CompositeAction Grant
  | .read => .ok b.read
  | .write => .ok b.write
  | .readWrite => .error ⟨.readWrite⟩

def add (b : Block) (g : Grant) : Access → Block
  | .read => { b with read := b.read.merge g }
  | .write => { b with write := b.write.merge g }

/-- The block with one more grant for every concrete action of an action. -/
def withGrant (b : Block) (action : Action) (g : Grant) : Block :=
  action.accesses.foldl (fun b access => b.add g access) b

/-- The flattened entries of a block. An entry made for one action serves the other too when the
other's grant covers it. -/
def flatten (key : BlockKey) (b : Block) : List FlatPermission :=
  if b.read = b.write then
    if b.read.isEmpty then [] else [⟨key.context, key.scope, true, true, b.read⟩]
  else
    (if b.read.isEmpty then []
      else [⟨key.context, key.scope, true, b.write.includes b.read, b.read⟩]) ++
    (if b.write.isEmpty then []
      else [⟨key.context, key.scope, b.read.includes b.write, true, b.write⟩])

end Block

end AccessControl
