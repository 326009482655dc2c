import AccessControl.Index
import AccessControl.Permission.Reader

/-!
# Questions to an index

A question demands a permission with its resource, or only that its action was granted at all, and
asks in one context or in either. A permission with both actions is held when each of the two is
held in one and the same context. A value that is no permission is an error, never a refusal.
-/
namespace AccessControl

/-- What a question demands of the grants. -/
inductive Demand
  | resource
  | action
  deriving DecidableEq, Repr

/-- Where a question looks. -/
inductive Reach
  | anywhere
  | within (context : Context)
  deriving DecidableEq, Repr

structure Check where
  demand : Demand
  reach : Reach
  deriving DecidableEq, Repr

def Reach.contexts : Reach → List Context
  | .anywhere => [.local, .global]
  | .within context => [context]

def Demand.met : Demand → Grant → String → Bool
  | .resource, grant, name => grant.allows name
  | .action, grant, _ => !grant.isEmpty

/-- The contexts in which a scope has a block. -/
inductive ContextMatch
  | «local»
  | global
  | both
  | none
  deriving DecidableEq, Repr

def ContextMatch.text : ContextMatch → String
  | .local => "local"
  | .global => "global"
  | .both => "both"
  | .none => "none"

namespace Index

/-- Every concrete action of a permission meets the demand in a context. -/
def meets (i : Index) (demand : Demand) (context : Context) (p : Permission) : Bool :=
  match i.find? ⟨context, p.scope⟩ with
  | none => false
  | some block => p.action.accesses.all fun access => demand.met (block.grant access) p.resource

def ask (i : Index) (check : Check) (p : Permission) : Bool :=
  check.reach.contexts.any fun context => i.meets check.demand context p

/-- The answer to a question about a value, which has to be a permission. -/
def query (i : Index) (check : Check) (value : Json) : Except MalformedPermission Bool :=
  (Permission.read value).map (i.ask check)

/-- The contexts in which a scope has a block. -/
def contextsOf (i : Index) (scope : String) : ContextMatch :=
  match (i.find? ⟨.local, scope⟩).isSome, (i.find? ⟨.global, scope⟩).isSome with
  | true, true => .both
  | true, false => .local
  | false, true => .global
  | false, false => .none

def queryContext (i : Index) (value : Json) : Except MalformedPermission ContextMatch :=
  (Permission.readScope value).map i.contextsOf

end Index

end AccessControl
