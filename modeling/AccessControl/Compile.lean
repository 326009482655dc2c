import AccessControl.Index
import AccessControl.Logging.Level
import AccessControl.Permission.Reader
import AccessControl.Role.Basic

/-!
# Compiling roles

The usable entries of a user's roles, in reading order, are granted one after the other into an
index. Unusable entries and roles that cannot be loaded are passed over and logged.
-/
namespace AccessControl

structure Entry where
  context : Context
  permission : Permission
  deriving DecidableEq, Repr

def Entry.key (e : Entry) : BlockKey := ⟨e.context, e.permission.scope⟩

def Role.entries (r : Role) : List Entry :=
  r.permissions.filterMap fun value => (Permission.read? value).map (Entry.mk r.context)

/-- The usable entries of roles, in reading order. -/
def Role.allEntries (roles : List Role) : List Entry :=
  roles.flatMap Role.entries

def Index.grant (i : Index) (e : Entry) : Index :=
  i.insert e.key (((i.find? e.key).getD .empty).withGrant e.permission.action
    (.ofResource e.permission.resource))

def Index.ofEntries (entries : List Entry) : Index :=
  entries.foldl Index.grant .empty

def Index.ofRoles (roles : List Role) : Index :=
  .ofEntries (Role.allEntries roles)

def Index.compile (sources : List RoleSource) : Index :=
  .ofRoles (Role.load sources)

/-- What is worth a log record while roles are loaded and compiled. -/
inductive CompileEvent
  | roleSkipped (value : Json) (e : RoleError)
  | entrySkipped (entry roleId : Json)
  | finished (total blocks skipped : Nat)
  deriving DecidableEq, Repr

def CompileEvent.record : CompileEvent → LogRecord
  | .roleSkipped value e =>
    ⟨.warning, "Skipping invalid role " ++ value.display ++ ": " ++ e.display⟩
  | .entrySkipped entry roleId =>
    ⟨.debug, "Skipping invalid permission " ++ entry.display ++ " in role " ++ roleId.plain⟩
  | .finished total blocks skipped =>
    ⟨.debug, "Compiled " ++ total.repr ++ " permission strings into " ++ blocks.repr ++
      " blocks (" ++ skipped.repr ++ " skipped)"⟩

/-- The events of loading: one for each source that cannot be loaded. -/
def loadEvents (sources : List RoleSource) : List CompileEvent :=
  sources.filterMap fun
    | .loaded _ => none
    | .data value =>
      match Role.ofJson value with
      | .ok _ => none
      | .error e => some (.roleSkipped value e)

def Role.skippedEntries (r : Role) : List Json :=
  r.permissions.filter fun value => (Permission.read? value).isNone

/-- The events of compiling loaded roles: one for each unusable entry, then the totals. -/
def compileEvents (roles : List Role) : List CompileEvent :=
  (roles.flatMap fun r => r.skippedEntries.map (.entrySkipped · r.id)) ++
    [.finished (roles.flatMap (·.permissions)).length (Index.ofRoles roles).size
      (roles.flatMap Role.skippedEntries).length]

end AccessControl
