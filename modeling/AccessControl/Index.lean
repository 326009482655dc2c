import AccessControl.Block

/-!
# Indexes of blocks

The blocks of a user, each key once, in the order in which the keys were first written.
-/
namespace AccessControl

/-- Blocks under distinct keys, in order. -/
structure Index where
  blocks : List (BlockKey × Block)
  nodup : (blocks.map Prod.fst).Nodup
  deriving DecidableEq

namespace Index

instance : Repr Index := ⟨fun i p => reprPrec i.blocks p⟩

/-- A block written under its key: a known key keeps its place. -/
def assign (key : BlockKey) (block : Block) : List (BlockKey × Block) → List (BlockKey × Block)
  | [] => [(key, block)]
  | (k, b) :: rest => if k = key then (key, block) :: rest else (k, b) :: assign key block rest

theorem keys_assign (key : BlockKey) (block : Block) (blocks : List (BlockKey × Block)) :
    (assign key block blocks).map Prod.fst =
      if key ∈ blocks.map Prod.fst then blocks.map Prod.fst
      else blocks.map Prod.fst ++ [key] := by
  induction blocks with
  | nil => simp [assign]
  | cons entry rest ih =>
    obtain ⟨k, b⟩ := entry
    by_cases h : k = key
    · simp [assign, h]
    · have h' : ¬ key = k := fun e => h e.symm
      simp only [assign, h, ↓reduceIte, List.map_cons, ih, List.mem_cons, h', false_or]
      split <;> simp

theorem nodup_assign (key : BlockKey) (block : Block) {blocks : List (BlockKey × Block)}
    (h : (blocks.map Prod.fst).Nodup) : ((assign key block blocks).map Prod.fst).Nodup := by
  rw [keys_assign]
  split
  · exact h
  · rename_i fresh
    rw [List.nodup_append]
    exact ⟨h, by simp, fun x hx y hy => by simp only [List.mem_singleton] at hy; grind⟩

def empty : Index := ⟨[], .nil⟩

def insert (key : BlockKey) (block : Block) (i : Index) : Index :=
  ⟨assign key block i.blocks, nodup_assign key block i.nodup⟩

def ofList (blocks : List (BlockKey × Block)) : Index :=
  blocks.foldl (fun i entry => i.insert entry.1 entry.2) empty

def find? (i : Index) (key : BlockKey) : Option Block :=
  i.blocks.lookup key

def keys (i : Index) : List BlockKey :=
  i.blocks.map Prod.fst

def size (i : Index) : Nat :=
  i.blocks.length

/-- The flattened entries of every block, in block order. -/
def flatten (i : Index) : List FlatPermission :=
  i.blocks.flatMap fun (key, block) => block.flatten key

def text (i : Index) : String :=
  "PermissionQueryEngine(blocks=" ++ (i.size).repr ++ ")"

end Index

end AccessControl
