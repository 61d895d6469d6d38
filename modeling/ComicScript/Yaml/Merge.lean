import ComicScript.Yaml.Node

/-!
# Merge keys

A merge key puts the entries of other mappings before those of its own mapping. `Table.merge` resolves the merge keys of
one mapping, and with them those of the mappings that it merges. The same step makes the special key of a single equals
sign a text. Both change the table, so a node that is part of several is changed for all of them.
-/

namespace ComicScript.Yaml
set_option autoImplicit false

/-- A step that may change the nodes. -/
abbrev Merging (α : Type) := StateT Table (Except Fault) α

namespace Table

/-- The type of the node at a place. -/
def tagAt (table : Table) (place : Nat) : Option Tag :=
  (table[place]?).map Node.tag

/-- The entries of the mapping at a place. -/
def entriesAt? (table : Table) (place : Nat) : Option (List (Nat × Nat)) :=
  match table[place]? with
  | some (.mapping _ entries) => some entries
  | _ => none

/-- Gives the mapping at a place other entries. -/
def withEntries (entries : List (Nat × Nat)) : Node → Node
  | .mapping tag _ => .mapping tag entries
  | node => node

/-- The entries that the value of a merge key stands for, given how a mapping is merged; of several mappings an earlier
one comes later. -/
def mergedBy (merge : Nat → Merging (List (Nat × Nat))) (place : Nat) : Merging (List (Nat × Nat)) := do
  match (← get)[place]? with
  | some (.mapping _ _) => merge place
  | some (.sequence _ items) => return (← items.mapM merge).reverse.flatten
  | _ => throw .badMerge

/-- The entries of a mapping as those that its merge keys bring and its own. -/
def splitBy (merge : Nat → Merging (List (Nat × Nat))) :
    List (Nat × Nat) → Merging (List (Nat × Nat) × List (Nat × Nat))
  | [] => return ([], [])
  | (key, value) :: rest => do
    match (← get).tagAt key with
    | some .merge =>
      let brought ← mergedBy merge value
      let (merged, own) ← splitBy merge rest
      return (brought ++ merged, own)
    | some .value =>
      modify fun table => table.modify key (Node.retag .str)
      let (merged, own) ← splitBy merge rest
      return (merged, (key, value) :: own)
    | _ =>
      let (merged, own) ← splitBy merge rest
      return (merged, (key, value) :: own)

/-- Resolves the merge keys of the mapping at a place and gives its entries; `depth` bounds how many mappings are merged
into each other. -/
def merge : Nat → Nat → Merging (List (Nat × Nat))
  | 0, _ => throw .badMerge
  | depth + 1, place => do
    let some entries := (← get).entriesAt? place | throw .badMerge
    let (merged, own) ← splitBy (merge depth) entries
    let entries := merged ++ own
    modify fun table => table.modify place (withEntries entries)
    return entries

end Table

end ComicScript.Yaml
