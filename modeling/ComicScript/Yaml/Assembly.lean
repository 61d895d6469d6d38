import ComicScript.Yaml.Document
import ComicScript.Yaml.Merge
import ComicScript.Yaml.Scalar
import ComicScript.Value.Key

/-!
# Values of a document

Each node is read once, level by level from the root: a scalar when it is met, a collection when its level comes. A
mapping's merge keys are resolved when it is read, so what was read before keeps its meaning. As each node comes after
its parts, the values are then put together in the order of the table.
-/

namespace ComicScript.Yaml
set_option autoImplicit false

/-- What a node has been read as: a value, or a collection of the nodes at some places. A collection that has been met
waits for its turn. The word for not-a-number is kept apart, because it is the same key wherever it stands. -/
inductive Draft
  | waiting
  | scalar (v : Value)
  | notANumber
  | list (items : List Nat)
  | pairs (entries : List (Nat × Nat))
  | map (entries : List (Nat × Nat))
  | set (entries : List (Nat × Nat))

namespace Draft

/-- Whether a node can be a key. -/
def isKey : Draft → Bool
  | scalar _ => true
  | notANumber => true
  | _ => false

end Draft

/-- Whether nodes of a type are collections. -/
def Tag.isCollection : Tag → Bool
  | .seq => true
  | .map => true
  | .omap => true
  | .pairs => true
  | .set => true
  | _ => false

namespace Table

/-- The text of a node of a scalar type. A mapping stands for the text of its special key; `depth` bounds how many
mappings stand for each other. -/
def textOf? (table : Table) : Nat → Node → Option String
  | _, .scalar _ text => some text
  | _, .sequence _ _ => none
  | 0, .mapping _ _ => none
  | depth + 1, .mapping _ entries =>
    (entries.find? fun (key, _) => table.tagAt key == some .value).bind fun (_, value) =>
      (table[value]?).bind (textOf? table depth)

/-- What a node of a scalar type is read as. -/
def scalarDraft (table : Table) (node : Node) : Except Fault Draft :=
  match node, table.textOf? table.size node with
  | .mapping .timestamp _, _ => .error .badTag
  | _, none => .error .badTag
  | _, some text =>
    if node.tag = .float ∧ Scalar.isNotANumber text.toList then .ok .notANumber
    else (Scalar.value node.tag text).map .scalar

/-- The entry of a mapping that has no other. -/
def onlyEntry (table : Table) (place : Nat) : Except Fault (Nat × Nat) :=
  match table.entriesAt? place with
  | some [entry] => .ok entry
  | _ => .error .badTag

end Table

/-- The nodes, what has been read of them, and the collections that wait for the next level, the last one first. -/
structure Assembly where
  table : Table
  drafts : Array (Option Draft)
  next : List Nat

/-- A step of reading nodes. -/
abbrev Assemble (α : Type) := StateT Assembly (Except Fault) α

namespace Assemble

/-- What the node at a place has been read as. -/
def draftAt (place : Nat) : Assemble (Option Draft) :=
  return (← get).drafts[place]?.join

/-- Keeps what a node is read as. -/
def keep (place : Nat) (draft : Draft) : Assemble Unit :=
  modify fun a => { a with drafts := a.drafts.setIfInBounds place (some draft) }

/-- Meets the node at a place: a scalar is read, a collection waits. A node that was met before stays as it is. -/
def meet (place : Nat) : Assemble Unit := do
  if (← draftAt place).isSome then return
  let table := (← get).table
  let some node := table[place]? | throw .badStructure
  if node.tag.isCollection then
    keep place .waiting
    modify fun a => { a with next := place :: a.next }
  else keep place (← table.scalarDraft node)

/-- Meets the key and the value of an entry; a key is no collection. -/
def meetEntry (entry : Nat × Nat) : Assemble Unit := do
  meet entry.1
  if !(← draftAt entry.1).any Draft.isKey then throw .badKey
  meet entry.2

/-- Meets the entries of the mapping at a place, with its merge keys resolved. -/
def readEntries (place : Nat) : Assemble (List (Nat × Nat)) := do
  let table := (← get).table
  let (entries, table) ← (Table.merge (table.size + 1) place).run table
  modify fun a => { a with table }
  entries.forM meetEntry
  return entries

/-- Meets the pairs that mappings of a single entry stand for. -/
def readPairs (places : List Nat) : Assemble (List (Nat × Nat)) :=
  places.mapM fun place => do
    let (key, value) ← (← get).table.onlyEntry place
    meet key
    meet value
    return (key, value)

/-- Reads the collection at a place. -/
def read (place : Nat) : Assemble Unit := do
  match (← get).table[place]? with
  | some (.sequence .seq items) =>
    items.forM meet
    keep place (.list items)
  | some (.sequence .omap items) => keep place (.pairs (← readPairs items))
  | some (.sequence .pairs items) => keep place (.pairs (← readPairs items))
  | some (.mapping .map _) => keep place (.map (← readEntries place))
  | some (.mapping .set _) => keep place (.set (← readEntries place))
  | _ => throw .badTag

/-- Reads the collections that wait, level by level. -/
def readLevels : Nat → Assemble Unit
  | 0 => throw .badStructure
  | depth + 1 => do
    let level := (← get).next.reverse
    if level.isEmpty then return
    modify fun a => { a with next := [] }
    level.forM read
    readLevels depth

end Assemble

namespace Draft

/-- A key beside the place of its node; the word for not-a-number has none of its own. -/
abbrev Key := Option Nat × Value

/-- Two keys are the same if they are one node, or equal. -/
def Key.same (a b : Key) : Bool :=
  a.1 == b.1 || Value.sameKey a.2 b.2

/-- The value of a node from the values before it. -/
def value (drafts : Array (Option Draft)) (values : Array Value) (draft : Draft) : Value :=
  let valueAt (place : Nat) : Value := values[place]?.getD .null
  let key (place : Nat) : Key :=
    match drafts[place]?.join with
    | some notANumber => (none, valueAt place)
    | _ => (some place, valueAt place)
  let distinct (entries : List (Nat × Nat)) : List (Value × Value) :=
    let found := entries.foldl (fun found (k, v) => Value.insertBy Key.same (key k) (valueAt v) found) []
    found.map fun (k, v) => (k.2, v)
  match draft with
  | waiting => .null
  | scalar v => v
  | notANumber => .float (0.0 / 0.0)
  | list items => .list (items.map valueAt)
  | pairs entries => .list (entries.map fun (k, v) => .tuple [valueAt k, valueAt v])
  | map entries => .map (distinct entries)
  | set entries => .set ((distinct entries).map (·.1))

/-- The values of all nodes that have been read, each from those before it. -/
def values (drafts : Array (Option Draft)) : Array Value :=
  drafts.foldl (fun values draft => values.push (draft.elim .null (value drafts values))) #[]

end Draft

/-- The value of a document. -/
def Document.value (d : Document) : Except Fault Value := do
  let readAll : Assemble Unit := do
    Assemble.meet d.root
    Assemble.readLevels (d.table.size + 1)
  let ((), a) ← readAll.run ⟨d.table, Array.replicate d.table.size none, []⟩
  return (Draft.values a.drafts)[d.root]?.getD .null

end ComicScript.Yaml
