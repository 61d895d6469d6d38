import ComicScript.Yaml.Fault
import ComicScript.Yaml.Tag
import ComicScript.Yaml.Token.Basic

/-!
# Nodes of a YAML document

What tokens form: scalars, sequences and mappings, each with its type. The nodes stand in a table in the order in which
they end, so a collection comes after its parts and names them by their places. An alias is the place of its anchor's
node, so one node can be part of several. Each step passes on less fuel, which is four times the number of tokens at
first.
-/

namespace ComicScript.Yaml
set_option autoImplicit false

/-- A node of a document, with the places of its parts. -/
inductive Node
  | scalar (tag : Tag) (text : String)
  | sequence (tag : Tag) (items : List Nat)
  | mapping (tag : Tag) (entries : List (Nat × Nat))
  deriving DecidableEq, Repr

namespace Node

/-- The type of a node. -/
def tag : Node → Tag
  | scalar t _ => t
  | sequence t _ => t
  | mapping t _ => t

/-- A node with another type. -/
def retag (t : Tag) : Node → Node
  | scalar _ text => scalar t text
  | sequence _ items => sequence t items
  | mapping _ entries => mapping t entries

/-- What stands where nothing is written. -/
def absent : Node := .scalar .null ""

end Node

/-- The nodes of a document, each after its parts. -/
abbrev Table := Array Node

/-- The tokens that are left, what tag handles stand for, the places of the anchors' nodes and the nodes so far; an anchor
has no place while its own node is being read. -/
structure Building where
  tokens : List Token
  handles : List (String × String)
  anchors : List (String × Option Nat)
  table : Table

/-- A step of building nodes. -/
abbrev Build (α : Type) := StateT Building (Except Fault) α

namespace Build

/-- Adds a node and gives its place. -/
def add (node : Node) : Build Nat :=
  modifyGet fun b => (b.table.size, { b with table := b.table.push node })

/-- The next token. -/
def peek? : Build (Option Token) :=
  return (← get).tokens.head?

/-- Moves past a token. -/
def skip : Build Unit :=
  modify fun b => { b with tokens := b.tokens.tail }

/-- Moves past a token if it is the given one; says whether it was. -/
def accept (t : Token) : Build Bool := do
  if (← peek?) == some t then
    skip
    return true
  else return false

/-- Moves past a token that has to come here. -/
def expect (t : Token) : Build Unit := do
  if !(← accept t) then throw .badStructure

/-- Whether the next token is one of the given ones. -/
def atAny (ts : List Token) : Build Bool :=
  return (← peek?).any (· ∈ ts)

/-- The anchor that is written here, if any. -/
def anchor? : Build (Option String) := do
  match ← peek? with
  | some (.anchor name) =>
    skip
    return some name
  | _ => return none

/-- The tag that is written here, if any, with its handle replaced. -/
def tag? : Build (Option String) := do
  match ← peek? with
  | some (.tag (.complete uri)) =>
    skip
    return some uri
  | some (.tag (.short handle rest)) =>
    skip
    let some (_, lead) := (← get).handles.find? (·.1 == handle) | throw .badName
    return some (lead ++ rest)
  | _ => return none

/-- An anchor and a tag in either order. -/
def properties : Build (Option String × Option String) := do
  match ← anchor? with
  | some name => return (some name, ← tag?)
  | none =>
    let tag ← tag?
    return (← anchor?, tag)

/-- The type of a collection; an exclamation mark alone leaves the usual one. -/
def collectionTag (usual : Tag) (tag : Option String) : Tag :=
  match tag with
  | none => usual
  | some "!" => usual
  | some uri => Tag.ofUri uri

/-- The type of a scalar: by its form if it is plain or has an exclamation mark alone, text if it is quoted. -/
def scalarTag (text : String) (plain : Bool) (tag : Option String) : Tag :=
  match tag with
  | none => if plain then Tag.resolve text.toList else .str
  | some "!" => Tag.resolve text.toList
  | some uri => Tag.ofUri uri

/-- The place that an alias stands for. -/
def aliased (name : String) : Build Nat := do
  match (← get).anchors.find? (·.1 == name) with
  | some (_, some place) => return place
  | _ => throw .badAnchor

/-- Takes a new anchor. -/
def takeAnchor (anchor : Option String) : Build Unit := do
  let some name := anchor | return
  if (← get).anchors.any (·.1 == name) then throw .badAnchor
  modify fun b => { b with anchors := (name, none) :: b.anchors }

/-- Gives an anchor the place of its node. -/
def bindAnchor (anchor : Option String) (place : Nat) : Build Unit := do
  let some name := anchor | return
  modify fun b => { b with anchors := (name, some place) :: b.anchors }

/-- Where a node may stand: inside brackets or braces, in a block, or after a key, where the dashes of a sequence need not
be indented. -/
inductive Setting
  | flow
  | block
  | afterKey
  deriving DecidableEq

mutual

/-- The node that starts here. -/
def node : Nat → Setting → Build Nat
  | 0, _ => throw .badStructure
  | fuel + 1, setting => do
    if let some (.alias name) ← peek? then
      skip
      aliased name
    else
      let (anchor, tag) ← properties
      takeAnchor anchor
      let place ← content fuel setting anchor.isSome tag
      bindAnchor anchor place
      return place

/-- What follows the anchor and the tag of a node. -/
def content : Nat → Setting → Bool → Option String → Build Nat
  | 0, _, _, _ => throw .badStructure
  | fuel + 1, setting, hasAnchor, tag => do
    match ← peek? with
    | some (.scalar text plain) =>
      skip
      add (.scalar (scalarTag text plain tag) text)
    | some .openBracket =>
      skip
      add (.sequence (collectionTag .seq tag) (← flowItems fuel true))
    | some .openBrace =>
      skip
      add (.mapping (collectionTag .map tag) (← flowEntries fuel true))
    | some .blockSequence =>
      if setting = .flow then emptyContent hasAnchor tag
      else
        skip
        let items ← blockItems fuel
        expect .blockEnd
        add (.sequence (collectionTag .seq tag) items)
    | some .blockMapping =>
      if setting = .flow then emptyContent hasAnchor tag
      else
        skip
        let entries ← blockEntries fuel
        expect .blockEnd
        add (.mapping (collectionTag .map tag) entries)
    | some .dash =>
      if setting = .afterKey then add (.sequence (collectionTag .seq tag) (← looseItems fuel))
      else emptyContent hasAnchor tag
    | _ => emptyContent hasAnchor tag

/-- Nothing after an anchor or a tag stands for the empty scalar. -/
def emptyContent (hasAnchor : Bool) (tag : Option String) : Build Nat := do
  if !hasAnchor && tag.isNone then throw .badStructure
  add (.scalar (scalarTag "" true tag) "")

/-- A node, unless one of the given tokens follows at once. -/
def nodeUnless : Nat → Setting → List Token → Build Nat
  | 0, _, _ => throw .badStructure
  | fuel + 1, setting, ends => do
    if ← atAny ends then add .absent else node fuel setting

/-- The entries of a block sequence. -/
def blockItems : Nat → Build (List Nat)
  | 0 => throw .badStructure
  | fuel + 1 => do
    if ← accept .dash then
      let item ← nodeUnless fuel .block [.dash, .blockEnd]
      return item :: (← blockItems fuel)
    else return []

/-- The entries of a sequence whose dashes stand at the column of its key. -/
def looseItems : Nat → Build (List Nat)
  | 0 => throw .badStructure
  | fuel + 1 => do
    if ← accept .dash then
      let item ← nodeUnless fuel .block [.dash, .key, .value, .blockEnd]
      return item :: (← looseItems fuel)
    else return []

/-- The entries of a block mapping. -/
def blockEntries : Nat → Build (List (Nat × Nat))
  | 0 => throw .badStructure
  | fuel + 1 => do
    if ← accept .key then
      let key ← nodeUnless fuel .afterKey [.key, .value, .blockEnd]
      let value ← if ← accept .value then nodeUnless fuel .afterKey [.key, .value, .blockEnd] else add .absent
      return (key, value) :: (← blockEntries fuel)
    else return []

/-- The items up to the closing bracket; all but the first follow a comma. -/
def flowItems : Nat → Bool → Build (List Nat)
  | 0, _ => throw .badStructure
  | fuel + 1, first => do
    if ← accept .closeBracket then return []
    if !first then expect .comma
    if ← accept .closeBracket then return []
    let item ←
      if ← accept .key then do
        let key ← nodeUnless fuel .flow [.value, .comma, .closeBracket]
        let value ← if ← accept .value then nodeUnless fuel .flow [.comma, .closeBracket] else add .absent
        add (.mapping .map [(key, value)])
      else node fuel .flow
    return item :: (← flowItems fuel false)

/-- The entries up to the closing brace; all but the first follow a comma. -/
def flowEntries : Nat → Bool → Build (List (Nat × Nat))
  | 0, _ => throw .badStructure
  | fuel + 1, first => do
    if ← accept .closeBrace then return []
    if !first then expect .comma
    if ← accept .closeBrace then return []
    let entry ←
      if ← accept .key then do
        let key ← nodeUnless fuel .flow [.value, .comma, .closeBrace]
        let value ← if ← accept .value then nodeUnless fuel .flow [.comma, .closeBrace] else add .absent
        pure (key, value)
      else do
        let key ← node fuel .flow
        pure (key, ← add .absent)
    return entry :: (← flowEntries fuel false)

end

end Build

end ComicScript.Yaml
