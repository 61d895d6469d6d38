import ComicScript.Value.Basic

/-!
# Keys of maps

Scalars and tuples can be keys. Numbers are the same key if they are equal, whatever their type; a repeated key keeps its
first place and its last value.
-/

namespace ComicScript
set_option autoImplicit false

namespace Value

/-- Whether a double equals an integer exactly. -/
def floatEqInt (x : Float) (n : Int) : Bool :=
  match Decimal.exact x with
  | .finite d => d.num == n.natAbs * d.den && (d.mantissa == 0 || d.negative == decide (n < 0))
  | _ => false

/-- A number; a boolean counts as zero or one. -/
def integer? : Value → Option Int
  | bool b => some (if b then 1 else 0)
  | int n => some n
  | _ => none

mutual

/-- Whether two values are the same key. -/
def sameKey : Value → Value → Bool
  | null, null => true
  | str a, str b => a == b
  | bytes a, bytes b => a == b
  | date a, date b => a == b
  | moment a, moment b => a.same b
  | float a, float b => a == b
  | float a, v => (integer? v).any (floatEqInt a)
  | tuple a, v =>
    match v with
    | tuple b => sameKeys a b
    | _ => false
  | v, float b => (integer? v).any (floatEqInt b)
  | v, w =>
    match integer? v, integer? w with
    | some a, some b => a == b
    | _, _ => false

/-- Whether two rows of values are the same keys. -/
def sameKeys : List Value → List Value → Bool
  | [], [] => true
  | a :: as, b :: bs => sameKey a b && sameKeys as bs
  | _, _ => false

end

/-- Sets the value of a key, given which keys are the same: in its place if the key is there, else at the end. -/
def insertBy {κ : Type} (same : κ → κ → Bool) (key : κ) (value : Value) : List (κ × Value) → List (κ × Value)
  | [] => [(key, value)]
  | (k, v) :: entries =>
    if same k key then (k, value) :: entries else (k, v) :: insertBy same key value entries

/-- Sets the value of a key that is a value. -/
def insert (key value : Value) (entries : List (Value × Value)) : List (Value × Value) :=
  insertBy sameKey key value entries

/-- The entries of a map that are written one after another. -/
def mapOf (entries : List (Value × Value)) : Value :=
  .map (entries.foldl (fun found entry => insert entry.1 entry.2 found) [])

/-- The value of a text key. -/
def find? (name : String) (entries : List (Value × Value)) : Option Value :=
  (entries.find? fun entry =>
    match entry.1 with
    | str s => s == name
    | _ => false).map (·.2)

/-- The value of a text key, null if the key is absent. -/
def field (name : String) (entries : List (Value × Value)) : Value :=
  (find? name entries).getD .null

end Value

end ComicScript
