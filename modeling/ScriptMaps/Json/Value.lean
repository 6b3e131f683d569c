import ScriptMaps.Decimal.Shortest

/-!
# JSON values

Numbers that are integers of 64 bits stay integers; all others are binary floating point numbers.
The members of an object are kept in the order of their keys, each key once.
-/

namespace ScriptMaps.Json

open ScriptMaps.Decimal

/-- A number of a JSON text. -/
inductive Number where
  | integer (n : Int)
  | double (x : Binary64)
  deriving Repr, DecidableEq, Inhabited

/-- A JSON value. -/
inductive Value where
  | null
  | bool (b : Bool)
  | number (n : Number)
  | string (s : String)
  | array (elems : List Value)
  | object (members : List (String × Value))
  deriving Repr, Inhabited

/-- The members of an object. -/
abbrev Members := List (String × Value)

namespace Members

/-- The value under a key. -/
def find? (ms : Members) (key : String) : Option Value :=
  (List.find? (fun m => m.1 == key) ms).map (·.2)

/-- Puts a value under a key, in the place of the value that was there. -/
def insert (key : String) (v : Value) : Members → Members
  | [] => [(key, v)]
  | m :: ms =>
    if key == m.1 then (key, v) :: ms
    else if key < m.1 then (key, v) :: m :: ms
    else m :: insert key v ms

/-- Puts a value under a key, if there is one. -/
def insertSome (key : String) (v : Option Value) (ms : Members) : Members :=
  match v with
  | some v => ms.insert key v
  | none => ms

/-- Puts a value under a key unless one is there. -/
def insertNew (key : String) (v : Value) (ms : Members) : Members :=
  if (ms.find? key).isSome then ms else ms.insert key v

/-- The members with the given keys and values, of which the last of equal keys counts. -/
def ofEntries (entries : List (String × Value)) : Members :=
  entries.foldl (fun ms e => ms.insert e.1 e.2) []

end Members

end ScriptMaps.Json
