import ControlPlane.Binary64.Rounding

/-!
# JSON values

A value keeps integers and doubles apart, and the members of an object in increasing order of their
keys without a repetition. The order is by code points, which is also the order of the UTF-8 bytes.

## Main definitions

* `Json` : the values.
* `Members.insert`, `Members.ofList` : members in key order, a later one replacing an earlier one.
* `Json.WellFormed` : integers fit 64 bits, doubles are finite, keys strictly increase.
* `Json.depth` : how deep arrays and objects nest.
-/

namespace ControlPlane

/-- A JSON value. -/
inductive Json where
  | null
  | bool (value : Bool)
  | integer (value : Int)
  | float (value : Binary64)
  | string (value : String)
  | array (items : List Json)
  | object (members : List (String × Json))
deriving Inhabited

/-- Keys with their values. -/
abbrev Members := List (String × Json)

namespace Members

/-- The value of a key. -/
def get? (members : Members) (key : String) : Option Json :=
  (members.find? fun m => m.1 == key).map Prod.snd

/-- The keys in order. -/
def keys (members : Members) : List String := members.map Prod.fst

/-- Puts a member into its place, in exchange for one of the same key. -/
def insert (key : String) (value : Json) : Members → Members
  | [] => [(key, value)]
  | (k, v) :: rest =>
    if key < k then (key, value) :: (k, v) :: rest
    else if key = k then (key, value) :: rest
    else (k, v) :: insert key value rest

/-- Members in key order from members in any order; of equal keys the last one counts. -/
def ofList (members : List (String × Json)) : Members :=
  members.foldl (fun sorted m => insert m.1 m.2 sorted) []

/-- Keys strictly increase. -/
def Sorted (members : Members) : Prop := members.Pairwise fun a b => a.1 < b.1

end Members

namespace Json

/-- The object with the given members, whatever order they come in. -/
def ofMembers (members : List (String × Json)) : Json := .object (Members.ofList members)

/-- The least integer that a value holds as an integer. -/
def leastInteger : Int := -9223372036854775808

/-- The first positive integer that a value cannot hold as an integer. -/
def integerBound : Int := 18446744073709551616

mutual

/-- What every value read from a document satisfies: integers fit into 64 bits, signed or unsigned,
doubles are finite, and the keys of each object strictly increase. -/
def WellFormed : Json → Prop
  | .integer n => leastInteger ≤ n ∧ n < integerBound
  | .float x => x.isFinite = true
  | .array items => WellFormedItems items
  | .object members => Members.Sorted members ∧ WellFormedMembers members
  | _ => True

/-- Every item is well formed. -/
def WellFormedItems : List Json → Prop
  | [] => True
  | v :: rest => v.WellFormed ∧ WellFormedItems rest

/-- Every member's value is well formed. -/
def WellFormedMembers : List (String × Json) → Prop
  | [] => True
  | (_, v) :: rest => v.WellFormed ∧ WellFormedMembers rest

end

mutual

/-- The number of arrays and objects around the innermost value. -/
def depth : Json → Nat
  | .array items => depthItems items + 1
  | .object members => depthMembers members + 1
  | _ => 0

/-- The greatest depth of an item. -/
def depthItems : List Json → Nat
  | [] => 0
  | v :: rest => max v.depth (depthItems rest)

/-- The greatest depth of a member's value. -/
def depthMembers : List (String × Json) → Nat
  | [] => 0
  | (_, v) :: rest => max v.depth (depthMembers rest)

end

/-- The value of a key; only objects have keys. -/
def get? : Json → String → Option Json
  | .object members, key => Members.get? members key
  | _, _ => none

/-- The text of a string value. -/
def text? : Json → Option String
  | .string s => some s
  | _ => none

/-- The items of an array. -/
def items? : Json → Option (List Json)
  | .array items => some items
  | _ => none

/-- A number as a double; an integer is rounded to the nearest one. -/
def number? : Json → Option Binary64
  | .integer n => some (.ofInt n)
  | .float x => some x
  | _ => none

/-- Whether a value is `null`. -/
def isNull : Json → Bool
  | .null => true
  | _ => false

end Json

end ControlPlane
