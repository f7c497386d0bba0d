import ControlPlane.Json.Printer

/-!
# Canonical text

Two values that differ in the order of their members only have one canonical text, which makes the
text fit for comparing subjects. Members stand in the order of their keys' texts, quotes and escapes
included, so that a key comes behind a longer one that continues it with a blank or an exclamation
mark. Doubles are written without a needless fraction, integers in full.

In both the serialiser `serde_jcs` is followed where it departs from RFC 8785. The RFC orders
members by the UTF-16 code units of the keys themselves, which puts `plot` in front of `plot!` where
the order by quoted text puts it behind, and it writes every number as a double.

## Main definitions

* `Json.canonicalStyle`, `Json.canonical` : the canonical text of a value.
* `Canonical.Key` : what may stand as a key when a map is written.
* `Canonical.ofEntries` : the canonical text of a map given by its entries.
-/

namespace ControlPlane

namespace Json

/-- Puts a member into its place by the text of its key, in exchange for one of the same key. -/
def placeByText (key value : List Char) :
    List (List Char × List Char) → List (List Char × List Char)
  | [] => [(key, value)]
  | (k, v) :: rest =>
    if key < k then (key, value) :: (k, v) :: rest
    else if key = k then (key, value) :: rest
    else (k, v) :: placeByText key value rest

/-- Members in the order of their keys' texts; of equal keys the last one counts. -/
def sortByText (members : List (List Char × List Char)) : List (List Char × List Char) :=
  members.foldl (fun sorted m => placeByText m.1 m.2 sorted) []

/-- Doubles are written as the shortest numeral without a needless fraction or sign, positionally
from `1e-6` up to `1e21`; members stand in the order of their keys' texts. -/
def canonicalStyle : Style where
  numeral :=
    { leastPositional := -6, firstScientific := 21, wholeFraction := false, signedZero := false }
  arrange := sortByText

/-- The canonical text of a value. -/
def canonical (v : Json) : String := String.ofList (chars canonicalStyle v)

end Json

namespace Canonical

/-- A key of a map that is to be written. -/
inductive Key where
  | text (s : String)
  | integer (n : Int)
  | bool (b : Bool)
  | float (x : Binary64)
  | other

/-- Why a map has no canonical text. -/
inductive Failure where
  | keyNotText
  | floatKeyNotFinite
deriving DecidableEq, Repr

/-- The wording of the refusal. -/
def Failure.message (e : Failure) : String :=
  "value has no canonical JSON form: " ++
    match e with
    | .keyNotText => "key must be a string"
    | .floatKeyNotFinite => "float key must be finite (got NaN or +/-inf)"

/-- The text of a key with its quotes: numbers and truth values stand for their own texts. -/
def Key.chars : Key → Except Failure (List Char)
  | .text s => .ok (Json.quoted s)
  | .integer n => .ok ('"' :: (Json.integerChars n ++ ['"']))
  | .bool b => .ok ('"' :: (Json.chars Json.canonicalStyle (.bool b) ++ ['"']))
  | .float x =>
    if x.isFinite then .ok ('"' :: (Json.canonicalStyle.floatChars x ++ ['"']))
    else .error .floatKeyNotFinite
  | .other => .error .keyNotText

/-- The canonical text of a map; of entries with one key text the last one counts. -/
def ofEntries (entries : List (Key × Json)) : Except Failure String := do
  let members ← entries.mapM fun e => do
    return (← e.1.chars, Json.chars Json.canonicalStyle e.2)
  return String.ofList (Json.canonicalStyle.objectChars members)

end Canonical

end ControlPlane
