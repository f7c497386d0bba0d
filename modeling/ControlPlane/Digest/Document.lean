import ControlPlane.Digest.Sha256
import ControlPlane.Text.Unicode
import ControlPlane.Wire.OfJson

/-!
# Content digests

A document is identified by the SHA-256 of its bytes exactly as read. The digest has one textual
form, `sha256:` followed by sixty-four hexadecimal digits in lower case. It may also stand in a
document as an object that names the hash and lists the octets.

## Main definitions

* `ContentDigest` : thirty-two octets.
* `ContentDigest.ofBytes` : the digest of a document.
* `ContentDigest.reference` : the textual form.
* `ContentDigest.ofReference` : the digest of a textual form, or the text that is none.
* `ContentDigest.ofJson`, `ContentDigest.toJson` : the form as an object.
-/

namespace ControlPlane

/-- The SHA-256 digest of a document. -/
structure ContentDigest where
  octets : Vector UInt8 32
deriving DecidableEq

/-- A text that is no reference to a digest. -/
structure InvalidReference where
  text : String
deriving DecidableEq, Repr

/-- The wording of the refusal. -/
def InvalidReference.message (e : InvalidReference) : String :=
  "invalid content digest ref " ++ Text.quoted e.text

namespace ContentDigest

/-- The digest of a document taken verbatim. -/
def ofBytes (document : Bytes) : ContentDigest := ⟨Sha256.octets document⟩

/-- The name of the hash as it stands in front of the digits. -/
def algorithm : String := "sha256"

/-- The two digits of an octet. -/
def octetDigits (b : UInt8) : List Char :=
  [Nat.digitChar (b.toNat / 16), Nat.digitChar (b.toNat % 16)]

/-- The sixty-four digits. -/
def digits (d : ContentDigest) : List Char := d.octets.toList.flatMap octetDigits

/-- The digits as a text. -/
def hex (d : ContentDigest) : String := String.ofList d.digits

/-- What stands in front of the digits. -/
def leadChars : List Char := ['s', 'h', 'a', '2', '5', '6', ':']

/-- The textual form. -/
def reference (d : ContentDigest) : String := String.ofList (leadChars ++ d.digits)

/-- The value of a hexadecimal digit in lower case. -/
def digitValue? (c : Char) : Option Nat :=
  if '0' ≤ c ∧ c ≤ '9' then some (c.toNat - '0'.toNat)
  else if 'a' ≤ c ∧ c ≤ 'f' then some (c.toNat - 'a'.toNat + 10)
  else none

/-- The octets of pairs of digits. -/
def octets? : List Char → Option (List UInt8)
  | [] => some []
  | high :: low :: rest => do
    let h ← digitValue? high
    let l ← digitValue? low
    let tail ← octets? rest
    return UInt8.ofNat (16 * h + l) :: tail
  | [_] => none

/-- The characters behind the lead, if the text starts with it. -/
def afterLead? (text : List Char) : Option (List Char) :=
  if leadChars.isPrefixOf text then some (text.drop leadChars.length) else none

/-- The digest that a text refers to. Digits in upper case are refused, so that each digest has one
reference. -/
def ofReference (text : String) : Except InvalidReference ContentDigest :=
  match (afterLead? text.toList).bind octets? with
  | some found =>
    if h : found.toArray.size = 32 then .ok ⟨⟨found.toArray, h⟩⟩ else .error ⟨text⟩
  | none => .error ⟨text⟩

/-! ### Digests in documents -/

section Document

open Wire (OfJson Record)

/-- The name of the hash in documents. -/
def variant : String := "Sha256"

/-- The digest of all zeros. -/
def zero : ContentDigest := ⟨Vector.replicate 32 0⟩

/-- How a digest is read. Other fields are passed over. -/
def record : Record OfJson ContentDigest where
  name := "ContentDigest"
  blank := zero
  closed := false
  fields := [
    ⟨"algorithm", true, fun d v => (OfJson.constant variant v).map fun _ => d⟩,
    ⟨"bytes", true, fun _ v => (OfJson.exactly 32 OfJson.uint8 v).map fun octets => ⟨octets⟩⟩]

/-- Reads a digest. -/
def ofJson : OfJson ContentDigest := OfJson.record record

/-- The document form. -/
def toJson (d : ContentDigest) : Json :=
  .ofMembers [
    ("algorithm", .string variant),
    ("bytes", .array (d.octets.toList.map fun b => .integer b.toNat))]

end Document

end ContentDigest

end ControlPlane
