import ControlPlane.Admission
import ControlPlane.ControlVerdict.Basic
import ControlPlane.Digest.Document
import ControlPlane.FileEntry

/-!
# Rulesets from files

A ruleset is taken from one file; a file that is missing or not admitted is an outcome and not an
error. A file is referred to by the digest of its bytes as they were read, so that the reference can
be recomputed without this library.

## Main definitions

* `LoadedRuleset` : the three outcomes, with their status, reference and summary.
* `LoadedRuleset.ofBytes`, `LoadedRuleset.ofEntry` : the outcome for bytes and for a file.
-/

namespace ControlPlane

/-- What became of a ruleset file. -/
inductive LoadedRuleset where
  | applied (digest : ContentDigest) (ruleset : Ruleset)
  | missing
  | invalid (digest : ContentDigest) (refusal : Admission.Refusal)

namespace LoadedRuleset

/-- The outcome for bytes. -/
def ofBytes (c : Constitution) (document : Bytes) : LoadedRuleset :=
  match Admission.ofBytes c document with
  | .ok r => .applied (.ofBytes document) r
  | .error e => .invalid (.ofBytes document) e

/-- The outcome for a file. -/
def ofEntry (c : Constitution) : FileEntry → Except FileEntry.ReadFault LoadedRuleset
  | .absent => .ok .missing
  | entry => do return .ofBytes c (← entry.read)

/-- The status of an outcome. -/
def status : LoadedRuleset → RulesetStatus
  | .applied .. => .applied
  | .missing => .missing
  | .invalid .. => .invalid

/-- The reference to the file. -/
def reference : LoadedRuleset → String
  | .applied digest _ | .invalid digest _ => digest.reference
  | .missing => ControlVerdict.missingReference

/-- The code under which a refusal is recorded. -/
def errorCode? : LoadedRuleset → Option String
  | .invalid _ refusal => some refusal.code
  | _ => none

/-- Whether the ruleset is in force. -/
def isApplied : LoadedRuleset → Bool
  | .applied .. => true
  | _ => false

/-- The summary of an outcome, in the order of declaration. -/
def summary (loaded : LoadedRuleset) : List (String × Json) :=
  [("status", .string loaded.status.text), ("ruleset_ref", .string loaded.reference)] ++
    loaded.errorCode?.toList.map fun code => ("error_code", .string code)

end LoadedRuleset

end ControlPlane
