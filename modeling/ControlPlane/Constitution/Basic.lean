import ControlPlane.Constitution.TableFile
import ControlPlane.KeySet
import ControlPlane.Text.Unicode

/-!
# Constitutions

A constitution is the frozen taxonomy of actions and the list of the input paths that rules may
read. It is passed along as a value, so that an operator may put another in its place. Paths match
exactly: permission to read a path says nothing about the paths below it.

## Main definitions

* `Constitution` : the two tables.
* `Constitution.standard` : the tables that are in force unless others are given.
* `Constitution.ofTables` : tables from lists, unless one is empty or has a blank entry.
* `Constitution.ofText` : tables from the text of a file.
* `Constitution.checkActionCode`, `Constitution.checkInputPath` : look-ups that refuse.
* `Constitution.Refusal` : the refusals, with their wording.
-/

namespace ControlPlane

/-- The actions that exist and the paths that rules may read. Neither table is empty, and no entry
of either is blank. -/
structure Constitution where
  actionCodes : KeySet
  inputPaths : KeySet
  actionCodes_ne_nil : actionCodes.names ≠ []
  inputPaths_ne_nil : inputPaths.names ≠ []
  not_blank : ∀ name ∈ actionCodes.names ++ inputPaths.names, Text.isBlank name = false
deriving DecidableEq

namespace Constitution

/-- The standard taxonomy of actions. -/
def standardActionCodes : List String :=
  ["AO-ENTER", "AO-APPLY", "AO-REMOVE", "AO-STRUCT", "AO-EXTRACT", "AO-SENSE"]

/-- The standard input paths. -/
def standardInputPaths : List String := [
  "problem_state.subjectRef",
  "problem_state.subjectRef.projectId",
  "problem_state.subjectRef.groupId",
  "problem_state.subjectRef.plotId",
  "problem_state.subjectRef.blockId",
  "problem_state.window.startTs",
  "problem_state.window.endTs",
  "problem_state.problem_type",
  "problem_state.confidence",
  "problem_state.problem_scope",
  "problem_state.state_layer_hint",
  "problem_state.rate_class_hint",
  "problem_state.uncertainty_sources[]",
  "problem_state.supporting_evidence_refs[]",
  "uncertainty_envelope.problem_state_ref",
  "uncertainty_envelope.uncertainty_sources[]",
  "uncertainty_envelope.supporting_evidence_refs[]",
  "permission_set.subjectRef",
  "permission_set.subjectRef.projectId",
  "permission_set.subjectRef.groupId",
  "permission_set.subjectRef.plotId",
  "permission_set.subjectRef.blockId",
  "permission_set.window.startTs",
  "permission_set.window.endTs",
  "permission_set.scale",
  "permission_set.action_taxonomy_ref",
  "permission_set.candidate_actions[].action_code",
  "permission_set.supporting_evidence_refs[]"]

private theorem names_ofList_ne_nil {names : List String} {name : String} (h : name ∈ names) :
    (KeySet.ofList names).names ≠ [] :=
  List.ne_nil_of_mem (KeySet.mem_ofList.2 h)

private theorem standard_not_blank :
    ∀ name ∈ standardActionCodes ++ standardInputPaths, Text.isBlank name = false := by
  decide +kernel

/-- The tables in force unless others are given. -/
def standard : Constitution where
  actionCodes := .ofList standardActionCodes
  inputPaths := .ofList standardInputPaths
  actionCodes_ne_nil := names_ofList_ne_nil List.mem_cons_self
  inputPaths_ne_nil := names_ofList_ne_nil List.mem_cons_self
  not_blank := fun _ h => standard_not_blank _ <|
    List.mem_append.2 ((List.mem_append.1 h).imp KeySet.mem_ofList.1 KeySet.mem_ofList.1)

/-- Why tables make no constitution. -/
inductive TableFault where
  | noActionCodes
  | noInputPaths
  | blankEntry (name : String)
  | unreadable (fault : TableFile.Fault)
deriving DecidableEq, Repr

/-- The wording of a fault. -/
def TableFault.message : TableFault → String
  | .noActionCodes => "action_codes is empty"
  | .noInputPaths => "allowed_input_paths is empty"
  | .blankEntry name => "blank entry " ++ Text.quoted name
  | .unreadable fault => fault.message

/-- The constitution of two lists, in which order and repetition do not count. An empty list is
noticed before a blank entry, and of several blank entries the least action code counts, then the
least path. -/
def ofTables (actionCodes inputPaths : List String) : Except TableFault Constitution :=
  let codes := KeySet.ofList actionCodes
  let paths := KeySet.ofList inputPaths
  if hc : codes.names = [] then .error .noActionCodes
  else if hp : paths.names = [] then .error .noInputPaths
  else match hb : (codes.names ++ paths.names).find? Text.isBlank with
    | some name => .error (.blankEntry name)
    | none => .ok ⟨codes, paths, hc, hp, fun name h =>
        Bool.eq_false_iff.2 (List.find?_eq_none.1 hb name h)⟩

/-- The constitution that a file describes. -/
def ofText (text : String) : Except TableFault Constitution :=
  match TableFile.ofText text with
  | .error fault => .error (.unreadable fault)
  | .ok tables => ofTables tables.actionCodes tables.inputPaths

/-- What a constitution refuses. -/
inductive Refusal where
  | unknownActionCode (code : String)
  | disallowedPath (path : String)
  | invalidTable (fault : TableFault)
deriving DecidableEq, Repr

/-- The wording of a refusal. -/
def Refusal.message : Refusal → String
  | .unknownActionCode code => "unknown action code: " ++ code
  | .disallowedPath path => "disallowed input path: " ++ path
  | .invalidTable fault => "invalid constitution table: " ++ fault.message

/-- Refuses a code that names no action. -/
def checkActionCode (c : Constitution) (code : String) : Except Refusal Unit :=
  if code ∈ c.actionCodes then .ok () else .error (.unknownActionCode code)

/-- Refuses a path that rules may not read. -/
def checkInputPath (c : Constitution) (path : String) : Except Refusal Unit :=
  if path ∈ c.inputPaths then .ok () else .error (.disallowedPath path)

end Constitution

end ControlPlane
