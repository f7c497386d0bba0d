import ControlPlane.CommandLine.Arguments

/-!
# What the program says about itself

## Main definitions

* `CommandLine.helpText`, `CommandLine.versionText` : what is printed.
-/

namespace ControlPlane.CommandLine

/-- The name and the version of the program. -/
def versionText : String := "geox 0.1.0\n"

/-- How a command is called. -/
def CommandName.usage : CommandName → String
  | .validateRuleset => "validate-ruleset [OPTIONS] <FILE>"
  | .evaluate => "evaluate [OPTIONS] --ruleset <RULESET> --input <INPUT>"
  | .lifecycle => "lifecycle [OPTIONS] --input <INPUT>"

/-- What a command does. -/
def CommandName.description : CommandName → String
  | .validateRuleset => "Resolve and admit a ruleset file; exit 0 only when APPLIED"
  | .evaluate => "Evaluate a ruleset file against an input document"
  | .lifecycle => "Compute ACTIVE/SUPERSEDED/EXPIRED/FROZEN rows for problem states"

/-- The lines on the files that a command reads. -/
def CommandName.fileLines : CommandName → List String
  | .validateRuleset => [
      "  <FILE>                 Ruleset JSON file",
      "  --constitution <FILE>  YAML constitution tables"]
  | .evaluate => [
      "  --ruleset <RULESET>    Ruleset JSON file",
      "  --input <INPUT>        Evaluation input JSON file",
      "  --constitution <FILE>  YAML constitution tables"]
  | .lifecycle => [
      "  --input <INPUT>        Lifecycle input JSON file"]

/-- The lines on the options that every command has. -/
def commonLines : List String := [
  "  -v, --verbose          Log more; repeat for even more",
  "  --log-json             Log in JSON lines",
  "  -h, --help             Print help"]

/-- The lines of the help on a command, or on all of them. -/
def helpLines : Option CommandName → List String
  | some name =>
    [name.description, "", "Usage: geox " ++ name.usage, ""] ++ name.fileLines ++ commonLines
  | none =>
    ["Usage: geox [OPTIONS] <COMMAND>", ""] ++
      CommandName.all.flatMap (fun name => ["  " ++ name.usage, "      " ++ name.description]) ++
      [""] ++ commonLines ++ ["  -V, --version          Print version"]

/-- The help on a command, or on all of them. -/
def helpText (topic : Option CommandName) : String :=
  String.join ((helpLines topic).map fun line => line ++ "\n")

end ControlPlane.CommandLine
