import ControlPlane.CommandLine.Outcome
import Std.Time.DateTime.Timestamp

/-!
# The program

Reads the files that the arguments name, prints the outcome and writes the log to the standard error
stream.
-/

namespace ControlPlane.CommandLine

/-- What the system says of an error number, which it may give as a negative one. -/
def systemReason (code : UInt32) (reason : String) : String :=
  let number := if code < 0x80000000 then code else 0 - code
  let known := [(13, "Permission denied"), (20, "Not a directory"), (36, "File name too long"),
    (40, "Too many levels of symbolic links")]
  (known.lookup number).getD reason ++ " (os error " ++ toString number ++ ")"

/-- What stands under the path of a file. -/
def readEntry (path : String) : IO FileEntry := do
  try
    return .file (← IO.FS.readBinFile path).toList
  catch e =>
    match e with
    | .noFileOrDirectory .. => return .absent
    | .inappropriateType _ 21 _ => return .directory
    | .inappropriateType _ code reason | .invalidArgument _ code reason
    | .permissionDenied _ code reason | .resourceExhausted _ code reason =>
      return .unreadable (systemReason code reason)
    | _ => return .unreadable (toString e)

/-- A number below 256 in base sixteen with two digits. -/
def octetText (b : UInt8) : String :=
  (if b < 16 then "0" else "") ++ Text.hex b.toNat

/-- A stamp that no other verdict has, with the current time. -/
def freshStamp : IO VerdictStamp := do
  let octets := (← IO.getRandomBytes 16).toList
  let marked := octets.zipIdx.map fun (b, i) =>
    if i = 6 then b % 16 + 0x40 else if i = 8 then b % 64 + 0x80 else b
  let now ← Std.Time.Timestamp.now
  return ⟨"verdict_" ++ String.join (marked.map octetText), now.toMillisecondsSinceUnixEpoch.toInt⟩

/-- A log line. -/
def logLine (inJson : Bool) (e : LogEvent) : String :=
  if inJson then
    (Json.object [("level", .string e.level.text), ("fields", .object e.fields)]).compact
  else
    let details := e.details.map fun (name, value) => " " ++ name ++ "=" ++ value.compact
    e.level.text ++ " " ++ e.message ++ String.join details

end ControlPlane.CommandLine

open ControlPlane CommandLine

/-- The program. -/
def main (arguments : List String) : IO UInt32 := do
  let paths := match Request.ofArguments arguments with
    | .ok (.perform command _ _) => command.paths
    | _ => []
  let files ← paths.mapM fun path => return (path, ← readEntry path)
  let outcome :=
    Outcome.ofArguments (fun path => (files.lookup path).getD .absent) (← freshStamp) arguments
  (← IO.getStdout).putStr outcome.output
  if let some fault := outcome.fault then IO.eprintln ("error: " ++ fault.message)
  for e in outcome.log do
    IO.eprintln (logLine outcome.jsonLog e)
  return outcome.status
