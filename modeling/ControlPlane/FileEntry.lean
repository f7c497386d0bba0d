import ControlPlane.Text.Utf8

/-!
# Files as they are found

## Main definitions

* `FileEntry` : what stands under a name.
* `FileEntry.read` : the bytes of a file, or why there are none.
-/

namespace ControlPlane

/-- What stands under the name of a file. -/
inductive FileEntry where
  | absent
  | directory
  | file (content : Bytes)
  /-- Something that cannot be read, for a reason that the system gives. -/
  | unreadable (reason : String)
deriving DecidableEq, Repr

namespace FileEntry

/-- Why a file cannot be read. -/
inductive ReadFault where
  | absent
  | directory
  | other (reason : String)
deriving DecidableEq, Repr

/-- The wording of a fault. -/
def ReadFault.message : ReadFault → String
  | .absent => "No such file or directory (os error 2)"
  | .directory => "Is a directory (os error 21)"
  | .other reason => reason

/-- The bytes of a file. -/
def read : FileEntry → Except ReadFault Bytes
  | .absent => .error .absent
  | .directory => .error .directory
  | .file content => .ok content
  | .unreadable reason => .error (.other reason)

end FileEntry

end ControlPlane
