import Launchpad.Files
import Launchpad.Fault

/-!
Why a path leads nowhere.
-/

namespace Launchpad.FileTree

def maxNameSize : Nat := 255
def maxPathSize : Nat := 4095

/-- Why nothing stands at an absolute path: the first part that is not a name of something in a
directory decides. -/
def missingCause {α : Type} (files : FileTree α) (path : String) : Cause :=
  let above := ancestors path
  let parts := above ++ [path]
  match parts.find? fun p => !files.isDir p with
  | none => .fileNotFound
  | some p =>
    if (Path.baseName p).utf8ByteSize > maxNameSize then .system
    else if files.exists? p && above.contains p then .notDirectory
    else .fileNotFound

end Launchpad.FileTree
