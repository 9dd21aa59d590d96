import Launchpad.Fault
import Launchpad.Text.Indent

/-!
The text that documents a launch function: a short description in its first line, a long one after
it, and entries, of which some describe parameters. The entries can be written in several forms.
-/

namespace Launchpad

structure Doc where
  short : Option String := none
  long : Option String := none
  params : List (String × Option String) := []
  /-- The number of entries, which describe parameters or something else. -/
  entries : Nat := 0

namespace Doc

def nonEmpty? (s : String) : Option String :=
  if s == "" then none else some s

def ofDescription (s : String) : Doc :=
  let (first, rest) := (Text.cut? s "\n").getD (s, "")
  { short := nonEmpty? first, long := nonEmpty? (Text.trim rest) }

def dedentRest (s : String) : String :=
  match Text.cut? s "\n" with
  | some (first, rest) => first ++ "\n" ++ Text.dedent rest
  | none => s

def chunks (mark : String) : List String → List String × List (List String)
  | [] => ([], [])
  | l :: ls =>
    let (before, more) := chunks mark ls
    if Text.startsWith l mark then ([], (l :: before) :: more)
    else (l :: before, more)

def help (d : Doc) (name : String) : Value :=
  match d.params.reverse.lookup name with
  | some (some s) => .str s
  | _ => .null

end Doc

end Launchpad
