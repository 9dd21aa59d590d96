import Launchpad.Text.Blank

/-!
Indentation: tabs are replaced by blanks up to the next multiple of eight columns, and a text that
is written inside indented code loses the indentation that all its lines share.
-/

namespace Launchpad.Text

def expandTabs (s : String) : String :=
  String.ofList (go 0 s.toList)
where
  go : Nat → Chars → Chars
    | _, [] => []
    | col, '\t' :: cs => List.replicate (8 - col % 8) ' ' ++ go (col + (8 - col % 8)) cs
    | col, c :: cs => c :: go (if c == '\n' || c == '\r' then 0 else col + 1) cs

def indentOf (s : String) : Nat :=
  (s.toList.takeWhile isBlank).length

def sharedIndent? : List String → Option Nat
  | [] => none
  | l :: ls =>
    if l.toList.all isBlank then sharedIndent? ls
    else some ((sharedIndent? ls).elim (indentOf l) (min (indentOf l)))

def dropFirst (n : Nat) (s : String) : String :=
  String.ofList (s.toList.drop n)

/-- Removes the indentation that all lines but the first share, the blanks before the first line,
and empty lines at both ends. -/
def dedent (s : String) : String :=
  match splitAt (expandTabs s) '\n' with
  | [] => ""
  | l :: ls =>
    let rest := ((sharedIndent? ls).map fun n => ls.map (dropFirst n)).getD ls
    let all := trimLeftBy isBlank l :: rest
    "\n".intercalate ((all.reverse.dropWhile (· == "")).reverse.dropWhile (· == ""))

end Launchpad.Text
