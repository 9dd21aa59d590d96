import Launchpad.Fault

/-!
What is wrong with a parameter file: what was being read and where it began, what was found instead
of what was expected, and where.
-/

namespace Launchpad.Yaml

structure Mark where
  line : Nat := 0
  column : Nat := 0
deriving DecidableEq, Repr

def Mark.text (file : String) (m : Mark) : String :=
  s!"  in \"{file}\", line {m.line + 1}, column {m.column + 1}"

/-- What was being read when something went wrong, and where that began. -/
structure Context where
  text : String
  mark : Option Mark := none

structure Failure where
  cause : Cause
  context : Option Context := none
  problem : String := ""
  mark : Option Mark := none
  /-- The number of characters before the problem, where lines are not known yet. -/
  position : Option Nat := none

namespace Failure

def plain (cause : Cause) (problem : String := "") : Failure :=
  { cause, problem }

def contextLines (file : String) (f : Failure) : List String :=
  match f.context with
  | none => []
  | some c =>
    match c.mark with
    | some m => if f.mark == some m then [c.text] else [c.text, m.text file]
    | none => [c.text]

def text (file : String) (f : Failure) : String :=
  let place := (f.mark.map (Mark.text file)).toList ++
    f.position.toList.map fun n => s!"  in \"{file}\", position {n}"
  "\n".intercalate (f.contextLines file ++ f.problem :: place)

end Failure

def shown (c : Char) : String :=
  Text.quote (String.singleton c)

end Launchpad.Yaml
