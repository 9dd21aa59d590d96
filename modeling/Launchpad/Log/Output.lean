import Launchpad.Value.Entries
import Launchpad.Value.Literal

/-!
Output configurations: where the standard output and the standard error output of a process go.
-/

namespace Launchpad.Log

structure OutputPlan where
  both : List String := []
  stdout : List String := []
  stderr : List String := []
deriving Repr, DecidableEq

def OutputPlan.set (p : OutputPlan) (source : String) (ds : List String) : OutputPlan :=
  if source == "both" then { p with both := ds }
  else if source == "stdout" then { p with stdout := ds }
  else { p with stderr := ds }

def namedPlan? (s : String) : Option OutputPlan :=
  if s == "screen" then some { both := ["screen"] }
  else if s == "log" then some { both := ["log"], stderr := ["screen"] }
  else if s == "both" then some { both := ["log", "screen"] }
  else if s == "own_log" then
    some { both := ["own_log"], stdout := ["own_log"], stderr := ["own_log"] }
  else if s == "full" then
    some { both := ["screen", "log", "own_log"], stdout := ["own_log"], stderr := ["own_log"] }
  else none

def shown (v : Value) : String :=
  v.display Value.plainRef

def items? : Value → Option (List Value)
  | .frozen _ | .bytes _ => none
  | v => v.elements?

def destinations : List Value → Try (List String)
  | [] => .ok []
  | .str d :: ds =>
    if d == "screen" || d == "log" || d == "own_log" then do
      let rest ← destinations ds
      return if rest.contains d then rest else d :: rest
    else bad (.str d)
  | d :: _ => bad d
where
  bad (d : Value) : Try (List String) :=
    invalid (shown d ++
      " is not a valid output destination i.e. \"screen\", \"log\" or \"own_log\"")

def readStreams : Entries → OutputPlan → Try OutputPlan
  | [], p => .ok p
  | (k, v) :: es, p => do
    match k with
    | .str source =>
      if source == "stdout" || source == "stderr" || source == "both" then
        let vs ← match v with
          | .str d => pure [.str d]
          | v => match items? v with
            | some vs => pure vs
            | none => throw (.silent .wrongType)
        let ds ← destinations vs
        readStreams es (p.set source ds)
      else badSource k
    | k => badSource k
where
  badSource (k : Value) : Try OutputPlan :=
    invalid (shown k ++ " is not a valid output source i.e. \"stdout\", \"stderr\" or \"both\"")

def OutputPlan.ofValue : Value → Try OutputPlan
  | .str s => match namedPlan? s with
    | some p => .ok p
    | none => invalid (s ++
        " is not a valid standard output config i.e. \"screen\", \"log\" or \"both\"")
  | .map es => readStreams es {}
  | v => invalid (shown v ++ " is not a valid output configuration")

end Launchpad.Log
