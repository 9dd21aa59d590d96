import Launchpad.LaunchFile.Doc.Basic
import Launchpad.Text.Lines

/-!
Documentation in sections: a section has a title with a rule of dashes under it, which is as long as
the title. The lines of a section that are not indented start its entries.
-/

namespace Launchpad.Doc

inductive SectionKind where
  | parameters | entries | examples | prose
deriving DecidableEq

def titles : List (String × SectionKind) :=
  let named (k : SectionKind) (ts : List String) := ts.map (·, k)
  named .parameters ["Parameters", "Params", "Arguments", "Args", "Other Parameters",
    "Other Params", "Other Arguments", "Other Args", "Receives", "Receive"] ++
  named .entries ["Raises", "Raise", "Warns", "Warn"] ++
  named .parameters ["Attributes", "Attribute"] ++
  named .entries ["Returns", "Return", "Yields", "Yield"] ++
  named .examples ["Examples", "Example"] ++
  named .prose ["Warnings", "Warning", "See Also", "Related", "Notes", "Note", "References",
    "Reference"]

def isDeprecation (line : String) : Bool :=
  Text.startsWith line ".." &&
    (let rest := Text.trimLeftBy Text.isBlank (Text.dropFirst 2 line)
     Text.startsWith rest "deprecated" &&
       Text.startsWith (Text.trimLeftBy Text.isBlank (Text.dropFirst 10 rest)) "::")

def titled? (line : String) : Option (String × SectionKind) :=
  titles.find? fun (t, _) => Text.trimRightBy Text.isBlank line == t

def isRule (title line : String) : Bool :=
  Text.trimRightBy Text.isBlank line == Text.repeatText "-" title.length

def isBlankLine (l : String) : Bool := l.toList.all Text.isBlank

def titleAt? : List String → Option (SectionKind × List String)
  | [] => none
  | l :: ls =>
    if isDeprecation l then some (.prose, ls)
    else do
      let (t, k) ← titled? l
      match ls.dropWhile isBlankLine with
      | r :: rest => if isRule t r then some (k, rest) else none
      | [] => none

def sections : Nat → List String → List String × List (SectionKind × List String)
  | 0, ls => (ls, [])
  | _ + 1, [] => ([], [])
  | fuel + 1, l :: ls =>
    match titleAt? (l :: ls) with
    | some (k, rest) =>
      let (body, more) := sections fuel rest
      ([], (k, body) :: more)
    | none =>
      let (body, more) := sections fuel ls
      (l :: body, more)

def items : List String → List String × List (String × List String)
  | [] => ([], [])
  | l :: ls =>
    let (body, more) := items ls
    if l.toList.head?.any (!Text.isBlank ·) then ([], (l, body) :: more) else (l :: body, more)

def itemName (line : String) : String :=
  (Text.cut? line ":").elim line fun (name, _) => Text.trimRightBy Text.isBlank name

def itemDescription (body : List String) : Option String :=
  nonEmpty? (Text.trim (Text.dedent ("\n".intercalate ("" :: body))))

def isPrompt (l : String) : Bool := Text.startsWith l ">>>"

/-- The number of examples in lines: each has lines at a prompt, lines after them, or both. `prompt`
tells if the line before was at a prompt, and is none at the start. -/
def exampleCount : Option Bool → List String → Nat
  | _, [] => 0
  | before, l :: ls =>
    let here := isPrompt l
    let new := if here then before != some true else before.isNone
    (if new then 1 else 0) + exampleCount (some here) ls

def flushLines (body : List String) : List String :=
  let flush := ((Text.sharedIndent? body).map fun n => body.map (Text.dropFirst n)).getD body
  Text.lines (Text.trim ("\n".intercalate flush))

def withSections (s : String) : Doc :=
  let lines := Text.splitAt s '\n'
  let (before, parts) := sections lines.length lines
  let counted := parts.map fun (k, body) =>
    match k with
    | .prose => 1
    | .examples => exampleCount none (flushLines body)
    | .parameters | .entries => (items body).2.length
  let params := parts.flatMap fun (k, body) =>
    if k == .parameters then (items body).2.map fun (l, ls) => (itemName l, itemDescription ls)
    else []
  let doc := ofDescription ("\n".intercalate before)
  { doc with params, entries := counted.foldl (· + ·) 0 }

end Launchpad.Doc
