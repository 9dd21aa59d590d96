import Launchpad.LaunchFile.Doc.Basic

/-!
Documentation as an outline: a title stands on a line of its own with a colon behind it, and what
belongs to it is indented. The lines with the indentation of the first one start the entries, and
an entry has a colon behind its name, which may have a type in parentheses.
-/

namespace Launchpad.Doc

inductive OutlineKind where
  | parameters | entries | prose
deriving DecidableEq

def outlineTitles : List (String × OutlineKind) :=
  [("Arguments", .parameters), ("Args", .parameters), ("Parameters", .parameters),
    ("Params", .parameters), ("Raises", .entries), ("Exceptions", .entries), ("Except", .entries),
    ("Attributes", .parameters), ("Example", .prose), ("Examples", .prose), ("Returns", .prose),
    ("Yields", .prose)]

def outlineTitle? (line : String) : Option (String × OutlineKind) :=
  let isGap (c : Char) := ['\t', '\r', ' ', '\x0b', '\x0c'].contains c
  outlineTitles.find? fun (t, _) => Text.trimRightBy isGap line == t ++ ":"

def outline : List String → List String × List (String × OutlineKind × List String)
  | [] => ([], [])
  | l :: ls =>
    let (body, more) := outline ls
    match outlineTitle? l with
    | some (t, k) => ([], (t, k, body) :: more)
    | none => (l :: body, more)

/-- The text under a title: up to the first line that is not indented, without empty lines at both
ends. -/
def outlineText (lines : List String) : String :=
  let indented (l : String) := l.toList.head?.all Text.isBlank
  Text.trimBy (· == '\n') ("\n".intercalate (lines.takeWhile indented))

def keepLast (parts : List (String × OutlineKind × String)) :
    List (String × OutlineKind × String) :=
  parts.foldl (fun acc p =>
    if acc.any (·.1 == p.1) then acc.map fun q => if q.1 == p.1 then p else q
    else acc ++ [p]) []

/-- Cuts a text at the lines that have exactly this indentation, and drops it there. The text before
the first such line is lost. -/
def cutAtIndent (indent : Chars) (text : Chars) : List String :=
  go 0 true none text
where
  close : Option Chars → List String
    | some cs => [Text.trimBy (· == '\n') (String.ofList cs.reverse)]
    | none => []
  startsHere (cs : Chars) : Bool :=
    indent.isPrefixOf cs && (cs.drop indent.length).head?.any (!Text.isBlank ·)
  go : Nat → Bool → Option Chars → Chars → List String
    | _, _, entry, [] => close entry
    | skip + 1, _, entry, c :: cs => go skip (c == '\n') entry cs
    | 0, lineStart, entry, c :: cs =>
      if lineStart && startsHere (c :: cs) then
        close entry ++ go (indent.length - 1) false (some (if indent.isEmpty then [c] else [])) cs
      else go 0 (c == '\n') (entry.map (c :: ·)) cs

def hasParentheses (cs : Chars) : Bool :=
  match cs.dropWhile Text.isBlank with
  | '(' :: rest => closes false (rest.dropWhile Text.isBlank)
  | _ => false
where
  /-- Is there a closing parenthesis behind something, on the same line but for blanks? -/
  closes (something : Bool) : Chars → Bool
    | [] => false
    | c :: cs =>
      if c == ')' && something then true
      else if c == '\n' then something && (cs.dropWhile Text.isBlank).head? == some ')'
      else closes (something || !Text.isBlank c) cs

def nameBeforeType? : Chars → Chars → Option String
  | _, [] => none
  | taken, c :: cs =>
    if !taken.isEmpty && hasParentheses (c :: cs) then some (String.ofList taken.reverse)
    else if c == '\n' then none
    else nameBeforeType? (c :: taken) cs

def outlineName (before : String) : String :=
  (nameBeforeType? [] (before.toList.dropWhile Text.isBlank)).getD before

def outlineEntry? (part : String) : Option (String × String) := do
  let (before, rest) ← Text.cut? part ":"
  let rest := if Text.startsWith rest " " then Text.dropFirst 1 rest else rest
  return (before, Text.trimBy (· == '\n') (dedentRest rest))

def outlineEntries? (kind : OutlineKind) (text : String) : Option TextPairs :=
  if kind == .prose then some [("", "")]
  else
    let parts := cutAtIndent (text.toList.takeWhile Text.isBlank) text.toList
    if parts.isEmpty then none else parts.mapM outlineEntry?

/-- The text read as an outline. It is none where there are no entries under a title for them, or
one has no colon. -/
def withOutline? (s : String) : Option Doc := do
  let (before, parts) := outline (Text.splitAt s '\n')
  let texts := keepLast (parts.map fun (t, k, ls) => (t, k, outlineText ls))
  let entries ← texts.mapM fun (_, k, text) => do
    let es ← outlineEntries? k text
    return (k, es)
  let params := entries.flatMap fun (k, es) =>
    if k == .parameters then es.map fun (before, d) => (outlineName before, some d) else []
  let doc := ofDescription ("\n".intercalate before)
  return { doc with params, entries := (entries.flatMap (·.2)).length }

end Launchpad.Doc
