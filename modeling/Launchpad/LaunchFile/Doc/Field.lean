import Launchpad.LaunchFile.Doc.Basic

/-!
Documentation in fields: an entry starts with its words between colons, and a parameter is the last
word of one that starts with a word for parameters.
-/

namespace Launchpad.Doc

structure Field where
  words : List String
  description : String

def Field.ofChunk? (chunk : List String) : Option Field := do
  let body := Text.trimLeftBy (· == ':') ("\n".intercalate chunk)
  let (head, rest) ← Text.cut? body ":"
  return ⟨Text.words head, dedentRest (Text.trim rest)⟩

def Field.onType (f : Field) : Bool :=
  (f.words.length == 2 && f.words.head? == some "type") ||
    (f.words.length ≤ 2 && f.words.head? == some "rtype")

def parameterWords : List String :=
  ["param", "parameter", "arg", "argument", "attribute", "key", "keyword"]

def resultWords : List String :=
  ["return", "returns", "yield", "yields", "raises", "raise", "except", "exception"]

def Field.isSound (f : Field) : Bool :=
  match f.words with
  | [] => false
  | w :: ws =>
    if parameterWords.contains w then ws.length == 1 || ws.length == 2
    else if resultWords.contains w then ws.length ≤ 1
    else true

def Field.parameter? (f : Field) : Option (String × Option String) :=
  match f.words with
  | w :: ws =>
    if parameterWords.contains w then ws.getLast?.map (·, some f.description) else none
  | [] => none

/-- The fields in chunks of lines. The result is none where a chunk is no field or one with too many
words; a field without any word cannot be looked at. -/
def fieldsOf : List (List String) → Try (Option (List Field))
  | [] => .ok (some [])
  | chunk :: more =>
    match Field.ofChunk? chunk with
    | none => .ok none
    | some f =>
      if f.words.isEmpty then fails .outOfRange
      else if !f.onType && !f.isSound then .ok none
      else do return (← fieldsOf more).map (f :: ·)

def withFields (s : String) : Try (Option Doc) := do
  let (before, fields) := chunks ":" (Text.splitAt s '\n')
  let some fields ← fieldsOf fields | return none
  let (types, entries) := fields.partition Field.onType
  let returns := (types.filter fun f => f.words.head? == some "rtype").map (·.words)
  let hasResult := entries.any fun f =>
    f.words.head?.any (["return", "returns", "yield", "yields"].contains ·)
  let extra := if hasResult then 0 else returns.eraseDups.length
  let doc := ofDescription ("\n".intercalate before)
  return some { doc with params := entries.filterMap Field.parameter?,
                         entries := entries.length + extra }

end Launchpad.Doc
