import Launchpad.Markup.Encoding
import Launchpad.Markup.Reference

/-!
What stands before the element of a document: the declaration of version and encoding, comments,
instructions, and the type of the document, which declares no entities.
-/

namespace Launchpad.Markup

def takeUpTo (close : String) (cs : Chars) : Split :=
  Text.cutChars close.toList cs

def afterText? (word : String) (cs : Chars) : Option Chars :=
  if word.toList.isPrefixOf cs then some (cs.drop word.length) else none

def afterSpaces? (cs : Chars) : Option Chars :=
  if cs.head?.any isSpace then some (skipSpaces cs) else none

def takeQuoted : Chars → Split
  | '"' :: cs => takeUpTo "\"" cs
  | '\'' :: cs => takeUpTo "'" cs
  | _ => none

/-! ### The declaration -/

def takeSetting (name : String) (cs : Chars) : Option (String × Chars) := do
  let rest ← afterText? name (← afterSpaces? cs)
  let rest ← afterText? "=" (skipSpaces rest)
  let (value, rest) ← takeQuoted (skipSpaces rest)
  guard (value.all fun c => c.isAlphanum || c == '.' || c == '_' || c == '-')
  return (String.ofList value, rest)

def closeDeclaration (cs : Chars) : Option Chars :=
  afterText? "?>" (skipSpaces cs)

/-- The declaration behind its first word: the encoding, and what follows. A version is needed,
an encoding and a statement on being complete may follow. -/
def takeDeclaration (cs : Chars) : Option (Option String × Chars) := do
  let (_, cs) ← takeSetting "version" cs
  let (encoding, cs) := match takeSetting "encoding" cs with
    | some (e, rest) => (some e, rest)
    | none => (none, cs)
  guard (encoding.all fun e => e.toList.head?.any Char.isAlpha)
  match takeSetting "standalone" cs with
  | some (s, rest) =>
    guard (s == "yes" || s == "no")
    return (encoding, ← closeDeclaration rest)
  | none => return (encoding, ← closeDeclaration cs)

/-! ### Comments and instructions -/

def takeAside : Chars → Option (Option Chars)
  | '<' :: '!' :: '-' :: '-' :: cs => do
    let (_, rest) ← takeUpTo "--" cs
    match rest with
    | '>' :: rest => return some rest
    | _ => none
  | '<' :: '?' :: cs => do
    let (name, rest) ← takeName cs
    if name.map Char.toLower == "xml" then none
    let (body, rest) ← takeUpTo "?>" rest
    guard (body.head?.all isSpace)
    return some rest
  | _ => some none

def skipAsides : Nat → Chars → Option Chars
  | 0, cs => some cs
  | fuel + 1, cs => do
    let cs := skipSpaces cs
    match ← takeAside cs with
    | some rest => skipAsides fuel rest
    | none => return cs

/-! ### The type of the document -/

def skipType : Option Char → Chars → Option Chars
  | _, [] => none
  | some q, c :: cs => skipType (if c == q then none else some q) cs
  | none, c :: cs =>
    if c == '>' then some cs
    else if c == '<' || c == '[' then none
    else skipType (if c == '"' || c == '\'' then some c else none) cs

def skipProlog (cs : List Char) : Option (List Char) := do
  let cs ← skipAsides (cs.length + 1) cs
  match afterText? "<!DOCTYPE" cs with
  | none => return cs
  | some rest =>
    let (_, rest) ← takeQualified (← afterSpaces? rest)
    let rest ← skipType none rest
    skipAsides (rest.length + 1) rest

end Launchpad.Markup
