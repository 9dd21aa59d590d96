import Launchpad.Markup.Element
import Launchpad.Markup.Prolog
import Launchpad.Text.Lines

/-!
Documents in markup. A document has one element; its tags are properly nested, its attributes are
unique, and it uses only the common entities.
-/

namespace Launchpad.Markup

def takeAttribute (cs : Chars) : Option (String × Chars) := do
  let (raw, rest) ← takeQuoted cs
  let value ← attributeText raw
  return (String.ofList value, rest)

def takeAttributes : Nat → Chars → Option (TextPairs × Chars)
  | 0, _ => none
  | fuel + 1, cs =>
    let rest := skipSpaces cs
    match rest with
    | [] => none
    | c :: _ =>
      if c == '>' || c == '/' then some ([], rest)
      else if rest.length == cs.length then none
      else do
        let (name, rest) ← takeQualified rest
        let rest ← afterText? "=" (skipSpaces rest)
        let (v, rest) ← takeAttribute (skipSpaces rest)
        let (more, rest) ← takeAttributes fuel rest
        if (more.lookup name).isSome then none else return ((name, v) :: more, rest)

/-- The spaces of names that are in force: a name in front of a colon, or the empty text for names
without one, with the space it stands for. -/
abbrev Spaces := TextPairs

def declared (attributes : TextPairs) : Spaces :=
  attributes.filterMap fun (k, v) =>
    if k == "xmlns" then some ("", v)
    else if Text.startsWith k "xmlns:" then some (String.ofList (k.toList.drop 6), v)
    else none

def isDeclaration (k : String) : Bool := k == "xmlns" || Text.startsWith k "xmlns:"

/-- May a space be declared in this way? The names that start with the letters of the standard are
not to be declared, and a name cannot stand for no space. -/
def isDeclarable : String × String → Bool
  | (p, uri) => p == "" || (p != "xml" && p != "xmlns" && uri != "")

def expandName (spaces : Spaces) (useDefault : Bool) (name : String) : Option String :=
  let inSpace (uri rest : String) : String := "\x7b" ++ uri ++ "\x7d" ++ rest
  match Text.cut? name ":" with
  | some (p, rest) =>
    if p == "xml" then some name
    else (spaces.lookup p).map fun uri => inSpace uri rest
  | none =>
    if !useDefault then some name
    else match spaces.lookup "" with
      | some uri => some (if uri == "" then name else inSpace uri name)
      | none => some name

def allDistinct : List String → Bool
  | [] => true
  | n :: ns => !ns.contains n && allDistinct ns

def expandTag (spaces : Spaces) (name : String) (attributes : TextPairs) :
    Option (Spaces × String × TextPairs) := do
  let new := declared attributes
  guard (new.all isDeclarable)
  let spaces := new ++ spaces
  let tag ← expandName spaces true name
  let attributes ← (attributes.filter fun e => !isDeclaration e.1).mapM fun (k, v) =>
    (expandName spaces false k).map fun k => (k, v)
  guard (allDistinct (attributes.map (·.1)))
  return (spaces, tag, attributes)

mutual

def takeElement (spaces : Spaces) : Nat → Chars → Option (Element × Chars)
  | 0, _ => none
  | fuel + 1, '<' :: cs => do
    let (name, rest) ← takeQualified cs
    let (attributes, rest) ← takeAttributes (rest.length + 1) rest
    let (spaces, tag, attributes) ← expandTag spaces name attributes
    match rest with
    | '/' :: '>' :: rest => return (.ofNodes tag attributes [], rest)
    | '>' :: rest =>
      let (nodes, rest) ← takeNodes spaces fuel rest
      let rest ← afterText? "</" rest
      let (close, rest) ← takeQualified rest
      guard (close == name)
      let rest ← afterText? ">" (skipSpaces rest)
      return (.ofNodes tag attributes nodes, rest)
    | _ => none
  | _ + 1, _ => none

/-- What an element holds: up to a closing tag, or to the end. Comments and instructions are left
out. -/
def takeNodes (spaces : Spaces) : Nat → Chars → Option (List Node × Chars)
  | 0, _ => none
  | _ + 1, [] => some ([], [])
  | fuel + 1, c :: cs =>
    if c == '<' then
      if cs.head? == some '/' then some ([], c :: cs)
      else match afterText? "![CDATA[" cs with
        | some rest => do
          let (body, rest) ← takeUpTo "]]>" rest
          let (more, rest) ← takeNodes spaces fuel rest
          return (body.map .char ++ more, rest)
        | none => do
          match ← takeAside (c :: cs) with
          | some rest => takeNodes spaces fuel rest
          | none =>
            let (e, rest) ← takeElement spaces fuel (c :: cs)
            let (more, rest) ← takeNodes spaces fuel rest
            return (.element e :: more, rest)
    else if c == '&' then do
      let (c, rest) ← takeReference cs
      let (more, rest) ← takeNodes spaces fuel rest
      return (.char c :: more, rest)
    else if "]]>".toList.isPrefixOf (c :: cs) then none
    else do
      let (more, rest) ← takeNodes spaces fuel cs
      return (.char c :: more, rest)

end

def takeDocument (cs : Chars) : Option Element := do
  guard (cs.all isChar)
  let (e, rest) ← takeElement [] (2 * cs.length + 2) (← skipProlog cs)
  let rest ← skipAsides (rest.length + 1) rest
  if rest.isEmpty then return e else none

def declaration? (cs : Chars) : Option Chars := do
  let rest ← afterText? "<?xml" cs
  if rest.head?.any fun c => isSpace c || c == '?' then some rest else none

def parse (s : String) : Try Element := do
  let cs := (Text.unifyLineEnds s).toList
  let cs := if cs.head? == some '\ufeff' then cs.drop 1 else cs
  let cs ← match declaration? cs with
    | none => pure cs
    | some rest => match takeDeclaration rest with
      | none => fails .badMarkup
      | some (none, rest) => pure rest
      | some (some encoding, rest) => decode encoding rest
  match takeDocument cs with
  | some e => .ok e
  | none => fails .badMarkup

end Launchpad.Markup
