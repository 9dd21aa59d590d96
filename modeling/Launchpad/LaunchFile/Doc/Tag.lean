import Launchpad.LaunchFile.Doc.Basic

/-!
Documentation with tags: an entry starts with an at sign at the start of a line, and has a colon
behind its words. What is told about one parameter, or about the result, is one entry.
-/

namespace Launchpad.Doc

inductive TagKind where
  | parameter | failure | result | other
deriving DecidableEq

structure Tag where
  kind : TagKind
  key : String
  name : Option String := none
  description : String := ""

/-- May a name in a tag start with this character? Those between the capital and the small letters
count as letters. -/
def startsTagName (c : Char) : Bool := 'A' ≤ c && c ≤ 'z'

def inTagName (c : Char) : Bool := startsTagName c || c.isDigit

def tagName? : Chars → Split
  | [] => none
  | c :: cs =>
    if startsTagName c then
      let name := c :: cs.takeWhile inTagName
      match cs.dropWhile inTagName with
      | '?' :: rest => some (name ++ ['?'], rest)
      | rest => some (name, rest)
    else none

def spacedName? (cs : Chars) : Split :=
  if cs.head?.any Text.isBlank then tagName? (cs.dropWhile Text.isBlank) else none

def afterWord? (words : List String) (cs : Chars) : Option (String × Chars) :=
  words.findSome? fun w =>
    if w.toList.isPrefixOf cs then some (w, cs.drop w.length) else none

def afterColon? : Chars → Option Chars
  | ':' :: rest => some rest
  | _ => none

def parameterTag? (cs : Chars) : Option (Tag × Chars) := do
  let (key, rest) ← afterWord? ["param", "keyword", "type"] cs
  let (name, rest) ← spacedName? rest
  let rest ← afterColon? rest
  return ({ kind := .parameter, key, name := some (String.ofList name) }, rest)

def failureTag? (cs : Chars) : Option (Tag × Chars) := do
  let (key, rest) ← afterWord? ["raise"] cs
  let rest := (spacedName? rest).elim rest (·.2)
  let rest ← afterColon? rest
  return ({ kind := .failure, key }, rest)

def resultTag? (cs : Chars) : Option (Tag × Chars) := do
  let (key, rest) ← afterWord? ["return", "rtype", "yield", "ytype"] cs
  let rest ← afterColon? rest
  return ({ kind := .result, key }, rest)

def afterNames : Nat → Chars → Chars
  | 0, cs => cs
  | fuel + 1, cs => (spacedName? cs).elim cs fun (_, rest) => afterNames fuel rest

def otherTag? (cs : Chars) : Option (Tag × Chars) := do
  let key := cs.takeWhile inTagName
  guard (key.head?.any startsTagName && key.length ≥ 2)
  let rest ← afterColon? (afterNames cs.length (cs.drop key.length))
  return ({ kind := .other, key := String.ofList key }, rest)

def search? {α : Type} (f : Chars → Option α) : Chars → Option α
  | [] => none
  | c :: cs => (f (c :: cs)).or (search? f cs)

def reservedKeys : List String :=
  ["param", "keyword", "type", "return", "rtype", "yield", "ytype"]

def Tag.ofChunk? (chunk : List String) : Option Tag := do
  let cs := ("\n".intercalate chunk).toList
  let (tag, rest) ← (((search? parameterTag? cs).or (search? failureTag? cs)).or
    (search? resultTag? cs)).or (search? otherTag? cs)
  guard !(tag.kind == .other && reservedKeys.contains tag.key)
  return { tag with description := dedentRest (Text.trim (String.ofList rest)) }

def Tag.subject? (t : Tag) : Option String :=
  match t.kind with
  | .parameter => t.name
  | .result => some "return"
  | .failure | .other => none

def Tag.onType (t : Tag) : Bool := Text.contains t.key "type"

def described (tags : List Tag) (subject : String) : Option String :=
  (tags.reverse.find? fun t => t.subject? == some subject && !t.onType).map (·.description)

/-- The entries of tags, as far as they are on parameters with their names: the first tag on a
subject stands for all of them. -/
def tagEntries (tags : List Tag) : List String → List Tag → List (Option String)
  | _, [] => []
  | done, t :: ts =>
    match t.subject? with
    | none => none :: tagEntries tags done ts
    | some subject =>
      if done.contains subject then tagEntries tags done ts
      else (if t.kind == .parameter then some subject else none) ::
        tagEntries tags (subject :: done) ts

def agreeOnResult (tags : List Tag) : Bool :=
  let several := (tags.filter (·.kind == .result)).map fun t => t.key == "yield" || t.key == "ytype"
  several.all id || !several.any id

def withTags? (s : String) : Option Doc := do
  let (before, chunks) := chunks "@" (Text.splitAt s '\n')
  let tags ← chunks.mapM Tag.ofChunk?
  guard (agreeOnResult tags)
  let entries := tagEntries tags [] tags
  let params := entries.filterMap fun e => e.map fun n => (n, described tags n)
  let doc := ofDescription ("\n".intercalate before)
  return { doc with params, entries := entries.length }

end Launchpad.Doc
