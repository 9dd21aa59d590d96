import Launchpad.Format.Spec
import Launchpad.Value.Access
import Launchpad.Pattern.Reader

/-!
Templates with fields in braces: a field has a name, maybe a conversion behind an exclamation mark,
and maybe a format specification behind a colon, in which fields may be nested once. Doubled braces
stand for themselves.
-/

namespace Launchpad.Format

structure Field where
  name : String
  conversion : Option Char
  spec : String
deriving Repr, DecidableEq

inductive Piece where
  | text (s : String)
  | field (f : Field)
  | broken
deriving Repr, DecidableEq

def takeSpec : Nat → Chars → Split
  | _, [] => none
  | 0, '}' :: cs => some ([], cs)
  | n + 1, '}' :: cs => (takeSpec n cs).map fun (a, b) => ('}' :: a, b)
  | n, '{' :: cs => (takeSpec (n + 1) cs).map fun (a, b) => ('{' :: a, b)
  | n, c :: cs => (takeSpec n cs).map fun (a, b) => (c :: a, b)

def takeName : Bool → Chars → Option (Chars × Char × Chars)
  | _, [] => none
  | true, c :: cs => (takeName (c != ']') cs).map fun (n, r) => (c :: n, r)
  | false, '{' :: _ => none
  | false, c :: cs =>
    if c == '}' || c == ':' || c == '!' then some ([], c, cs)
    else (takeName (c == '[') cs).map fun (n, r) => (c :: n, r)

def readField (cs : Chars) : Option (Field × Chars) := do
  let (name, stop, cs) ← takeName false cs
  let name := String.ofList name
  let withSpec (conversion : Option Char) (cs : Chars) : Option (Field × Chars) :=
    (takeSpec 0 cs).map fun (spec, cs) => (⟨name, conversion, String.ofList spec⟩, cs)
  match stop, cs with
  | '}', cs => some (⟨name, none, ""⟩, cs)
  | ':', cs => withSpec none cs
  | _, c :: '}' :: cs => some (⟨name, some c, ""⟩, cs)
  | _, c :: ':' :: cs => withSpec (some c) cs
  | _, _ => none

def piecesOf : Nat → Chars → List Piece
  | 0, _ => [.broken]
  | _ + 1, [] => []
  | fuel + 1, '{' :: '{' :: cs => .text "\x7b" :: piecesOf fuel cs
  | fuel + 1, '}' :: '}' :: cs => .text "\x7d" :: piecesOf fuel cs
  | _ + 1, '}' :: _ => [.broken]
  | fuel + 1, '{' :: cs =>
    match readField cs with
    | some (f, rest) => .field f :: piecesOf fuel rest
    | none => [.broken]
  | fuel + 1, c :: cs =>
    let plain (c : Char) : Bool := c != '{' && c != '}'
    .text (String.ofList (c :: cs.takeWhile plain)) :: piecesOf fuel (cs.dropWhile plain)

def readPieces (s : String) : List Piece :=
  piecesOf (s.length + 1) s.toList

def splitName (s : String) : String × Chars :=
  let stop (c : Char) : Bool := c != '.' && c != '['
  (String.ofList (s.toList.takeWhile stop), s.toList.dropWhile stop)

def placeOf (v : Value) (key : Chars) : Try Value :=
  let isNum := key.all Text.isDecimal
  if key.isEmpty || (isNum && number key > maxAmount) then refused
  else Value.item v (if isNum then .int (number key) else .str (String.ofList key))

def follow : Nat → Value → Chars → Try Value
  | 0, _, _ => refused
  | _ + 1, v, [] => .ok v
  | fuel + 1, v, '[' :: cs =>
    let key := cs.takeWhile (· != ']')
    match cs.dropWhile (· != ']') with
    | ']' :: rest => do follow fuel (← placeOf v key) rest
    | _ => refused
  | fuel + 1, v, '.' :: cs =>
    let stop (c : Char) : Bool := c != '.' && c != '['
    let name := cs.takeWhile stop
    if name.isEmpty then refused
    else do follow fuel (← Value.feature v (String.ofList name)) (cs.dropWhile stop)
  | _ + 1, _, _ => refused

def fieldValue (fields : Named) (name : String) : Try Value :=
  let (first, rest) := splitName name
  if first.toList.all Text.isDecimal then
    if number first.toList > maxAmount then refused else fails .outOfRange
  else match fields.lookup first with
    | some v => follow (rest.length + 1) v rest
    | none => fails .unknownKey

def asciiLiteral (v : Value) : String :=
  String.join ((v.literal Value.plainRef).toList.map fun c =>
    if c.toNat < 128 then String.ofList [c] else Text.hexEscape c)

def convert (v : Value) : Option Char → Try Value
  | none => .ok v
  | some 'r' => (literalText v).map .str
  | some 's' => (plainText v).map .str
  | some 'a' => if hasHuge v then refused else .ok (.str (asciiLiteral v))
  | some _ => refused

mutual

def renderPieces (fields : Named) : Nat → List Piece → Try String
  | _, [] => .ok ""
  | _, .broken :: _ => refused
  | depth, .text s :: ps => do
    let r ← renderPieces fields depth ps
    return s ++ r
  | depth, .field f :: ps => do
    let t ← renderField fields depth f
    let r ← renderPieces fields depth ps
    return t ++ r
termination_by depth ps => (depth, ps.length + 1)

def renderField (fields : Named) (depth : Nat) (f : Field) : Try String := do
  let v ← fieldValue fields f.name
  let v ← convert v f.conversion
  if f.spec.toList.contains '{' then
    match depth with
    | 0 => refused
    | d + 1 => do
      let spec ← renderPieces fields d (readPieces f.spec)
      formatValue v spec
  else formatValue v f.spec
termination_by (depth, 0)

end

def renderBraces (fields : Named) (s : String) : Try String :=
  renderPieces fields 1 (readPieces s)

/-- Is this the written name of a field, with features and places behind it? A line end behind it
does not matter. -/
def isFieldName (s : String) : Bool :=
  let s := if s.endsWith "\n" then String.ofList (s.toList.take (s.length - 1)) else s
  let (first, rest) := splitName s
  first != "" && first.toList.all Text.isWord && tails (rest.length + 1) rest
where
  tails : Nat → Chars → Bool
    | 0, _ => false
    | _ + 1, [] => true
    | n + 1, '.' :: cs =>
      !(cs.takeWhile Text.isWord).isEmpty && tails n (cs.dropWhile Text.isWord)
    | n + 1, '[' :: cs =>
      let k := cs.takeWhile (· != ']')
      match cs.dropWhile (· != ']') with
      | ']' :: rest => !k.isEmpty && tails n rest
      | _ => false
    | _ + 1, _ => false

def specForm : String :=
  "^(.?[<=>^])?[+ -]?#?0?(\\d+|\x7b\\w+\x7d)?[,_]?(\\.(\\d+|\x7b\\w+\x7d))?[bcdefgnosxBCDEFGNOSX%]?$"

def isSpec (s : String) : Bool :=
  match Pattern.compile specForm with
  | .ok c => (Pattern.matchAt c.pattern s).isSome
  | .error _ => false

def Field.wellFormed (f : Field) : Bool :=
  (f.name == "" || isFieldName f.name) &&
    (match f.conversion with
      | none => true
      | some c => c == 'r' || c == 's' || c == 'a') &&
    (f.spec == "" || isSpec f.spec)

/-- A template is acceptable when its braces pair up, its fields are well-formed and at least one
of them has a name. -/
def checkBraces (s : String) : Try Unit :=
  let ps := readPieces s
  let fs := ps.filterMap fun
    | .field f => some f
    | _ => none
  if !ps.contains .broken && fs.all Field.wellFormed && fs.any (·.name != "") then .ok ()
  else refused

end Launchpad.Format
