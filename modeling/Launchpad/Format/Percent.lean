import Launchpad.Format.Brace

/-!
Templates with percent signs: each conversion takes the next argument, or the one of its name, and
says by flags, width, precision and a letter how it is written.
-/

namespace Launchpad.Format

inductive Amount where
  | absent
  | given (n : Nat)
  | next
deriving Repr, DecidableEq

structure Conversion where
  flags : Chars := []
  width : Amount := .absent
  precision : Amount := .absent
  kind : Char
deriving Repr, DecidableEq

def takeKey : Nat → Chars → Split
  | _, [] => none
  | 0, ')' :: cs => some ([], cs)
  | n + 1, ')' :: cs => (takeKey n cs).map fun (a, b) => (')' :: a, b)
  | n, '(' :: cs => (takeKey (n + 1) cs).map fun (a, b) => ('(' :: a, b)
  | n, c :: cs => (takeKey n cs).map fun (a, b) => (c :: a, b)

def takeAmount : Chars → Amount × Chars
  | '*' :: cs => (.next, cs)
  | cs =>
    let ds := cs.takeWhile Char.isDigit
    (if ds.isEmpty then .absent else .given (number ds), cs.drop ds.length)

def isFlag (c : Char) : Bool :=
  c == '#' || c == '0' || c == '+' || c == ' ' || c == '-'

/-- The arguments of a template that are not used yet, and what is asked for names. -/
structure PercentArgs where
  rest : List Value
  named : Option Value

def takeArg (a : PercentArgs) : Try (Value × PercentArgs) :=
  match a.rest with
  | v :: vs => .ok (v, { a with rest := vs })
  | [] => fails .wrongType

def resolve (limit : Nat) (a : PercentArgs) : Amount → Try (Option Int × PercentArgs)
  | .absent => .ok (none, a)
  | .given n => if n > limit then refused else .ok (some n, a)
  | .next => do
    let (v, a) ← takeArg a
    match v.asInt? with
    | some n => if n.natAbs > limit then fails .overflow else return (some n, a)
    | none => throw (.silent .wrongType)

def wholeNumber : Value → Try Int
  | .float x => match Decimal.truncate? x with
    | some n => .ok n
    | none => fails (if x.isNaN then .invalidValue else .overflow)
  | v => match v.number? with
    | some (.whole n) => .ok n
    | _ => fails .wrongType

def convertValue (c : Conversion) (width : Nat) (precision : Option Nat) (left : Bool) (v : Value) :
    Try String :=
  let flag (f : Char) : Bool := c.flags.contains f
  let spec : Spec :=
    { align := if left then some '<' else none
      sign := if flag '+' then some '+' else if flag ' ' then some ' ' else none
      alternate := flag '#'
      zero := flag '0' && !left
      width := width
      precision := precision }
  let padded (s : String) : String :=
    if left then Text.padRight s width else Text.padLeft ' ' s width
  let text (s : String) : String :=
    padded (match precision with
      | some p => String.ofList (s.toList.take p)
      | none => s)
  let integer (base : Nat) (up : Bool) (mark : String) : Try String := do
    let n ← match v with
      | .float _ => if base == 10 then wholeNumber v else throw (.silent .wrongType)
      | v => wholeNumber v
    let ds ← if base == 10 then decimalDigits n.natAbs else pure (Nat.toDigits base n.natAbs)
    let ds := String.ofList (if up then ds.map Char.toUpper else ds)
    let ds := Text.padLeft '0' ds (precision.getD 0)
    let sign := signOf spec (n < 0) ++ (if flag '#' then mark else "")
    return { spec with precision := none }.pad '>' sign ds
  let floating : Try String := do
    match v.number? with
    | some n => formatFloat { spec with kind := some c.kind } (← n.toFloat)
    | none => throw (.silent .wrongType)
  match c.kind with
  | 's' => (plainText v).map text
  | 'r' => (literalText v).map text
  | 'a' => if hasHuge v then refused else .ok (text (asciiLiteral v))
  | 'd' | 'i' | 'u' => integer 10 false ""
  | 'x' => integer 16 false "0x"
  | 'X' => integer 16 true "0X"
  | 'o' => integer 8 false "0o"
  | 'c' => match v with
    | .str s => if s.length == 1 then .ok (padded s) else fails .wrongType
    | v => match v.number? with
      | some (.whole n) =>
        if 0 ≤ n && n ≤ 0x10FFFF then .ok (padded (String.ofList [Char.ofNat n.toNat]))
        else fails .overflow
      | _ => fails .wrongType
  | k => if "eEfFgG".toList.contains k then floating else refused

def conversion (cs : Chars) (a : PercentArgs) : Try (String × Chars × PercentArgs) := do
  let (a, cs) ← match cs with
    | '(' :: cs => match a.named with
      | none => throw (.silent .wrongType)
      | some m => match takeKey 0 cs with
        | none => refused
        | some (k, cs) => do
          let v ← Value.item m (.str (String.ofList k))
          pure ({ a with rest := [v] }, cs)
    | cs => pure (a, cs)
  let flags := cs.takeWhile isFlag
  let (width, cs) := takeAmount (cs.drop flags.length)
  let (w, a) ← resolve maxAmount a width
  let (precision, cs) := match cs with
    | '.' :: cs => match takeAmount cs with
      | (.absent, cs) => (Amount.given 0, cs)
      | r => r
    | cs => (.absent, cs)
  let (p, a) ← resolve 0x7fffffff a precision
  let cs := match cs with
    | c :: r => if c == 'l' || c == 'h' || c == 'L' then r else cs
    | [] => cs
  match cs with
  | [] => refused
  | k :: rest =>
    let (v, a) ← takeArg a
    let left := flags.contains '-' || (w.getD 0) < 0
    let t ← convertValue { flags, width, precision, kind := k } (w.getD 0).natAbs
      (p.map Int.toNat) left v
    return (t, rest, a)

def renderPercentChars : Nat → Chars → PercentArgs → Try (String × PercentArgs)
  | 0, _, a => .ok ("", a)
  | _ + 1, [], a => .ok ("", a)
  | fuel + 1, '%' :: '%' :: cs, a => do
    let (r, a) ← renderPercentChars fuel cs a
    return ("%" ++ r, a)
  | fuel + 1, '%' :: cs, a => do
    let (t, rest, a) ← conversion cs a
    let (r, a) ← renderPercentChars fuel rest a
    return (t ++ r, a)
  | fuel + 1, cs, a => do
    let t := cs.takeWhile (· != '%')
    let (r, a) ← renderPercentChars fuel (cs.dropWhile (· != '%')) a
    return (String.ofList t ++ r, a)

/-- A template with the arguments `args`: a sequence of values, something that can be asked for
names, or a single value. All arguments have to be used unless names can be asked for. -/
def renderPercent (s : String) (args : Value) : Try String := do
  let start : PercentArgs := match args with
    | .tuple vs => ⟨vs, none⟩
    | .map _ | .list _ | .bytes _ => ⟨[args], some args⟩
    | v => ⟨[v], none⟩
  let (t, a) ← renderPercentChars (s.length + 1) s.toList start
  if a.named.isNone && !a.rest.isEmpty then throw (.silent .wrongType) else return t

def percentForm : String :=
  "%\\(\\w+\\)[#0+ -]*(\\*|\\d+)?(\\.(\\*|\\d+))?[diouxefgcrsaDIOUXEFGCRSA%]"

def occurs (p : Pattern.Regex) : Nat → Chars → Bool
  | 0, _ => false
  | n + 1, cs =>
    (Pattern.matchAt p (String.ofList cs)).isSome ||
      match cs with
      | [] => false
      | _ :: cs => occurs p n cs

def checkPercent (s : String) : Try Unit :=
  match Pattern.compile percentForm with
  | .error e => .error e
  | .ok c =>
    if occurs c.pattern (s.length + 1) s.toList then .ok () else fails .invalidValue

def isNameStart (c : Char) : Bool :=
  c == '_' || (c.isAlpha && c.toNat < 128)

def isNameChar (c : Char) : Bool :=
  c == '_' || (c.isAlphanum && c.toNat < 128)

inductive DollarPiece where
  | text (s : String)
  | field (name : String)
  | bad
deriving Repr, DecidableEq

def dollarPieces : Nat → Chars → List DollarPiece
  | 0, _ => []
  | _ + 1, [] => []
  | fuel + 1, '$' :: '$' :: cs => .text "$" :: dollarPieces fuel cs
  | fuel + 1, '$' :: '{' :: cs =>
    let n := cs.takeWhile isNameChar
    match n, cs.dropWhile isNameChar with
    | c :: _, '}' :: rest =>
      if isNameStart c then .field (String.ofList n) :: dollarPieces fuel rest
      else .bad :: dollarPieces fuel cs
    | _, _ => .bad :: dollarPieces fuel cs
  | fuel + 1, '$' :: c :: cs =>
    if isNameStart c then
      .field (String.ofList (c :: cs.takeWhile isNameChar)) ::
        dollarPieces fuel (cs.dropWhile isNameChar)
    else .bad :: dollarPieces fuel (c :: cs)
  | fuel + 1, '$' :: [] => .bad :: dollarPieces fuel []
  | fuel + 1, cs =>
    .text (String.ofList (cs.takeWhile (· != '$'))) ::
      dollarPieces fuel (cs.dropWhile (· != '$'))

def readDollars (s : String) : List DollarPiece :=
  dollarPieces (s.length + 1) s.toList

def checkDollars (s : String) : Try Unit :=
  let ps := readDollars s
  if ps.contains .bad then fails .invalidValue
  else if ps.any fun p => match p with
      | .field _ => true
      | _ => false
    then .ok ()
  else fails .invalidValue

def renderDollars (fields : Named) (s : String) : Try String :=
  go (readDollars s)
where
  go : List DollarPiece → Try String
    | [] => .ok ""
    | .text t :: ps => (go ps).map (t ++ ·)
    | .bad :: _ => fails .invalidValue
    | .field n :: ps => match fields.lookup n with
      | none => fails .unknownKey
      | some v => (go ps).map (v.display Value.plainRef ++ ·)

end Launchpad.Format
