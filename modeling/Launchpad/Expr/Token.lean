import Launchpad.Text.Escape
import Launchpad.Text.Compose
import Launchpad.Text.Lines
import Launchpad.Text.Number

/-!
The tokens of expressions: names, keywords, numbers, quoted texts and signs. Between brackets line
ends count as blanks; outside they end the expression, and a line that is indented behind them is
told apart from other mistakes.
-/

namespace Launchpad.Expr

inductive Tok where
  | name (s : String)
  | word (s : String)
  | int (n : Nat)
  | float (x : Float)
  | imaginary (x : Float)
  | str (s : String)
  | bytes (bs : List UInt8)
  | template
  | op (s : String)
  | newline
  | indent
  | bad

def keywords : List String :=
  ["False", "None", "True", "and", "as", "assert", "async", "await", "break", "class", "continue",
    "def", "del", "elif", "else", "except", "finally", "for", "from", "global", "if", "import",
    "in", "is", "lambda", "nonlocal", "not", "or", "pass", "raise", "return", "try", "while",
    "with", "yield"]

def signs : List String :=
  ["...", "**", "//", "<<", ">>", "<=", ">=", "==", "!=", "->", ":=", "+", "-", "*", "/", "%", "(",
    ")", "[", "]", "\x7b", "\x7d", ",", ":", ".", "<", ">", "=", "&", "|", "^", "~", "@", ";"]

def takeSignToken (cs : Chars) : Option (String × Chars) :=
  (signs.find? fun s => s.toList.isPrefixOf cs).map fun s => (s, cs.drop s.length)

def inWord (c : Char) : Bool :=
  c == '_' || c.toNat ≥ 128 || c.isAlphanum

def wordsBehindNumber : List String :=
  ["and", "else", "for", "if", "in", "is", "or", "not"]

def endsNumber (rest : Chars) : Bool :=
  wordsBehindNumber.any (fun w => w.toList.isPrefixOf rest) ||
    match rest with
    | c :: _ => !inWord c
    | [] => true

def digitTail (ok : Char → Bool) : Chars → Split
  | [] => some ([], [])
  | ['_'] => none
  | '_' :: c :: cs =>
    if ok c then (digitTail ok cs).map fun (ds, rest) => (c :: ds, rest) else none
  | c :: cs =>
    if ok c then (digitTail ok cs).map fun (ds, rest) => (c :: ds, rest) else some ([], c :: cs)

/-- Digits with single underscores between them, without the underscores, and the rest. The first
character has to be a digit. -/
def digitRun (ok : Char → Bool) : Chars → Split
  | [] => none
  | c :: cs =>
    if ok c then (digitTail ok cs).map fun (ds, rest) => (c :: ds, rest) else none

def isHex (c : Char) : Bool := (Pattern.hexValue? c).isSome
def isOct (c : Char) : Bool := '0' ≤ c && c ≤ '7'
def isBin (c : Char) : Bool := c == '0' || c == '1'

def basedNumber (base : Nat) (ok : Char → Bool) (cs : Chars) : Option (Tok × Chars) := do
  let cs := match cs with
    | '_' :: r => r
    | r => r
  let (ds, rest) ← digitRun ok cs
  if endsNumber rest then return (.int (Pattern.numberIn base ds), rest) else none

/-- The exponent behind a mantissa: its text and the rest. Without one the letter may only begin
the word `else`. -/
def takeExponent (cs : Chars) : Split :=
  match cs with
  | c :: rest =>
    if c == 'e' || c == 'E' then
      match rest with
      | '+' :: r => (digitRun Char.isDigit r).map fun (ds, r) => (c :: '+' :: ds, r)
      | '-' :: r => (digitRun Char.isDigit r).map fun (ds, r) => (c :: '-' :: ds, r)
      | d :: _ =>
        if d.isDigit then (digitRun Char.isDigit rest).map fun (ds, r) => (c :: ds, r)
        else some ([], cs)
      | [] => some ([], cs)
    else some ([], cs)
  | [] => some ([], [])

def maxDigits : Nat := 4300

def decimalNumber (cs : Chars) : Option (Tok × Chars) := do
  let (whole, rest) ← match cs with
    | '.' :: _ => some ([], cs)
    | cs => digitRun Char.isDigit cs
  let (frac, rest, pointed) ← match rest with
    | '.' :: r => match r with
      | d :: _ =>
        if d.isDigit then (digitRun Char.isDigit r).map fun (f, r) => (f, r, true)
        else some ([], r, true)
      | [] => some ([], [], true)
    | r => some ([], r, false)
  let (exp, rest) ← takeExponent rest
  let amount := Text.readDecimal? (whole ++ (if pointed then '.' :: frac else []) ++ exp)
  let imaginary (rest : Chars) : Option (Tok × Chars) := do
    let x ← amount
    if endsNumber rest then return (.imaginary x, rest) else none
  match rest with
  | 'j' :: rest | 'J' :: rest => imaginary rest
  | rest =>
    if !endsNumber rest then none
    else if pointed || !exp.isEmpty then return (.float (← amount), rest)
    else if whole.all (· == '0') then return (.int 0, rest)
    else if whole.head? == some '0' || whole.length > maxDigits then none
    else return (.int (Text.natOf whole), rest)

def takeNumberToken : Chars → Option (Tok × Chars)
  | '0' :: 'x' :: cs | '0' :: 'X' :: cs => basedNumber 16 isHex cs
  | '0' :: 'o' :: cs | '0' :: 'O' :: cs => basedNumber 8 isOct cs
  | '0' :: 'b' :: cs | '0' :: 'B' :: cs => basedNumber 2 isBin cs
  | cs => decimalNumber cs

def takeQuotedBody (triple : Bool) (q : Char) : Chars → Chars → Split
  | [], _ => none
  | '\\' :: c :: cs, acc => takeQuotedBody triple q cs (c :: '\\' :: acc)
  | ['\\'], _ => none
  | c :: cs, acc =>
    if c == q then
      if triple then
        match cs with
        | d :: e :: rest =>
          if d == q && e == q then some (acc.reverse, rest)
          else takeQuotedBody triple q cs (c :: acc)
        | _ => none
      else some (acc.reverse, cs)
    else if c == '\n' && !triple then none
    else takeQuotedBody triple q cs (c :: acc)

structure TextKind where
  raw : Bool := false
  bytes : Bool := false
  fields : Bool := false
deriving Repr, DecidableEq

def TextKind.ofLetters? (s : String) : Option TextKind :=
  match String.ofList (s.toList.map Char.toLower) with
  | "" | "u" => some {}
  | "r" => some { raw := true }
  | "b" => some { bytes := true }
  | "br" | "rb" => some { raw := true, bytes := true }
  | "f" => some { fields := true }
  | "fr" | "rf" => some { raw := true, fields := true }
  | _ => none

def asciiBytes (cs : Chars) : Option (List UInt8) :=
  if cs.all (·.toNat < 128) then some (cs.map (·.toNat.toUInt8)) else none

def TextKind.token? (k : TextKind) (body : Chars) : Option Tok :=
  if k.fields then some .template
  else if k.bytes then
    (if k.raw then asciiBytes body else Text.unescapeBytes (body.length + 1) body).map .bytes
  else if k.raw then some (.str (String.ofList body))
  else (Text.unescapeChars (body.length + 1) body).map fun cs => .str (String.ofList cs)

def takeText (k : TextKind) (q : Char) (cs : Chars) : Option (Tok × Chars) := do
  let (body, rest) ← match cs with
    | a :: b :: r =>
      if a == q && b == q then takeQuotedBody true q r [] else takeQuotedBody false q cs []
    | cs => takeQuotedBody false q cs []
  return (← k.token? body, rest)

def isQuote (c : Char) : Bool := c == '"' || c == '\''

def takeWord (cs : List Char) : Option (Tok × List Char) :=
  let w := cs.takeWhile inWord
  let rest := cs.dropWhile inWord
  let word := String.ofList w
  let named : Option (Tok × List Char) :=
    if keywords.contains word then some (.word word, rest)
    else if Text.isIdentifier word then some (.name (Text.identifier word), rest)
    else none
  match rest with
  | q :: rest' =>
    if isQuote q then
      match TextKind.ofLetters? word with
      | some k => takeText k q rest'
      | none => named
    else named
  | [] => named

def indentation : Nat → List Char → Nat × List Char
  | col, [] => (col, [])
  | col, c :: cs =>
    if c == ' ' then indentation (col + 1) cs
    else if c == '\t' then indentation ((col / 8 + 1) * 8) cs
    else if c == Char.ofNat 12 then indentation 0 cs
    else (col, c :: cs)

def maxBrackets : Nat := 200

def tokensFrom : Nat → Nat → Bool → List Char → List Tok
  | 0, _, _, _ => [.bad]
  | fuel + 1, depth, true, cs =>
    match indentation 0 cs with
    | (_, '\n' :: cs) => tokensFrom fuel depth true cs
    | (_, '#' :: cs) => tokensFrom fuel depth true (cs.dropWhile (· != '\n'))
    | (0, cs) => tokensFrom fuel depth false cs
    | (_ + 1, _) => [.indent]
  | _ + 1, _, false, [] => []
  | fuel + 1, depth, false, c :: cs =>
    let next : Option (Tok × List Char) → List Tok
      | some (t, rest) => t :: tokensFrom fuel depth false rest
      | none => [.bad]
    if c == ' ' || c == '\t' || c == Char.ofNat 12 then tokensFrom fuel depth false cs
    else if c == '\n' then
      if depth > 0 then tokensFrom fuel depth false cs
      else .newline :: tokensFrom fuel depth true cs
    else if c == '#' then tokensFrom fuel depth false (cs.dropWhile (· != '\n'))
    else if c == '\\' then
      match cs with
      | '\n' :: d :: cs => tokensFrom fuel depth false (d :: cs)
      | _ => [.bad]
    else if isQuote c then next (takeText {} c cs)
    else if c.isDigit || (c == '.' && cs.head?.any Char.isDigit) then
      next (takeNumberToken (c :: cs))
    else if inWord c then next (takeWord (c :: cs))
    else match takeSignToken (c :: cs) with
      | some (s, rest) =>
        if s == "(" || s == "[" || s == "\x7b" then
          if depth < maxBrackets then .op s :: tokensFrom fuel (depth + 1) false rest else [.bad]
        else if s == ")" || s == "]" || s == "\x7d" then
          .op s :: tokensFrom fuel (depth - 1) false rest
        else .op s :: tokensFrom fuel depth false rest
      | none => [.bad]

def scan (s : String) : List Tok :=
  let cs := (Text.unifyLineEnds s).toList.dropWhile fun c => c == ' ' || c == '\t'
  tokensFrom (2 * cs.length + 2) 0 true cs

end Launchpad.Expr
