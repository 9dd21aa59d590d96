import Launchpad.Text.Letter

/-!
Numbers in texts: with blanks around them, a sign, and single underscores between digits, which
may be those of any script.
-/

namespace Launchpad.Text

def digits? (cs : Chars) : Option Chars :=
  match cs with
  | [] => none
  | c :: _ => if c.isDigit then go cs else none
where
  go : Chars → Option Chars
    | [] => some []
    | '_' :: c :: cs => if c.isDigit then (go cs).map (c :: ·) else none
    | c :: cs => if c.isDigit then (go cs).map (c :: ·) else none

def natOf (cs : Chars) : Nat :=
  cs.foldl (fun n c => n * 10 + (c.toNat - 48)) 0

def takeSign : Chars → Bool × Chars
  | '-' :: cs => (true, cs)
  | '+' :: cs => (false, cs)
  | cs => (false, cs)

/-- The characters of a number without the blanks around it, with the digits of all scripts as
ASCII ones. -/
def numeral (s : String) : Chars :=
  let gap (c : Char) : Bool := (9 ≤ c.toNat && c.toNat ≤ 13) || c == ' '
  let plain (c : Char) : Char :=
    if c.toNat < 127 then c
    else if isBlank c then ' '
    else match decimalValue? c with
      | some d => Char.ofNat (48 + d)
      | none => c
  (((s.toList.map plain).dropWhile gap).reverse.dropWhile gap).reverse

def digitLimit : Nat := 4300

def readInt? (s : String) : Option Int := do
  let (neg, cs) := takeSign (numeral s)
  let ds ← digits? cs
  if ds.length > digitLimit then none
  else
    let n := natOf ds
    return if neg then -(n : Int) else n

def digitValue? (c : Char) : Option Nat :=
  if c.isDigit then some (c.toNat - 48)
  else if 'a' ≤ c && c ≤ 'z' then some (c.toNat - 87)
  else if 'A' ≤ c && c ≤ 'Z' then some (c.toNat - 55)
  else none

def natIn? (base : Nat) : Nat → Bool → Chars → Option Nat
  | n, afterDigit, [] => if afterDigit then some n else none
  | n, afterDigit, '_' :: cs => if afterDigit then natIn? base n false cs else none
  | n, _, c :: cs => match digitValue? c with
    | some d => if d < base then natIn? base (n * base + d) true cs else none
    | none => none

def baseMark? : Nat → Option Char
  | 2 => some 'b'
  | 8 => some 'o'
  | 16 => some 'x'
  | _ => none

def readIntIn? (base : Nat) (s : String) : Option Int := do
  let (neg, cs) := takeSign (numeral s)
  let cs := match cs with
    | '0' :: m :: rest =>
      if some m.toLower == baseMark? base then
        match rest with
        | '_' :: rest => rest
        | rest => rest
      else cs
    | cs => cs
  let n ← natIn? base 0 false cs
  return if neg then -(n : Int) else n

def scientific (m : Nat) (e : Int) : Float :=
  if m == 0 then 0.0
  else if e > 400 then 1.0 / 0.0
  else if e < 0 then
    if e < -(400 + (Nat.toDigits 10 m).length : Int) then 0.0
    else Float.ofScientific m true e.natAbs
  else Float.ofScientific m false e.natAbs

def readExponent? : Chars → Option Int
  | [] => some 0
  | c :: cs =>
    if c == 'e' || c == 'E' then do
      let (neg, cs) := takeSign cs
      let ds ← digits? cs
      return if neg then -(natOf ds : Int) else natOf ds
    else none

def readDecimal? (cs : Chars) : Option Float := do
  let isNum (c : Char) : Bool := c.isDigit || c == '_'
  let whole := cs.takeWhile isNum
  let rest := cs.dropWhile isNum
  let w ← if whole.isEmpty then some [] else digits? whole
  match rest with
  | '.' :: rest =>
    let frac := rest.takeWhile isNum
    let f ← if frac.isEmpty then some [] else digits? frac
    if w.isEmpty && f.isEmpty then none
    else
      let e ← readExponent? (rest.dropWhile isNum)
      return scientific (natOf (w ++ f)) (e - f.length)
  | rest =>
    if w.isEmpty then none
    else
      let e ← readExponent? rest
      return scientific (natOf w) e

def readFloat? (s : String) : Option Float := do
  let (neg, cs) := takeSign (numeral s)
  let low := String.ofList (cs.map Char.toLower)
  let x ←
    if low == "inf" || low == "infinity" then some (1.0 / 0.0)
    else if low == "nan" then some (0.0 / 0.0)
    else readDecimal? cs
  return if neg then -x else x

def takeReal (cs : Chars) : Option (Float × Chars) := do
  let (neg, rest) := takeSign cs
  let low := rest.map Char.toLower
  let signed (x : Float) : Float := if neg then -x else x
  let isNum (c : Char) : Bool := c.isDigit || c == '_'
  if "infinity".toList.isPrefixOf low then return (signed (1.0 / 0.0), rest.drop 8)
  else if "inf".toList.isPrefixOf low then return (signed (1.0 / 0.0), rest.drop 3)
  else if "nan".toList.isPrefixOf low then return (signed (0.0 / 0.0), rest.drop 3)
  else
    let whole := rest.takeWhile isNum
    let behind := rest.drop whole.length
    let frac := match behind with
      | '.' :: r => '.' :: r.takeWhile isNum
      | _ => []
    let behind := behind.drop frac.length
    let exp := match behind with
      | e :: r =>
        if e == 'e' || e == 'E' then
          let sign := r.takeWhile (fun c => c == '+' || c == '-')
          let ds := (r.drop sign.length).takeWhile isNum
          if sign.length ≤ 1 && ds.head?.any Char.isDigit then e :: sign ++ ds else []
        else []
      | [] => []
    let x ← readDecimal? (whole ++ frac ++ exp)
    return (signed x, behind.drop exp.length)

def readComplex? (s : String) : Option (Float × Float) := do
  let cs := numeral s
  let gap (c : Char) : Bool := (9 ≤ c.toNat && c.toNat ≤ 13) || c == ' '
  let (cs, bracket) := match cs with
    | '(' :: r => (r.dropWhile gap, true)
    | r => (r, false)
  let unit (cs : Chars) : Option (Float × Chars) :=
    match cs with
    | '+' :: r => some (1.0, r)
    | '-' :: r => some (-1.0, r)
    | _ => none
  let isJ (c : Char) : Bool := c == 'j' || c == 'J'
  let (re, im, rest) ← match takeReal cs with
    | some (z, rest) =>
      if rest.head?.any isJ then some (0.0, z, rest.drop 1)
      else if rest.head?.any (fun c => c == '+' || c == '-') then do
        let (y, rest) ← takeReal rest <|> unit rest
        if rest.head?.any isJ then some (z, y, rest.drop 1) else none
      else some (z, 0.0, rest)
    | none =>
      let (y, rest) := (unit cs).getD (1.0, cs)
      if rest.head?.any isJ then some (0.0, y, rest.drop 1) else none
  let rest := rest.dropWhile gap
  match bracket, rest with
  | false, [] => return (re, im)
  | true, ')' :: rest => if rest.all gap then return (re, im) else none
  | _, _ => none

end Launchpad.Text
