import Launchpad.Text.Number
import Launchpad.Pattern.Reader
import Launchpad.Yaml.Failure

/-!
The types of plain texts in a parameter file: truth values, numbers in several notations, dates,
and nothing.
-/

namespace Launchpad.Yaml

inductive ScalarType where
  | null | bool | int | float | timestamp | binary | str | merge | equal
deriving DecidableEq, Repr

def dropSign : Chars → Chars
  | '+' :: cs => cs
  | '-' :: cs => cs
  | cs => cs

def isDigitBar (c : Char) : Bool := c.isDigit || c == '_'

def sexagesimalTail : Chars → Nat × Chars
  | ':' :: a :: b :: cs =>
    if '0' ≤ a && a ≤ '5' && b.isDigit then
      let (n, rest) := sexagesimalTail cs
      (n + 1, rest)
    else if a.isDigit then
      let (n, rest) := sexagesimalTail (b :: cs)
      (n + 1, rest)
    else (0, ':' :: a :: b :: cs)
  | [':', a] => if a.isDigit then (1, []) else (0, [':', a])
  | cs => (0, cs)

def isInt (text : Chars) : Bool :=
  let cs := dropSign text
  (match cs with
    | '0' :: 'b' :: ds => !ds.isEmpty && ds.all fun c => c == '0' || c == '1' || c == '_'
    | '0' :: 'x' :: ds =>
      !ds.isEmpty && ds.all fun c => (Pattern.hexValue? c).isSome || c == '_'
    | '0' :: ds => ds.all fun c => ('0' ≤ c && c ≤ '7') || c == '_'
    | d :: ds =>
      d.isDigit &&
        (ds.all isDigitBar ||
          let rest := ds.dropWhile isDigitBar
          let (n, rest) := sexagesimalTail rest
          n > 0 && rest.isEmpty)
    | [] => false)

def isExponent : Chars → Bool
  | [] => true
  | e :: s :: ds =>
    (e == 'e' || e == 'E') && (s == '+' || s == '-') && !ds.isEmpty && ds.all Char.isDigit
  | _ => false

def isFloat (text : Chars) : Bool :=
  let cs := dropSign text
  let pointed := match cs with
    | d :: ds =>
      d.isDigit &&
        (match ds.dropWhile isDigitBar with
          | '.' :: rest => isExponent (rest.dropWhile isDigitBar)
          | rest =>
            let (n, rest) := sexagesimalTail rest
            n > 0 && (match rest with
              | '.' :: rest => rest.all isDigitBar
              | _ => false))
    | [] => false
  let bare := match text with
    | '.' :: d :: ds => d.isDigit && isExponent (ds.dropWhile isDigitBar)
    | _ => false
  let word := String.ofList cs
  pointed || bare || [".inf", ".Inf", ".INF"].contains word ||
    [".nan", ".NaN", ".NAN"].contains (String.ofList text)

def bools : List (String × Bool) :=
  [("yes", true), ("no", false), ("true", true), ("false", false), ("on", true), ("off", false)]

def lower (s : String) : String := String.ofList (s.toList.map Char.toLower)

def plainCase (s : String) : Bool :=
  let l := lower s
  s == l || s == String.ofList (l.toList.map Char.toUpper) ||
    s == (match l.toList with
      | c :: cs => String.ofList (c.toUpper :: cs)
      | [] => "")

def isBool (s : String) : Bool :=
  plainCase s && (bools.lookup (lower s)).isSome

def isNull (s : String) : Bool :=
  s == "" || s == "~" || s == "null" || s == "Null" || s == "NULL"

structure Stamp where
  year : Chars
  month : Chars
  day : Chars
  clock : Option (Chars × Chars × Chars) := none
  fraction : Chars := []
  zone : Option (Bool × Chars × Chars) := none

def oneOrTwo : Chars → Split
  | a :: b :: cs =>
    if a.isDigit then (if b.isDigit then some ([a, b], cs) else some ([a], b :: cs)) else none
  | [a] => if a.isDigit then some ([a], []) else none
  | [] => none

def twoDigits : Chars → Split
  | a :: b :: cs => if a.isDigit && b.isDigit then some ([a, b], cs) else none
  | _ => none

def readZone (cs : Chars) : Option (Option (Bool × Chars × Chars)) :=
  match cs.dropWhile fun c => c == ' ' || c == '\t' with
  | [] => if cs.isEmpty then some none else none
  | ['Z'] => some (some (false, [], []))
  | s :: rest =>
    if s == '+' || s == '-' then do
      let (h, rest) ← oneOrTwo rest
      match rest with
      | [] => return some (s == '-', h, [])
      | ':' :: rest =>
        let (m, rest) ← twoDigits rest
        if rest.isEmpty then return some (s == '-', h, m) else none
      | _ => none
    else none

def readStamp (cs : Chars) : Option Stamp := do
  let (y1, cs) ← twoDigits cs
  let (y2, cs) ← twoDigits cs
  let year := y1 ++ y2
  match cs with
  | '-' :: cs =>
    let (month, rest) ← oneOrTwo cs
    match rest with
    | '-' :: rest =>
      let (day, rest) ← oneOrTwo rest
      match rest with
      | [] => if month.length == 2 && day.length == 2 then return { year, month, day } else none
      | c :: rest' =>
        let gap := c == ' ' || c == '\t'
        if !(c == 'T' || c == 't' || gap) then none
        let rest := if gap then rest.dropWhile fun c => c == ' ' || c == '\t' else rest'
        let (hour, rest) ← oneOrTwo rest
        match rest with
        | ':' :: rest =>
          let (minute, rest) ← twoDigits rest
          match rest with
          | ':' :: rest =>
            let (second, rest) ← twoDigits rest
            let (fraction, rest) := match rest with
              | '.' :: r => (r.takeWhile Char.isDigit, r.dropWhile Char.isDigit)
              | r => ([], r)
            let zone ← readZone rest
            return { year, month, day, clock := some (hour, minute, second), fraction, zone }
          | _ => none
        | _ => none
    | _ => none
  | _ => none

def typeOf (s : String) : ScalarType :=
  let cs := s.toList
  if isNull s then .null
  else if isBool s then .bool
  else if isFloat cs then .float
  else if isInt cs then .int
  else if (readStamp cs).isSome then .timestamp
  else if s == "<<" then .merge
  else if s == "=" then .equal
  else .str

def natIn : Chars → Nat :=
  Pattern.numberIn 10

def wrongText {α : Type} (problem : String) : Except Failure α :=
  .error (.plain .invalidValue problem)

def wholeIn (base : Nat) (cs : Chars) : Except Failure Int :=
  let s := String.ofList cs
  match if base == 10 then Text.readInt? s else Text.readIntIn? base s with
  | some n => .ok n
  | none =>
    let text := Text.quote s
    wrongText s!"invalid literal for int() with base {base}: {text}"

def pieces (cs : Chars) : List Chars :=
  (Text.splitAt (String.ofList cs) ':').map String.toList

def readInt (s : String) : Except Failure Value := do
  let cs := s.toList.filter (· != '_')
  if cs.isEmpty then throw (.plain .outOfRange "string index out of range")
  let neg := cs.head? == some '-'
  let n ← match dropSign cs with
    | [] => throw (.plain .outOfRange "string index out of range")
    | ['0'] => pure 0
    | '0' :: 'b' :: ds => wholeIn 2 ds
    | '0' :: 'x' :: ds => wholeIn 16 ds
    | '0' :: ds => wholeIn 8 ('0' :: ds)
    | ds =>
      if ds.contains ':' then do
        let ns ← (pieces ds).mapM (wholeIn 10)
        pure (ns.foldl (fun n d => 60 * n + d) 0)
      else wholeIn 10 ds
  return .int (if neg then -n else n)

def realNumber (cs : Chars) : Except Failure Float :=
  match Text.readFloat? (String.ofList cs) with
  | some x => .ok x
  | none => wrongText ("could not convert string to float: " ++ Text.quote (String.ofList cs))

def readReal (s : String) : Except Failure Value := do
  let cs := (s.toList.filter (· != '_')).map Char.toLower
  if cs.isEmpty then throw (.plain .outOfRange "string index out of range")
  let neg := cs.head? == some '-'
  let cs := dropSign cs
  let signed (x : Float) : Value := .float (if neg then -1.0 * x else 1.0 * x)
  if cs == ".inf".toList then return signed (1.0 / 0.0)
  else if cs == ".nan".toList then return .float (0.0 / 0.0)
  else if cs.contains ':' then
    let xs ← (pieces cs).mapM realNumber
    let (x, _) := xs.reverse.foldl
      (fun (acc : Float × Float) d => (acc.1 + d * acc.2, acc.2 * 60.0)) (0.0, 1.0)
    return signed x
  else return signed (← realNumber cs)

def checkDate (d : Calendar.Date) : Except Failure Unit :=
  if d.year == 0 then wrongText "year 0 is out of range"
  else if d.month == 0 || d.month > 12 then wrongText "month must be in 1..12"
  else if !d.valid then wrongText "day is out of range for month"
  else .ok ()

def readTime (s : String) : Except Failure Value := do
  match readStamp s.toList with
  | none => throw (.plain .noAttribute)
  | some t =>
    let date : Calendar.Date := ⟨natIn t.year, natIn t.month, natIn t.day⟩
    match t.clock with
    | none =>
      checkDate date
      return .date date
    | some (h, m, sec) =>
      let hour := natIn h
      let minute := natIn m
      let second := natIn sec
      let digits := t.fraction.take 6
      let micro := natIn digits * Nat.pow 10 (6 - digits.length)
      let offset ← match t.zone with
        | none => pure none
        | some (neg, zh, zm) =>
          let secs : Int := 3600 * natIn zh + 60 * natIn zm
          if secs ≥ 86400 then
            wrongText ("offset must be a timedelta strictly between " ++
              "-timedelta(hours=24) and timedelta(hours=24)")
          pure (some (if neg then -secs else secs))
      checkDate date
      if hour > 23 then wrongText "hour must be in 0..23"
      if minute > 59 then wrongText "minute must be in 0..59"
      if second > 59 then wrongText "second must be in 0..59"
      return .moment ⟨date, hour, minute, second, micro, offset⟩

end Launchpad.Yaml
