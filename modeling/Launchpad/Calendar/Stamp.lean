import Launchpad.Calendar
import Launchpad.Decimal.Exact

/-!
Time stamps: moments from seconds since 1970, and their texts after a template with percent signs.
-/

namespace Launchpad.Calendar

def roundEven (x : Float) : Int :=
  (Decimal.whole? Decimal.roundedQuotient x).getD 0

def wholeInt (x : Float) : Int :=
  (Decimal.truncate? x).getD 0

/-- The moment `x` seconds after the beginning of 1970, to the microsecond, if it lies in a year
of the calendar. -/
def Moment.ofSeconds? (x : Float) : Option Moment :=
  if x.isNaN || x.isInf || x.abs > 1.0e15 then none
  else
    let whole := if x < 0 then x.ceil else x.floor
    let micros := wholeInt whole * 1000000 + roundEven ((x - whole) * 1.0e6)
    if micros < -62135596800000000 || micros > 253402300799999999 then none
    else some (Moment.ofMicros micros)

def dayNames : List String :=
  ["Monday", "Tuesday", "Wednesday", "Thursday", "Friday", "Saturday", "Sunday"]

def monthNames : List String :=
  ["January", "February", "March", "April", "May", "June", "July", "August", "September",
    "October", "November", "December"]

def short (s : String) : String :=
  String.ofList (s.toList.take 3)

def hour12 (h : Nat) : Nat :=
  if h % 12 == 0 then 12 else h % 12

/-- How a directive asks to be laid out: the padding of its number, its case, and its width. -/
structure Layout where
  pad : Option Char := none
  upper : Bool := false
  change : Bool := false
  width : Nat := 0
deriving Repr, DecidableEq

def Layout.text (l : Layout) (upper lower : Bool) (s : String) : String :=
  let s := if lower then String.ofList (s.toList.map Char.toLower)
    else if upper then String.ofList (s.toList.map Char.toUpper) else s
  let fill := if l.pad == some '0' then '0' else ' '
  String.ofList (List.replicate (l.width - s.length) fill) ++ s

def Layout.number (l : Layout) (digits : Nat) (n : Int) (spaces : Bool) : String :=
  let sign := if n < 0 then "-" else ""
  let body := toString n.natAbs
  let places := max digits l.width
  let pad := if spaces && l.pad != some '0' && l.pad != some '-' then some '_' else l.pad
  let missing := places - (sign.length + body.length)
  let run (c : Char) : String := String.ofList (List.replicate missing c)
  match pad with
  | some '-' => l.text false false (sign ++ body)
  | some '_' => run ' ' ++ sign ++ body
  | _ => sign ++ run '0' ++ body

/-- The day of the year, from 0, of the Monday of the week with the year's first Thursday, counted
back from the day `yday` that has the weekday `wday` (Sunday being 0). -/
def isoWeekDays (yday wday : Int) : Int :=
  yday - (yday - wday + 382) % 7 + 3

def Date.isoWeek (d : Date) : Int × Int :=
  let yday : Int := d.dayOfYear - 1
  let wday : Int := (d.weekday + 1) % 7
  let length (y : Int) : Int := if isLeap y then 366 else 365
  let days := isoWeekDays yday wday
  if days < 0 then
    (d.year - 1, isoWeekDays (yday + length (d.year - 1)) wday / 7 + 1)
  else
    let next := isoWeekDays (yday - length d.year) wday
    if 0 ≤ next then (d.year + 1, next / 7 + 1) else (d.year, days / 7 + 1)

def admits (modifier : Option Char) (c : Char) : Bool :=
  match modifier with
  | none => true
  | some 'E' => "cnprstuxyzCPRTXYZ%".toList.contains c
  | some _ => "bdeghjklmnprstuwyzBCGHIMPRSTUVWZ%".toList.contains c

def Moment.directive? (t : Moment) (l : Layout) (c : Char) : Option String :=
  let d := t.date
  let dayName := (dayNames[d.weekday]?).getD ""
  let monthName := (monthNames[d.month - 1]?).getD ""
  let half := if t.hour < 12 then "AM" else "PM"
  let two (n : Nat) : String := padded 2 n
  let day := two d.month ++ "/" ++ two d.day ++ "/" ++ two (d.year.toNat % 100)
  let clock := two t.hour ++ ":" ++ two t.minute ++ ":" ++ two t.second
  let blankDay := if d.day < 10 then " " ++ toString d.day else toString d.day
  let name (s : String) : Option String := some (l.text (l.upper || l.change) false s)
  let whole (s : String) : Option String := some (l.text l.upper false s)
  let num (digits : Nat) (n : Int) : Option String := some (l.number digits n false)
  let wday := (d.weekday + 1) % 7
  match c with
  | '%' => some (l.text false false "%")
  | 'n' => some (l.text false false "\n")
  | 't' => some (l.text false false "\t")
  | 'a' => name (short dayName)
  | 'A' => name dayName
  | 'b' | 'h' => name (short monthName)
  | 'B' => name monthName
  | 'c' => whole (short dayName ++ " " ++ short monthName ++ " " ++ blankDay ++ " " ++ clock ++
      " " ++ toString d.year)
  | 'C' => num 1 (d.year / 100)
  | 'x' | 'D' => whole day
  | 'd' => num 2 d.day
  | 'e' => some (l.number 2 d.day true)
  | 'F' => whole (toString d.year ++ "-" ++ two d.month ++ "-" ++ two d.day)
  | 'H' => num 2 t.hour
  | 'I' => num 2 (hour12 t.hour)
  | 'k' => some (l.number 2 t.hour true)
  | 'l' => some (l.number 2 (hour12 t.hour) true)
  | 'j' => num 3 d.dayOfYear
  | 'M' => num 2 t.minute
  | 'm' => num 2 d.month
  | 'P' => some (l.text false true half)
  | 'p' => some (l.text (l.upper && !l.change) l.change half)
  | 'R' => whole (two t.hour ++ ":" ++ two t.minute)
  | 'r' => whole (two (hour12 t.hour) ++ ":" ++ two t.minute ++ ":" ++ two t.second ++ " " ++ half)
  | 'S' => num 2 t.second
  | 's' => some (l.text false false
      (toString (d.toDays * 86400 + (t.hour * 3600 + t.minute * 60 + t.second : Nat))))
  | 'T' | 'X' => whole clock
  | 'u' => num 1 (d.weekday + 1 : Nat)
  | 'U' => num 2 ((d.dayOfYear + 6 - wday) / 7 : Nat)
  | 'V' => num 2 d.isoWeek.2
  | 'g' => num 2 (d.isoWeek.1 % 100)
  | 'G' => num 1 d.isoWeek.1
  | 'W' => num 2 ((d.dayOfYear + 6 - d.weekday) / 7 : Nat)
  | 'w' => num 1 wday
  | 'Y' => num 1 d.year
  | 'y' => num 2 (d.year % 100)
  | 'Z' => some (if l.pad == some '-' then "" else l.text false false "")
  | 'z' => some ""
  | _ => none

def takeFlags : Layout → List Char → Layout × List Char
  | l, [] => (l, [])
  | l, c :: cs =>
    if c == '_' || c == '-' || c == '0' then takeFlags { l with pad := some c } cs
    else if c == '^' then takeFlags { l with upper := true } cs
    else if c == '#' then takeFlags { l with change := true } cs
    else (l, c :: cs)

/-- What stands behind a percent sign: the text of a directive, or what was written if there is no
such directive, and the rest. No field is wider than `space`. -/
def Moment.takeDirective (t : Moment) (space : Nat) (cs : List Char) : String × List Char :=
  let (l, rest) := takeFlags {} cs
  let ds := rest.takeWhile Char.isDigit
  let l := { l with width := ds.foldl (fun n c => min space (n * 10 + (c.toNat - 48))) 0 }
  let rest := rest.drop ds.length
  let (modifier, rest) := match rest with
    | 'E' :: r => (some 'E', r)
    | 'O' :: r => (some 'O', r)
    | r => (none, r)
  let written (upper : Bool) (left : List Char) : String :=
    l.text (l.upper || upper) false (String.ofList ('%' :: cs.take (cs.length - left.length)))
  match rest with
  | [] => (written false [], [])
  | c :: rest =>
    match (if admits modifier c then t.directive? l c else none) with
    | some s => (s, rest)
    | none => (written (l.change && (c == 'b' || c == 'h')) rest, rest)

def Moment.expand (t : Moment) (space : Nat) : Nat → List Char → String
  | 0, _ => ""
  | _ + 1, [] => ""
  | fuel + 1, '%' :: cs =>
    let (s, rest) := t.takeDirective space cs
    s ++ t.expand space fuel rest
  | fuel + 1, c :: cs => String.ofList [c] ++ t.expand space fuel cs

def Moment.prepare (t : Moment) : List Char → List Char
  | '%' :: 'f' :: cs => (padded 6 t.micro).toList ++ t.prepare cs
  | '%' :: 'z' :: cs =>
    (match t.offset with
      | none => []
      | some o => (offsetText o).toList.filter (· != ':')) ++ t.prepare cs
  | '%' :: 'Z' :: cs =>
    (match t.offset with
      | none => []
      | some o => ("UTC" ++ (if o == 0 then "" else offsetText o)).toList) ++ t.prepare cs
  | '%' :: c :: cs => '%' :: c :: t.prepare cs
  | c :: cs => c :: t.prepare cs
  | [] => []

def stampSpace : Nat → Nat → Nat → Nat
  | 0, space, _ => space
  | fuel + 1, space, length =>
    if space ≥ 256 * length then space else stampSpace fuel (2 * space) length

def Moment.render (t : Moment) (template : String) : String :=
  let cs := t.prepare (template.toList.takeWhile (· != Char.ofNat 0))
  let space := stampSpace 64 1024 cs.length
  let s := t.expand space (cs.length + 1) cs
  if s.length < space then s else ""

end Launchpad.Calendar
