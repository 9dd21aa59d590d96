/-!
Days and moments of the proleptic Gregorian calendar, for dates in parameter files and for the
time stamps of log lines.
-/

namespace Launchpad.Calendar

structure Date where
  year : Int
  month : Nat
  day : Nat
deriving DecidableEq, Repr

/-- A moment of a day, with the offset from universal time in seconds when it is known. -/
structure Moment where
  date : Date
  hour : Nat
  minute : Nat
  second : Nat
  micro : Nat
  offset : Option Int := none
deriving DecidableEq, Repr

def isLeap (y : Int) : Bool :=
  y % 4 == 0 && (y % 100 != 0 || y % 400 == 0)

def daysInMonth (y : Int) (m : Nat) : Nat :=
  match m with
  | 2 => if isLeap y then 29 else 28
  | 4 | 6 | 9 | 11 => 30
  | _ => 31

def Date.valid (d : Date) : Bool :=
  1 ≤ d.year && d.year ≤ 9999 && 1 ≤ d.month && d.month ≤ 12 && 1 ≤ d.day &&
    d.day ≤ daysInMonth d.year d.month

/-- The number of days from 1970-01-01 to a day, by the count of days in eras of 400 years that
begin in March. -/
def Date.toDays (d : Date) : Int :=
  let y := if d.month ≤ 2 then d.year - 1 else d.year
  let era := Int.fdiv y 400
  let yoe := y - era * 400
  let mp : Int := (d.month + 9) % 12
  let doy := (153 * mp + 2) / 5 + d.day - 1
  let doe := yoe * 365 + yoe / 4 - yoe / 100 + doy
  era * 146097 + doe - 719468

def Date.ofDays (n : Int) : Date :=
  let z := n + 719468
  let era := Int.fdiv z 146097
  let doe := z - era * 146097
  let yoe := (doe - doe / 1460 + doe / 36524 - doe / 146096) / 365
  let y := yoe + era * 400
  let doy := doe - (365 * yoe + yoe / 4 - yoe / 100)
  let mp := (5 * doy + 2) / 153
  let d := doy - (153 * mp + 2) / 5 + 1
  let m := if mp < 10 then mp + 3 else mp - 9
  ⟨if m ≤ 2 then y + 1 else y, m.toNat, d.toNat⟩

def Date.dayOfYear (d : Date) : Nat :=
  (d.toDays - Date.toDays ⟨d.year, 1, 1⟩ + 1).toNat

def Date.weekday (d : Date) : Nat :=
  (Int.fmod (d.toDays + 3) 7).toNat

def Moment.ofMicros (n : Int) : Moment :=
  let secs := Int.fdiv n 1000000
  let days := Int.fdiv secs 86400
  let s := (secs - days * 86400).toNat
  { date := Date.ofDays days, hour := s / 3600, minute := s / 60 % 60, second := s % 60,
    micro := (n - secs * 1000000).toNat }

def padded (w n : Nat) : String :=
  let d := toString n
  String.ofList (List.replicate (w - d.length) '0') ++ d

def Date.iso (d : Date) : String :=
  padded 4 d.year.toNat ++ "-" ++ padded 2 d.month ++ "-" ++ padded 2 d.day

def offsetText (o : Int) : String :=
  let n := o.natAbs
  let s := if n % 60 == 0 then "" else ":" ++ padded 2 (n % 60)
  (if o < 0 then "-" else "+") ++ padded 2 (n / 3600) ++ ":" ++ padded 2 (n / 60 % 60) ++ s

def Moment.iso (t : Moment) (sep : String) : String :=
  let frac := if t.micro == 0 then "" else "." ++ padded 6 t.micro
  let off := match t.offset with
    | none => ""
    | some o => offsetText o
  t.date.iso ++ sep ++ padded 2 t.hour ++ ":" ++ padded 2 t.minute ++ ":" ++
    padded 2 t.second ++ frac ++ off

end Launchpad.Calendar
