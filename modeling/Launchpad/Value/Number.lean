import Launchpad.Fault

/-!
Arithmetic on the numbers among the values. Truth values and stages count as whole numbers. An
operation on numbers of different kinds is done in the wider kind; a whole number that has no
double near it overflows there.
-/

namespace Launchpad

inductive Number where
  | whole (n : Int)
  | real (x : Float)
  | complex (re im : Float)

def Value.number? : Value → Option Number
  | .int n => some (.whole n)
  | .bool b => some (.whole (if b then 1 else 0))
  | .float x => some (.real x)
  | .complex a b => some (.complex a b)
  | .ref (.stage s) => some (.whole (match s with
    | .pristine => 0
    | .configured => 1
    | .active => 2
    | .finalized => 3))
  | _ => none

def Value.whole? (v : Value) : Option Int :=
  let ofReal (x : Float) : Option Int := (Decimal.truncate? x).filter fun n =>
    Decimal.compareInt x n == some .eq
  match v.number? with
  | some (.whole n) => some n
  | some (.real x) => ofReal x
  | some (.complex re im) => if im == 0.0 then ofReal re else none
  | none => none

namespace Number

def toValue : Number → Value
  | .whole n => .int n
  | .real x => .float x
  | .complex a b => .complex a b

def overflowed {α : Type} : Try α :=
  fails .overflow "int too large to convert to float"

def mistyped {α : Type} : Try α :=
  fails .wrongType

def byZero {α : Type} : Try α :=
  fails .divisionByZero

def floatOf (n : Int) : Try Float :=
  match Decimal.ofInt? n with
  | some x => .ok x
  | none => overflowed

def toFloat : Number → Try Float
  | .whole n => floatOf n
  | .real x => .ok x
  | .complex _ _ => mistyped

def parts : Number → Try (Float × Float)
  | .complex a b => .ok (a, b)
  | x => do return (← x.toFloat, 0.0)

def isComplex : Number → Bool
  | .complex _ _ => true
  | _ => false

def combine (whole : Int → Int → Int) (real : Float → Float → Float)
    (complex : Float × Float → Float × Float → Float × Float) (a b : Number) :
    Try Number :=
  match a, b with
  | .whole m, .whole n => .ok (.whole (whole m n))
  | a, b => do
    if a.isComplex || b.isComplex then
      let (x, y) := complex (← a.parts) (← b.parts)
      return .complex x y
    else
      let x ← a.toFloat
      let y ← b.toFloat
      return .real (real x y)

def add : Number → Number → Try Number :=
  combine (· + ·) (· + ·) fun a b => (a.1 + b.1, a.2 + b.2)

def sub : Number → Number → Try Number :=
  combine (· - ·) (· - ·) fun a b => (a.1 - b.1, a.2 - b.2)

def complexProduct (a b : Float × Float) : Float × Float :=
  (a.1 * b.1 - a.2 * b.2, a.1 * b.2 + a.2 * b.1)

def mul : Number → Number → Try Number :=
  combine (· * ·) (· * ·) complexProduct

def division (whole : Int → Int → Try Number) (real : Float → Float → Float)
    (a b : Number) : Try Number :=
  match a, b with
  | .whole m, .whole n => if n == 0 then byZero else whole m n
  | a, b => do
    let x ← a.toFloat
    let y ← b.toFloat
    if y == 0 then byZero else return .real (real x y)

def div : Number → Number → Try Number :=
  division (fun m n =>
    let x := Decimal.quotient m n
    if x.isInf then fails .overflow else .ok (.real x)) (· / ·)

def wholeDivision (whole : Int → Int → Int) (real : Float → Float → Float) :
    Number → Number → Try Number :=
  division (fun m n => .ok (.whole (whole m n))) real

def floorDiv : Number → Number → Try Number :=
  wholeDivision Int.fdiv Decimal.floorQuotient

def mod : Number → Number → Try Number :=
  wholeDivision Int.fmod Decimal.modulo

def isWhole (x : Float) : Bool :=
  match Decimal.truncate? x with
  | some n => Decimal.compareInt x n == some .eq
  | none => x.isInf

def polarPower (a b : Float × Float) : Try (Float × Float) :=
  if b.1 == 0 && b.2 == 0 then .ok (1.0, 0.0)
  else if a.1 == 0 && a.2 == 0 then
    if b.2 != 0 || b.1 < 0 then byZero else .ok (0.0, 0.0)
  else
    let size := if a.2 == 0 then a.1.abs else if a.1 == 0 then a.2.abs
      else (a.1 * a.1 + a.2 * a.2).sqrt
    let angle := Float.atan2 a.2 a.1
    let len := Float.pow size b.1
    let phase := angle * b.1
    let (len, phase) :=
      if b.2 != 0 then (len / Float.exp (angle * b.2), phase + b.2 * Float.log size)
      else (len, phase)
    .ok (len * phase.cos, len * phase.sin)

def powComplex (a b : Float × Float) : Try Number := do
  let (x, y) ← polarPower a b
  if x.isInf || y.isInf then fails .overflow else return .complex x y

def powReal (x y : Float) : Try Number :=
  if y == 0 then .ok (.real 1.0)
  else if x == 0 && y < 0 then byZero
  else if x < 0 && !x.isInf && !y.isInf && !y.isNaN && !isWhole y then powComplex (x, 0.0) (y, 0.0)
  else
    let r := Float.pow x y
    if r.isInf && !x.isInf && !y.isInf then fails .overflow else .ok (.real r)

def pow (a b : Number) : Try Number :=
  match a, b with
  | .whole m, .whole n => do
    if 0 ≤ n then return .whole (Int.pow m n.toNat)
    else
      let x ← floatOf m
      let y ← floatOf n
      powReal x y
  | a, b => do
    if a.isComplex || b.isComplex then powComplex (← a.parts) (← b.parts)
    else
      let x ← a.toFloat
      let y ← b.toFloat
      powReal x y

def neg : Number → Number
  | .whole n => .whole (-n)
  | .real x => .real (-x)
  | .complex a b => .complex (-a) (-b)

def less (eq : Bool) : Number → Number → Try Bool
  | .whole m, .whole n => .ok (m < n || (eq && m == n))
  | .real x, .real y => .ok (x < y || (eq && x == y))
  | .whole m, .real y => .ok (match Decimal.compareInt y m with
    | some .gt => true
    | some .eq => eq
    | _ => false)
  | .real x, .whole n => .ok (match Decimal.compareInt x n with
    | some .lt => true
    | some .eq => eq
    | _ => false)
  | _, _ => mistyped

end Number

end Launchpad
