import Launchpad.Decimal.Shortest

/-!
Arithmetic between doubles and whole numbers that rounds at most once: comparison, remainder,
truncation, and the quotient of two whole numbers. A finite double is taken as `±mant · 2 ^ exp`,
so everything before the last rounding is done on naturals.
-/

namespace Launchpad.Decimal

/-- A finite double as a whole number; `divide` says how the quotient of two naturals is cut. -/
def whole? (divide : Nat → Nat → Nat) (x : Float) : Option Int :=
  match Binary.ofFloat x with
  | .finite neg m e =>
    let n : Nat := match e with
      | .ofNat k => m * Nat.pow 2 k
      | .negSucc k => divide m (Nat.pow 2 (k + 1))
    some (if neg then -n else n)
  | _ => none

def truncate? (x : Float) : Option Int :=
  whole? (· / ·) x

def compareInt (x : Float) (n : Int) : Option Ordering :=
  match Binary.ofFloat x with
  | .notANumber => none
  | .infinite neg => some (if neg then .lt else .gt)
  | .finite neg m e =>
    let a : Int := if neg then -(m : Int) else m
    some (match e with
      | .ofNat k => compare (a * Nat.pow 2 k) n
      | .negSucc k => compare a (n * Nat.pow 2 (k + 1)))

def ofInt? (n : Int) : Option Float :=
  let x := Float.ofInt n
  if x.isInf then none else some x

def halved : Nat → Nat → Nat × Nat
  | 0, m => (m, 0)
  | fuel + 1, m =>
    if m % 2 == 0 && m != 0 then
      let (q, k) := halved fuel (m / 2)
      (q, k + 1)
    else (m, 0)

def ofParts (neg : Bool) (m : Nat) (e : Int) : Float :=
  let (q, k) := halved (m.log2 + 1) m
  let x := Float.scaleB q.toFloat (e + k)
  if neg then -x else x

def remainder (x y : Float) : Float :=
  match Binary.ofFloat x, Binary.ofFloat y with
  | .finite neg m e, .finite _ n f =>
    if n == 0 then 0.0 / 0.0
    else
      let low := min e f
      let a := m * Nat.pow 2 (e - low).toNat
      let b := n * Nat.pow 2 (f - low).toNat
      ofParts neg (a % b) low
  | .finite .., .infinite _ => x
  | _, _ => 0.0 / 0.0

def negativeSign (x : Float) : Bool :=
  match Binary.ofFloat x with
  | .finite neg _ _ => neg
  | .infinite neg => neg
  | .notANumber => false

def zeroLike (x : Float) : Float :=
  if negativeSign x then -0.0 else 0.0

def modulo (x y : Float) : Float :=
  let r := remainder x y
  if r != 0 then (if (y < 0) != (r < 0) then r + y else r) else zeroLike y

def floorQuotient (x y : Float) : Float :=
  let r := remainder x y
  let q := (x - r) / y
  let q := if r != 0 && (y < 0) != (r < 0) then q - 1.0 else q
  if q != 0 then
    let w := q.floor
    if q - w > 0.5 then w + 1.0 else w
  else zeroLike (x / y)

def roundedQuotient (n d : Nat) : Nat :=
  let q := n / d
  let r := n % d
  if 2 * r < d then q
  else if 2 * r > d then q + 1
  else if q % 2 == 0 then q else q + 1

/-- The double nearest to `m / d`: the quotient is rounded to a multiple of the last place that a
double of its size has. -/
def nearest (m d : Nat) : Float :=
  if m == 0 || d == 0 then 0.0
  else
    let guess : Int := (m.log2 : Int) - d.log2
    let low (k : Int) : Bool := match k with
      | .ofNat j => d * Nat.pow 2 j ≤ m
      | .negSucc j => d ≤ m * Nat.pow 2 (j + 1)
    let top := if low guess then guess else guess - 1
    let unit := max (top - 52) (-1074)
    let n := match unit with
      | .ofNat j => roundedQuotient m (d * Nat.pow 2 j)
      | .negSucc j => roundedQuotient (m * Nat.pow 2 (j + 1)) d
    Float.scaleB n.toFloat unit

def quotient (a b : Int) : Float :=
  let x := nearest a.natAbs b.natAbs
  if (a < 0) != (b < 0) then -x else x

end Launchpad.Decimal
