/-!
Decimal texts of binary floating-point numbers: the shortest one that reads back, and the one with
a given number of places or of significant digits. All arithmetic is exact, on naturals.
-/

namespace Launchpad.Decimal

/-- What a double stands for: `±mant · 2 ^ exp`, an infinity, or no number at all. -/
inductive Binary where
  | finite (negative : Bool) (mant : Nat) (exp : Int)
  | infinite (negative : Bool)
  | notANumber
deriving DecidableEq, Repr

def Binary.ofBits (bits : Nat) : Binary :=
  let negative := bits / Nat.pow 2 63 % 2 == 1
  let e : Nat := bits / Nat.pow 2 52 % 2048
  let f := bits % Nat.pow 2 52
  if e == 2047 then (if f == 0 then .infinite negative else .notANumber)
  else if e == 0 then .finite negative f (-1074)
  else .finite negative (f + Nat.pow 2 52) ((e : Int) - 1075)

def Binary.ofFloat (x : Float) : Binary :=
  .ofBits x.toBits.toNat

structure Ratio where
  num : Nat
  den : Nat

def Ratio.scaled (m b : Nat) (e : Int) : Ratio :=
  match e with
  | .ofNat k => ⟨m * Nat.pow b k, 1⟩
  | .negSucc k => ⟨m, Nat.pow b (k + 1)⟩

def Ratio.le (a b : Ratio) : Bool :=
  a.num * b.den ≤ b.num * a.den

def Ratio.lt (a b : Ratio) : Bool :=
  a.num * b.den < b.num * a.den

def Ratio.floorAt (r : Ratio) (k : Int) : Nat :=
  match k with
  | .ofNat j => r.num / (r.den * Nat.pow 10 j)
  | .negSucc j => r.num * Nat.pow 10 (j + 1) / r.den

def Ratio.roundAt (r : Ratio) (k : Int) : Nat :=
  let (n, d) : Nat × Nat := match k with
    | .ofNat j => (r.num, r.den * Nat.pow 10 j)
    | .negSucc j => (r.num * Nat.pow 10 (j + 1), r.den)
  let q := n / d
  let rem := n % d
  if 2 * rem < d then q
  else if 2 * rem > d then q + 1
  else if q % 2 == 0 then q else q + 1

def Ratio.magnitude (r : Ratio) : Int :=
  let guess : Int := ((Nat.toDigits 10 r.num).length : Int) - (Nat.toDigits 10 r.den).length
  if (Ratio.scaled 1 10 guess).le r then guess else guess - 1

/-- The reals that round to `mant · 2 ^ exp`, as the ends of an interval. Below a power of two the
numbers lie twice as dense. -/
def bounds (mant : Nat) (exp : Int) : Ratio × Ratio :=
  let lower :=
    if mant == Nat.pow 2 52 && exp > -1074 then Ratio.scaled (4 * mant - 1) 2 (exp - 2)
    else Ratio.scaled (2 * mant - 1) 2 (exp - 1)
  (lower, Ratio.scaled (2 * mant + 1) 2 (exp - 1))

def readsBack (mant : Nat) (exp : Int) (d : Nat) (k : Int) : Bool :=
  let (lo, hi) := bounds mant exp
  let c := Ratio.scaled d 10 k
  if mant % 2 == 0 then lo.le c && c.le hi else lo.lt c && c.lt hi

def search (mant : Nat) (exp : Int) (r : Ratio) (p : Int) : Nat → Nat → Nat × Int
  | 0, n => (r.floorAt (p - n + 1), p - n + 1)
  | fuel + 1, n =>
    let k := p - n + 1
    let lo := r.floorAt k
    match readsBack mant exp lo k, readsBack mant exp (lo + 1) k with
    | true, true => (r.roundAt k, k)
    | true, false => (lo, k)
    | false, true => (lo + 1, k)
    | false, false => search mant exp r p fuel (n + 1)

def strip (d : Nat) (k : Int) : List Char × Int :=
  let ds := (Nat.toDigits 10 d).reverse
  let zs := ds.takeWhile (· == '0')
  ((ds.dropWhile (· == '0')).reverse, k + zs.length)

def shortest (mant : Nat) (exp : Int) : List Char × Int :=
  let r := Ratio.scaled mant 2 exp
  let (d, k) := search mant exp r r.magnitude 17 1
  strip d k

def exponentText (e : Int) : String :=
  let n := toString e.natAbs
  (if e < 0 then "e-" else "e+") ++ (if n.length < 2 then "0" ++ n else n)

def positional (ds : List Char) (point : Int) : String :=
  if point ≤ 0 then "0." ++ String.ofList (List.replicate point.natAbs '0' ++ ds)
  else if point < ds.length then
    String.ofList (ds.take point.toNat) ++ "." ++ String.ofList (ds.drop point.toNat)
  else String.ofList (ds ++ List.replicate (point - ds.length).toNat '0')

def scientific (ds : List Char) (e : Int) : String :=
  match ds with
  | [] => "0"
  | [d] => String.ofList [d] ++ exponentText e
  | d :: rest => String.ofList (d :: '.' :: rest) ++ exponentText e

def signText (negative : Bool) : String :=
  if negative then "-" else ""

def signed (x : Float) (text : Nat → Int → String) : String :=
  match Binary.ofFloat x with
  | .notANumber => "nan"
  | .infinite n => signText n ++ "inf"
  | .finite n m e => signText n ++ text m e

/-- A number written with the fewest digits that read back: positional from 10^-4 up to below
10^16, and always with a point or an exponent. -/
def text (x : Float) : String :=
  signed x fun m e =>
    if m == 0 then "0.0"
    else
      let (ds, k) := shortest m e
      let point := k + ds.length
      if point ≤ -4 || point > 16 then scientific ds (point - 1)
      else if point ≥ ds.length then positional ds point ++ ".0"
      else positional ds point

def fixedDigits (mant : Nat) (exp : Int) (places : Nat) : String :=
  let d := (Ratio.scaled mant 2 exp).roundAt (-(places : Int))
  let ds := Nat.toDigits 10 d
  if places == 0 then String.ofList ds
  else
    let ds := List.replicate (places + 1 - ds.length) '0' ++ ds
    positional ds ((ds.length : Int) - places)

def fixed (x : Float) (places : Nat) : String :=
  signed x fun m e => fixedDigits m e places

/-- The significant digits of a positive number rounded to `n` of them, and the power of ten of
the first. -/
def significant (mant : Nat) (exp : Int) (n : Nat) : List Char × Int :=
  let r := Ratio.scaled mant 2 exp
  let p := r.magnitude
  let d := r.roundAt (p - n + 1)
  let ds := Nat.toDigits 10 d
  if ds.length > n then (ds.take n, p + 1) else (ds, p)

def exponential (x : Float) (places : Nat) : String :=
  signed x fun m e =>
    if m == 0 then scientific ('0' :: List.replicate places '0') 0
    else
      let (ds, p) := significant m e (places + 1)
      scientific ds p

/-- A number rounded to `digits` significant digits: positional while the exponent is at least -4
and below `limit`. Zeros at the end are left out unless `keep` is set; with `pointed` a positional
number has a digit behind the point. -/
def general (x : Float) (digits : Nat) (limit : Int) (pointed keep : Bool) : String :=
  signed x fun m e =>
    let (ds, p) := if m == 0 then (List.replicate digits '0', 0) else significant m e digits
    let ds := if keep then ds
      else match (ds.reverse.dropWhile (· == '0')).reverse with
        | [] => ['0']
        | ds => ds
    if p < -4 || p ≥ limit then scientific ds p
    else if pointed && p + 1 ≥ ds.length then positional ds (p + 1) ++ ".0"
    else positional ds (p + 1)

def withPoint (s : String) : String :=
  let cs := s.toList
  if cs.contains '.' || !cs.any Char.isDigit then s
  else
    let mant := cs.takeWhile (fun c => c != 'e' && c != 'E')
    String.ofList (mant ++ '.' :: cs.drop mant.length)

end Launchpad.Decimal
