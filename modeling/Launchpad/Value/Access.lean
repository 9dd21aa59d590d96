import Launchpad.Value.Order

/-!
What can be asked of a value: whether it contains another one, what stands at a place or at the
places of a slice, and the attributes of numbers and types.
-/

namespace Launchpad.Value

def noPlaces {α : Type} : Try α :=
  fails .wrongType

def hasRun {α : Type} [BEq α] (xs : List α) : List α → Bool
  | [] => xs.isEmpty
  | y :: ys => xs.isPrefixOf (y :: ys) || hasRun xs ys

def contains (b a : Value) : Try Bool :=
  match b with
  | .list xs | .tuple xs => .ok (xs.any (alike a))
  | .set xs | .frozen xs => match a with
    | .set _ => .ok (xs.any (alike a))
    | a => if a.isKey then .ok (xs.any (alike a)) else noPlaces
  | .map es => if a.isKey then .ok (Entries.get? es a).isSome else noPlaces
  | .str s => match a with
    | .str t => .ok (Text.contains s t)
    | _ => noPlaces
  | .bytes bs => match a with
    | .bytes cs => .ok (hasRun cs bs)
    | a => match a.asInt? with
      | some n =>
        if 0 ≤ n && n < 256 then .ok (bs.any fun b => (b.toNat : Int) == n)
        else fails .invalidValue
      | none => noPlaces
  | _ => fails .wrongType s!"argument of type '{b.typeText}' is not iterable"

def size? : Value → Option Nat
  | .str s => some s.length
  | .bytes bs => some bs.length
  | .list xs | .tuple xs | .set xs | .frozen xs => some xs.length
  | .map es => some es.length
  | _ => none

def place {α : Type} (xs : List α) (i : Int) : Try α :=
  let k := if i < 0 then i + xs.length else i
  match (if 0 ≤ k then xs[k.toNat]? else none) with
  | some x => .ok x
  | none => fails .outOfRange

def placeNumber (i : Value) : Try Int :=
  match i with
  | .ref (.stage _) => match i.number? with
    | some (.whole n) => .ok n
    | _ => noPlaces
  | i => match i.asInt? with
    | some n => .ok n
    | none => noPlaces

def item (a i : Value) : Try Value :=
  match a with
  | .list xs | .tuple xs => do place xs (← placeNumber i)
  | .str s => do
    let c ← place s.toList (← placeNumber i)
    return .str (String.ofList [c])
  | .bytes bs => do
    let b ← place bs (← placeNumber i)
    return .int b.toNat
  | .map es =>
    if i.isKey then
      match Entries.get? es i with
      | some v => .ok v
      | none => fails .unknownKey
    else noPlaces
  | _ => noPlaces

def slicePlaces (len : Nat) (lo hi : Option Int) (step : Int) : List Nat :=
  let n : Int := len
  let clamp (low high i : Int) : Int :=
    let i := if i < 0 then i + n else i
    max low (min high i)
  if step > 0 then
    let a := (lo.map (clamp 0 n)).getD 0
    let b := (hi.map (clamp 0 n)).getD n
    let count := if a < b then ((b - a - 1) / step + 1).toNat else 0
    (List.range count).map fun (k : Nat) => (a + k * step).toNat
  else
    let a := (lo.map (clamp (-1) (n - 1))).getD (n - 1)
    let b := (hi.map (clamp (-1) (n - 1))).getD (-1)
    let count := if b < a then ((a - b - 1) / (-step) + 1).toNat else 0
    (List.range count).map fun (k : Nat) => (a + k * step).toNat

def cut {α : Type} (xs : List α) (lo hi : Option Int) (step : Int) : List α :=
  let arr := xs.toArray
  (slicePlaces xs.length lo hi step).filterMap fun k => arr[k]?

def bound (v : Value) : Try (Option Int) :=
  match v with
  | .null => .ok none
  | v => (placeNumber v).map some

def slice (a lo hi step : Value) : Try Value :=
  let parts : Try (Option Int × Option Int × Int) := do
    let s ← bound step
    if s == some 0 then throw (.silent .invalidValue)
    let l ← bound lo
    let h ← bound hi
    return (l, h, s.getD 1)
  match a with
  | .list xs => do
    let (l, h, s) ← parts
    return .list (cut xs l h s)
  | .tuple xs => do
    let (l, h, s) ← parts
    return .tuple (cut xs l h s)
  | .str t => do
    let (l, h, s) ← parts
    return .str (String.ofList (cut t.toList l h s))
  | .bytes bs => do
    let (l, h, s) ← parts
    return .bytes (cut bs l h s)
  | _ => noPlaces

/-- A feature of a value by its name: the parts of a number, the type of a value, the name of a type. -/
def feature (v : Value) (name : String) : Try Value :=
  let missing : Try Value := fails .noAttribute
  if name == "__class__" then .ok (.ref (.type v.typeName))
  else match v with
    | .bool _ | .int _ =>
      let n := v.asInt?.getD 0
      match name with
      | "real" | "numerator" => .ok (.int n)
      | "imag" => .ok (.int 0)
      | "denominator" => .ok (.int 1)
      | _ => missing
    | .float _ => match name with
      | "real" => .ok v
      | "imag" => .ok (.float 0.0)
      | _ => missing
    | .complex a b => match name with
      | "real" => .ok (.float a)
      | "imag" => .ok (.float b)
      | _ => missing
    | .date d => match name with
      | "year" => .ok (.int d.year)
      | "month" => .ok (.int d.month)
      | "day" => .ok (.int d.day)
      | _ => missing
    | .ref (.type n) | .ref (.function n) => match name with
      | "__name__" | "__qualname__" => .ok (.str n)
      | "__module__" => .ok (.str "builtins")
      | _ => missing
    | _ => missing

end Launchpad.Value
