import Launchpad.Value.Number
import Launchpad.Value.Entries

/-!
The order of values: numbers by amount, texts by code points, sequences of one kind by their first
difference, sets by inclusion, points in time by time. Other values have no order.
-/

namespace Launchpad.Value

def included (xs ys : List Value) : Bool :=
  xs.all fun x => ys.any (alike x)

def lessSet (eq : Bool) (xs ys : List Value) : Bool :=
  included xs ys && (eq || xs.length < ys.length)

def lessBytes (eq : Bool) : List UInt8 → List UInt8 → Bool
  | [], [] => eq
  | [], _ :: _ => true
  | _ :: _, [] => false
  | a :: as, b :: bs => if a == b then lessBytes eq as bs else a < b

def momentKey (t : Calendar.Moment) : Int :=
  let d := t.date
  ((d.toDays * 86400 + (t.hour * 3600 + t.minute * 60 + t.second : Nat)) - t.offset.getD 0) *
    1000000 + t.micro

mutual

def less (eq : Bool) : Value → Value → Try Bool
  | .str a, .str b => .ok (a < b || (eq && a == b))
  | .bytes a, .bytes b => .ok (lessBytes eq a b)
  | .list a, .list b => lessList eq a b
  | .tuple a, .tuple b => lessList eq a b
  | .set a, .set b => .ok (lessSet eq a b)
  | .set a, .frozen b => .ok (lessSet eq a b)
  | .frozen a, .set b => .ok (lessSet eq a b)
  | .frozen a, .frozen b => .ok (lessSet eq a b)
  | .date a, .date b => .ok (a.toDays < b.toDays || (eq && a == b))
  | .moment a, .moment b =>
    if a.offset.isSome == b.offset.isSome then
      .ok (momentKey a < momentKey b || (eq && momentKey a == momentKey b))
    else fails .wrongType
  | a, b => match a.number?, b.number? with
    | some x, some y => Number.less eq x y
    | _, _ => fails .wrongType

def lessList (eq : Bool) : List Value → List Value → Try Bool
  | [], [] => .ok eq
  | [], _ :: _ => .ok true
  | _ :: _, [] => .ok false
  | a :: as, b :: bs => if alike a b then lessList eq as bs else less eq a b

end

end Launchpad.Value
