import Launchpad.Calendar.Stamp
import Launchpad.Text.Number
import Launchpad.Value.Literal
import Launchpad.Value.Number

/-!
Format specifications: fill and alignment, sign, width, grouping, precision and presentation of a
value that is put into a text.
-/

namespace Launchpad.Format

structure Spec where
  fill : Option Char := none
  align : Option Char := none
  sign : Option Char := none
  plainZero : Bool := false
  alternate : Bool := false
  zero : Bool := false
  width : Nat := 0
  grouping : Option Char := none
  precision : Option Nat := none
  kind : Option Char := none
deriving Repr, DecidableEq

def isAlign (c : Char) : Bool :=
  c == '<' || c == '>' || c == '^' || c == '='

def number (cs : Chars) : Nat :=
  cs.foldl (fun n c => n * 10 + (Text.decimalValue? c).getD 0) 0

def takeNumber (cs : Chars) : Option Nat × Chars :=
  let ds := cs.takeWhile Text.isDecimal
  (if ds.isEmpty then none else some (number ds), cs.dropWhile Text.isDecimal)

def takeAlign : Chars → Option Char × Option Char × Chars
  | f :: a :: cs =>
    if isAlign a then (some f, some a, cs)
    else if isAlign f then (none, some f, a :: cs)
    else (none, none, f :: a :: cs)
  | [a] => if isAlign a then (none, some a, []) else (none, none, [a])
  | [] => (none, none, [])

def takeIf (p : Char → Bool) : Chars → Option Char × Chars
  | c :: cs => if p c then (some c, cs) else (none, c :: cs)
  | [] => (none, [])

def maxAmount : Nat := 0x7fffffffffffffff

def Spec.groupsWell (sp : Spec) : Bool :=
  match sp.grouping, sp.kind with
  | none, _ | some _, none => true
  | some sep, some k =>
    "defgEGF%".toList.contains k || (sep == '_' && "boxX".toList.contains k)

def Spec.read? (s : String) : Option Spec :=
  let (fill, align, cs) := takeAlign s.toList
  let (sign, cs) := takeIf (fun c => c == '+' || c == '-' || c == ' ') cs
  let (plain, cs) := takeIf (· == 'z') cs
  let (alt, cs) := takeIf (· == '#') cs
  let (zero, cs) := if fill.isSome then (none, cs) else takeIf (· == '0') cs
  let (width, cs) := takeNumber cs
  let (grouping, cs) := takeIf (fun c => c == ',' || c == '_') cs
  let base : Spec :=
    { fill := fill, align := align, sign := sign, plainZero := plain.isSome,
      alternate := alt.isSome, zero := zero.isSome, width := width.getD 0, grouping := grouping }
  let finish (b : Spec) : Chars → Option Spec
    | [] => some b
    | [k] => let b := { b with kind := some k }; if b.groupsWell then some b else none
    | _ => none
  if width.getD 0 > maxAmount then none
  else match cs with
    | '.' :: cs => match takeNumber cs with
      | (some p, cs) =>
        if p > maxAmount then none else finish { base with precision := some p } cs
      | (none, _) => none
    | cs => finish base cs

def Spec.fillChar (sp : Spec) : Char :=
  sp.fill.getD (if sp.zero then '0' else ' ')

def Spec.place (sp : Spec) (standard : Char) : Char :=
  sp.align.getD (if sp.zero && standard == '>' then '=' else standard)

def Spec.pad (sp : Spec) (standard : Char) (sign body : String) : String :=
  let n := sp.width - (sign.length + body.length)
  let run (k : Nat) : String := String.ofList (List.replicate k sp.fillChar)
  match sp.place standard with
  | '<' => sign ++ body ++ run n
  | '^' => run (n / 2) ++ sign ++ body ++ run (n - n / 2)
  | '=' => sign ++ run n ++ body
  | _ => run n ++ sign ++ body

/-- Puts `sep` between groups of digits, which are given from the last to the first. Zeros come
before them until `least` places are filled. -/
def groupsFrom (sep : Char) (size : Nat) : Nat → Chars → Int → Chars
  | 0, ds, _ => ds
  | fuel + 1, ds, least =>
    let len := min size (max (max ds.length least.toNat) 1)
    let piece := ds.take len
    let piece := piece ++ List.replicate (len - piece.length) '0'
    let ds := ds.drop len
    let least := least - len
    if ds.isEmpty && least ≤ 0 then piece
    else piece ++ sep :: groupsFrom sep size fuel ds (least - 1)

def groupDigits (sep : Option Char) (size least : Nat) (ds : Chars) : Chars :=
  match sep with
  | none => List.replicate (least - ds.length) '0' ++ ds
  | some sep => (groupsFrom sep size (ds.length + least + 1) ds.reverse least).reverse

def signOf (sp : Spec) (negative : Bool) : String :=
  if negative then "-"
  else match sp.sign with
    | some '+' => "+"
    | some ' ' => " "
    | _ => ""

/-- A number from its sign with a mark, its digits and the rest behind them. Where zeros fill the
width they are grouped like the digits. -/
def Spec.layout (sp : Spec) (sign : String) (size : Nat) (digits rest : Chars) : String :=
  let least :=
    if sp.fillChar == '0' && sp.place '>' == '=' then
      sp.width - (sign.length + rest.length)
    else 0
  let ds := if digits.isEmpty then [] else groupDigits sp.grouping size least digits
  sp.pad '>' sign (String.ofList (ds ++ rest))

def refused {α : Type} : Try α := fails .invalidValue

def formatText (sp : Spec) (s : String) : Try String :=
  if sp.sign.isSome || sp.plainZero || sp.alternate || sp.grouping.isSome ||
      sp.align == some '=' then refused
  else match sp.kind with
    | none | some 's' =>
      let s := match sp.precision with
        | some p => String.ofList (s.toList.take p)
        | none => s
      .ok (sp.pad '<' "" s)
    | _ => refused

def upper (s : String) : String :=
  String.ofList (s.toList.map Char.toUpper)

def floatBody? (sp : Spec) (a : Float) : Option String :=
  let p := sp.precision.getD 6
  let dot (s : String) : String := if sp.alternate then Decimal.withPoint s else s
  let general (p : Nat) : String := dot (Decimal.general a (max p 1) (max p 1) false sp.alternate)
  match sp.kind with
  | some 'f' => some (dot (Decimal.fixed a p))
  | some 'F' => some (upper (dot (Decimal.fixed a p)))
  | some 'e' => some (dot (Decimal.exponential a p))
  | some 'E' => some (upper (dot (Decimal.exponential a p)))
  | some 'g' | some 'n' => some (general p)
  | some 'G' => some (upper (general p))
  | some '%' => some (dot (Decimal.fixed (a * 100.0) p) ++ "%")
  | none => some (match sp.precision with
    | none => dot (Decimal.text a)
    | some p => dot (Decimal.general a (max p 1) ((max p 1 : Nat) - 1) true sp.alternate))
  | some _ => none

def formatFloat (sp : Spec) (x : Float) : Try String :=
  let neg := Decimal.negativeSign x
  if (sp.precision.getD 0) > 0x7fffffff then refused
  else match floatBody? sp (if neg then -x else x) with
    | none => refused
    | some body =>
      let cs := body.toList
      let vanished := sp.plainZero && !cs.any fun c => '1' ≤ c && c ≤ '9'
      let neg := neg && !(vanished && !x.isInf)
      .ok (sp.layout (signOf sp neg) 3 (cs.takeWhile Char.isDigit) (cs.dropWhile Char.isDigit))

def decimalDigits (n : Nat) : Try Chars :=
  let ds := Nat.toDigits 10 n
  if ds.length > Text.digitLimit then refused else .ok ds

def formatInt (sp : Spec) (n : Int) : Try String :=
  let out (mark : String) (size : Nat) (ds : Chars) : Try String :=
    if sp.precision.isSome || sp.plainZero then refused
    else
      let sign := signOf sp (n < 0) ++ (if sp.alternate then mark else "")
      .ok (sp.layout sign size ds [])
  match sp.kind with
  | none | some 'd' | some 'n' => do out "" 3 (← decimalDigits n.natAbs)
  | some 'b' => out "0b" 4 (Nat.toDigits 2 n.natAbs)
  | some 'o' => out "0o" 4 (Nat.toDigits 8 n.natAbs)
  | some 'x' => out "0x" 4 (Nat.toDigits 16 n.natAbs)
  | some 'X' => out "0X" 4 ((Nat.toDigits 16 n.natAbs).map Char.toUpper)
  | some 'c' =>
    if sp.precision.isSome || sp.plainZero || sp.sign.isSome || sp.alternate then refused
    else if n < 0 || n > 0x10FFFF then fails .overflow
    else .ok (sp.layout "" 3 [] [Char.ofNat n.toNat])
  | some k =>
    if "eEfFgG%".toList.contains k then do formatFloat sp (← Number.floatOf n) else refused

mutual

def hasHuge : Value → Bool
  | .int n => n.natAbs ≥ Nat.pow 10 Text.digitLimit
  | .list xs | .tuple xs | .set xs | .frozen xs => anyHuge xs
  | .map es => entriesHuge es
  | _ => false

def anyHuge : List Value → Bool
  | [] => false
  | x :: xs => hasHuge x || anyHuge xs

def entriesHuge : List (Value × Value) → Bool
  | [] => false
  | (k, v) :: es => hasHuge k || hasHuge v || entriesHuge es

end

def plainText (v : Value) : Try String :=
  if hasHuge v then refused else .ok (v.display Value.plainRef)

def literalText (v : Value) : Try String :=
  if hasHuge v then refused else .ok (v.literal Value.plainRef)

def formatValue (v : Value) (spec : String) : Try String :=
  if spec == "" then plainText v
  else
    let withSpec (f : Spec → Try String) : Try String :=
      match Spec.read? spec with
      | some sp => f sp
      | none => refused
    match v with
    | .str s => withSpec fun sp => formatText sp s
    | .int n => withSpec fun sp => formatInt sp n
    | .bool b => withSpec fun sp => formatInt sp (if b then 1 else 0)
    | .float x => withSpec fun sp => formatFloat sp x
    | .ref (.stage s) => withSpec fun sp => formatInt sp s.rank
    | .moment t => .ok (t.render spec)
    | _ => fails .wrongType

end Launchpad.Format
