import Launchpad.Fault

/-!
The texts of a value: as a literal, in which texts are quoted; as it is displayed, in which a text
stands for itself; and as the argument of a parameter assignment on a command line.
-/

namespace Launchpad

abbrev RefText := Ref → String

def Stage.rank : Stage → Nat
  | .pristine => 0
  | .configured => 1
  | .active => 2
  | .finalized => 3

def Stage.name : Stage → String
  | .pristine => "PRISTINE"
  | .configured => "CONFIGURED"
  | .active => "ACTIVE"
  | .finalized => "FINALIZED"

def Stage.all : List Stage :=
  [.pristine, .configured, .active, .finalized]

def Stage.ofRank? (n : Int) : Option Stage :=
  Stage.all.find? fun s => (s.rank : Int) == n

namespace Value

def boolText (b : Bool) : String :=
  if b then "True" else "False"

def dateLiteral (d : Calendar.Date) : String :=
  s!"datetime.date({d.year}, {d.month}, {d.day})"

def momentLiteral (t : Calendar.Moment) : String :=
  let d := t.date
  let base := [toString d.year, toString d.month, toString d.day, toString t.hour,
    toString t.minute]
  let secs := if t.micro != 0 then [toString t.second, toString t.micro]
    else if t.second != 0 then [toString t.second] else []
  let zone := match t.offset with
    | none => []
    | some 0 => ["tzinfo=datetime.timezone.utc"]
    | some o =>
      let day := if o < 0 then "days=-1, " else ""
      let n := if o < 0 then o + 86400 else o
      [s!"tzinfo=datetime.timezone(datetime.timedelta({day}seconds={n}))"]
  "datetime.datetime(" ++ ", ".intercalate (base ++ secs ++ zone) ++ ")"

def partText (x : Float) : String :=
  let t := Decimal.text x
  if t.endsWith ".0" then String.ofList (t.toList.take (t.length - 2)) else t

def complexLiteral (re im : Float) : String :=
  let i := partText im
  if re == 0 && !Decimal.negativeSign re then i ++ "j"
  else
    let i := if i.startsWith "-" then i else "+" ++ i
    "(" ++ partText re ++ i ++ "j)"

def byteLiteral (q : Char) (b : UInt8) : String :=
  let c := Char.ofNat b.toNat
  if b < 127 then Text.quoteChar q c else Text.hexEscape c

def bytesLiteral (bs : List UInt8) : String :=
  let q := if bs.contains 39 && !bs.contains 34 then '"' else '\''
  "b" ++ String.ofList [q] ++ String.join (bs.map (byteLiteral q)) ++ String.ofList [q]

mutual

def literal (name : RefText) : Value → String
  | .null => "None"
  | .bool b => boolText b
  | .int n => toString n
  | .float x => Decimal.text x
  | .complex a b => complexLiteral a b
  | .str s => Text.quote s
  | .bytes bs => bytesLiteral bs
  | .list xs => "[" ++ ", ".intercalate (literals name xs) ++ "]"
  | .tuple [x] => "(" ++ literal name x ++ ",)"
  | .tuple xs => "(" ++ ", ".intercalate (literals name xs) ++ ")"
  | .set [] => "set()"
  | .set xs => "\x7b" ++ ", ".intercalate (literals name xs) ++ "\x7d"
  | .frozen [] => "frozenset()"
  | .frozen xs => "frozenset(\x7b" ++ ", ".intercalate (literals name xs) ++ "\x7d)"
  | .map es => "\x7b" ++ ", ".intercalate (entryLiterals name es) ++ "\x7d"
  | .date d => dateLiteral d
  | .moment t => momentLiteral t
  | .ref r => name r

def literals (name : RefText) : List Value → List String
  | [] => []
  | x :: xs => literal name x :: literals name xs

def entryLiterals (name : RefText) : List (Value × Value) → List String
  | [] => []
  | (k, v) :: es => (literal name k ++ ": " ++ literal name v) :: entryLiterals name es

end

def display (name : RefText) : Value → String
  | .str s => s
  | .date d => d.iso
  | .moment t => t.iso " "
  | .ref (.stage s) => toString s.rank
  | .ref (.thing _ _ shown) => shown
  | v => literal name v

def plainRef : RefText
  | .stage s => s!"<LifecycleStage.{s.name}: {s.rank}>"
  | .messageType n => "<class '" ++ n.replace "/" "." ++ "'>"
  | .type n => "<class '" ++ n ++ "'>"
  | .function n => "<built-in function " ++ n ++ ">"
  | .thing _ written _ => written
  | _ => "<object>"

def numberText (x : Float) : String :=
  if x.isNaN then "NaN"
  else if x.isInf then (if x < 0 then "-Infinity" else "Infinity")
  else Decimal.text x

def keyText : Value → Try String
  | .str s => .ok (Text.asciiQuote s)
  | .null => .ok "\"null\""
  | .bool b => .ok (if b then "\"true\"" else "\"false\"")
  | .int n => .ok ("\"" ++ toString n ++ "\"")
  | .float x => .ok ("\"" ++ numberText x ++ "\"")
  | .ref (.stage s) => .ok ("\"" ++ toString s.rank ++ "\"")
  | _ => fails .wrongType

mutual

/-- A value in a parameter assignment; only numbers, truth values, texts, nothing, sequences and
maps with plain keys can be written. -/
def assignment : Value → Try String
  | .null => .ok "null"
  | .bool b => .ok (if b then "true" else "false")
  | .int n => .ok (toString n)
  | .float x => .ok (numberText x)
  | .str s => .ok (Text.asciiQuote s)
  | .list xs => do return "[" ++ ", ".intercalate (← assignments xs) ++ "]"
  | .tuple xs => do return "[" ++ ", ".intercalate (← assignments xs) ++ "]"
  | .map es => do return "\x7b" ++ ", ".intercalate (← entryAssignments es) ++ "\x7d"
  | .ref (.stage s) => .ok (toString s.rank)
  | .complex _ _ | .bytes _ | .set _ | .frozen _ | .date _ | .moment _ | .ref _ =>
    fails .wrongType

def assignments : List Value → Try (List String)
  | [] => .ok []
  | x :: xs => do
    let t ← assignment x
    return t :: (← assignments xs)

def entryAssignments : List (Value × Value) → Try (List String)
  | [] => .ok []
  | (k, v) :: es => do
    let a ← keyText k
    let b ← assignment v
    return (a ++ ": " ++ b) :: (← entryAssignments es)

end

end Value

end Launchpad
