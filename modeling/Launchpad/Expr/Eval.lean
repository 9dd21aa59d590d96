import Launchpad.Expr.Builtin
import Launchpad.Expr.Syntax
import Launchpad.Format.Percent

/-!
The values of expressions. Names stand for launch arguments, then for what every expression knows.
A literal is an expression without names, operators and choices.
-/

namespace Launchpad.Expr

abbrev Result := Try Value

def maxLength : Nat := 8589934592

def repetitions (length : Nat) (n : Int) : Try Nat :=
  if n > 0x7fffffffffffffff || n < -0x8000000000000000 then fails .overflow
  else if length == 0 then .ok 0
  else if length * n.toNat > maxLength then fails .outOfMemory
  else .ok n.toNat

def repeatList {α : Type} (xs : List α) (n : Nat) : List α :=
  (List.replicate n xs).flatten

def times (v : Value) (n : Int) : Result :=
  match v with
  | .str s => (repetitions s.utf8ByteSize n).map fun k => .str (Text.repeatText s k)
  | .bytes bs => (repetitions bs.length n).map fun k => .bytes (repeatList bs k)
  | .list xs => (repetitions xs.length n).map fun k => .list (repeatList xs k)
  | .tuple xs => (repetitions xs.length n).map fun k => .tuple (repeatList xs k)
  | _ => mistyped

def arithmetic (f : Number → Number → Try Number) (a b : Value) : Result :=
  match a.number?, b.number? with
  | some x, some y => (f x y).map Number.toValue
  | _, _ => mistyped

def add : Value → Value → Result
  | .str a, .str b => .ok (.str (a ++ b))
  | .bytes a, .bytes b => .ok (.bytes (a ++ b))
  | .list a, .list b => .ok (.list (a ++ b))
  | .tuple a, .tuple b => .ok (.tuple (a ++ b))
  | a, b => arithmetic Number.add a b

def mul (a b : Value) : Result :=
  match a.number?, b.number? with
  | some (.whole n), none => times b n
  | none, some (.whole n) => times a n
  | _, _ => arithmetic Number.mul a b

def modulo (a b : Value) : Result :=
  match a with
  | .str s => (Format.renderPercent s b).map .str
  | a => arithmetic Number.mod a b

def alternative? : Value → Option String
  | .null => some "None"
  | .ref (.type n) => some n
  | .ref (.thing kind written _) =>
    if kind == "UnionType" || kind == "GenericAlias" then some written else none
  | _ => none

/-- Types are joined to alternatives. -/
def join (a b : Value) : Result :=
  match a, b, alternative? a, alternative? b with
  | .null, .null, _, _ => mistyped
  | .map es, .map fs, _, _ => .ok (.map (Entries.update es fs))
  | _, _, some s, some t =>
    if s == t then .ok a
    else
      let text := s ++ " | " ++ t
      .ok (.ref (.thing "UnionType" text text))
  | _, _, _, _ => mistyped

def binary (op : String) (a b : Value) : Result :=
  match op with
  | "+" => add a b
  | "-" => arithmetic Number.sub a b
  | "*" => mul a b
  | "/" => arithmetic Number.div a b
  | "//" => arithmetic Number.floorDiv a b
  | "%" => modulo a b
  | "**" => arithmetic Number.pow a b
  | "|" => join a b
  | _ => mistyped

def unary (op : String) (a : Value) : Result :=
  match op, a.number? with
  | "not", _ => .ok (.bool !a.truthy)
  | "-", some x => .ok x.neg.toValue
  | "+", some x => .ok x.toValue
  | "~", some (.whole n) => .ok (.int (-n - 1))
  | _, _ => mistyped

/-- Nothing, truth values and numbers of different kinds are never identical; other values are
compared. -/
def identical (a b : Value) : Bool :=
  a.typeName == b.typeName && Value.alike a b

def compare (op : String) (a b : Value) : Try Bool :=
  match op with
  | "==" => .ok (Value.same a b)
  | "!=" => .ok !(Value.same a b)
  | "<" => Value.less false a b
  | "<=" => Value.less true a b
  | ">" => Value.less false b a
  | ">=" => Value.less true b a
  | "in" => Value.contains b a
  | "not in" => (Value.contains b a).map (!·)
  | "is" => .ok (identical a b)
  | _ => .ok !(identical a b)

def containerTypes : List String :=
  ["list", "tuple", "dict", "set", "frozenset", "type"]

def itemText (v : Value) : String :=
  match v with
  | .ref (.type n) => n
  | .ref (.thing "ellipsis" _ _) => "..."
  | v => v.literal Value.plainRef

def index (a i : Value) : Result :=
  match a with
  | .ref (.type n) =>
    if containerTypes.contains n then
      let items := match i with
        | .tuple vs => vs
        | v => [v]
      let text := n ++ "[" ++ ", ".intercalate (items.map itemText) ++ "]"
      .ok (.ref (.thing "GenericAlias" text text))
    else mistyped
  | a => Value.item a i

def memberOf (a : Value) (name : String) : Result :=
  match a with
  | .ref (.type n) =>
    if ["int", "float", "complex", "bool"].contains n &&
        ["real", "imag", "numerator", "denominator"].contains name then
      let text := "<attribute '" ++ name ++ "' of '" ++ n ++ "' objects>"
      .ok (.ref (.thing "getset_descriptor" text text))
    else Value.feature a name
  | a => Value.feature a name

def makeSet (vs : List Value) : Result :=
  (members vs).map .set

def putEntry (es : Entries) (k v : Value) : Try Entries :=
  if k.isKey then .ok (Entries.insert es k v) else mistyped

mutual

def eval (names : String → Option Value) : Tree → Result
  | .lit v => .ok v
  | .name s => match (names s).or (builtin? s) with
    | some v => .ok v
    | none => fails .undefinedName s!"name '{s}' is not defined"
  | .list es => (evalAll names es).map .list
  | .tuple es => (evalAll names es).map .tuple
  | .set es => do makeSet (← evalAll names es)
  | .map es => (evalEntries names es []).map .map
  | .starred e => eval names e
  | .unary op e => do unary op (← eval names e)
  | .binary op a b => do
    let x ← eval names a
    let y ← eval names b
    binary op x y
  | .compare a rest => do
    let x ← eval names a
    evalComparisons names x rest
  | .both a b => do
    let x ← eval names a
    if x.truthy then eval names b else return x
  | .either a b => do
    let x ← eval names a
    if x.truthy then return x else eval names b
  | .choice t a b => do
    let c ← eval names t
    if c.truthy then eval names a else eval names b
  | .index e (.slice lo hi step) => do
    let x ← eval names e
    let l ← evalBound names lo
    let h ← evalBound names hi
    let s ← evalBound names step
    Value.slice x l h s
  | .index e i => do
    let x ← eval names e
    let y ← eval names i
    index x y
  | .slice .. => mistyped
  | .member e n => do
    let x ← eval names e
    memberOf x n
  | .apply f args named => do
    let g ← eval names f
    let vs ← evalAll names args
    if named.isEmpty then call g vs else mistyped
  | .special .suspension => fails .badSyntax
  | .special .function => .ok (.ref (.other "function"))
  | .special .generator => .ok (.ref (.other "generator"))
  | .special _ => mistyped

def evalBound (names : String → Option Value) : Option Tree → Result
  | none => .ok .null
  | some e => eval names e

def evalAll (names : String → Option Value) : List Tree → Try (List Value)
  | [] => .ok []
  | .starred e :: es => do
    let v ← eval names e
    let vs ← elementsOf v
    return vs ++ (← evalAll names es)
  | e :: es => do
    let v ← eval names e
    return v :: (← evalAll names es)

def evalEntries (names : String → Option Value) :
    List (Option Tree × Tree) → Entries → Try Entries
  | [], acc => .ok acc
  | (some k, v) :: es, acc => do
    let a ← eval names k
    let b ← eval names v
    evalEntries names es (← putEntry acc a b)
  | (none, v) :: es, acc => do
    match ← eval names v with
    | .map fs => evalEntries names es (Entries.update acc fs)
    | _ => mistyped

def evalComparisons (names : String → Option Value) (a : Value) : List (String × Tree) → Result
  | [] => .ok (.bool true)
  | (op, e) :: rest => do
    let b ← eval names e
    if ← compare op a b then evalComparisons names b rest else return .bool false

end

def evaluate (names : String → Option Value) (s : String) : Result := do
  let e ← parse s
  eval names e

def malformed {α : Type} : Try α := fails .invalidValue

def signedNumber : Tree → Try Number
  | .lit v => unsigned v
  | .unary "+" (.lit v) => unsigned v
  | .unary "-" (.lit v) => (unsigned v).map Number.neg
  | _ => malformed
where
  unsigned : Value → Try Number
    | .int n => .ok (.whole n)
    | .float x => .ok (.real x)
    | .complex a b => .ok (.complex a b)
    | _ => malformed

def sumLiteral (op : String) (a b : Tree) : Result := do
  let x ← signedNumber a
  match x, b with
  | .complex .., _ => malformed
  | x, .lit (.complex re im) =>
    let r ← if op == "+" then x.add (.complex re im) else x.sub (.complex re im)
    return r.toValue
  | _, _ => malformed

mutual

def literalOf : Tree → Result
  | .lit v => .ok v
  | .list es => (literalsOf es).map .list
  | .tuple es => (literalsOf es).map .tuple
  | .set es => (literalMembers es []).map .set
  | .map es => (literalEntries es []).map .map
  | .unary op e =>
    if op == "+" || op == "-" then (signedNumber (.unary op e)).map Number.toValue
    else malformed
  | .binary op a b => if op == "+" || op == "-" then sumLiteral op a b else malformed
  | .apply (.name "set") [] [] => .ok (.set [])
  | _ => malformed

def literalsOf : List Tree → Try (List Value)
  | [] => .ok []
  | e :: es => do
    let v ← literalOf e
    return v :: (← literalsOf es)

def literalMembers : List Tree → List Value → Try (List Value)
  | [], acc => .ok acc
  | e :: es, acc => do
    let v ← literalOf e
    literalMembers es (← members (acc ++ [v]))

def literalEntries : List (Option Tree × Tree) → Entries → Try Entries
  | [], acc => .ok acc
  | (none, _) :: _, _ => malformed
  | (some k, v) :: es, acc => do
    let a ← literalOf k
    let b ← literalOf v
    literalEntries es (← putEntry acc a b)

end

def readLiteral (s : String) : Result := do
  let e ← parse s
  literalOf e

end Launchpad.Expr
