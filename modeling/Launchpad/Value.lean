import Launchpad.Calendar
import Launchpad.Decimal.Exact

/-!
The dynamic values of a launch: what a parameter file holds, what a launch argument carries, what
a substitution yields and what an operation is given and answers.
-/

namespace Launchpad

inductive Stage where
  | pristine | configured | active | finalized
deriving DecidableEq, Repr

/-- What a value may refer to without holding it: the things a session keeps in tables, named by
their place there, the parts of the session that exist once, the named types and functions of the
expression language, and things of which only the kind, the literal and the shown text matter. -/
inductive Ref where
  | launcher
  | node (id : Nat)
  | group (id : Nat)
  | lifecycle (node : Nat)
  | stage (s : Stage)
  | process (pid : Int)
  | callback (id : Nat)
  | promise (id : Nat)
  | reply (id : Nat)
  | bridge (id : Nat)
  | entity (id : Nat)
  | message (id : Nat)
  | messageType (name : String)
  | endpoint (id : Nat)
  | client (id : Nat)
  | actionServer (id : Nat)
  | actionClient (id : Nat)
  | graphNode
  | adapter
  | logger (name : String)
  | type (name : String)
  | function (name : String)
  | thing (kind written shown : String)
  | other (kind : String)
deriving DecidableEq, Repr

/-- A dynamic value. A map keeps its entries in the order in which their keys first came. -/
inductive Value where
  | null
  | bool (b : Bool)
  | int (n : Int)
  | float (x : Float)
  | complex (re im : Float)
  | str (s : String)
  | bytes (bs : List UInt8)
  | list (xs : List Value)
  | tuple (xs : List Value)
  | set (xs : List Value)
  | frozen (xs : List Value)
  | map (entries : List (Value × Value))
  | date (d : Calendar.Date)
  | moment (t : Calendar.Moment)
  | ref (r : Ref)
deriving Inhabited

namespace Value

def asInt? : Value → Option Int
  | .bool b => some (if b then 1 else 0)
  | .int n => some n
  | _ => none

def sameNumber (n : Int) (x : Float) : Bool :=
  Decimal.compareInt x n == some .eq

def sameReal (v : Value) (x : Float) : Bool :=
  match v with
  | .float y => x == y
  | v => match v.asInt? with
    | some n => sameNumber n x
    | none => false

def bothNaN : Value → Value → Bool
  | .float x, .float y => x.isNaN && y.isNaN
  | _, _ => false

mutual

/-- Equality of values: numbers by amount whatever their kind, sequences of one kind element by
element, maps and sets without regard to order. -/
def same : Value → Value → Bool
  | .null, .null => true
  | .str a, .str b => a == b
  | .bytes a, .bytes b => a == b
  | .complex a b, .complex c d => a == c && b == d
  | .complex a b, v => b == 0 && sameReal v a
  | v, .complex a b => b == 0 && sameReal v a
  | .float a, .float b => a == b
  | .float a, b => match b.asInt? with
    | some n => sameNumber n a
    | none => false
  | a, .float b => match a.asInt? with
    | some n => sameNumber n b
    | none => false
  | .list a, .list b => sameList a b
  | .tuple a, .tuple b => sameList a b
  | .set a, .set b => a.length == b.length && allMem a b
  | .set a, .frozen b => a.length == b.length && allMem a b
  | .frozen a, .set b => a.length == b.length && allMem a b
  | .frozen a, .frozen b => a.length == b.length && allMem a b
  | .map a, .map b => a.length == b.length && allEntries a b
  | .date a, .date b => a == b
  | .moment a, .moment b => a == b
  | .ref a, .ref b => a == b
  | a, b => match a.asInt?, b.asInt? with
    | some m, some n => m == n
    | _, _ => false

def sameList : List Value → List Value → Bool
  | [], [] => true
  | a :: as, b :: bs => (same a b || bothNaN a b) && sameList as bs
  | _, _ => false

def allMem : List Value → List Value → Bool
  | [], _ => true
  | a :: as, bs => bs.any (fun b => same a b || bothNaN a b) && allMem as bs

def allEntries : List (Value × Value) → List (Value × Value) → Bool
  | [], _ => true
  | (k, v) :: es, fs =>
    fs.any (fun (k', v') => (same k k' || bothNaN k k') && (same v v' || bothNaN v v')) &&
      allEntries es fs

end

instance : BEq Value := ⟨same⟩

def alike (a b : Value) : Bool :=
  same a b || bothNaN a b

def truthy : Value → Bool
  | .null => false
  | .bool b => b
  | .int n => n != 0
  | .float x => !(x == 0)
  | .complex a b => !(a == 0 && b == 0)
  | .str s => s != ""
  | .bytes bs => !bs.isEmpty
  | .list xs => !xs.isEmpty
  | .tuple xs => !xs.isEmpty
  | .set xs => !xs.isEmpty
  | .frozen xs => !xs.isEmpty
  | .map es => !es.isEmpty
  | _ => true

end Value

abbrev Entries := List (Value × Value)

abbrev Named := List (String × Value)

namespace Entries

def get? (es : Entries) (k : Value) : Option Value :=
  (es.find? fun e => Value.alike e.1 k).map (·.2)

def insert : Entries → Value → Value → Entries
  | [], k, v => [(k, v)]
  | (k', v') :: es, k, v =>
    if Value.alike k' k then (k', v) :: es else (k', v') :: insert es k v

def erase (es : Entries) (k : Value) : Entries :=
  es.filter fun e => !Value.alike e.1 k

def update (es fs : Entries) : Entries :=
  fs.foldl (fun acc e => insert acc e.1 e.2) es

def getText? (es : Entries) (k : String) : Option Value :=
  get? es (.str k)

def keys (es : Entries) : List Value :=
  es.map (·.1)

end Entries

namespace Value

def ofEntries (es : Entries) : Value :=
  .map (Entries.update [] es)

def record (fields : Named) : Value :=
  .map (fields.map fun (k, v) => (.str k, v))

def isNull : Value → Bool
  | .null => true
  | _ => false

def text? : Value → Option String
  | .str s => some s
  | _ => none

end Value

end Launchpad
