import Launchpad.Format.Brace

/-!
The names that every expression knows: types, functions and constants, and what the types and
functions make of their arguments.
-/

namespace Launchpad.Expr

def plainTypes : List String :=
  ["bool", "bytearray", "bytes", "classmethod", "complex", "dict", "enumerate", "filter", "float",
    "frozenset", "int", "list", "map", "memoryview", "object", "property", "range", "reversed",
    "set", "slice", "staticmethod", "str", "super", "tuple", "type", "zip"]

def failureTypes : List String :=
  ["ArithmeticError", "AssertionError", "AttributeError", "BaseException", "BlockingIOError",
    "BrokenPipeError", "BufferError", "BytesWarning", "ChildProcessError",
    "ConnectionAbortedError", "ConnectionError", "ConnectionRefusedError", "ConnectionResetError",
    "DeprecationWarning", "EOFError", "EncodingWarning", "Exception", "FileExistsError",
    "FileNotFoundError", "FloatingPointError", "FutureWarning", "GeneratorExit", "ImportError",
    "ImportWarning", "IndentationError", "IndexError", "InterruptedError", "IsADirectoryError",
    "KeyError", "KeyboardInterrupt", "LookupError", "MemoryError", "ModuleNotFoundError",
    "NameError", "NotADirectoryError", "NotImplementedError", "OSError", "OverflowError",
    "PendingDeprecationWarning", "PermissionError", "ProcessLookupError", "RecursionError",
    "ReferenceError", "ResourceWarning", "RuntimeError", "RuntimeWarning", "StopAsyncIteration",
    "StopIteration", "SyntaxError", "SyntaxWarning", "SystemError", "SystemExit", "TabError",
    "TimeoutError", "TypeError", "UnboundLocalError", "UnicodeError", "UnicodeWarning",
    "UserWarning", "ValueError", "Warning", "ZeroDivisionError"]

def detailedFailures : List String :=
  ["BaseExceptionGroup", "ExceptionGroup", "UnicodeDecodeError", "UnicodeEncodeError",
    "UnicodeTranslateError"]

def functions : List String :=
  ["abs", "aiter", "all", "anext", "any", "ascii", "bin", "breakpoint", "callable", "chr",
    "compile", "delattr", "dir", "divmod", "eval", "exec", "format", "getattr", "globals",
    "hasattr", "hash", "hex", "id", "input", "isinstance", "issubclass", "iter", "len", "locals",
    "max", "min", "next", "oct", "open", "ord", "pow", "print", "repr", "round", "setattr",
    "sorted", "sum", "vars", "__build_class__", "__import__"]

def builtin? (s : String) : Option Value :=
  if plainTypes.contains s || failureTypes.contains s || detailedFailures.contains s then
    some (.ref (.type s))
  else if functions.contains s then some (.ref (.function s))
  else match s with
    | "EnvironmentError" | "IOError" => some (.ref (.type "OSError"))
    | "Ellipsis" => some (.ref (.thing "ellipsis" "Ellipsis" "Ellipsis"))
    | "NotImplemented" =>
      some (.ref (.thing "NotImplementedType" "NotImplemented" "NotImplemented"))
    | "None" => some .null
    | "True" | "__debug__" => some (.bool true)
    | "False" => some (.bool false)
    | "__name__" => some (.str "builtins")
    | "__package__" => some (.str "")
    | "copyright" | "credits" | "license" => some (.ref (.other "_Printer"))
    | "exit" | "quit" => some (.ref (.other "Quitter"))
    | "help" => some (.ref (.other "_Helper"))
    | "__loader__" => some (.ref (.type "BuiltinImporter"))
    | "__spec__" => some (.ref (.other "ModuleSpec"))
    | _ => none

def ownName? : Value → Option String
  | .ref (.type n) | .ref (.function n) => some n
  | .ref (.thing "GenericAlias" written _) => some (String.ofList (written.toList.takeWhile (· != '[')))
  | _ => none

def mistyped {α : Type} : Try α := fails .wrongType

def distinct (vs : List Value) : List Value :=
  vs.foldl (fun acc v => if acc.any v.alike then acc else acc ++ [v]) []

def members (vs : List Value) : Try (List Value) :=
  if vs.all Value.isKey then .ok (distinct vs) else mistyped

def elementsOf (v : Value) : Try (List Value) :=
  match v.elements? with
  | some vs => .ok vs
  | none => mistyped

def insertOrdered (v : Value) : List Value → Try (List Value)
  | [] => .ok [v]
  | w :: ws => do
    if ← Value.less false v w then return v :: w :: ws
    else return w :: (← insertOrdered v ws)

def sorted (vs : List Value) : Try (List Value) :=
  vs.foldlM (fun acc v => insertOrdered v acc) []

def extreme (greatest : Bool) : List Value → Try Value
  | [] => fails .invalidValue
  | v :: vs => vs.foldlM (fun best w => do
      let better ← if greatest then Value.less false best w else Value.less false w best
      return if better then w else best) v

def failureOf (kind : String) (args : List Value) : Value :=
  let written := match args with
    | [v] => kind ++ "(" ++ v.literal Value.plainRef ++ ")"
    | vs => kind ++ (Value.tuple vs).literal Value.plainRef
  let shown := match args with
    | [] => ""
    | [v] => if kind == "KeyError" then v.literal Value.plainRef else v.display Value.plainRef
    | vs => (Value.tuple vs).literal Value.plainRef
  .ref (.thing kind written shown)

def object (kind : String) (about : Value) : Value :=
  let text := "<" ++ kind ++ "(" ++ about.literal Value.plainRef ++ ")>"
  .ref (.thing kind text text)

def makeOf (type : String) (v : Value) : Try Value :=
  match type with
  | "str" => .ok (.str (v.display Value.plainRef))
  | "bool" => .ok (.bool v.truthy)
  | "int" => match v with
    | .str s => match Text.readInt? s with
      | some n => .ok (.int n)
      | none => fails .invalidValue
    | .float x => match Decimal.truncate? x with
      | some n => .ok (.int n)
      | none => fails (if x.isNaN then .invalidValue else .overflow)
    | v => match v.number? with
      | some (.whole n) => .ok (.int n)
      | _ => mistyped
  | "float" => match v with
    | .str s => match Text.readFloat? s with
      | some x => .ok (.float x)
      | none => fails .invalidValue
    | v => match v.number? with
      | some n => n.toFloat.map .float
      | none => mistyped
  | "complex" => match v with
    | .str s => match Text.readComplex? s with
      | some (a, b) => .ok (.complex a b)
      | none => fails .invalidValue
    | v => match v.number? with
      | some n => n.parts.map fun (a, b) => .complex a b
      | none => mistyped
  | "list" => (elementsOf v).map .list
  | "tuple" => (elementsOf v).map .tuple
  | "set" => do return .set (← members (← elementsOf v))
  | "frozenset" => do return .frozen (← members (← elementsOf v))
  | "dict" => (Entries.ofValue v).map Value.ofEntries
  | "type" => .ok (.ref (.type v.typeName))
  | "slice" =>
    let text := "slice(None, " ++ v.literal Value.plainRef ++ ", None)"
    .ok (.ref (.thing "slice" text text))
  | "classmethod" | "staticmethod" => .ok (object type v)
  | "property" => .ok (.ref (.other type))
  | "enumerate" | "reversed" | "zip" => do
    let _ ← elementsOf v
    return .ref (.other type)
  | n => if failureTypes.contains n then .ok (failureOf n [v]) else mistyped

def applyTo (function : String) (v : Value) : Try Value :=
  match function with
  | "abs" => match v.number? with
    | some (.whole n) => .ok (.int n.natAbs)
    | some (.real x) => .ok (.float x.abs)
    | _ => mistyped
  | "all" => do return .bool ((← elementsOf v).all Value.truthy)
  | "any" => do return .bool ((← elementsOf v).any Value.truthy)
  | "ascii" => .ok (.str (Format.asciiLiteral v))
  | "callable" => .ok (.bool (ownName? v).isSome)
  | "format" => .ok (.str (v.display Value.plainRef))
  | "iter" => do
    let _ ← elementsOf v
    let kind := match v with
      | .str s => if s.toList.all (·.toNat < 128) then "str_ascii_iterator" else "str_iterator"
      | v => v.typeName ++ "_iterator"
    return .ref (.other kind)
  | "len" => do return .int (← elementsOf v).length
  | "max" => do extreme true (← elementsOf v)
  | "min" => do extreme false (← elementsOf v)
  | "ord" => match v with
    | .str s => match s.toList with
      | [c] => .ok (.int c.toNat)
      | _ => mistyped
    | .bytes [b] => .ok (.int b.toNat)
    | _ => mistyped
  | "print" => .ok .null
  | "repr" => .ok (.str (v.literal Value.plainRef))
  | "sorted" => do return .list (← sorted (← elementsOf v))
  | "sum" => do
    let total ← (← elementsOf v).foldlM (fun (acc : Number) w => match w.number? with
      | some n => acc.add n
      | none => mistyped) (.whole 0)
    return total.toValue
  | "input" => fails .endOfInput
  | "open" => fails .fileNotFound
  | "__import__" => fails .moduleNotFound
  | _ => mistyped

def call (f : Value) (args : List Value) : Try Value :=
  match f, args with
  | .ref (.type n), [v] => makeOf n v
  | .ref (.function n), [v] => applyTo n v
  | .ref (.type n), [] => match n with
    | "str" => .ok (.str "")
    | "int" => .ok (.int 0)
    | "float" => .ok (.float 0.0)
    | "bool" => .ok (.bool false)
    | "complex" => .ok (.complex 0.0 0.0)
    | "list" => .ok (.list [])
    | "tuple" => .ok (.tuple [])
    | "set" => .ok (.set [])
    | "frozenset" => .ok (.frozen [])
    | "dict" => .ok (.map [])
    | "bytes" => .ok (.bytes [])
    | n => if failureTypes.contains n then .ok (failureOf n []) else mistyped
  | .ref (.thing "GenericAlias" written _), args =>
    let base := String.ofList (written.toList.takeWhile (· != '['))
    match args with
    | [v] => makeOf base v
    | _ => mistyped
  | _, _ => mistyped

end Launchpad.Expr
