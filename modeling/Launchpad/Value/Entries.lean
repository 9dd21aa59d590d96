import Launchpad.Fault

/-!
Entries that are given as something else than a map: sequences of pairs can be read as maps.
-/

namespace Launchpad

mutual

/-- May this value be the key of a map? What can change may not, nor a tuple that holds such a
value. -/
def Value.isKey : Value → Bool
  | .list _ | .map _ | .set _ => false
  | .tuple xs => Value.areKeys xs
  | .ref (.thing kind _ _) => kind != "slice"
  | _ => true

def Value.areKeys : List Value → Bool
  | [] => true
  | x :: xs => Value.isKey x && Value.areKeys xs

end

def Value.elements? : Value → Option (List Value)
  | .list xs | .tuple xs | .set xs | .frozen xs => some xs
  | .bytes bs => some (bs.map fun b => .int b.toNat)
  | .str s => some (s.toList.map fun c => .str (String.ofList [c]))
  | .map es => some (es.map (·.1))
  | _ => none

def Value.typeName : Value → String
  | .null => "NoneType"
  | .bool _ => "bool"
  | .int _ => "int"
  | .float _ => "float"
  | .complex _ _ => "complex"
  | .str _ => "str"
  | .bytes _ => "bytes"
  | .list _ => "list"
  | .tuple _ => "tuple"
  | .set _ => "set"
  | .frozen _ => "frozenset"
  | .map _ => "dict"
  | .date _ => "date"
  | .moment _ => "datetime"
  | .ref (.type _) => "type"
  | .ref (.function _) => "builtin_function_or_method"
  | .ref (.thing kind _ _) => kind
  | .ref _ => "object"

def Value.typeText : Value → String
  | .date _ => "datetime.date"
  | .moment _ => "datetime.datetime"
  | v => v.typeName

namespace Entries

def ofPair (v : Value) (i : Nat) : Try (Value × Value) :=
  let element := s!"dictionary update sequence element #{i}"
  match v.elements? with
  | some [k, x] =>
    if k.isKey then .ok (k, x)
    else fails .wrongType s!"unhashable type: '{k.typeText}'"
  | some xs => fails .invalidValue s!"{element} has length {xs.length}; 2 is required"
  | none => fails .wrongType s!"cannot convert {element} to a sequence"

def ofValue (v : Value) : Try Entries :=
  match v with
  | .map es => .ok es
  | v => match v.elements? with
    | some xs => xs.zipIdx.mapM fun (x, i) => ofPair x i
    | none => fails .wrongType s!"'{v.typeText}' object is not iterable"

def extend (es : Entries) (v : Value) : Try Entries :=
  (ofValue v).map es.update

end Entries

end Launchpad
