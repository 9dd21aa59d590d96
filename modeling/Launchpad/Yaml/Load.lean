import Launchpad.Text.Base64
import Launchpad.Yaml.Node
import Launchpad.Yaml.Scalar

/-!
The values of parameter files.
-/

namespace Launchpad.Yaml

def tagRoot : String := "tag:yaml.org,2002:"

def commonTag? (tag : String) : Option String :=
  if Text.startsWith tag tagRoot then some (String.ofList (tag.toList.drop tagRoot.length))
  else none

def fullTag (t : ScalarType) : String :=
  tagRoot ++ match t with
    | .null => "null"
    | .bool => "bool"
    | .int => "int"
    | .float => "float"
    | .timestamp => "timestamp"
    | .binary => "binary"
    | .str => "str"
    | .merge => "merge"
    | .equal => "value"

def scalarTypes : List (String × ScalarType) :=
  [ScalarType.null, .bool, .int, .float, .timestamp, .binary, .str, .merge, .equal].map fun t =>
    (fullTag t, t)

def Node.tag : Node → String
  | .scalar _ tag text plain => match tag with
    | none => fullTag (if plain then typeOf text else .str)
    | some "!" => fullTag (typeOf text)
    | some t => t
  | .seq _ tag _ => match tag with
    | none | some "!" => tagRoot ++ "seq"
    | some t => t
  | .map _ tag _ => match tag with
    | none | some "!" => tagRoot ++ "map"
    | some t => t
  | .cycle _ => ""

def unbuilt {α : Type} (problem : String) (here : Mark) (context : Option Context := none) :
    Except Failure α :=
  .error { cause := .yamlConstruct, context, problem, mark := some here }

def wrongNode {α : Type} (kind : String) (n : Node) : Except Failure α :=
  unbuilt s!"expected a {kind} node, but found {n.label}" n.start

def isMerge (n : Node) : Bool := n.tag == fullTag .merge

def isEqualKey (n : Node) : Bool := n.tag == fullTag .equal

def scalarText : Nat → Node → Except Failure String
  | _, .scalar _ _ text _ => .ok text
  | fuel + 1, .map start tag es => match es.find? fun e => isEqualKey e.1 with
    | some e => scalarText fuel e.2
    | none => wrongNode "scalar" (.map start tag es)
  | _, n => wrongNode "scalar" n

def readBytes (n : Node) (text : String) : Except Failure Value :=
  if text.toList.any (·.toNat ≥ 128) then
    unbuilt "failed to convert base64 data into ascii" n.start
  else match Text.ofBase64 text with
    | .ok bs => .ok (.bytes bs)
    | .error e => unbuilt ("failed to decode base64 data: " ++ e.message) n.start

def scalarValue (n : Node) (type : ScalarType) (text : String) : Except Failure Value :=
  match type with
  | .null => .ok .null
  | .bool => match bools.lookup (lower text) with
    | some b => .ok (.bool b)
    | none => .error (.plain .unknownKey)
  | .int => readInt text
  | .float => readReal text
  | .timestamp => readTime text
  | .binary => readBytes n text
  | .str => .ok (.str text)
  | .merge | .equal =>
    unbuilt ("could not determine a constructor for the tag " ++ Text.quote n.tag) n.start

def inMapping (start : Mark) : Option Context :=
  some ⟨"while constructing a mapping", some start⟩

def flatten : Nat → Mark → List (Node × Node) → Except Failure (List (Node × Node))
  | 0, _, _ => .error (.plain .recursion)
  | fuel + 1, start, es => do
    let own := es.filter fun e => !isMerge e.1
    let merged ← (es.filter fun e => isMerge e.1).mapM fun e => match e.2 with
      | .map m _ fs => flatten fuel m fs
      | .seq _ _ ns => do
        let parts ← ns.mapM fun n => match n with
          | .map m _ fs => flatten fuel m fs
          | n => unbuilt ("expected a mapping for merging, but found " ++ n.label) n.start
            (inMapping start)
        return parts.reverse.flatten
      | n =>
        unbuilt ("expected a mapping or list of mappings for merging, but found " ++ n.label)
          n.start (inMapping start)
    return merged.flatten ++ own

def pairOf (text : String) (start : Mark) (n : Node) : Except Failure (Node × Node) :=
  match n with
  | .map _ _ [e] => .ok e
  | .map m _ es =>
    unbuilt s!"expected a single mapping item, but found {es.length} items" m
      (some ⟨text, some start⟩)
  | n => unbuilt ("expected a mapping of length 1, but found " ++ n.label) n.start
    (some ⟨text, some start⟩)

mutual

def valueOf : Nat → Node → Except Failure Value
  | 0, _ => .error (.plain .recursion)
  | fuel + 1, n => do
    match scalarTypes.lookup n.tag, commonTag? n.tag with
    | some .null, _ =>
      let _ ← scalarText (fuel + 1) n
      return .null
    | some type, _ =>
      if type == .merge || type == .equal then scalarValue n type ""
      else scalarValue n type (← scalarText (fuel + 1) n)
    | none, some "seq" => match n with
      | .seq _ _ items => return .list (← valuesOf fuel items)
      | n => wrongNode "sequence" n
    | none, some "map" => match n with
      | .map start _ entries => return Value.ofEntries (← mappingOf fuel start entries)
      | n => wrongNode "mapping" n
    | none, some "set" => match n with
      | .map start _ entries =>
        let keys := Entries.keys (← mappingOf fuel start entries)
        return .set (keys.foldl
          (fun acc v => if acc.any (Value.same v) then acc else acc ++ [v]) [])
      | n => wrongNode "mapping" n
    | none, some "omap" => return .list (← pairsOf fuel "while constructing an ordered map" n)
    | none, some "pairs" => return .list (← pairsOf fuel "while constructing pairs" n)
    | _, _ =>
      match n with
      | .cycle start => unbuilt "found unconstructable recursive node" start
      | n =>
        unbuilt ("could not determine a constructor for the tag " ++ Text.quote n.tag) n.start

def valuesOf : Nat → List Node → Except Failure (List Value)
  | _, [] => .ok []
  | 0, _ => .error (.plain .recursion)
  | fuel + 1, n :: ns => do
    let v ← valueOf fuel n
    return v :: (← valuesOf fuel ns)

def pairsOf (fuel : Nat) (text : String) (n : Node) : Except Failure (List Value) :=
  match fuel, n with
  | 0, _ => .error (.plain .recursion)
  | fuel + 1, .seq start _ items => items.mapM fun item => do
    let (k, v) ← pairOf text start item
    let a ← valueOf fuel k
    let b ← valueOf fuel v
    return .tuple [a, b]
  | _, n => unbuilt ("expected a sequence, but found " ++ n.label) n.start
    (some ⟨text, some n.start⟩)

def mappingOf (fuel : Nat) (start : Mark) (es : List (Node × Node)) : Except Failure Entries :=
  match fuel with
  | 0 => .error (.plain .recursion)
  | fuel + 1 => do
    entriesOf fuel start (← flatten (fuel + 1) start es)

def entriesOf : Nat → Mark → List (Node × Node) → Except Failure Entries
  | _, _, [] => .ok []
  | 0, _, _ => .error (.plain .recursion)
  | fuel + 1, start, (k, v) :: es => do
    let key ← match k, isEqualKey k with
      | .scalar _ _ text _, true => pure (Value.str text)
      | k, _ => valueOf fuel k
    match key with
    | .list _ | .map _ | .set _ => unbuilt "found unhashable key" k.start (inMapping start)
    | _ => pure ()
    let value ← valueOf fuel v
    return (key, value) :: (← entriesOf fuel start es)

end

/-! ### The order of failures

The nodes are looked at level by level: all texts that a collection holds come before what the
collections in it hold. -/

def glance (fuel : Nat) (n : Node) : Except Failure (List Node) :=
  match scalarTypes.lookup n.tag, commonTag? n.tag, n with
  | none, some tag, n =>
    if ["seq", "map", "set", "omap", "pairs"].contains tag then .ok [n]
    else (valueOf fuel n).map fun _ => []
  | _, _, n => (valueOf fuel n).map fun _ => []

def glanceAll (fuel : Nat) (ns : List Node) : Except Failure (List Node) := do
  return (← ns.mapM (glance fuel)).flatten

def glanceEntries (fuel : Nat) (start : Mark) (es : List (Node × Node)) :
    Except Failure (List Node) := do
  let parts ← (← flatten fuel start es).mapM fun (k, v) => do
    let later ← if isEqualKey k then pure [] else glance fuel k
    unless later.isEmpty do unbuilt "found unhashable key" k.start (inMapping start)
    glance fuel v
  return parts.flatten

def glancePairs (fuel : Nat) (text : String) (n : Node) : Except Failure (List Node) :=
  match n with
  | .seq start _ items => do
    let parts ← items.mapM fun item => do
      let (k, v) ← pairOf text start item
      glanceAll fuel [k, v]
    return parts.flatten
  | n => (pairsOf fuel text n).map fun _ => []

def glanceInside (fuel : Nat) (n : Node) : Except Failure (List Node) :=
  match commonTag? n.tag, n with
  | some "seq", .seq _ _ items => glanceAll fuel items
  | some "map", .map start _ es | some "set", .map start _ es => glanceEntries fuel start es
  | some "omap", n => glancePairs fuel "while constructing an ordered map" n
  | some "pairs", n => glancePairs fuel "while constructing pairs" n
  | _, n => (valueOf fuel n).map fun _ => []

def checkLevels : Nat → List Node → Except Failure Unit
  | _, [] => .ok ()
  | 0, _ => .error (.plain .recursion)
  | fuel + 1, ns => do
    let parts ← ns.mapM (glanceInside fuel)
    checkLevels fuel parts.flatten

def load (file s : String) : Try Value :=
  let value : Except Failure Value := do
    match ← Node.read s with
    | none => return .null
    | some n =>
      let fuel := 8 * s.length + 64
      checkLevels fuel (← glance fuel n)
      valueOf fuel n
  value.mapError fun f => .silent f.cause (f.text file)

end Launchpad.Yaml
