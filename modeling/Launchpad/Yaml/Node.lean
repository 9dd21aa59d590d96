import Launchpad.Yaml.Token

/-!
The nodes of a parameter file: scalars, sequences and mappings with their tags. An alias stands
for a copy of the node that its anchor marks.
-/

namespace Launchpad.Yaml

inductive Node where
  | scalar (start : Mark) (tag : Option String) (text : String) (plain : Bool)
  | seq (start : Mark) (tag : Option String) (items : List Node)
  | map (start : Mark) (tag : Option String) (entries : List (Node × Node))
  | cycle (start : Mark)

namespace Node

def start : Node → Mark
  | .scalar m .. | .seq m .. | .map m .. | .cycle m => m

def label : Node → String
  | .scalar .. => "scalar"
  | .map .. => "mapping"
  | .seq .. | .cycle _ => "sequence"

end Node

/-- Where the reading of nodes stands: the tokens, the anchors seen so far, and the tag handles. -/
structure Reader where
  scanner : Scanner
  anchors : List (String × Node) := []
  handles : TextPairs := []

abbrev Read := StateT Reader (Except Failure)

structure Properties where
  start : Option Mark := none
  anchor : Option String := none
  tag : Option Located := none

namespace Read

def lift {α : Type} (x : Scan α) : Read α := do
  let r ← get
  match x.run r.scanner with
  | .ok (a, s) =>
    set { r with scanner := s }
    return a
  | .error e => throw e

def look : Read Located := lift Scan.look
def next : Read Located := lift Scan.next

def sight : Read Token := do
  return (← look).token

def sees (ts : List Token) : Read Bool := do
  return ts.contains (← sight)

def fail {α : Type} (problem : String) (here : Mark) (context : Option Context := none) : Read α :=
  throw { cause := .yamlParse, context, problem, mark := some here }

def failAt {α : Type} (text : String) (start : Mark) (problem : String) : Read α := do
  let t ← look
  fail (problem ++ " " ++ Text.quote t.token.label) t.start (some ⟨text, some start⟩)

def refuse {α : Type} (problem : String) (here : Mark) (context : Option Context := none) :
    Read α :=
  throw { cause := .yamlCompose, context, problem, mark := some here }

def tooDeep {α : Type} : Read α :=
  throw (.plain .recursion)

def empty (start : Mark) : Node := .scalar start none "" true

def commonHandles : TextPairs :=
  [("!", "!"), ("!!", "tag:yaml.org,2002:")]

def setAnchor (name : String) (n : Node) : Read Unit :=
  modify fun r => { r with anchors := r.anchors.map fun (k, v) =>
    if k == name then (k, n) else (k, v) }

def properties : Read Properties := do
  let first ← look
  match first.token with
  | .anchor a =>
    let _ ← next
    let second ← look
    match second.token with
    | .tag _ _ =>
      let _ ← next
      return ⟨some first.start, some a, some second⟩
    | _ => return ⟨some first.start, some a, none⟩
  | .tag _ _ =>
    let _ ← next
    match ← sight with
    | .anchor a =>
      let _ ← next
      return ⟨some first.start, some a, some first⟩
    | _ => return ⟨some first.start, none, some first⟩
  | _ => return {}

def resolveTag (p : Properties) : Read (Option String) := do
  match p.tag with
  | none => return none
  | some t =>
    match t.token with
    | .tag (some h) s =>
      match (← get).handles.lookup h with
      | some root => return some (root ++ s)
      | none =>
        fail ("found undefined tag handle " ++ Text.quote h) t.start
          (some ⟨"while parsing a node", p.start⟩)
    | .tag none s => return some s
    | _ => return none

def nextInFlow (close : Token) (first : Bool) (text : String) (start : Mark) : Read Unit := do
  unless first || (← sees [close]) do
    if ← sees [.flowEntry] then
      let _ ← next
    else failAt text start s!"expected ',' or '{close.label}', but got"

mutual

/-- A node; in a block it may be a block collection, and as the value of an entry a sequence
that is not deeper than its key. -/
def node (block indentless : Bool) : Nat → Read Node
  | 0 => tooDeep
  | fuel + 1 => do
    let first ← look
    match first.token with
    | .«alias» a =>
      let _ ← next
      match (← get).anchors.lookup a with
      | some n => return n
      | none => refuse ("found undefined alias " ++ Text.quote a) first.start
    | _ =>
      let p ← properties
      let tag ← resolveTag p
      let here ← look
      let start := p.start.getD here.start
      let t := here.token
      let starts := t matches .scalar .. || t == .flowSequenceStart || t == .flowMappingStart ||
        (block && (t == .sequenceStart || t == .mappingStart)) || (indentless && t == .entry)
      if !starts && p.start.isNone then
        let kind := if block then "block" else "flow"
        failAt s!"while parsing a {kind} node" start "expected the node content, but found"
      match p.anchor with
      | some a =>
        match (← get).anchors.lookup a with
        | some n =>
          refuse "second occurrence" start
            (some ⟨s!"found duplicate anchor {Text.quote a}; first occurrence", some n.start⟩)
        | none => pure ()
        modify fun r => { r with anchors := (a, .cycle start) :: r.anchors }
      | none => pure ()
      let n ← content block indentless start tag fuel
      match p.anchor with
      | some a => setAnchor a n
      | none => pure ()
      return n

def content (block indentless : Bool) (start : Mark) (tag : Option String) : Nat → Read Node
  | 0 => tooDeep
  | fuel + 1 => do
    let here ← look
    if indentless && here.token == .entry then return .seq start tag (← looseItems fuel)
    else match here.token with
      | .scalar s plain =>
        let _ ← next
        return .scalar start tag s plain
      | .flowSequenceStart =>
        let _ ← next
        return .seq start tag (← flowItems here.start true fuel)
      | .flowMappingStart =>
        let _ ← next
        return .map start tag (← flowEntries here.start true fuel)
      | .sequenceStart =>
        if block then
          let _ ← next
          return .seq start tag (← blockItems here.start fuel)
        else return .scalar start tag "" true
      | .mappingStart =>
        if block then
          let _ ← next
          return .map start tag (← blockEntries here.start fuel)
        else return .scalar start tag "" true
      | _ => return .scalar start tag "" true

/-- A node; or nothing, at the end of a sign, where one of these tokens follows. -/
def nodeUnless (block indentless : Bool) (sign : Located) (ts : List Token) : Nat → Read Node
  | 0 => tooDeep
  | fuel + 1 => do
    if ← sees ts then return empty sign.stop else node block indentless fuel

def blockItems (start : Mark) : Nat → Read (List Node)
  | 0 => tooDeep
  | fuel + 1 => do
    match ← sight with
    | .entry =>
      let n ← nodeUnless true false (← next) [.entry, .blockEnd] fuel
      return n :: (← blockItems start fuel)
    | .blockEnd =>
      let _ ← next
      return []
    | _ =>
      failAt "while parsing a block collection" start "expected <block end>, but found"

def looseItems : Nat → Read (List Node)
  | 0 => tooDeep
  | fuel + 1 => do
    if ← sees [.entry] then
      let n ← nodeUnless true false (← next) [.entry, .key, .value, .blockEnd] fuel
      return n :: (← looseItems fuel)
    else return []

def blockEntries (start : Mark) : Nat → Read (List (Node × Node))
  | 0 => tooDeep
  | fuel + 1 => do
    match ← sight with
    | .key =>
      let k ← nodeUnless true true (← next) [.key, .value, .blockEnd] fuel
      let v ← entryValue true [.key, .value, .blockEnd] fuel
      return (k, v) :: (← blockEntries start fuel)
    | .blockEnd =>
      let _ ← next
      return []
    | _ =>
      failAt "while parsing a block mapping" start "expected <block end>, but found"

def entryValue (block : Bool) (ts : List Token) : Nat → Read Node
  | 0 => tooDeep
  | fuel + 1 => do
    if ← sees [.value] then nodeUnless block block (← next) ts fuel
    else return empty (← look).start

def flowItems (start : Mark) (first : Bool) : Nat → Read (List Node)
  | 0 => tooDeep
  | fuel + 1 => do
    nextInFlow .flowSequenceEnd first "while parsing a flow sequence" start
    match ← sight with
    | .key =>
      let sign ← next
      let k ← nodeUnless false false sign [.value, .flowEntry, .flowSequenceEnd] fuel
      let v ← entryValue false [.flowEntry, .flowSequenceEnd] fuel
      return .map sign.start none [(k, v)] :: (← flowItems start false fuel)
    | .flowSequenceEnd =>
      let _ ← next
      return []
    | _ =>
      let n ← node false false fuel
      return n :: (← flowItems start false fuel)

def flowEntries (start : Mark) (first : Bool) : Nat → Read (List (Node × Node))
  | 0 => tooDeep
  | fuel + 1 => do
    nextInFlow .flowMappingEnd first "while parsing a flow mapping" start
    match ← sight with
    | .key =>
      let k ← nodeUnless false false (← next) [.value, .flowEntry, .flowMappingEnd] fuel
      let v ← entryValue false [.flowEntry, .flowMappingEnd] fuel
      return (k, v) :: (← flowEntries start false fuel)
    | .flowMappingEnd =>
      let _ ← next
      return []
    | _ =>
      let k ← node false false fuel
      let v := empty (← look).start
      return (k, v) :: (← flowEntries start false fuel)

end

def directives : Nat → Bool → Read Unit
  | 0, _ => tooDeep
  | fuel + 1, versioned => do
    let here ← look
    match here.token with
    | .directive "YAML" args =>
      let _ ← next
      if versioned then fail "found duplicate YAML directive" here.start
      if (args.headD "").toNat? != some 1 then
        fail "found incompatible YAML document (version 1.* is required)" here.start
      directives fuel true
    | .directive "TAG" args =>
      let _ ← next
      let handle := args.headD ""
      if ((← get).handles.lookup handle).isSome then
        fail ("duplicate tag handle " ++ Text.quote handle) here.start
      modify fun r => { r with handles := (handle, (args.drop 1).headD "") :: r.handles }
      directives fuel versioned
    | .directive _ _ =>
      let _ ← next
      directives fuel versioned
    | _ => pure ()

def skipDocumentEnds : Nat → Read Unit
  | 0 => pure ()
  | fuel + 1 => do
    if ← sees [.documentEnd] then
      let _ ← next
      skipDocumentEnds fuel
    else pure ()

def documentStart (fuel : Nat) : Read (Option Mark) := do
  skipDocumentEnds fuel
  let here ← look
  if here.token == .streamEnd then return none
  modify fun r => { r with handles := [] }
  directives fuel false
  modify fun r => { r with handles := r.handles ++ commonHandles }
  let t ← next
  if t.token == .documentStart then return some here.start
  else
    fail ("expected '<document start>', but found " ++ Text.quote t.token.label) t.start

def document (fuel : Nat) : Read (Option Node) := do
  let content ← match ← sight with
    | .directive _ _ | .documentStart | .streamEnd => do
      match ← documentStart fuel with
      | some _ =>
        let t ← look
        if t.token matches .directive _ _ ||
            (← sees [.documentStart, .documentEnd, .streamEnd]) then
          pure (some (empty t.start))
        else pure (some (← node true false fuel))
      | none => pure none
    | _ => do
      modify fun r => { r with handles := commonHandles }
      pure (some (← node true false fuel))
  match content with
  | none => return none
  | some n =>
    if ← sees [.documentEnd] then
      let _ ← next
    match ← documentStart fuel with
    | some other =>
      refuse "but found another document" other
        (some ⟨"expected a single document in the stream", some n.start⟩)
    | none => return some n

end Read

def isAllowed (c : Char) : Bool :=
  let n := c.toNat
  n == 9 || n == 10 || n == 13 || (0x20 ≤ n && n ≤ 0x7E) || n == 0x85 ||
    (0xA0 ≤ n && n ≤ 0xD7FF) || (0xE000 ≤ n && n ≤ 0xFFFD) || 0x10000 ≤ n

def Node.read (s : String) : Except Failure (Option Node) :=
  let cs := s.toList
  match cs.dropWhile isAllowed with
  | [] => (Read.document (8 * cs.length + 64)).run' { scanner := { rest := cs } }
  | c :: _ =>
    let code := Text.padLeft '0' (String.ofList (Nat.toDigits 16 c.toNat)) 4
    .error
      { cause := .yamlRead
        problem := s!"unacceptable character #x{code}: special characters are not allowed"
        position := some (cs.takeWhile isAllowed).length }

end Launchpad.Yaml
