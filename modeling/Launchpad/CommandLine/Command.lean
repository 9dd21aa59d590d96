import Launchpad.CommandLine.Opt
import Launchpad.Text.Similar

/-!
Commands and how a command line is read. Words that start with a dash are options; an option with
a value takes the next word, or what follows an equals sign. Options are then looked at in the order
in which they stand on the command line, those that ask for help or the version first, and those
that are not given last.
-/

namespace Launchpad.CommandLine

structure Command where
  options : List Opt := []
  help : Option String := none
  closing : Option String := none
  usage : List String := ["[OPTIONS]"]
  ignoresUnknown : Bool := false
  takesMore : Bool := false
  mixed : Bool := true
  helpWithoutWords : Bool := false

def Command.allOptions (c : Command) : List Opt :=
  c.options ++ (Opt.forHelp? (c.options.flatMap Opt.allNames)).toList

structure Scan where
  values : Named := []
  order : List Nat := []
  words : List String := []

structure OptName where
  shown : String
  opt : Opt
  place : Nat
  off : Bool

def Command.named (c : Command) : List OptName :=
  c.allOptions.zipIdx.flatMap fun (o, i) =>
    o.names.map (⟨·, o, i, false⟩) ++ o.offNames.map (⟨·, o, i, true⟩)

def isShort (name : String) : Bool :=
  let (dashes, rest) := splitName name
  dashes.length == 1 && rest.length == 1

namespace Scan

def record (s : Scan) (n : OptName) (v : Value) : Scan :=
  { s with values := s.values ++ [(n.opt.key, v)], order := s.order ++ [n.place] }

def flagValue (n : OptName) : Value :=
  .bool (if n.opt.role != .value then true else !n.off)

def get? (s : Scan) (key : String) : Option Value :=
  s.values.reverse.lookup key

/-- An option that still needs words, with the first of them if it stood in the same word. -/
structure Pending where
  name : OptName
  attached : Option String := none

/-- Reads options of one letter in one word. The result names an option that still needs words as
its value. -/
def shorts (c : Command) (dash : Char) : Chars → Chars → Scan →
    Except Trouble (Scan × Option Pending)
  | [], unknown, s => .ok (close unknown s, none)
  | ch :: rest, unknown, s =>
    let name := String.ofList [dash, ch]
    match c.named.reverse.find? fun n => n.shown == name && isShort n.shown with
    | none =>
      if c.ignoresUnknown then shorts c dash rest (unknown ++ [ch]) s
      else .error (.usage true s!"No such option: {name}")
    | some n =>
      if n.opt.isFlag then shorts c dash rest unknown (s.record n (flagValue n))
      else if rest.isEmpty then .ok (close unknown s, some ⟨n, none⟩)
      else .ok (close unknown s, some ⟨n, some (String.ofList rest)⟩)
where
  close (unknown : Chars) (s : Scan) : Scan :=
    if unknown.isEmpty then s
    else { s with words := s.words ++ [String.ofList (dash :: unknown)] }

def unknownOption (c : Command) (name : String) : String :=
  let known := (c.named.map (·.shown)).filter fun n => !isShort n
  let near := Text.closeMatches name known.eraseDups
  let listed := ", ".intercalate (near.mergeSort fun a b => decide (a ≤ b))
  match near with
  | [] => s!"No such option: {name}"
  | [_] => s!"No such option: {name} Did you mean {listed}?"
  | _ => s!"No such option: {name} (Possible options: {listed})"

def option (c : Command) (word : String) (s : Scan) : Except Trouble (Scan × Option Pending) :=
  let (name, attached) := (Text.cut? word "=").elim (word, none) fun (a, b) => (a, some b)
  match c.named.reverse.find? fun n => n.shown == name && !isShort n.shown with
  | some n =>
    if n.opt.isFlag then
      match attached with
      | some _ => .error (.usage false s!"Option '{name}' does not take a value.")
      | none => .ok (s.record n (flagValue n), none)
    else .ok (s, some ⟨n, attached⟩)
  | none =>
    match word.toList with
    | dash :: second :: rest =>
      if second != dash then shorts c dash (second :: rest) [] s
      else if c.ignoresUnknown then .ok ({ s with words := s.words ++ [word] }, none)
      else .error (.usage true (unknownOption c name))
    | _ => .ok (s, none)

def wordsValue : List String → Value
  | [w] => .str w
  | ws => .tuple (ws.map .str)

def missingWords (shown : String) (count : Nat) : String :=
  if count == 1 then s!"Option '{shown}' requires an argument."
  else s!"Option '{shown}' requires {count} arguments."

/-- Reads words up to their end, up to two dashes, or up to the first word that is no option where
those come first. The words that are left are in the result, and so is what went wrong. -/
def readWords (c : Command) : List String → Scan → Scan × List String × Option Trouble
  | [], s => (s, [], none)
  | w :: ws, s =>
    if w == "--" then (s, ws, none)
    else if Text.startsWith w "-" && w.length > 1 then
      match option c w s with
      | .error t => (s, ws, some t)
      | .ok (s, none) => readWords c ws s
      | .ok (s, some p) =>
        let count := p.name.opt.kind.width - p.attached.toList.length
        if ws.length < count then
          (s, [], some (.usage false (missingWords p.name.shown p.name.opt.kind.width)))
        else
          readWords c (ws.drop count)
            (s.record p.name (wordsValue (p.attached.toList ++ ws.take count)))
    else if c.mixed then readWords c ws { s with words := s.words ++ [w] }
    else (s, w :: ws, none)
termination_by ws => ws.length
decreasing_by
  · exact Nat.lt_succ_self _
  · exact Nat.lt_succ_of_le (List.drop_sublist _ _).length_le
  · exact Nat.lt_succ_self _

end Scan

/-- A command line that is read: the options with their values in the order in which they were
looked at, and the words that belong to no option. -/
structure Reading where
  values : List (Opt × Value) := []
  words : List String := []
  given : List String := []
  printed : List String := []

def Reading.shown (r : Reading) : Named :=
  r.values.foldl add []
where
  add (kvs : Named) : Opt × Value → Named
    | (o, v) =>
      if o.hidden then kvs
      else if kvs.any (·.1 == o.key) then
        kvs.map fun kv => if kv.1 == o.key then (o.key, v) else kv
      else kvs ++ [(o.key, v)]

def Reading.get? (r : Reading) (key : String) : Option Value :=
  (r.values.reverse.find? fun ov => ov.1.key == key).map (·.2)

namespace Command

def inOrder (c : Command) (order : List Nat) : List Opt :=
  let placed := c.allOptions.zipIdx
  let rank := fun (x : Opt × Nat) =>
    ((if x.1.isEager then 0 else 1), (order.idxOf? x.2).getD order.length)
  let before := fun a b =>
    let (x, y) := (rank a, rank b)
    decide (x.1 < y.1) || (x.1 == y.1 && decide (x.2 ≤ y.2))
  (placed.mergeSort before).map (·.1)

/-- Looks at the options one by one. When reading is `lenient`, a value that is not accepted is
missing and requests are not answered. -/
def look (lenient : Bool) (s : Scan) : List Opt → Except Trouble (List (Opt × Value))
  | [] => .ok []
  | o :: os => do
    let v ←
      match o.value (s.get? o.key) with
      | .ok v => pure v
      | .error t => if lenient then pure .null else .error t
    if !lenient && v.truthy then
      match o.role with
      | .help => throw .help
      | .version => throw .version
      | .value => pure ()
    return (o, v) :: (← look lenient s os)

def checkNames (c : Command) : Except Trouble Unit :=
  if c.named.any fun n => (splitName n.shown).1 == "" then
    .error (.stop (.silent .invalidValue))
  else .ok ()

def read (c : Command) (lenient : Bool) (args : List String) : Except Trouble Reading := do
  if args.isEmpty && c.helpWithoutWords && !lenient then throw .help
  c.checkNames
  let (s, rest, trouble) := Scan.readWords c args {}
  let words ←
    match trouble with
    | none => pure (s.words ++ rest)
    | some t => if lenient then pure s.words else throw t
  let values ← look lenient s (c.inOrder s.order)
  if !words.isEmpty && !c.takesMore && !lenient then
    let few := if words.length == 1 then "" else "s"
    let all := " ".intercalate words
    throw (.usage true s!"Got unexpected extra argument{few} ({all})")
  let printed := (c.inOrder s.order).filterMap fun o => (s.get? o.key).bind o.kind.printed?
  return ⟨values, words, s.values.map (·.1), printed⟩

end Command

end Launchpad.CommandLine
