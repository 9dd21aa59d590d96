import Launchpad.Starter.Select
import Launchpad.Text.ShellWords

/-!
Completion of a command line: what may follow the words that are already there. Behind the name of
an option come its choices, after a dash come the options that are not yet given, and elsewhere come
the packages or the files of a package.
-/

namespace Launchpad.Starter

open CommandLine

inductive Place where
  | program
  | package (name : String)
  | file (f : File)

structure Spot where
  place : Place
  command : Command
  reading : Reading

def readLenient (c : Command) (args : List String) : Cli Reading :=
  match c.read true args with
  | .ok r => pure r
  | .error (.stop s) => throw (.stop s)
  | .error _ => pure {}

def locate (i : Installation) (args : List String) : Cli Spot := do
  let top ← readLenient programCommand args
  let atTop : Spot := ⟨.program, programCommand, top⟩
  match top.words with
  | [] => return atTop
  | package :: rest =>
    unless isPackage i package do return atTop
    let inner ← readLenient packageCommand rest
    let atPackage : Spot := ⟨.package package, packageCommand, inner⟩
    match inner.words with
    | [] => return atPackage
    | name :: rest =>
      match ← findFile i package name with
      | none => return atPackage
      | some f => return ⟨.file f, f.command, ← readLenient f.command rest⟩

def startsOption (word : String) : Bool :=
  Text.startsWith word "-"

def optionNames (s : Spot) (word : String) : List String :=
  let open' := s.command.allOptions.filter fun o => !s.reading.given.contains o.key
  (open'.flatMap Opt.allNames).filter fun n => Text.startsWith n word

def choicesFor (o : Opt) (word : String) : Try (List String) :=
  match o.kind with
  | .choice choices anyCase => do
    let fold := if anyCase then Text.lower else id
    let cs ← Kind.options choices
    return (cs.map Kind.plain).filter fun c => Text.startsWith (fold c) (fold word)
  | _ => .ok []

def commandNames (i : Installation) (s : Spot) (word : String) : Cli (List String) :=
  match s.place with
  | .program =>
    let names := (i.packages.map (·.1)).mergeSort fun a b => decide (a ≤ b)
    return names.filter fun n => Text.startsWith n word
  | .package p => do
    let names := (← fileNames i p).filter fun n => Text.startsWith n word
    let found ← names.mapM fun n => do return (← findFile i p n).map fun _ => n
    return found.filterMap id
  | .file _ => return []

def offers (i : Installation) (s : Spot) (word : String) : Cli (List String) := do
  let commands ← commandNames i s word
  let dashed := word.toList.head?.any fun c => !Text.isAlphanumeric c
  return commands ++ (if dashed then optionNames s word else [])

def pendingOption? (c : Command) (args : List String) : Option Opt := do
  let last ← args.getLast?
  guard (startsOption last)
  c.allOptions.find? fun o => !o.isFlag && o.names.contains last

def completions (i : Installation) (args : List String) (word : String) : Cli (List String) := do
  let s ← locate i args
  let (args, word) :=
    if word == "=" then (args, "")
    else if startsOption word then
      (Text.cut? word "=").elim (args, word) fun (name, rest) => (args ++ [name], rest)
    else (args, word)
  if !args.contains "--" && startsOption word then offers i s word
  else
    match pendingOption? s.command args with
    | some o => Cli.lift (choicesFor o word)
    | none => offers i s word

def complete (i : Installation) : Cli Unit := do
  let setting (k : String) : Cli String :=
    (i.env.lookup k).elim (throw (.stop (.silent .unknownKey))) pure
  let words := Text.shellWords (← setting "COMP_WORDS")
  let count ← setting "COMP_CWORD"
  match Text.readInt? count with
  | none => throw (.stop (.silent .invalidValue))
  | some n =>
    let k := if n < 0 then n + words.length else n
    let word := if k < 0 then "" else words[k.toNat]?.getD ""
    let names ← completions i ((words.take k.toNat).drop 1) word
    Cli.print ("\n".intercalate (names.map ("plain," ++ ·)))
    throw (.exit 0)

def run (i : Installation) (args : List String) : Cli Unit :=
  match i.env.lookup "_BL_COMPLETE" with
  | none | some "" => select i args
  | some "bash_complete" => complete i
  | some _ => throw (.exit 1)

end Launchpad.Starter
