import Launchpad.CommandLine.Help
import Launchpad.Files
import Launchpad.Starter.File

/-!
The program that starts a launch file of a package: the first word of its command line names the
package, the second one the file, and the others are arguments for the launch file.
-/

namespace Launchpad.Starter

open CommandLine

/-- What is installed: the files, and the packages with the places where they are installed. -/
structure Installation where
  files : FileTree Content
  packages : TextPairs
  env : TextPairs

structure Screen where
  out : String := ""
  err : String := ""

inductive Ending where
  | exit (code : Int)
  | replaced (program : String) (args : List String)
  | stop (s : Stop)

abbrev Cli := EStateM Ending Screen

namespace Cli

def print (s : String) : Cli Unit :=
  modify fun x => { x with out := x.out ++ s ++ "\n" }

def printError (s : String) : Cli Unit :=
  modify fun x => { x with err := x.err ++ s }

def lift {α : Type} : Try α → Cli α
  | .ok a => pure a
  | .error s => throw (.stop s)

end Cli

def version : String := "1.0.2"

/-- A command under its full name, with the commands below it that its help page lists. -/
structure Frame where
  path : String
  command : Command
  rows : Nat → Cli TextPairs := fun _ => pure []

namespace Frame

def width (i : Installation) : Nat :=
  pageWidth (i.env.lookup "COLUMNS")

def showHelp {α : Type} (i : Installation) (f : Frame) : Cli α := do
  let w := width i
  let rows ← f.rows w
  let page ← Cli.lift (helpPage w f.path f.command rows)
  Cli.print page
  throw (.exit 0)

def complain {α : Type} (i : Installation) (f : Frame) (located : Bool) (message : String) :
    Cli α := do
  Cli.printError (complaint (width i) f.path f.command located message)
  throw (.exit 2)

def read (i : Installation) (f : Frame) (args : List String) : Cli Reading :=
  match f.command.read false args with
  | .ok r => do
    r.printed.forM Cli.print
    return r
  | .error .help => f.showHelp i
  | .error .version => do
    Cli.print version
    throw (.exit 0)
  | .error (.usage located message) => f.complain i located message
  | .error (.stop s) => throw (.stop s)

def unknown {α : Type} (i : Installation) (f : Frame) (name : String) : Cli α :=
  if (splitName name).1 != "" then f.showHelp i
  else f.complain i true s!"No such command {Text.quote name}."

end Frame

/-! ### The files of a package -/

/-- The directories below a directory and itself, each before those below it; hidden ones are left
out. -/
def walk (files : FileTree Content) : Nat → String → List String
  | 0, _ => []
  | fuel + 1, dir =>
    let below := (files.children dir).filter fun n =>
      !Text.startsWith n "." && (files.node? (FileTree.child dir n)) matches some .dir
    dir :: below.flatMap fun n => walk files fuel (FileTree.child dir n)

def isExecutable (files : FileTree Content) (path : String) : Bool :=
  match files.lookup? path with
  | some (.file _ x) => x
  | _ => false

def isLaunchName (name : String) : Bool :=
  ([".py", ".xml", ".yaml", ".yml"].any fun e => Text.endsWith name e) &&
    Text.contains name ".launch."

def startableIn (files : FileTree Content) (dir : String) : List String :=
  (files.children dir).filterMap fun n =>
    let path := FileTree.child dir n
    if files.isDir path then none
    else if isExecutable files path || isLaunchName n then some path
    else none

def startable (i : Installation) (package : String) : Cli (List String) := do
  match i.packages.lookup package with
  | none | some "" =>
    Cli.print s!"Packge {package} could not be found"
    return []
  | some place =>
    let bases := [Path.join (Path.join place "lib") package,
      Path.join (Path.join place "share") package]
    return bases.flatMap fun b =>
      if i.files.isDir b then (walk i.files (i.files.entries.length + 1) b).flatMap
        (startableIn i.files)
      else []

def fileNames (i : Installation) (package : String) : Cli (List String) := do
  let paths ← startable i package
  return (paths.mergeSort fun a b => decide (a ≤ b)).map Path.baseName

def findFile (i : Installation) (package name : String) : Cli (Option File) := do
  match (← startable i package).filter fun p => Path.baseName p == name with
  | [] =>
    Cli.print s!"Launchfile {name} not found in package {package}"
    return none
  | [path] =>
    let content := (i.files.read? path).getD (.text "")
    match File.read package path content (isExecutable i.files path) with
    | .ok f => return some f
    | .error e => if isRefusal e then return none else throw (.stop e)
  | _ =>
    Cli.print s!"Multiple executable files named {name} found in package {package}"
    return none

/-! ### The commands -/

def File.command (f : File) : Command :=
  { options := f.options, help := some f.doc, ignoresUnknown := true, takesMore := true }

def packageCommand : Command :=
  { usage := ["[OPTIONS]", "COMMAND [ARGS]..."], takesMore := true, mixed := false,
    helpWithoutWords := true }

def programHelp : String :=
  "The better_launch launcher.\n\n" ++
  "This script allows you to run both better_launch and ROS2 launch files. " ++
  "While using ROS2 launch should work, it would mean having an additional launch system " ++
  "instance running (worst case: ros2launch -> better_launch -> ros2_launch). \n\n" ++
  "In contrast to ROS2 launch, it also generates useful shell completion suggestions for " ++
  "packages, launch files and arguments. Launch args declared in your launch files are also " ++
  "recognized and will be completed (you need to type at least one dash though).\n"

def programClosing : String :=
  "Bugs, ideas, feedback, questions? Find me at https://github.com/ndahn"

def programCommand : Command :=
  let versionOption : Opt :=
    { key := "version", names := ["-v", "--version"], kind := .truth, default := .bool false,
      role := .version, hidden := true }
  { options := [versionOption], help := some programHelp, closing := some programClosing,
    usage := ["[OPTIONS]", "<package> <launchfile> [args]"], takesMore := true, mixed := false,
    helpWithoutWords := true }

def fileRows (i : Installation) (package : String) (width : Nat) : Cli TextPairs := do
  let names ← fileNames i package
  let found ← names.mapM fun n => do return (← findFile i package n).map (n, ·)
  let files := found.filterMap id
  let widest := (files.map (·.1.length)).foldl max 0
  let limit : Int := (width : Int) - 6 - widest
  return files.map fun (n, f) => (n, Text.trim (shortHelp limit f.doc))

def programName : String := "bl"

def programFrame : Frame := ⟨programName, programCommand, fun _ => pure []⟩

def packageFrame (i : Installation) (package : String) : Frame :=
  ⟨s!"{programName} {package}", packageCommand, fileRows i package⟩

def fileFrame (f : File) (name : String) : Frame :=
  ⟨s!"{programName} {f.package} {name}", f.command, fun _ => pure []⟩

def isPackage (i : Installation) (package : String) : Bool :=
  (i.packages.lookup package).isSome

def start (f : File) (args : List String) (values : Named) : Cli Unit := do
  let what := s!"{f.package}/{f.name}"
  let shown := Kind.quoted (.record values)
  match f.means with
  | .function =>
    Cli.print s!">> Delegating to better_launch: {what}, args={shown}"
    let given := values.flatMap fun (k, v) =>
      if v matches .null then [] else ["--" ++ k, Kind.plain v]
    throw (.replaced "python3" (["python3", f.path] ++ given))
  | .service =>
    Cli.print s!">> Delegating to ROS2 launch: {what}, args={shown}"
    let given := values.map fun (k, v) => k ++ ":=" ++ Kind.plain v
    throw (.replaced "ros2" (["ros2", "launch", f.path] ++ given))
  | .program =>
    Cli.print s!">> Directly executing launch file: {what}, args={shown}"
    throw (.replaced f.path (args.drop 1))

def select (i : Installation) (args : List String) : Cli Unit := do
  let top ← programFrame.read i args
  match top.words with
  | [] => programFrame.complain i true "Missing command."
  | package :: rest =>
    unless isPackage i package do programFrame.unknown i package
    let frame := packageFrame i package
    let inner ← frame.read i rest
    match inner.words with
    | [] => frame.complain i true "Missing command."
    | name :: rest =>
      match ← findFile i package name with
      | none => frame.unknown i name
      | some f =>
        let r ← (fileFrame f name).read i rest
        start f args r.shown

end Launchpad.Starter
