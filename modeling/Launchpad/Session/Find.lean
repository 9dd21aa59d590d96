import Launchpad.Session.Graph
import Launchpad.Substitution.Listed
import Launchpad.Expr.Eval
import Launchpad.Markup

/-!
The search for packages and files, and the substitutions that a text may hold. A substitution may
ask for a file, and the name of a file may hold substitutions.
-/

namespace Launchpad.Launch

def readText (path : String) : Launch String := do
  let w := (← get).world
  let missing {α : Type} (c : Cause) : Launch α := silent c (c.fileText path)
  if path.toList.contains '\x00' then silent .invalidValue "embedded null byte"
  if path.utf8ByteSize > FileTree.maxPathSize then missing .system
  if path == "" then missing .fileNotFound
  let place := Path.absolute w.cwd path
  match w.files.lookup? place with
  | some (.file c _) =>
    if Text.endsWith path "/" then missing .notDirectory
    match c with
    | .text t => return Text.unifyLineEnds t
    | _ => return ""
  | some .dir => missing .isDirectory
  | _ => missing (w.files.missingCause place)

def isFile (path : String) : Launch Bool := do
  let w := (← get).world
  return w.files.isFile (Path.absolute w.cwd path)

/-- The name that a package description gives. The name counts only if its element has elements
of its own; it is the text in front of these, if there is any. -/
def describedName (path : String) : Launch (Option Value) := do
  if !(← isFile path) then return none
  let root ← lift (Markup.parse (← readText path))
  if root.tag != "package" then return none
  match root.child? "name" with
  | some e =>
    return if e.children.isEmpty then none
      else some (if e.text == "" then .null else .str e.text)
  | none => return none

def describedPackage : Nat → String → Launch (Option (Value × String))
  | 0, _ => return none
  | n + 1, path => do
    match Text.cutLast? path ":" with
    | none => return none
    | some (shorter, _) =>
      let places := [Path.join (Path.join "share" (Path.baseName path)) "package.xml",
        "package.xml"]
      let found ← places.findSomeM? describedName
      match found with
      | some name => return some (name, path)
      | none => describedPackage n shorter

def packageForPath (path : String) : Launch (Option (Value × String)) := do
  let w := (← get).world
  let dir := Path.absolute w.cwd (Path.dirName path)
  match w.packages.find? fun e => Text.startsWith dir e.2 with
  | some (name, place) => return some (.str name, place)
  | none => describedPackage (dir.length + 1) dir

def packagePlace (package : Value) : Launch String := do
  let holds (s : String) : Launch Bool := lift (package.contains (.str s))
  let isPath ← if ← holds "/" then pure true else holds ":"
  let shown := package.display Value.plainRef
  if isPath then told .invalidValue s!"Package must be a single name, not a path ({shown})"
  unless package.isKey do silent .wrongType
  match (← get).world.packages.find? fun e => package.same (.str e.1) with
  | some e => return e.2
  | none => told .packageNotFound s!"package '{shown}' not found"

def argNames : Launch (String → Option Value) := do
  let _ ← getLauncher
  let es ← lift (Entries.extend [] (← get).launchArgs)
  return fun name => Entries.getText? es name

def arity (least most : Nat) (args : List Value) : Launch Unit :=
  if least ≤ args.length && args.length ≤ most then pure () else silent .wrongType

def substituteArg (args : List Value) : Launch Value := do
  arity 1 2 args
  let _ ← getLauncher
  let all := (← get).launchArgs
  let key := args.headD .null
  match all, args.drop 1 with
  | .map es, d :: _ =>
    unless key.isKey do silent .wrongType
    return (Entries.get? es key).getD d
  | _, _ :: _ => silent .noAttribute
  | _, [] => lift (Value.item all key)

def substituteEnv (args : List Value) : Launch Value := do
  arity 1 2 args
  match args with
  | .str k :: rest =>
    match ← getEnv? k, rest with
    | some v, _ => return .str v
    | none, d :: _ => return d
    | none, [] => silent .unknownKey (Text.quote k)
  | _ => silent .wrongType

def substituteParam (args : List Value) : Launch Value := do
  arity 2 2 args
  let _ ← getLauncher
  let node ← display (args.headD .null)
  let param := (args.drop 1).headD .null
  let topic : Value := .str (node ++ "/get_parameters")
  let type := "rcl_interfaces/srv/GetParameters"
  let _ ← openClient topic type .null
  if !(← awaitService "wait_for_service" topic 5.0) then
    told .badSubstitution "Failed to wait for node parameter service"
  let (answer, _) ← request false topic type [("names", .list [param])]
  match answer.lookup "values" with
  | some (.list [_]) => silent .noAttribute
  | _ =>
    told .badSubstitution s!"Failed to retrieve parameter {← display param} from {node}"

def substituteEval (mode : Script.EvalMode) (args : List Value) : Launch Value := do
  match Substitution.texts? args with
  | none => silent .wrongType
  | some ts =>
    let text := " ".intercalate ts
    match mode with
    | .full => do lift (Expr.evaluate (← argNames) text)
    | .literal => lift (Expr.readLiteral text)
    | .none => return .str text

def pickFile (files : FileTree Content) (filename : String) :
    List String → Try (Option String)
  | [] => .ok none
  | c :: cs => do
    let pattern := "**/" ++ filename
    if files.isFile c && Glob.matchesFromEnd c pattern then return some c
    else if files.isDir c then
      match (← Glob.glob files c pattern).head? with
      | some p => return some p
      | none => pickFile files filename cs
    else pickFile files filename cs

/-- The pattern for a search. Lists and maps are asked for their first part before it is seen that
they are no patterns. -/
def searchPattern (v : Value) : Try String :=
  match v with
  | .str s => .ok s
  | .list vs | .tuple vs =>
    fails (if vs.any (Value.same (.str "/")) then .noAttribute else .wrongType)
  | v => do
    let _ ← v.item (.int 0)
    fails .wrongType

def searchBelow (base : String) (filename package subdir : Value) : Launch Value := do
  let w := (← get).world
  let base := Path.absolute w.cwd base
  let pattern ← if subdir.truthy then lift (searchPattern subdir) else pure "**"
  let candidates ← lift (Glob.glob w.files base pattern)
  let found ← if filename.truthy then
      lift (pickFile w.files (← textOf filename) candidates)
    else pure candidates.head?
  match found with
  | some p => return .str (Path.normalize p)
  | none =>
    let show' (v : Value) : String := v.display Value.plainRef
    told .invalidValue ("Could not find file or directory (filename=" ++ show' filename ++
      ", package=" ++ show' package ++ ", glob=" ++ pattern ++ ")")

def isAbsoluteName (given : Bool) (filename : Value) : Launch Bool :=
  if given then match filename with
    | .str s => pure (Path.isAbsolute s)
    | _ => silent .wrongType
  else pure false

def ownPackage : Launch Value := do
  match (← get).launchFile with
  | none => silent .wrongType
  | some f =>
    match ← packageForPath (Path.dirName f) with
    | some (p, _) => pure p
    | none => pure .null

mutual

/-- The file of a name in a package, or the first thing that a pattern selects there. Without a
package, that of the launch file is searched, and without that the working directory. -/
def findWith (substitutions : Bool) (package filename subdir : Value) : Nat → Launch Value
  | 0 => silent .recursion
  | fuel + 1 => do
    let given := filename.truthy
    let filename ← if given && substitutions then resolveWith filename fuel else pure filename
    if ← isAbsoluteName given filename then return filename
    let package ← if package.truthy then pure package else ownPackage
    let base ← if package.truthy then packagePlace package else pure (← get).world.cwd
    let base ← if substitutions then resolveWith (.str base) fuel else pure (.str base)
    if !filename.truthy && !subdir.truthy then return base
    match base with
    | .str b => searchBelow b filename package subdir
    | _ => silent .wrongType

def resolveWith (s : Value) : Nat → Launch Value
  | 0 => silent .recursion
  | fuel + 1 => do
    if !s.truthy then return .str ""
    Substitution.substituteValue (fun key => match key with
      | "find" => some fun args => do
        arity 0 3 args
        let arg (i : Nat) : Value := (args[i]?).getD .null
        findWith true (arg 1) (arg 0) (arg 2) fuel
      | "arg" => some substituteArg
      | "param" => some substituteParam
      | "env" => some substituteEnv
      | "eval" => some (substituteEval .full)
      | _ => none) s

end

def substitutionDepth : Nat := 200

def find (package filename subdir : Value) (substitutions : Bool := true) : Launch Value :=
  findWith substitutions package filename subdir substitutionDepth

def resolve (s : Value) : Launch Value :=
  resolveWith s substitutionDepth

def handle (key : String) (mode : Script.EvalMode) (args : List Value) : Launch Value := do
  match key with
  | "find" =>
    arity 0 3 args
    let _ ← getLauncher
    let arg (i : Nat) : Value := (args[i]?).getD .null
    find (arg 1) (arg 0) (arg 2)
  | "arg" => substituteArg args
  | "param" => substituteParam args
  | "env" => substituteEnv args
  | "eval" => substituteEval mode args
  | _ => silent .unknownKey

end Launchpad.Launch
