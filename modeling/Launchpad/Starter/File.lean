import Launchpad.CommandLine.Opt
import Launchpad.Graph.Type
import Launchpad.LaunchFile.Doc
import Launchpad.LaunchFile.Function
import Launchpad.Markup
import Launchpad.Path
import Launchpad.Yaml.Load

/-!
Files that can be started: launch files with a launch function, launch files of the other launch
system in three formats, and programs. A file is the first of these that it can be read as. The
arguments that a launch file declares become options of the command line.
-/

namespace Launchpad.Starter

open CommandLine

inductive Means where
  | function | service | program
deriving DecidableEq, Repr

structure File where
  means : Means
  package : String
  path : String
  options : List Opt
  doc : String

def File.name (f : File) : String :=
  Path.baseName f.path

def isRefusal : Stop → Bool
  | .fault f => f.cause == .invalidValue
  | .exit _ => false

def refuse {α : Type} : Try α :=
  fails .invalidValue

def firstOf {α : Type} (last : Try α) : List (Try α) → Try α
  | [] => last
  | r :: rs =>
    match r with
    | .ok a => .ok a
    | .error e => if isRefusal e then firstOf last rs else .error e

/-! ### Launch functions -/

def terminalChoices : List String := ["enable", "disable", "unset"]

def colorModes : List String := ["default", "severity", "source", "none", "rainbow"]

def choiceOption (key : String) (choices : List String) (default help : String) : Opt :=
  { key, names := ["--" ++ key], kind := .choice (.list (choices.map .str)) true,
    default := .str default, help := .str help }

def overrideOptions : List Opt :=
  [choiceOption "bl_ui_override" terminalChoices "unset"
      "Override to enable/disable the terminal UI",
    choiceOption "bl_colormode_override" colorModes "default" "Override the logging color mode"]

/-- The names of the parameters that are seen in the text of a launch function. Those that can only
be given by name are not. -/
def writtenNames (s : LaunchSpec) : List String :=
  s.params.map (·.name) ++ s.varargs.toList ++ s.varkw.toList

def writtenFunction (c : Content) : Try (Option LaunchSpec) := do
  match ← c.launchFunction? with
  | none => return none
  | some s => if (writtenNames s).Nodup then return some s else refuse

def writtenParams (s : LaunchSpec) : List (String × Option String) :=
  s.params.map (fun p => (p.name, p.hint)) ++
    s.varargs.toList.map (·, none) ++ s.varkw.toList.map (·, none)

def writtenDoc (s : Option String) : Option String :=
  s.map Text.dedent

def functionOptions (s : LaunchSpec) : Try (List Opt × String) := do
  let text := (writtenDoc s.doc).getD ""
  let doc ← Doc.parse text
  let options ← (writtenParams s).mapM fun (name, hint) => do
    let kind ← Kind.ofHint ((hint.bind Expr.builtin?).getD .null)
    Opt.ofParameter name (some kind) .null true (doc.help name)
  let long := doc.long.elim "" ("\n\n" ++ ·)
  if doc.short.isNone && doc.long.isSome then throw (.silent .wrongType)
  return (options ++ overrideOptions, doc.short.getD "" ++ long)

def readFunction (path : String) (c : Content) : Try (List Opt × String) := do
  unless Text.endsWith (Text.lower path) ".launch.py" do refuse
  match ← writtenFunction c with
  | none => refuse
  | some s => functionOptions s

/-! ### Arguments of the other launch system -/

def property (d : Named) (k : String) : Value :=
  (d.lookup k).getD .null

def defaultValue : Value → Try Value
  | .str s =>
    if s == "" then .ok (.str "")
    else do
      let v ← Yaml.load "<unicode string>" s
      return if (Graph.parameterType? v).isSome then v else .str s
  | v => if v.truthy then fails .noAttribute else .ok v

def kindOfDefault : Value → Try Kind
  | .null => .ok .text
  | v => Kind.ofHint (.ref (.type v.typeName))

def declaredOption (d : Named) : Try Opt := do
  let default ← defaultValue (property d "default_value")
  let choices := property d "choices"
  let kind ← if choices.truthy then pure (.choice choices false) else kindOfDefault default
  Opt.ofParameter (Kind.plain (property d "name")) (some kind) default false
    (property d "description")

def ofCall (a : DeclaredArg) : Named :=
  let named := a.named.filter fun kv => !a.computed.contains kv.1
  (a.positional.map ("name", ·)).toList ++ named

def descriptionName : String := "generate_launch_description"

def readDescription (path : String) (c : Content) : Try (List Opt × String) := do
  unless Text.endsWith (Text.lower path) ".launch.py" do refuse
  match c with
  | .foreignLaunch s =>
    let options ← s.args.mapM fun a => declaredOption (ofCall a)
    unless s.func == descriptionName do refuse
    return (options, (writtenDoc s.doc).getD "")
  | .launch s =>
    unless s.isReadable && !s.asynchronous && s.func == descriptionName do
      refuse
    return ([], (writtenDoc s.doc).getD "")
  | .text _ => refuse

def literalOr : Value → Value
  | .str s => (Expr.readLiteral s).toOption.getD .null
  | _ => .null

def textOf : Content → String
  | .text s => s
  | _ => ""

def readMarkup (path : String) (c : Content) : Try (List Opt × String) := do
  unless Text.endsWith (Text.lower path) ".launch.xml" do refuse
  let root ← Markup.parse (textOf c)
  unless root.tag == "launch" do refuse
  let args := root.children.filter fun e => e.tag == "arg"
  let options ← args.mapM fun e =>
    declaredOption (e.attributes.map fun (k, v) => (k, literalOr (.str v)))
  return (options, "")

def holds (v : Value) (s : String) : Try Bool :=
  match v with
  | .map es => .ok (Entries.getText? es s).isSome
  | .str t => .ok (Text.contains t s)
  | .list vs | .tuple vs | .set vs => .ok (vs.any fun x => x.same (.str s))
  | _ => fails .wrongType

def entry (v : Value) (s : String) : Try Value :=
  match v with
  | .map es => (Entries.getText? es s).elim (fails .unknownKey) .ok
  | _ => fails .wrongType

def itemOption? (item : Value) : Try (Option Opt) := do
  unless ← holds item "arg" do return none
  match ← entry item "arg" with
  | .map es =>
    let texts := es.filterMap fun (k, v) => k.text?.map (·, literalOr v)
    return some (← declaredOption texts)
  | _ => throw (.silent .noAttribute)

def readLists (path : String) (c : Content) : Try (List Opt × String) := do
  let low := Text.lower path
  unless Text.endsWith low ".launch.yml" || Text.endsWith low ".launch.yaml" do
    refuse
  let content ← Yaml.load path (textOf c)
  unless ← holds content "launch" do refuse
  let items ← entry content "launch"
  match items.elements? with
  | none => throw (.silent .wrongType)
  | some vs => return ((← vs.mapM itemOption?).filterMap id, "")

/-! ### All of them -/

def File.make (means : Means) (package path : String) (r : List Opt × String) : File :=
  let doc := if r.2 == "" then s!"{package}/{Path.baseName path}" else r.2
  { means, package, path, options := r.1, doc }

def File.read (package path : String) (c : Content) (executable : Bool) : Try File :=
  let foreign := firstOf refuse
    [readDescription path c, readMarkup path c, readLists path c]
  let program := if executable then .ok ([], "") else refuse
  firstOf (invalid s!"{path} is not a valid launch file")
    [(readFunction path c).map (File.make .function package path),
      foreign.map (File.make .service package path),
      program.map (File.make .program package path)]

end Launchpad.Starter
