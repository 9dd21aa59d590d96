import Launchpad.CommandLine.Command
import Launchpad.Text.Wrap

/-!
Help pages and messages. A help page has the usage, the text on the command, the list of options,
the list of commands and a closing text.
-/

namespace Launchpad.CommandLine

def pageWidth (columns : Option String) : Nat :=
  match columns.bind Text.readInt? with
  | some n => if n > 0 then (max (min n 80 - 2) 50).toNat else 78
  | none => 78

def usageLine (width : Nat) (path : String) (c : Command) : String :=
  let start := s!"Usage: {path} "
  let pieces := " ".intercalate c.usage
  if width ≥ start.length + 20 then
    let w : Text.Wrapping := ⟨width, start, Text.repeatText " " start.length⟩
    w.fill pieces ++ "\n"
  else
    let indent := Text.repeatText " " 11
    let w : Text.Wrapping := ⟨width, indent, indent⟩
    start ++ "\n" ++ w.fill pieces ++ "\n"

def indentedText (width : Nat) (text : String) : String :=
  let w : Text.Wrapping := ⟨width, "  ", "  "⟩
  "\n" ++ w.fillParagraphs text ++ "\n"

def columnLimit : Nat := 30

def listRow (width first : Nat) (row : String × String) : String :=
  let (a, b) := row
  if b == "" then s!"  {a}\n"
  else
    let gap :=
      if a.length ≤ first - 2 then Text.repeatText " " (first - a.length)
      else "\n" ++ Text.repeatText " " (first + 2)
    let w : Text.Wrapping := ⟨max (width - first - 2 : Nat) 10, "", ""⟩
    let lines := Text.lines (w.fillParagraphs b)
    let margin := Text.repeatText " " (first + 2)
    match lines with
    | [] => s!"  {a}{gap}\n"
    | l :: ls => s!"  {a}{gap}{l}\n" ++ String.join (ls.map fun l => margin ++ l ++ "\n")

def listing (width : Nat) (heading : String) (rows : TextPairs) : String :=
  if rows.isEmpty then ""
  else
    let first := min ((rows.map (·.1.length)).foldl max 0) columnLimit + 2
    s!"\n{heading}:\n" ++ String.join (rows.map (listRow width first))

def beforeFormFeed (s : String) : String :=
  String.ofList (s.toList.takeWhile (· != '\x0c'))

def helpPage (width : Nat) (path : String) (c : Command) (commands : TextPairs) : Try String := do
  let rows ← c.allOptions.mapM Opt.helpRow
  let text := (c.help.map fun h => beforeFormFeed (Text.dedent h)).getD ""
  let closing := c.closing.getD ""
  let page := usageLine width path c ++
    (if text == "" then "" else indentedText width text) ++
    listing width "Options" rows ++
    listing width "Commands" commands ++
    (if closing == "" then "" else indentedText width (Text.dedent closing))
  return Text.trimRightBy (· == '\n') page

def complaint (width : Nat) (path : String) (c : Command) (located : Bool) (message : String) :
    String :=
  let usage := Text.trimRightBy (· == '\n') (usageLine width path c)
  let hasHelp := c.allOptions.any fun o => o.role == .help
  let hint := if hasHelp then s!"Try '{path} --help' for help.\n" else ""
  (if located then s!"{usage}\n{hint}\n" else "") ++ s!"Error: {message}\n"

def shortHelp (limit : Int) (help : String) : String :=
  let words := Text.words ((Text.cut? help "\n\n").elim help (·.1))
  let words := if words.head? == some Text.Paragraph.asIs then words.drop 1 else words
  sentence limit 0 [] words
where
  shorten (limit used : Int) : List String → List String
    | [] => []
    | w :: before =>
      let less := used - w.length - (if before.isEmpty then 0 else 1)
      if before.isEmpty then []
      else if less ≤ limit then before
      else shorten limit less before
  sentence (limit used : Int) (taken : List String) : List String → String
    | [] => " ".intercalate taken.reverse
    | w :: ws =>
      let used := used + w.length + (if taken.isEmpty then 0 else 1)
      if used > limit then cutOff limit used (w :: taken)
      else if Text.endsWith w "." then " ".intercalate (w :: taken).reverse
      else if used == limit && !ws.isEmpty then cutOff limit used (w :: taken)
      else sentence limit used (w :: taken) ws
  cutOff (limit used : Int) (taken : List String) : String :=
    " ".intercalate (shorten limit (used + 3) taken).reverse ++ "..."

end Launchpad.CommandLine
