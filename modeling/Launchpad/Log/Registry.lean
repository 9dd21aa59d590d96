import Launchpad.Log.Formatter
import Launchpad.Log.Output
import Launchpad.Path

/-!
Loggers and handlers: loggers hand their records to handlers, which write lines to the screen or
to log files. There is one handler for the screen and one for each log file.
-/

namespace Launchpad.Log

inductive Target where
  | screen
  | file (path : String)
deriving DecidableEq, Repr

/-- A handler. Its formatter is a place in the table of formatters; a logger may have a formatter
of its own here, even an absent one, with which nothing can be written. -/
structure Handler where
  target : Target
  kind : String
  level : Int := 0
  formatter : Option Nat := none
  perLogger : List (String × Option Nat) := []

structure Registry where
  rootLevel : Value := .int info
  formatters : Array Formatter := #[]
  handlers : Array Handler := #[]
  loggers : List (String × List Nat) := []
  screenHandler : Option Nat := none
  fileHandlers : List (String × Nat) := []
  screenFormatter : Option Nat := none
  fileFormatter : Option Nat := none
  directory : Option String := none
  factory : Option String := none
  hue : Float := 0.0

abbrev Lines := List (Target × String)

namespace Registry

def handlersOf (s : Registry) (name : String) : List Nat :=
  (s.loggers.lookup name).getD []

def attach (s : Registry) (name : String) (h : Nat) : Registry :=
  let hs := s.handlersOf name
  { s with loggers := setAssoc name (if hs.contains h then hs else hs ++ [h]) s.loggers }

def addFormatter (s : Registry) (f : Formatter) : Registry × Nat :=
  ({ s with formatters := s.formatters.push f }, s.formatters.size)

def modifyHandler (s : Registry) (i : Nat) (f : Handler → Handler) : Registry :=
  { s with handlers := s.handlers.modify i f }

/-- The formatter that a handler uses for a logger: `none` if it has none at all, `some none` if
the logger's own one is absent. -/
def formatterFor (h : Handler) (name : Value) : Option (Option Nat) :=
  match name.text?.bind fun n => h.perLogger.lookup n with
  | some f => some f
  | none => h.formatter.map some

def formatAt (s : Registry) (h : Handler) (r : Record) : Try String × Registry × Record :=
  match formatterFor h r.name with
  | none => (r.message, s, r)
  | some none => (fails .noAttribute, s, r)
  | some (some i) => match s.formatters[i]? with
    | none => (fails .noAttribute, s, r)
    | some f =>
      let (t, f, hue, r) := f.run s.hue r
      (t, { s with formatters := s.formatters.set! i f, hue := hue }, r)

/-- Hands a record to handlers one after the other. A handler that cannot make a line of it writes
none; a level that is no number cannot be compared with a handler's level. -/
def deliver (s : Registry) : List Nat → Record → Lines → Registry × Lines × Try Unit
  | [], _, out => (s, out, .ok ())
  | i :: is, r, out => match s.handlers[i]? with
    | none => deliver s is r out
    | some h => match reaches r.level (.int h.level) with
      | .error e => (s, out, .error e)
      | .ok false => deliver s is r out
      | .ok true =>
        let (t, s, r) := s.formatAt h r
        match t with
        | .ok line => deliver s is r (out ++ [(h.target, line ++ "\n")])
        | .error _ => deliver s is r out

def handle (s : Registry) (logger : String) (r : Record) : Registry × Lines × Try Unit :=
  s.deliver (s.handlersOf logger) r []

def leastLevel (s : Registry) : Value :=
  if s.rootLevel.truthy then s.rootLevel else .int 0

def log (s : Registry) (logger : String) (level msg : Value) (now : Float)
    (args : List Value) : Registry × Lines × Try Unit :=
  let made : Try (Option Record) := do
    match level with
    | .int _ | .bool _ => pure ()
    | _ => throw (.silent .wrongType)
    if !(← reaches level s.leastLevel) then return none
    return some (← Record.ofValues (.str logger) level msg (argumentsOf args) now (millisOf now))
  match made with
  | .ok (some r) => s.handle logger r
  | .ok none => (s, [], .ok ())
  | .error e => (s, [], .error e)

def screen (s : Registry) : Registry × Nat :=
  match s.screenHandler with
  | some h => (s, h)
  | none =>
    let h : Handler := { target := .screen, kind := "StreamHandler", formatter := s.screenFormatter }
    ({ s with handlers := s.handlers.push h, screenHandler := some s.handlers.size },
      s.handlers.size)

def styleOf? (s : String) : Option Style :=
  if s == "%" then some .percent else if s == "\x7b" then some .brace
  else if s == "$" then some .dollar else none

def plainFormatter (text style : Value) : Try Formatter := do
  if !style.isKey then throw (.silent .wrongType)
  match style.text?.bind styleOf? with
  | none => throw (.silent .invalidValue)
  | some st =>
    let t : Template := { style := st, text := ← st.textOf text }
    t.check
    return .plain t

def namedFormat (what : String) (names : TextPairs) (format style : Value) : Try Value :=
  match format.text?.bind fun f => names.lookup f with
  | none => .ok format
  | some t =>
    if style.isNull then .ok (.str t)
    else
      let name := format.display Value.plainRef
      invalid s!"Cannot set a custom format style for the \"{name}\" {what} format."

def screenFormats : TextPairs :=
  [("default", "[\x7blevelname\x7d] [\x7bname\x7d]: \x7bmsg\x7d"),
    ("default_with_timestamp",
      "\x7bcreated:.7f\x7d [\x7blevelname\x7d] [\x7bname\x7d]: \x7bmsg\x7d")]

def fileFormats : TextPairs :=
  [("default", "\x7bcreated:.7f\x7d [\x7blevelname\x7d] [\x7bname\x7d]: \x7bmsg\x7d")]

def overridden (override : Option String) (format style : Value) : Value × Value :=
  match override with
  | some o => if o == "" then (format, style) else (.str o, .str "\x7b")
  | none => (format, style)

/-- Adds the formatter that is asked for, if any is, for handlers of some kind. -/
def addPlain (s : Registry) (kind : String) (formats : TextPairs)
    (override : Option String) (format style : Value) : Try (Registry × Option Nat) := do
  match overridden override format style with
  | (.null, _) => return (s, none)
  | (f, st) =>
    let text ← namedFormat kind formats f st
    let (s, i) := s.addFormatter (← plainFormatter text (if st.isNull then .str "\x7b" else st))
    return (s, some i)

def equip (s : Registry) (handlers : List Nat) (formatter : Option Nat) : Registry :=
  if formatter.isNone then s
  else handlers.foldl (fun s h => s.modifyHandler h fun h => { h with formatter }) s

def setScreenFormat (s : Registry) (override : Option String) (format style : Value) :
    Try Registry := do
  let (s, screenFormatter) ← s.addPlain "screen" screenFormats override format style
  return { s with screenFormatter }.equip s.screenHandler.toList screenFormatter

def setFileFormat (s : Registry) (override : Option String) (format style : Value) :
    Try Registry := do
  let (s, fileFormatter) ← s.addPlain "log" fileFormats override format style
  return { s with fileFormatter }.equip (s.fileHandlers.map Prod.snd) fileFormatter

def addFileHandler (s : Registry) (name path kind : String) : Registry × Nat :=
  let h : Handler := { target := .file path, kind := kind, formatter := s.fileFormatter }
  ({ s with handlers := s.handlers.push h,
            fileHandlers := s.fileHandlers ++ [(name, s.handlers.size)] }, s.handlers.size)

def setFormatterFor (s : Registry) (h : Nat) (logger : String) (f : Option Nat) : Registry :=
  s.modifyHandler h fun h => { h with perLogger := setAssoc logger f h.perLogger }

def modeColors (mode : Value) : Try (Value × Value) :=
  match mode with
  | .str "default" => .ok (defaultSourceColor, .null)
  | .str "severity" => .ok (.str "", .null)
  | .str "source" => .ok (.null, .str "")
  | .str "none" => .ok (.str "", .str "")
  | .str "rainbow" => .ok (.null, .null)
  | .str m => invalid ("Invalid colormode " ++ m)
  | _ => fails .wrongType

def chosenFormat (given : Value) (default : String) : Value :=
  if given.truthy then given else .str default

def beautifyScreen (s : Registry) (format : Value) (colors : Value × Value) : Try Registry := do
  let format := chosenFormat format defaultScreenFormat
  let screen ← Pretty.make { format, sourceColors := colors.1, levelColors := colors.2 }
  let (s, i) := s.addFormatter (.pretty screen)
  return { s with screenFormatter := some i }

def beautifyFiles (s : Registry) (format : Value) : Try Registry := do
  let file ← Pretty.make { format := chosenFormat format defaultFileFormat }
  let (s, i) := s.addFormatter (.pretty file)
  return { s with fileFormatter := some i }

end Registry

def processVariables : TextPairs :=
  [("RCUTILS_CONSOLE_OUTPUT_FORMAT", "%%\x7bseverity\x7d%%\x7btime\x7d%%\x7bmessage\x7d"),
    ("RCUTILS_COLORIZED_OUTPUT", "0")]

def logDirectory (env : String → Option String) (home : String) : String :=
  let given (k : String) : Option String := match env k with
    | some "" => none
    | r => r
  let dir := match given "ROS_LOG_DIR" with
    | some d => d
    | none => Path.join ((given "ROS_HOME").getD "~/.ros") "log"
  Path.normalize (Path.expandHome home dir)

end Launchpad.Log
