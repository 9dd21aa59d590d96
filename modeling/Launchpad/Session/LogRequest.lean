import Launchpad.Session.Describe
import Launchpad.Session.Logging

/-!
Requests to the logging of a session, and what they answer.
-/

namespace Launchpad

inductive LogRequest where
  | screenFormat (format style : Value)
  | fileFormat (format style : Value)
  | level (new : Option Value)
  | factory (kind : Option String)
  /-- Asks for the log directory, after setting it or forgetting it. -/
  | directory (new : Option Value)
  | path (name : Value)
  | fileHandler (name : Value)
  | reset (directory : String)
  | init (screenFormat fileFormat mode : Value)
  | outputs (process config : Value)
  | configure (logger config : Value)
  | write (logger level msg : Value) (args : List Value) (setUp : Bool)
  | summary (logger : Value)
  | read (file : String)

namespace Launch

def probeRecord (now : Float) : Log.Record :=
  { Log.Record.make "p" 30 "probe" 12.5 with millis := Log.millisOf now }

def probe (formatter : Option Nat) : Launch Report := do
  let s ← get
  match formatter.bind fun i => s.log.formatters[i]?.map fun f => (i, f) with
  | none => return .null
  | some (i, f) =>
    let (t, f, hue, _) := f.run s.log.hue (probeRecord (timeOf s.world.clock))
    set { s with log := { s.log with formatters := s.log.formatters.set! i f, hue := hue } }
    return .str (← lift t)

def setRootLevel (v : Value) : Launch Unit := do
  let n ← lift (Log.levelToSet v)
  modify fun s => { s with log := { s.log with rootLevel := n } }

def fileNameOf : Value → Launch String
  | .str s => return s
  | _ => silent .wrongType

def logValue (logger : String) (level msg : Value) (args : List Value) : Launch Unit := do
  let s ← get
  let (sys, lines, r) := s.log.log logger level msg (timeOf s.world.clock) args
  set { s with log := sys }
  lines.forM writeTo
  lift r

def sortedHandlers (logger : String) : Launch Report := do
  let s := (← get).log
  let names := (s.handlersOf logger).map (handlerName s)
  return .list ((names.mergeSort fun a b => !(b < a)).map .str)

def startLogging (directory : String) : Launch Unit := do
  resetLogging
  setLogDir (.str directory)

def performLog : LogRequest → Launch Report
  | .screenFormat format style => do
    setScreenFormat format style
    probe (← get).log.screenFormatter
  | .fileFormat format style => do
    setFileFormat format style
    probe (← get).log.fileFormatter
  | .level new => do
    match new with
    | some v => setRootLevel v
    | none => pure ()
    plainReportOf (← get).log.leastLevel
  | .factory kind => do
    match kind with
    | some k => if !fileKinds.contains k && !otherKinds.contains k then silent .noAttribute
    | none => pure ()
    modify fun s => { s with log := { s.log with factory := kind } }
    return .str (factoryName (← get).log)
  | .directory new => do
    match new with
    | none => return .str (← logDir)
    | some d =>
      setLogDir d
      if d.isNull then return .null else return .str (← logDir)
  | .path name => do return .str (← logFilePath (← fileNameOf name))
  | .fileHandler name => do
    let name ← fileNameOf name
    let h ← logFileHandler name
    let h' ← logFileHandler name
    match (← get).log.handlers[h]? with
    | some ⟨.file p, k, _, _, _⟩ => return .list [.str k, .str p, .bool (h == h')]
    | _ => return .null
  | .reset directory => do
    startLogging directory
    let s := (← get).log
    return .list [← plainReportOf s.rootLevel, .list (s.fileHandlers.map fun e => .str e.1)]
  | .init screen file mode => do
    initLogging screen file mode
    let env := (← get).world.env
    return .record (Log.processVariables.map fun (k, _) =>
      (k, ((env.lookup k).map Report.str).getD .null))
  | .outputs process config => do
    let plan ← lift (Log.OutputPlan.ofValue config)
    let names ← outputLoggers process plan
    let s := (← get).log
    return .list (names.map fun n =>
      .list [.str n, .list ((s.handlersOf n).map fun h => .str (handlerName s h))])
  | .configure name config => do
    let logger ← loggerName name
    configureLogger logger config
    sortedHandlers logger
  | .write name level msg args setUp => do
    let logger ← loggerName name
    if setUp then useLogger logger
    logValue logger level msg args
    sortedHandlers logger
  | .summary name => do
    let logger ← loggerName name
    useLogger logger
    logSummary logger
    return .null
  | .read file => do
    match (← get).world.files.read? (Path.join (← logDir) file) with
    | some (.text t) => return .str t
    | _ => silent .fileNotFound

end Launch

end Launchpad
