import Launchpad.Session.State
import Launchpad.Text.Escape

/-!
Loggers of a session: log directory, log files, and the sinks of each logger.
-/

namespace Launchpad.Launch

def hostName : String := "host"
def ownPid : Nat := 1

/-- Points the link `latest` beside a log directory to it, unless something else has that name;
says whether the link is there. With `noLinks` the file system has none. -/
def renewLatest (dir : String) (noLinks : Bool := false) : Launch Bool := do
  let latest := Path.join (Path.dirName dir) "latest"
  let t := (← get).world.files
  match t.node? latest with
  | some (.link _) | none =>
    modifyWorld fun w => { w with files := w.files.remove latest }
    if noLinks then throw (Stop.told .system "links not supported")
    modifyWorld fun w => { w with files := w.files.put latest (.link dir) }
    return true
  | some _ => return false

def makeLogDir : Launch String := do
  let s ← get
  let base := Log.logDirectory (fun k => s.world.env.lookup k)
    ((s.world.env.lookup "HOME").getD "/root")
  let stamp := match Calendar.Moment.ofSeconds? (timeOf s.world.clock) with
    | some t => t.render "%Y-%m-%d-%H-%M-%S-%f"
    | none => ""
  let dir := Path.join base (stamp ++ "-" ++ hostName ++ "-" ++ toString ownPid)
  modifyWorld fun w => { w with files := w.files.makeDirs dir }
  return dir

def logDirWith (noLinks : Bool) : Launch (String × List String) := do
  match (← get).log.directory with
  | some d => return (d, [])
  | none =>
    let dir ← makeLogDir
    modify fun s => { s with log := { s.log with directory := some dir } }
    let warnings ← catchFault (do
      if ← renewLatest dir noLinks then return []
      else return ["Cannot create a symlink to latest log directory"])
      fun f => return ["Cannot create a symlink to latest log directory: " ++ f.text ++ "\n"]
    return (dir, warnings)

def logDir : Launch String := do
  return (← logDirWith false).1

def setLogDir (dir : Value) : Launch Unit := do
  let refused : Launch Unit :=
    told .invalidValue (dir.display Value.plainRef ++ " is not a directory")
  match dir with
  | .null => modify fun s => { s with log := { s.log with directory := none } }
  | .str d =>
    if d != "" && (← get).world.files.isDir (Path.absolute (← get).world.cwd d) then
      modify fun s => { s with log := { s.log with directory := some d } }
    else refused
  | .int _ | .bool _ => refused
  | _ => silent .wrongType

def logFilePath (name : String) : Launch String := do
  return Path.join (← logDir) name

def openForAppend (path : String) : Launch Unit := do
  if path.toList.contains '\x00' then silent .invalidValue
  if path.utf8ByteSize > FileTree.maxPathSize then silent .system
  let t := (← get).world.files
  match t.lookup? path with
  | some .dir => silent .isDirectory
  | some _ => pure ()
  | none =>
    if t.isDir (Path.dirName path) && (Path.baseName path).utf8ByteSize ≤ FileTree.maxNameSize then
      modifyWorld fun w => { w with files := w.files.put path (.file (.text "") false) }
    else silent (t.missingCause path)

def fileKinds : List String :=
  ["FileHandler", "WatchedFileHandler", "RotatingFileHandler", "TimedRotatingFileHandler"]

def otherKinds : List String :=
  ["Handler", "StreamHandler", "NullHandler", "BaseRotatingHandler", "BufferingHandler",
    "DatagramHandler", "HTTPHandler", "MemoryHandler", "NTEventLogHandler", "QueueHandler",
    "SMTPHandler", "SocketHandler", "SysLogHandler"]

def factoryName (s : Log.Registry) : String :=
  s.factory.getD "WatchedFileHandler"

def logFileHandler (name : String := "launch.log") : Launch Nat := do
  match (← get).log.fileHandlers.lookup name with
  | some h => return h
  | none =>
    let path ← logFilePath name
    let kind := factoryName (← get).log
    if !fileKinds.contains kind then silent .wrongType
    let path := Path.absolute (← get).world.cwd path
    openForAppend path
    let s ← get
    let (sys, h) := s.log.addFileHandler name path kind
    set { s with log := sys }
    return h

def screenHandler : Launch Nat := do
  let s ← get
  let (sys, h) := s.log.screen
  set { s with log := sys }
  return h

/-- The logger that is asked for when no name is given. It stays as it is when all others are set
back. -/
def rootLogger : String := "root"

def loggerName (name : Value) : Launch String := do
  if !name.truthy then return rootLogger
  match name with
  | .str n => return n
  | _ => silent .wrongType

def attach (logger : String) (h : Nat) : Launch Unit :=
  modify fun s => { s with log := s.log.attach logger h }

def useLogger (name : String) : Launch Unit := do
  let h ← screenHandler
  attach name h
  let h ← logFileHandler
  attach name h

def attachWith (logger : String) (h : Nat) (f : Option Nat) : Launch Unit := do
  let s ← get
  if (s.log.handlersOf logger).contains h then pure ()
  else set { s with log := (s.log.setFormatterFor h logger f).attach logger h }

def addSink (logger : String) (sink : Value) : Launch Unit := do
  match sink with
  | .str "screen" =>
    let h ← screenHandler
    attachWith logger h (← get).log.screenFormatter
  | .str "log" =>
    let h ← logFileHandler
    attachWith logger h (← get).log.fileFormatter
  | .str "own_log" =>
    let h ← logFileHandler (logger ++ ".log")
    attachWith logger h (← get).log.fileFormatter
  | _ => pure ()

def sinksOf (config : Value) : Try (List Value) :=
  if !config.truthy then .ok [.str "screen"]
  else match config with
    | .str s => .ok [.str s]
    | v => match Log.items? v with
      | some vs => if vs.all Value.isKey then .ok vs else fails .wrongType
      | none => fails .wrongType

def configureLogger (logger : String) (config : Value) : Launch Unit := do
  let sinks ← lift (sinksOf config)
  sinks.forM (addSink logger)

def handlerName (s : Log.Registry) (h : Nat) : String :=
  match s.handlers[h]? with
  | some ⟨.file p, _, _, _, _⟩ => Path.baseName p
  | _ => "screen"

def bareFormatter (text : String) : Launch Nat := do
  let s ← get
  let (sys, i) := s.log.addFormatter (.plain { text := text })
  set { s with log := sys }
  return i

def outputLoggers (name : Value) (plan : Log.OutputPlan) : Launch (List String) := do
  let process := name.display Value.plainRef
  let needText : Launch Unit := if name.text?.isSome then pure () else silent .wrongType
  let streams := [("stdout", plan.stdout), ("stderr", plan.stderr)]
  streams.forM fun (source, dests) => do
    let logger := process ++ "-" ++ source
    let wants (d : String) : Bool := plan.both.contains d || dests.contains d
    modify fun s => { s with log := { s.log with
      loggers := Log.setAssoc logger (s.log.handlersOf logger) s.log.loggers } }
    if wants "screen" then
      let h ← screenHandler
      let f ← bareFormatter "\x7bmsg\x7d"
      attachWith logger h (some f)
    if wants "log" then
      let h ← logFileHandler
      let f ← bareFormatter "\x7bcreated:.7f\x7d \x7bmsg\x7d"
      attachWith logger h (some f)
    if dests.contains "own_log" then
      let h ← logFileHandler (logger ++ ".log")
      let s ← get
      let (sys, f) := s.log.addFormatter (.plain { style := .percent, text := "%(message)s" })
      set { s with log := sys.modifyHandler h fun h => { h with formatter := some f } }
      attach logger h
    if plan.both.contains "own_log" then
      needText
      let h ← logFileHandler (process ++ ".log")
      let f ← bareFormatter "\x7bmsg\x7d"
      modify fun s => { s with
        log := s.log.modifyHandler h fun h => { h with formatter := some f } }
      attach logger h
  needText
  return streams.map fun (source, _) => process ++ "-" ++ source

def formatOverride (key : String) : Launch (Option String) := do
  match ← getEnv? key with
  | none => return none
  | some "" => return none
  | some s => return some (← lift (Text.unescape s))

def changeLog (f : Log.Registry → Try Log.Registry) : Launch Unit := do
  let sys ← lift (f (← get).log)
  modify fun s => { s with log := sys }

def setScreenFormat (format style : Value) : Launch Unit := do
  let o ← formatOverride "OVERRIDE_LAUNCH_SCREEN_FORMAT"
  changeLog (·.setScreenFormat o format style)

def setFileFormat (format style : Value) : Launch Unit := do
  let o ← formatOverride "OVERRIDE_LAUNCH_LOG_FORMAT"
  changeLog (·.setFileFormat o format style)

def resetLogging : Launch Unit := do
  modify fun s => { s with log := { s.log with
    rootLevel := .int Log.info, directory := none, fileHandlers := [], screenHandler := none,
    screenFormatter := none, fileFormatter := none, factory := none,
    loggers := s.log.loggers.map fun (n, hs) => (n, if n == rootLogger then hs else []) } }
  setScreenFormat (.str "default") .null
  setFileFormat (.str "default") .null

def setEnvVar (k v : String) : Launch Unit :=
  modifyWorld fun w => { w with env := Log.setAssoc k v w.env }

def initLogging (screenFormat fileFormat mode : Value) : Launch Unit := do
  let colors ← lift (Log.Registry.modeColors mode)
  Log.processVariables.forM fun (k, v) => setEnvVar k v
  modify fun s => { s with log := { s.log with rootLevel := .int Log.info } }
  changeLog (·.beautifyScreen screenFormat colors)
  changeLog (·.beautifyFiles fileFormat)

def logSummary (logger : String) : Launch Unit := do
  let s ← get
  if s.log.fileHandlers.any (·.1 != "") then
    info logger ("All log files can be found below " ++ (← logDir))
  let level ← lift (Log.labelOf (← get).log.leastLevel)
  info logger ("Default logging verbosity is set to " ++ level.display Value.plainRef)

end Launchpad.Launch
