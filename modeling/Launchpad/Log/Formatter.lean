import Launchpad.Log.Record
import Launchpad.Color

/-!
Formatters turn records into lines. The plain ones put a record into a template. The pretty ones
first look whether a message carries its own severity and time, as messages of other processes do,
and they know a color for each level and each source.
-/

namespace Launchpad.Log

inductive Style where
  | brace | percent | dollar
deriving DecidableEq, Repr

structure Template where
  style : Style := .brace
  text : String
  defaults : Value := .null
deriving Inhabited

def Style.messageOnly : Style → String
  | .brace => "\x7bmessage\x7d"
  | .percent => "%(message)s"
  | .dollar => "$\x7bmessage\x7d"

def Style.textOf (s : Style) (given : Value) : Try String :=
  match given with
  | .str t => .ok (if t == "" then s.messageOnly else t)
  | v => if v.truthy then fails .wrongType else .ok s.messageOnly

def Template.check (t : Template) : Try Unit :=
  match t.style with
  | .brace => Format.checkBraces t.text
  | .percent => Format.checkPercent t.text
  | .dollar => Format.checkDollars t.text

def Template.usesTime (t : Template) : Bool :=
  match t.style with
  | .brace => Text.contains t.text "\x7basctime"
  | .percent => Text.contains t.text "%(asctime)"
  | .dollar => Text.contains t.text "$asctime" || Text.contains t.text "$\x7basctime\x7d"

def Template.render (t : Template) (fields : Named) : Try String := do
  let given ← match t.defaults with
    | .map es => pure (es.filterMap fun (k, v) => match k with
      | .str k => some (k, v)
      | _ => none)
    | v => if v.truthy then throw (.silent .wrongType) else pure []
  let all := fields ++ given
  let r := match t.style with
    | .brace => Format.renderBraces all t.text
    | .percent => Format.renderPercent t.text (Value.record all)
    | .dollar => Format.renderDollars all t.text
  match r with
  | .error (.fault ⟨.unknownKey, _, _⟩) => fails .invalidValue
  | r => r

/-- A formatter that recognises messages of other processes and uses colors. -/
structure Pretty where
  template : Template
  timeFormat : Value
  pattern : Pattern.Compiled
  parts : Value
  sourceColors : Entries
  levelColors : Entries

inductive Formatter where
  | plain (t : Template)
  | pretty (p : Pretty)
deriving Inhabited

/-- What formatting works on: the record, and the hue from which new source colors go on. -/
structure Scratch where
  record : Record
  hue : Float
  sources : Entries

abbrev FormatM := EStateM Stop Scratch

def liftExcept {σ α : Type} (r : Try α) : EStateM Stop σ α :=
  match r with
  | .ok a => pure a
  | .error e => throw e

def readLike (like : Value) (t : Option String) : Try Value :=
  match like, t with
  | .str _, some s => .ok (.str s)
  | .str _, none => .ok (.str "None")
  | .float _, some s => match Text.readFloat? s with
    | some x => .ok (.float x)
    | none =>
      let shown := Text.quote s
      fails .invalidValue s!"could not convert string to float: {shown}"
  | .int _, some s => match Text.readInt? s with
    | some n => .ok (.int n)
    | none => fails .invalidValue
  | .bool _, some s => .ok (.bool (s != ""))
  | .tuple _, some s => .ok (.tuple (s.toList.map fun c => .str (String.ofList [c])))
  | .map _, some s => (Entries.ofValue (.str s)).map .map
  | _, _ => fails .wrongType

def takeParts (groups : Nat) (c : Pattern.Cursor) : Nat → List Value → FormatM Unit
  | _, [] => pure ()
  | i, key :: keys => do
    let key ← match key with
      | .str k => pure k
      | _ => throw (Stop.silent .wrongType)
    let s ← get
    let like := (s.record.get? key).getD (.str "")
    if groups < i then throw (Stop.silent .outOfRange)
    let v ← liftExcept (readLike like (c.group? i))
    modify fun s => { s with record := s.record.set key v }
    takeParts groups c (i + 1) keys

def alignLevel (parts : Value) : FormatM Unit := do
  let named ← liftExcept (Value.contains parts (.str "levelname"))
  let numbered ← liftExcept (Value.contains parts (.str "levelno"))
  let s ← get
  if named && !numbered then
    set { s with record := s.record.set "levelno" (← liftExcept (labelOf s.record.levelName)) }
  else if numbered && !named then
    set { s with record := s.record.set "levelname" (← liftExcept (labelOf s.record.level)) }

/-- The color of a source: the one for all sources if there is one, else its own, which is chosen
when the source is first seen. -/
def sourceColor (name : Value) : FormatM Value := do
  let s ← get
  match Entries.getText? s.sources "*" with
  | some c => pure c
  | none =>
    if name.same (.str "*") then pure (.str "")
    else if !name.isKey then throw (Stop.silent .wrongType)
    else match Entries.get? s.sources name with
      | some c => pure c
      | none =>
        let (c, h) := Color.next s.hue
        let c := Color.toValue c
        set { s with hue := h, sources := Entries.insert s.sources name c }
        pure c

def levelColor (colors : Entries) (level : Value) : Try Value := do
  match Entries.getText? colors "*" with
  | some c => return c
  | none =>
    let name ← match level with
      | .int _ | .bool _ => labelOf level
      | v => pure v
    if name.isKey then return (Entries.get? colors name).getD (.str "")
    else throw (.silent .wrongType)

/-- The time stamp of a record: its time after a template, or the bare number of seconds if that
is no moment of the calendar, or the template is none. -/
def stamp (timeFormat : Value) (created : Float) : Value :=
  match Calendar.Moment.ofSeconds? created with
  | none => .float created
  | some t =>
    if !timeFormat.truthy then .str (t.render "%Y-%m-%d %H:%M:%S")
    else match timeFormat with
      | .str f => .str (t.render f)
      | _ => .float created

/-- The message and, if it is asked for, the time stamp become attributes; then the record is put
into the template. -/
def finish (t : Template) (time : Record → Value) : FormatM String := do
  let s ← get
  let m ← liftExcept s.record.message
  modify fun s => { s with record := s.record.set "message" (.str m) }
  if t.usesTime then
    modify fun s => { s with record := s.record.set "asctime" (time s.record) }
  let s ← get
  liftExcept (t.render s.record.fields)

def Pretty.recognise (p : Pretty) : FormatM Unit := do
  let s ← get
  match s.record.msg with
  | .str msg => match Pattern.matchAt p.pattern.pattern msg with
    | none => pure ()
    | some c => do
      match p.parts.elements? with
      | some keys => takeParts p.pattern.groups c 1 keys
      | none => throw (Stop.silent .wrongType)
      alignLevel p.parts
  | _ => throw (Stop.silent .wrongType)

def Pretty.present (p : Pretty) : FormatM String := do
  let s ← get
  let c ← sourceColor s.record.name
  let on ← liftExcept (Color.escape c)
  modify fun s => { s with record :=
    (s.record.set "sourcecolor_start" (.str on)).set "sourcecolor_end" (.str (Color.reset on)) }
  let s ← get
  let on ← liftExcept (levelColor p.levelColors s.record.level >>= Color.escape)
  modify fun s => { s with record :=
    (s.record.set "levelcolor_start" (.str on)).set "levelcolor_end" (.str (Color.reset on)) }
  finish p.template fun r => stamp p.timeFormat r.created

def Pretty.format (p : Pretty) : FormatM String := do
  p.recognise
  p.present

def plainStamp (r : Record) : Value :=
  match Calendar.Moment.ofSeconds? r.created with
  | none => .float r.created
  | some t =>
    let millis := ((r.get? "msecs").getD .null).display Value.plainRef
    let whole := (millis.toList.takeWhile (· != '.'))
    .str (t.render "%Y-%m-%d %H:%M:%S" ++ "," ++ Text.padLeft '0' (String.ofList whole) 3)

/-- The line of a record; also the formatter, the hue and the record as they are afterwards, even
if there is no line. -/
def Formatter.run (f : Formatter) (hue : Float) (r : Record) :
    Try String × Formatter × Float × Record :=
  match f with
  | .plain t =>
    match (finish t plainStamp).run ⟨r, hue, []⟩ with
    | .ok s st => (.ok s, f, hue, st.record)
    | .error e st => (.error e, f, hue, st.record)
  | .pretty p =>
    match p.format.run ⟨r, hue, p.sourceColors⟩ with
    | .ok s st => (.ok s, .pretty { p with sourceColors := st.sources }, st.hue, st.record)
    | .error e st => (.error e, .pretty { p with sourceColors := st.sources }, st.hue, st.record)

def defaultLevelColors : Entries :=
  [(.str "INFO", .str "\x1b[92;20m"), (.str "WARNING", .str "\x1b[93;20m"),
    (.str "ERROR", .str "\x1b[91;20m"), (.str "CRITICAL", .str "\x1b[95;20m"),
    (.str "DEBUG", .str "\x1b[36;20m")]

def defaultSourceColor : Value := .int 222

def defaultScreenFormat : String :=
  "[\x7blevelcolor_start\x7d\x7blevelname\x7d\x7blevelcolor_end\x7d] " ++
    "[\x7bsourcecolor_start\x7d\x7bname\x7d\x7bsourcecolor_end\x7d] [\x7basctime\x7d]\n\x7bmessage\x7d"

def defaultFileFormat : String :=
  "[\x7blevelname\x7d] [\x7basctime\x7d] \x7bmessage\x7d"

def processPattern : String :=
  "%%(\\w+)%%([\\d.]+)%%(.*)"

def servicePattern : String :=
  "\\[(.+)] *%%(\\w+)%%([\\d.]+)%%(.*)"

structure PrettyOptions where
  format : Value := .str defaultScreenFormat
  timeFormat : Value := .str "%Y-%m-%d %H:%M:%S.%f"
  defaults : Value := .null
  pattern : Value := .str processPattern
  parts : Value := .tuple [.str "levelname", .str "created", .str "msg"]
  sourceColors : Value := defaultSourceColor
  levelColors : Value := .null
  noColors : Value := .bool false

def addColors (base : Entries) : Value → Entries
  | .map es => Entries.update base es
  | .null => base
  | c => Entries.insert base (.str "*") c

def Pretty.make (o : PrettyOptions) : Try Pretty := do
  let t : Template := { text := ← Style.brace.textOf o.format, defaults := o.defaults }
  t.check
  let pattern ← match o.pattern with
    | .str p => Pattern.compile p
    | _ => throw (.silent .wrongType)
  let quiet (es : Entries) : Entries :=
    if o.noColors.truthy then Entries.insert es (.str "*") (.str "") else es
  return { template := t, timeFormat := o.timeFormat, pattern := pattern, parts := o.parts,
           sourceColors := quiet (addColors [] o.sourceColors),
           levelColors := quiet (addColors defaultLevelColors o.levelColors) }

end Launchpad.Log
