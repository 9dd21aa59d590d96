import Launchpad.Log.Registry

/-!
Relays: handlers that format a record and hand it to a listener, or write it to a stream. A relay
may have a formatter of its own for a logger, unless it is stubborn.
-/

namespace Launchpad.Log

inductive RelayKind where
  | forward
  /-- It passes records on to a forwarding one and keeps its formatter. -/
  | stubborn
  | stream
deriving DecidableEq, Repr, Inhabited

structure Relay where
  kind : RelayKind
  level : Value
  formatter : Formatter
  perLogger : List (String × Formatter) := []
  hue : Float := 0.0
deriving Inhabited

/-- What comes out of a relay for one record: what the listener sees, and what is written. -/
structure Relayed where
  record : Option (Record × String) := none
  text : String := ""

namespace Relay

def defaultLevel : RelayKind → Value
  | .stream => .int 0
  | .forward | .stubborn => .int info

def setFormatterFor (h : Relay) (logger : String) (f : Formatter) : Relay :=
  match h.kind with
  | .stubborn => h
  | _ => { h with perLogger := setAssoc logger f h.perLogger }

def unsetFormatterFor (h : Relay) (logger : String) : Relay :=
  { h with perLogger := h.perLogger.filter (·.1 != logger) }

def format (h : Relay) (r : Record) : Try String × Relay × Record :=
  match r.name.text?.bind fun n => (h.perLogger.lookup n).map fun f => (n, f) with
  | some (n, f) =>
    let (t, f, hue, r') := f.run h.hue r
    (t, { h with perLogger := setAssoc n f h.perLogger, hue }, r')
  | none =>
    if !r.name.isKey then (fails .wrongType, h, r)
    else
      let (t, f, hue, r') := h.formatter.run h.hue r
      (t, { h with formatter := f, hue }, r')

def handle (h : Relay) (r : Record) : Try Relayed × Relay :=
  match reaches r.level h.level with
  | .error e => (.error e, h)
  | .ok false => (.ok {}, h)
  | .ok true =>
    let (t, h, r') := h.format r
    match h.kind, t with
    | .stream, .ok line => (.ok { text := line ++ "\n" }, h)
    | .stream, .error _ => (.ok {}, h)
    | _, .ok line => (.ok { record := some (r', line) }, h)
    | _, .error e => (.error e, h)

end Relay

end Launchpad.Log
