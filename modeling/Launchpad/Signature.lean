import Launchpad.Fault

/-!
Parameter lists, and the assignment of positional and named arguments to parameters.
-/

namespace Launchpad

structure Param where
  name : String
  default : Option Value := none

structure Signature where
  params : List Param := []
  varargs : Option String := none
  kwonly : List Param := []
  varkw : Option String := none

inductive BindError where
  | tooMany
  | missing (name : String)
  | twice (name : String)
  | unexpected (name : String)
deriving DecidableEq, Repr

def BindError.text : BindError → String
  | .tooMany => "too many positional arguments"
  | .missing n => s!"missing a required argument: '{n}'"
  | .twice n => s!"multiple values for argument '{n}'"
  | .unexpected n => s!"got an unexpected keyword argument '{n}'"

def BindError.fault (e : BindError) : Fault :=
  .silent .wrongType e.text

/-- Arguments that have found their parameters, in the order of the parameters. -/
structure Bound where
  values : Named

def assignPositional : List Param → List Value → Named × List Param × List Value
  | [], vs => ([], [], vs)
  | ps, [] => ([], ps, [])
  | p :: ps, v :: vs =>
    let (a, rest, extra) := assignPositional ps vs
    ((p.name, v) :: a, rest, extra)

def removeNamed (named : Named) (k : String) : Named :=
  named.filter fun e => e.1 != k

def assignNamed (fill : Bool) : List Param → Named → Except BindError (Named × Named)
  | [], named => .ok ([], named)
  | p :: ps, named => match named.lookup p.name with
    | some v => do
      let (a, rest) ← assignNamed fill ps (removeNamed named p.name)
      return ((p.name, v) :: a, rest)
    | none => match p.default with
      | some d => do
        let (a, rest) ← assignNamed fill ps named
        return (if fill then (p.name, d) :: a else a, rest)
      | none => throw (.missing p.name)

/-- Binds arguments to a parameter list. With `fill`, parameters that were not given appear with
their defaults, and the collecting parameters appear even if they collected nothing. -/
def Signature.bind (s : Signature) (positional : List Value) (named : Named) (fill : Bool) :
    Except BindError Bound := do
  let (a, rest, extra) := assignPositional s.params positional
  let collected ← match s.varargs with
    | some n => pure (if extra.isEmpty && !fill then [] else [(n, Value.tuple extra)])
    | none => if extra.isEmpty then pure [] else throw .tooMany
  match a.find? fun e => (named.lookup e.1).isSome with
  | some e => throw (.twice e.1)
  | none => pure ()
  let (b, named) ← assignNamed fill rest named
  let (c, named) ← assignNamed fill s.kwonly named
  let extraNamed ← match s.varkw, named with
    | some n, es =>
      pure (if es.isEmpty && !fill then []
        else [(n, Value.map (es.map fun (k, v) => (.str k, v)))])
    | none, [] => pure []
    | none, (k, _) :: _ => throw (.unexpected k)
  return ⟨a ++ b ++ collected ++ c ++ extraNamed⟩

def Bound.get (b : Bound) (k : String) : Value :=
  (b.values.lookup k).getD .null

def Bound.flag (b : Bound) (k : String) : Bool :=
  (b.get k).truthy

def Bound.items (b : Bound) (k : String) : List Value :=
  match b.get k with
  | .tuple vs => vs
  | _ => []

def Bound.set (b : Bound) (k : String) (v : Value) : Bound :=
  ⟨b.values.map fun e => if e.1 == k then (k, v) else e⟩

end Launchpad
