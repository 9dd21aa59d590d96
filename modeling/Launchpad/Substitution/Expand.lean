import Launchpad.Substitution.Form

/-!
The expansion of substitution forms. Items are expanded first, from the left; then a form whose
first item begins with a dollar sign is replaced by the answer of the handler of that key, and any
other form by its items joined with blanks.
-/

namespace Launchpad.Substitution

variable {m : Type → Type} [Monad m] [MonadExceptOf Stop m]

abbrev Handlers (m : Type → Type) := String → Option (List Value → m Value)

def texts? : List Value → Option (List String)
  | [] => some []
  | .str s :: vs => (texts? vs).map (s :: ·)
  | _ :: _ => none

/-- What is wrong with a first item that is no text: bytes can be asked how they begin, but not
with a text. -/
def badHead : Value → Cause
  | .bytes _ | .ref (.thing "bytearray" _ _) | .ref (.type "str") | .ref (.type "bytes")
  | .ref (.type "bytearray") => .wrongType
  | _ => .noAttribute

def applyForm (handlers : Handlers m) : List Value → m Value
  | [] => throw (Stop.silent .invalidValue
    "not enough values to unpack (expected at least 1, got 0)")
  | .str s :: args =>
    match s.toList with
    | '$' :: key =>
      let key := String.ofList key
      match handlers key with
      | none => throw (Stop.told .unknownKey s!"Unknown substitution key: {key}")
      | some call => call args
    | _ => match texts? (.str s :: args) with
      | some ts => pure (.str (" ".intercalate ts))
      | none => throw (Stop.silent .wrongType)
  | v :: _ => throw (Stop.silent (badHead v))

mutual

def Form.expand (handlers : Handlers m) : Form → m Value
  | .word s => pure (.str s)
  | .items fs => do
    let vs ← expandAll handlers fs
    applyForm handlers vs

def expandAll (handlers : Handlers m) : List Form → m (List Value)
  | [] => pure []
  | f :: fs => do
    let v ← f.expand handlers
    let vs ← expandAll handlers fs
    pure (v :: vs)

end

def substitute (handlers : Handlers m) (s : String) : m Value :=
  match parse s with
  | .error e => throw (Stop.fault e.fault)
  | .ok fs => (Form.items fs).expand handlers

end Launchpad.Substitution
