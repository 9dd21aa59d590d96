import Launchpad.Substitution.Expand

/-!
Lists in the place of a substitution text. The elements of a list are read like the characters of
a text, so that each of them is a mark, a blank or a part of a word. What is a word in a text is a
run of elements in a list, and such a run is a form of its own.
-/

namespace Launchpad.Substitution

inductive ListedToken where
  | opening
  | closing
  | run (words : List String)
deriving DecidableEq, Repr

inductive ListedEnd where
  | scanned (e : ScanEnd)
  | notText
deriving DecidableEq, Repr

def isBlankText (s : String) : Bool :=
  s != "" && s.toList.all Text.isBlank

def wordsOf (vs : List Value) : List String :=
  vs.map fun
    | .str s => s
    | _ => ""

def takeQuotedRun (q : Value) : Value → List Value → Option (List Value × List Value)
  | _, [] => none
  | prev, v :: vs =>
    if v.same q && !prev.same (.str "\\") then some ([], vs)
    else (takeQuotedRun q v vs).map fun (a, b) => (v :: a, b)

def takeRun : List Value → Option (List String × List Value)
  | [] => some ([], [])
  | .str s :: vs =>
    if isBlankText s || Text.contains "$()" s then some ([], .str s :: vs)
    else (takeRun vs).map fun (a, b) => (s :: a, b)
  | _ :: _ => none

def scanListed : Nat → List Value → List ListedToken × ListedEnd
  | 0, _ | _, [] => ([], .scanned .finished)
  | n + 1, .str s :: vs =>
    let behind (t : ListedToken) (rest : List Value) : List ListedToken × ListedEnd :=
      let (ts, e) := scanListed n rest
      (t :: ts, e)
    if isBlankText s then scanListed n vs
    else if s == "$" && (vs.head?.any fun v => v.same (.str "(")) then behind .opening vs.tail
    else if s == ")" then behind .closing vs
    else if Text.contains "\"'" s then
      match takeQuotedRun (.str s) (.str s) vs with
      | none => ([], .scanned .unclosedQuote)
      | some (run, rest) => behind (.run (wordsOf run)) rest
    else match takeRun (.str s :: vs) with
      | none => ([], .notText)
      | some ([], _) => ([], .scanned .stuck)
      | some (run, rest) => behind (.run run) rest
  | _, _ :: _ => ([], .notText)

def Reading.pushListed (r : Reading) : ListedToken → Try Reading
  | .opening => (r.push .opening).mapError (.fault ·.fault)
  | .closing => (r.push .closing).mapError (.fault ·.fault)
  | .run ws =>
    if r.keyNext then fails .wrongType
    else .ok { r with current := .items (ws.map .word) :: r.current }

def parseListed (vs : List Value) : Try (List Form) := do
  let (ts, e) := scanListed (vs.length + 1) vs
  let r ← ts.foldlM Reading.pushListed {}
  match e with
  | .notText => fails .noAttribute
  | .scanned .unclosedQuote => .error (.fault FormError.unclosedQuote.fault)
  | .scanned .stuck => .error (.fault FormError.endless.fault)
  | .scanned .finished =>
    if r.outer.isEmpty then .ok r.current.reverse
    else .error (.fault FormError.unbalancedOpening.fault)

def parseValue : Value → Try (List Form)
  | .str s => (parse s).mapError (.fault ·.fault)
  | .list vs | .tuple vs => parseListed vs
  | .map [] | .set [] | .frozen [] => .ok []
  | .map _ => fails .unknownKey "0"
  | _ => fails .wrongType

def substituteValue {m : Type → Type} [Monad m] [MonadExceptOf Stop m] (handlers : Handlers m)
    (v : Value) : m Value := do
  match parseValue v with
  | .error e => throw e
  | .ok fs =>
    match v with
    | .tuple _ => throw (Stop.silent (if fs.isEmpty then .invalidValue else .noAttribute))
    | _ => (Form.items fs).expand handlers

end Launchpad.Substitution
