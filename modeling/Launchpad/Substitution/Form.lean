import Launchpad.Fault
import Launchpad.Substitution.Token

/-!
The nested forms of a substitution text. The first word behind an opening mark is the key of its
form and carries a dollar sign; when a form closes before it has a word, the next word anywhere
takes the dollar sign.
-/

namespace Launchpad.Substitution

inductive Form where
  | word (s : String)
  | items (fs : List Form)

/-- A reading in progress: the items of the open forms, innermost first, each in reverse; and
whether the next word is a key. -/
structure Reading where
  current : List Form := []
  outer : List (List Form) := []
  keyNext : Bool := false

inductive FormError where
  | unbalancedClosing
  | unbalancedOpening
  | unclosedQuote
  | endless
deriving DecidableEq, Repr

def Reading.push (r : Reading) : Token → Except FormError Reading
  | .opening => .ok { current := [], outer := r.current :: r.outer, keyNext := true }
  | .closing => match r.outer with
    | [] => .error .unbalancedClosing
    | o :: os => .ok { r with current := .items r.current.reverse :: o, outer := os }
  | .word s =>
    .ok { r with
      current := .word (if r.keyNext then "$" ++ s else s) :: r.current
      keyNext := false }

def Reading.pushAll : Reading → List Token → Except FormError Reading
  | r, [] => .ok r
  | r, t :: ts => match r.push t with
    | .error e => .error e
    | .ok r' => r'.pushAll ts

def parse (s : String) : Except FormError (List Form) :=
  let (ts, e) := scan s
  match Reading.pushAll {} ts with
  | .error f => .error f
  | .ok r => match e with
    | .unclosedQuote => .error .unclosedQuote
    | .stuck => .error .endless
    | .finished => if r.outer.isEmpty then .ok r.current.reverse else .error .unbalancedOpening

def FormError.fault : FormError → Fault
  | .unbalancedClosing => .told .invalidValue "Unbalanced )"
  | .unbalancedOpening => .told .invalidValue "Unbalanced $("
  | .unclosedQuote => .told .invalidValue "Missing closing quote"
  | .endless => .silent .recursion

def Form.value : Form → Value
  | .word s => .str s
  | .items fs => .list (values fs)
where
  values : List Form → List Value
    | [] => []
    | f :: fs => f.value :: values fs

end Launchpad.Substitution
