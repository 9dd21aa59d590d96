import Launchpad.Text.Letter

/-!
Regular expressions with groups, matched by backtracking: of several ways to match, the one that
takes alternatives from the left and repetitions as long (or, if so marked, as short) as possible.
-/

namespace Launchpad.Pattern

inductive ClassItem where
  | one (c : Char)
  | range (a b : Char)
  | digit (neg : Bool)
  | word (neg : Bool)
  | blank (neg : Bool)
deriving Repr, DecidableEq

def ClassItem.has (c : Char) : ClassItem → Bool
  | .one d => c == d
  | .range a b => a ≤ c && c ≤ b
  | .digit neg => Text.isDecimal c != neg
  | .word neg => Text.isWord c != neg
  | .blank neg => Text.isBlank c != neg

inductive Greed where
  | greedy | lazy | possessive
deriving Repr, DecidableEq

inductive Regex where
  | empty
  | char (c : Char)
  | any
  | cls (neg : Bool) (items : List ClassItem)
  | seq (p q : Regex)
  | alt (p q : Regex)
  | rep (min : Nat) (max : Option Nat) (greed : Greed) (p : Regex)
  | group (index : Nat) (p : Regex)
  | lineStart
  | lineEnd
  | textEnd
  | boundary (neg : Bool)
deriving Repr, DecidableEq

/-- Where a match stands: the character before, the text ahead, how far it came and what the groups
have taken so far. -/
structure Cursor where
  before : Option Char
  rest : Chars
  pos : Nat
  groups : List (Nat × String)
deriving Repr, DecidableEq

def Cursor.start (s : String) : Cursor :=
  ⟨none, s.toList, 0, []⟩

def Cursor.step (c : Cursor) (p : Char → Bool) : Option Cursor :=
  match c.rest with
  | [] => none
  | x :: xs => if p x then some { c with before := some x, rest := xs, pos := c.pos + 1 } else none

def Cursor.atBoundary (c : Cursor) : Bool :=
  let l := (c.before.map Text.isWord).getD false
  let r := (c.rest.head?.map Text.isWord).getD false
  l != r

abbrev Matcher := Cursor → (Cursor → Option Cursor) → Option Cursor

def repeatMatch (m : Matcher) (greed : Greed) : Nat → Nat → Option Nat → Matcher
  | 0, _, _, c, k => k c
  | fuel + 1, min, max, c, k =>
    let fewer := max.map (· - 1)
    if 0 < min then m c fun c' => repeatMatch m greed fuel (min - 1) fewer c' k
    else if max = some 0 then k c
    else
      let more := fun (k : Cursor → Option Cursor) => m c fun c' =>
        if c'.pos = c.pos then k c' else repeatMatch m greed fuel 0 fewer c' k
      match greed with
      | .lazy => (k c).orElse fun _ => more k
      | _ => (more k).orElse fun _ => k c

def run : Regex → Matcher
  | .empty, c, k => k c
  | .char x, c, k => (c.step (· == x)).bind k
  | .any, c, k => (c.step (· != '\n')).bind k
  | .cls neg items, c, k => (c.step fun x => items.any (ClassItem.has x) != neg).bind k
  | .seq p q, c, k => run p c fun c' => run q c' k
  | .alt p q, c, k => (run p c k).orElse fun _ => run q c k
  | .rep min max greed p, c, k =>
    match greed with
    | .possessive =>
      (repeatMatch (run p) .greedy (min + c.rest.length + 1) min max c some).bind k
    | g => repeatMatch (run p) g (min + c.rest.length + 1) min max c k
  | .group i p, c, k => run p c fun c' =>
    let taken := String.ofList (c.rest.take (c'.pos - c.pos))
    k { c' with groups := (i, taken) :: c'.groups.filter (·.1 != i) }
  | .lineStart, c, k => if c.pos = 0 then k c else none
  | .lineEnd, c, k => if c.rest = [] ∨ c.rest = ['\n'] then k c else none
  | .textEnd, c, k => if c.rest = [] then k c else none
  | .boundary neg, c, k => if c.atBoundary != neg then k c else none

def matchAt (p : Regex) (s : String) : Option Cursor :=
  run p (Cursor.start s) some

def matchWhole (p : Regex) (s : String) : Option Cursor :=
  run p (Cursor.start s) fun c => if c.rest = [] then some c else none

def Cursor.group? (c : Cursor) (i : Nat) : Option String :=
  c.groups.lookup i

end Launchpad.Pattern
