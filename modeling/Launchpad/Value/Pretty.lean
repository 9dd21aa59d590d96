import Launchpad.Value.Literal
import Launchpad.Value.Order
import Launchpad.Text.Lines

/-!
The layout of a value over several lines: a value that fits into what is left of its line is
written as a literal, else its elements stand on lines of their own, and a long text is cut at
blanks. The keys of a map come in ascending order.
-/

namespace Launchpad.Value

def pageWidth : Int := 80

def keyLe (a b : Value) : Bool :=
  match less false b a with
  | .ok later => !later
  | .error _ => !(b.typeText < a.typeText)

mutual

def ordered : Value → Value
  | .list xs => .list (orderedList xs)
  | .tuple xs => .tuple (orderedList xs)
  | .set xs => .set ((orderedList xs).mergeSort keyLe)
  | .frozen xs => .frozen ((orderedList xs).mergeSort keyLe)
  | .map es => .map ((orderedEntries es).mergeSort fun a b => keyLe a.1 b.1)
  | v => v

def orderedList : List Value → List Value
  | [] => []
  | x :: xs => ordered x :: orderedList xs

def orderedEntries : List (Value × Value) → List (Value × Value)
  | [] => []
  | (k, v) :: es => (k, ordered v) :: orderedEntries es

end

def spaces (n : Int) : String :=
  Text.repeatText " " n.toNat

def blankRuns (s : String) : List String :=
  go s.toList [] false
where
  go : Chars → Chars → Bool → List String
    | [], [], _ => []
    | [], w, _ => [String.ofList w.reverse]
    | c :: cs, w, afterBlank =>
      if Text.isBlank c then go cs (c :: w) true
      else if afterBlank then String.ofList w.reverse :: go cs [c] false
      else go cs (c :: w) false

/-- Puts as many runs as fit into one quoted piece, one after the other; the last piece has to
leave `allowance` characters free. -/
def packRuns (width : Int) (allowance : Int) (lastLine : Bool) :
    List String → String → List String
  | [], cur => if cur == "" then [] else [Text.quote cur]
  | part :: parts, cur =>
    let w := if parts.isEmpty && lastLine then width - allowance else width
    let cand := cur ++ part
    if ((Text.quote cand).length : Int) > w then
      (if cur == "" then [] else [Text.quote cur]) ++ packRuns width allowance lastLine parts part
    else packRuns width allowance lastLine parts cand

def textPieces (width allowance : Int) : List String → List String
  | [] => []
  | line :: rest =>
    let w := if rest.isEmpty then width - allowance else width
    let rep := Text.quote line
    (if (rep.length : Int) ≤ w then [rep]
     else packRuns width allowance rest.isEmpty (blankRuns line) "") ++
      textPieces width allowance rest

def textLayout (indent allowance : Int) (s : String) : List String :=
  textPieces (pageWidth - indent) allowance (Text.linesWithEnds s)

def stacked (outermost : Bool) (indent : Int) (pieces : List String) : String :=
  let text := ("\n" ++ spaces indent).intercalate pieces
  if outermost then "(" ++ text ++ ")" else text

mutual

/-- The layout of a value that begins in column `indent` and has to leave `allowance` columns free
behind its end. The entries of maps are already in order. -/
def layout (outermost : Bool) (indent allowance : Int) (v : Value) : String :=
  let rep := literal plainRef v
  let extra : Int := if outermost then 1 else 0
  if (rep.length : Int) ≤ pageWidth - indent - allowance then rep
  else match v with
    | .map es => "\x7b" ++ layoutEntries (indent + 1) (allowance + 1) es ++ "\x7d"
    | .list xs => "[" ++ layoutItems (indent + 1) (allowance + 1) xs ++ "]"
    | .tuple [x] => "(" ++ layout false (indent + 1) (allowance + 2) x ++ ",)"
    | .tuple xs => "(" ++ layoutItems (indent + 1) (allowance + 1) xs ++ ")"
    | .set xs => "\x7b" ++ layoutItems (indent + 1) (allowance + 1) xs ++ "\x7d"
    | .frozen xs => "frozenset(\x7b" ++ layoutItems (indent + 11) (allowance + 2) xs ++ "\x7d)"
    | .str s => match textLayout (indent + extra) (allowance + extra) s with
      | [] | [_] => rep
      | pieces => stacked outermost (indent + extra) pieces
    | _ => rep

def layoutItems (indent allowance : Int) : List Value → String
  | [] => ""
  | [x] => layout false indent allowance x
  | x :: xs => layout false indent 1 x ++ ",\n" ++ spaces indent ++ layoutItems indent allowance xs

def layoutEntries (indent allowance : Int) : List (Value × Value) → String
  | [] => ""
  | (k, v) :: es =>
    let rep := literal plainRef k
    let head := rep ++ ": "
    let col := indent + rep.length + 2
    match es with
    | [] => head ++ layout false col allowance v
    | es =>
      head ++ layout false col 1 v ++ ",\n" ++ spaces indent ++ layoutEntries indent allowance es

end

def pretty (v : Value) : String :=
  layout true 0 0 v.ordered

end Launchpad.Value
