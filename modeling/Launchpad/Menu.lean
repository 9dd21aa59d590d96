import Launchpad.Value.Access
import Launchpad.Value.Literal

/-!
A menu in one line of the screen: labelled items of which one is selected. When the line is too
short for all items, a window around the selected one is shown, with a mark at each end where items
are left out.
-/

namespace Launchpad

structure Segment where
  style : Value
  text : Value

def Segment.width (s : Segment) : Int :=
  (s.text.size?.getD 0 : Nat)

/-- A menu. Its items are a list, unless another value is given for them. An item is a text, or a
tuple of a style and a label with more behind them. The selected place is a whole number, unless
another value is given for it. -/
structure Menu where
  items : Value := .list []
  selected : Value := .int 0
  ellipsis : Value := .str "…"
  highlight : Value := .str "reverse"

namespace Menu

def at? {β : Type} (xs : List β) (i : Int) : Option β :=
  if 0 ≤ i then xs[i.toNat]?
  else if -(xs.length : Int) ≤ i then xs[(xs.length + i).toNat]?
  else none

def face : Value → Try (Value × Value)
  | .tuple (style :: label :: _) => .ok (style, label)
  | .tuple _ => fails .invalidValue
  | v => .ok (.str "", v)

def highlighted (highlight style : Value) : Try Value :=
  match highlight, style with
  | .str h, .str s => .ok (.str (s ++ " " ++ h))
  | .str h, .list vs =>
    .ok (.list (vs ++ (" " ++ h).toList.map fun c => .str (String.singleton c)))
  | _, _ => fails .wrongType

/-- What the screen shows of the item at a place: its label between blanks, the selected one
highlighted. -/
def segment (m : Menu) (i : Nat) (item : Value) : Try Segment := do
  let (style, label) ← face item
  let style ← if Value.same (.int i) m.selected then highlighted m.highlight style else pure style
  return ⟨style, .str (" " ++ label.display Value.plainRef ++ " ")⟩

def list (m : Menu) : Try (List Value) :=
  match m.items.elements? with
  | some xs => .ok xs
  | none => fails .wrongType

def size (m : Menu) : Try Nat :=
  match m.items.size? with
  | some n => .ok n
  | none => fails .wrongType

def segments (m : Menu) : Try (List Segment) := do
  (← m.list).zipIdx.mapM fun (item, i) => m.segment i item

/-- Items after they have been drawn, the first of them at place `i`: a style that is a list keeps
what highlighting has added to it. -/
def drawnItems (m : Menu) : Nat → List Value → List Value
  | _, [] => []
  | i, item :: items =>
    if Value.same (.int i) m.selected then
      match item with
      | .tuple (.list vs :: label :: more) => match highlighted m.highlight (.list vs) with
        | .ok style => .tuple (style :: label :: more) :: items
        | .error _ => item :: items
      | _ => item :: items
    else match face item with
      | .ok _ => item :: m.drawnItems (i + 1) items
      | .error _ => item :: items

def drawn (m : Menu) : Menu :=
  match m.items with
  | .list xs => { m with items := .list (m.drawnItems 0 xs) }
  | .tuple xs => { m with items := .tuple (m.drawnItems 0 xs) }
  | _ => m

def totalWidth (ss : List Segment) : Int :=
  (ss.map Segment.width).foldl (· + ·) 0

/-- The part of the items that is shown: the segments from the one behind `left` to the one
before `right`. -/
structure Window where
  shown : List Segment
  used : Int
  left : Int
  right : Int

def Window.growLeft (ss : List Segment) (budget : Int) (w : Window) : Window :=
  if 0 ≤ w.left then
    match at? ss w.left with
    | some s =>
      if w.used + s.width ≤ budget then
        { w with shown := s :: w.shown, used := w.used + s.width, left := w.left - 1 }
      else w
    | none => w
  else w

def Window.growRight (ss : List Segment) (budget : Int) (w : Window) : Window :=
  if w.right < ss.length then
    match at? ss w.right with
    | some s =>
      if w.used + s.width ≤ budget then
        { w with shown := w.shown ++ [s], used := w.used + s.width, right := w.right + 1 }
      else w
    | none => w
  else w

def Window.grow (ss : List Segment) (budget : Int) : Nat → Window → Window
  | 0, w => w
  | n + 1, w =>
    let w' := (w.growLeft ss budget).growRight ss budget
    if w'.shown.length = w.shown.length then w else grow ss budget n w'

def window (m : Menu) (columns : Int) (ss : List Segment) (place : Int) (chosen : Segment) :
    List Segment :=
  let mark : Segment := ⟨.str "", m.ellipsis⟩
  let budget := columns - 2 * mark.width
  let w := Window.grow ss budget (2 * ss.length) ⟨[chosen], chosen.width, place - 1, place + 1⟩
  (if 0 ≤ w.left then [mark] else []) ++ w.shown ++
    (if w.right < ss.length then [mark] else [])

def render (m : Menu) (columns : Int) : Try (Option (List Segment)) := do
  if !m.items.truthy then return none
  let ss ← m.segments
  if totalWidth ss ≤ columns then return some ss
  if m.ellipsis.size?.isNone then throw (.silent .wrongType)
  let place ← Value.placeNumber m.selected
  match at? ss place with
  | none => throw (.silent .outOfRange)
  | some chosen => return some (m.window columns ss place chosen)

def emptyText : String := "---"

def move (m : Menu) (d : Int) : Try Menu := do
  match m.selected.number? with
  | none => throw (.silent .wrongType)
  | some n =>
    let place ← (← n.add (.whole d)).mod (.whole (← m.size))
    return { m with selected := place.toValue }

def selectNext (m : Menu) : Try Menu :=
  m.move 1

def selectPrev (m : Menu) : Try Menu :=
  m.move (-1)

def select (m : Menu) (place : Value) : Try Menu := do
  let inside ← if ← Value.less true (.int 0) place then
      Value.less false place (.int (← m.size))
    else pure false
  if inside then return { m with selected := place }
  let shown := place.display Value.plainRef
  let size ← m.size
  throw (.told .invalidValue s!"Item index out of range (idx={shown}, len={size})")

def current (m : Menu) : Try Value :=
  Value.item m.items m.selected

def setItems (m : Menu) (items : Value) (place : Value := .int 0) : Menu :=
  { m with items := items, selected := place }

def updateItems (m : Menu) (items : Value) : Try Menu := do
  let new := { m with items }
  let behind ← Value.less true (.int (← new.size)) m.selected
  return if behind then { new with selected := .int 0 } else new

end Menu

end Launchpad
