import Launchpad.Value.Literal
import Launchpad.Value.Number

/-!
Terminal colors: the escape sequence that switches a color on, and an endless series of colors any
two neighbours of which are easy to tell apart.
-/

namespace Launchpad.Color

/-- How a color may be given: as an escape sequence, as a number of the terminal's palette, or as
the parts of a mixture. Anything else is no color. -/
def escape : Value → Try String
  | .str s => .ok s
  | .bool b => .ok ("\x1b[38;5;" ++ Value.boolText b ++ "m")
  | .int n => .ok s!"\x1b[38;5;{n}m"
  | .list xs => mixture xs
  | .tuple xs => mixture xs
  | _ => .ok ""
where
  mixture : List Value → Try String
    | r :: g :: b :: _ =>
      let t := Value.display Value.plainRef
      .ok ("\x1b[38;2;" ++ t r ++ ";" ++ t g ++ ";" ++ t b ++ "m")
    | _ => fails .outOfRange

def reset (on : String) : String :=
  if on == "" then "" else "\x1b[0m"

def hueStep : Float := 0.61803398875

def fraction (x : Float) : Float :=
  x - x.floor

def ofHue (h : Float) : Nat × Nat × Nat :=
  let sector := (h * 6.0).floor.toUInt64.toNat
  let f := h * 6.0 - sector.toFloat
  let level (x : Float) : Nat := (x * 255.0).floor.toUInt64.toNat
  let falling := level (1.0 - f)
  let rising := level (1.0 - (1.0 - f))
  match sector % 6 with
  | 0 => (255, rising, 0)
  | 1 => (falling, 255, 0)
  | 2 => (0, 255, rising)
  | 3 => (0, falling, 255)
  | 4 => (rising, 0, 255)
  | _ => (255, 0, falling)

def next (hue : Float) : (Nat × Nat × Nat) × Float :=
  let h := fraction (hue + hueStep)
  (ofHue h, h)

def series (hue : Float) : Nat → List (Nat × Nat × Nat)
  | 0 => []
  | n + 1 =>
    let (c, h) := next hue
    c :: series h n

def hueBehind (hue : Number) : Try Float := do
  match ← (← hue.add (.real hueStep)).mod (.whole 1) with
  | .real h => if h.isNaN then throw (.silent .invalidValue) else return h
  | _ => throw (.silent .wrongType)

def seriesFrom (hue : Value) : Nat → Try (List (Nat × Nat × Nat))
  | 0 => .ok []
  | n + 1 =>
    match hue.number? with
    | some x => do
      let h ← hueBehind x
      return ofHue h :: series h n
    | none => fails .wrongType

def toValue (c : Nat × Nat × Nat) : Value :=
  .tuple [.int c.1, .int c.2.1, .int c.2.2]

end Launchpad.Color
