import Launchpad.Markup

/-!
Markup as the style of a text: every tag names a class, and its attributes may name colours. Such
markup holds nothing but tags and text, and the name of a colour has no blank in it.
-/

namespace Launchpad.Markup

/-- Do the attributes of a tag name colours without a blank? The last one for the foreground
counts. -/
def namesColours (attributes : TextPairs) : Bool :=
  let isForeground (k : String) : Bool := k == "fg" || k == "color"
  let foreground := (attributes.filter fun e => isForeground e.1).getLast?
  let background := attributes.find? fun e => e.1 == "bg"
  [foreground, background].all fun e => e.all fun e => !Text.contains e.2 " "

def styleFault? : Nat → Chars → Option Cause
  | 0, _ => none
  | _ + 1, [] => none
  | fuel + 1, '<' :: cs =>
    if (afterText? "!--" cs).isSome || cs.head? == some '?' then some .noAttribute
    else match afterText? "![CDATA[" cs with
      | some rest => match takeUpTo "]]>" rest with
        | some (_, rest) => styleFault? fuel rest
        | none => none
      | none => match takeQualified cs with
        | none => styleFault? fuel cs
        | some (_, rest) => match takeAttributes (rest.length + 1) rest with
          | none => none
          | some (attributes, rest) =>
            if namesColours attributes then styleFault? fuel rest else some .invalidValue
  | fuel + 1, _ :: cs => styleFault? fuel cs

def checkStyle (text : String) : Try Unit := do
  let whole := "<html-root>" ++ text ++ "</html-root>"
  if (parse whole).toOption.isNone then fails .badInfoSheet
  else match styleFault? (whole.length + 1) (Text.unifyLineEnds whole).toList with
    | some c => fails c
    | none => .ok ()

end Launchpad.Markup
