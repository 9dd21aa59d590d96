import Launchpad.Markup.Name
import Launchpad.Pattern.Reader

/-!
References: a number stands for a character, and so does each of five common names.
-/

namespace Launchpad.Markup

def isChar (c : Char) : Bool :=
  let n := c.toNat
  n == 9 || n == 10 || n == 13 || (n ≥ 0x20 && n != 0xFFFE && n != 0xFFFF)

def commonEntities : List (String × Char) :=
  [("lt", '<'), ("gt", '>'), ("amp", '&'), ("apos", '\''), ("quot", '"')]

def referenced? (base : Nat) (cs : Chars) : Option Char := do
  if cs.isEmpty || cs.any fun c => decide ((Pattern.hexValue? c).getD 99 ≥ base) then none
  let n := Pattern.numberIn base cs
  let c := Char.ofNat n
  if c.toNat == n && isChar c then some c else none

def reference? (body : Chars) : Option Char :=
  match body with
  | '#' :: 'x' :: ds => referenced? 16 ds
  | '#' :: ds => referenced? 10 ds
  | cs => commonEntities.lookup (String.ofList cs)

def takeReference (cs : Chars) : Option (Char × Chars) := do
  match cs.dropWhile (· != ';') with
  | [] => none
  | _ :: rest => return (← reference? (cs.takeWhile (· != ';')), rest)

def replaceReferences : Option Chars → Chars → Option Chars
  | none, [] => some []
  | some _, [] => none
  | none, c :: cs =>
    if c == '&' then replaceReferences (some []) cs else (replaceReferences none cs).map (c :: ·)
  | some body, c :: cs =>
    if c == ';' then do
      let r ← reference? body.reverse
      return r :: (← replaceReferences none cs)
    else replaceReferences (some (c :: body)) cs

/-- The text of a value, in which every blank is a space. It holds no opening bracket of its own. -/
def attributeText (cs : Chars) : Option Chars := do
  guard !(cs.contains '<')
  replaceReferences none (cs.map fun c => if isSpace c then ' ' else c)

end Launchpad.Markup
