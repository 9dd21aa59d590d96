import Launchpad.Text.CharName
import Launchpad.Pattern.Reader

/-!
Texts in which a backslash begins an escape, as they come from expressions and from the
environment.
-/

namespace Launchpad.Text

def octal? (c : Char) : Option Nat :=
  if '0' ≤ c && c ≤ '7' then some (c.toNat - 48) else none

def takeOctal : Nat → Nat → Chars → Nat × Chars
  | 0, acc, cs => (acc, cs)
  | n + 1, acc, c :: cs => match octal? c with
    | some d => takeOctal n (acc * 8 + d) cs
    | none => (acc, c :: cs)
  | _ + 1, acc, [] => (acc, [])

def simpleEscape? : Char → Option Char
  | '\\' => some '\\'
  | '\'' => some '\''
  | '"' => some '"'
  | 'n' => some '\n'
  | 't' => some '\t'
  | 'r' => some '\r'
  | 'a' => some (Char.ofNat 7)
  | 'b' => some (Char.ofNat 8)
  | 'f' => some (Char.ofNat 12)
  | 'v' => some (Char.ofNat 11)
  | _ => none

/-- The character with this code point. Half of a surrogate pair is no character; the replacement
character stands for it. -/
def codePoint? (n : Nat) : Option Char :=
  if n > 0x10FFFF then none
  else if 0xD800 ≤ n && n ≤ 0xDFFF then some (Char.ofNat 0xFFFD)
  else some (Char.ofNat n)

def takeNamed : Chars → Option (Char × Chars)
  | '{' :: cs => match cs.dropWhile (· != '}') with
    | '}' :: rest =>
      (charNamed? (String.ofList (cs.takeWhile (· != '}')))).map fun c => (c, rest)
    | _ => none
  | _ => none

def unescapeChars : Nat → Chars → Option Chars
  | 0, _ => none
  | _ + 1, [] => some []
  | fuel + 1, '\\' :: cs => match cs with
    | [] => none
    | '\n' :: cs => unescapeChars fuel cs
    | c :: rest =>
      match simpleEscape? c with
      | some x => (unescapeChars fuel rest).map (x :: ·)
      | none =>
        if c == 'x' || c == 'u' || c == 'U' then do
          let (k, rest) ← Pattern.takeHex (if c == 'x' then 2 else if c == 'u' then 4 else 8) rest
          let x ← codePoint? k
          (unescapeChars fuel rest).map (x :: ·)
        else if c == 'N' then do
          let (x, rest) ← takeNamed rest
          (unescapeChars fuel rest).map (x :: ·)
        else if (octal? c).isSome then
          let (k, rest) := takeOctal 3 0 cs
          (unescapeChars fuel rest).map (Char.ofNat k :: ·)
        else (unescapeChars fuel rest).map fun r => '\\' :: c :: r
  | fuel + 1, c :: cs => (unescapeChars fuel cs).map (c :: ·)

def unescapeBytes : Nat → Chars → Option (List UInt8)
  | 0, _ => none
  | _ + 1, [] => some []
  | fuel + 1, '\\' :: cs => match cs with
    | [] => none
    | '\n' :: cs => unescapeBytes fuel cs
    | c :: rest =>
      match simpleEscape? c with
      | some x => (unescapeBytes fuel rest).map (x.toNat.toUInt8 :: ·)
      | none =>
        if c == 'x' then do
          let (k, rest) ← Pattern.takeHex 2 rest
          (unescapeBytes fuel rest).map (k.toUInt8 :: ·)
        else if (octal? c).isSome then
          let (k, rest) := takeOctal 3 0 cs
          (unescapeBytes fuel rest).map (k.toUInt8 :: ·)
        else (unescapeBytes fuel (c :: rest)).map (92 :: ·)
  | fuel + 1, c :: cs =>
    if c.toNat < 128 then (unescapeBytes fuel cs).map (c.toNat.toUInt8 :: ·) else none

def unescape (s : String) : Try String :=
  if s.toList.any fun c => c.toNat > 255 then fails .unencodable
  else match unescapeChars (s.length + 1) s.toList with
    | some cs => .ok (String.ofList cs)
    | none => fails .badEncoding

end Launchpad.Text
