import Launchpad.Text.Printable

/-!
Quoted texts. A text stands between single quotes, or between double quotes when it holds a single
quote and no double one; backslashes, the closing quote and unprintable characters are escaped.
-/

namespace Launchpad.Text

def hex (w n : Nat) : String :=
  let ds := Nat.toDigits 16 n
  String.ofList (List.replicate (w - ds.length) '0' ++ ds)

def hexEscape (c : Char) : String :=
  if c.toNat < 0x100 then "\\x" ++ hex 2 c.toNat
  else if c.toNat < 0x10000 then "\\u" ++ hex 4 c.toNat
  else "\\U" ++ hex 8 c.toNat

def quoteChar (q c : Char) : String :=
  if c == q || c == '\\' then String.ofList ['\\', c]
  else if c == '\n' then "\\n"
  else if c == '\r' then "\\r"
  else if c == '\t' then "\\t"
  else if isPrintable c then String.ofList [c]
  else hexEscape c

def quoteFor (s : String) : Char :=
  if s.toList.contains '\'' && !s.toList.contains '"' then '"' else '\''

def quote (s : String) : String :=
  let q := quoteFor s
  String.ofList [q] ++ String.join (s.toList.map (quoteChar q)) ++ String.ofList [q]

/-- A character inside a text between double quotes of which only the first 128 code points may
be used; larger ones are written as one or two units of 16 bits. -/
def asciiChar (c : Char) : String :=
  let n := c.toNat
  if c == '"' then "\\\""
  else if c == '\\' then "\\\\"
  else if c == '\n' then "\\n"
  else if c == '\r' then "\\r"
  else if c == '\t' then "\\t"
  else if n == 8 then "\\b"
  else if n == 12 then "\\f"
  else if 32 ≤ n && n < 127 then String.ofList [c]
  else if n < 0x10000 then "\\u" ++ hex 4 n
  else "\\u" ++ hex 4 (0xD800 + (n - 0x10000) / 0x400) ++ "\\u" ++
    hex 4 (0xDC00 + (n - 0x10000) % 0x400)

def asciiQuote (s : String) : String :=
  "\"" ++ String.join (s.toList.map asciiChar) ++ "\""

end Launchpad.Text
