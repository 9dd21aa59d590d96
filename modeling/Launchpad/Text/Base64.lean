/-!
Bytes written with sixty-four characters: each stands for six bits, and equals signs fill the last
group of four. Other characters are skipped.
-/

namespace Launchpad.Text

def sixBits? (c : Char) : Option Nat :=
  if 'A' ≤ c && c ≤ 'Z' then some (c.toNat - 65)
  else if 'a' ≤ c && c ≤ 'z' then some (c.toNat - 71)
  else if c.isDigit then some (c.toNat + 4)
  else if c == '+' then some 62
  else if c == '/' then some 63
  else none

inductive Base64Error where
  | extra (count : Nat)
  | padding
deriving DecidableEq, Repr

def Base64Error.message : Base64Error → String
  | .extra n => s!"Invalid base64-encoded string: number of data characters ({n}) cannot be 1 " ++
    "more than a multiple of 4"
  | .padding => "Incorrect padding"

def ofBase64 (s : String) : Except Base64Error (List UInt8) :=
  go 0 0 0 0 [] s.toList
where
  /-- `place` is the number of characters of the group that are there, `left` are the bits that are
  not used yet, `pads` the equals signs, `count` the characters, and `acc` the bytes in reverse. -/
  go (place left pads count : Nat) (acc : List UInt8) : List Char → Except Base64Error (List UInt8)
    | [] =>
      if place == 0 then .ok acc.reverse
      else if place == 1 then .error (.extra count)
      else .error .padding
    | c :: cs =>
      if c == '=' then
        if place ≥ 2 then
          if place + pads + 1 ≥ 4 then .ok acc.reverse else go place left (pads + 1) count acc cs
        else go place left pads count acc cs
      else match sixBits? c with
        | none => go place left pads count acc cs
        | some b =>
          match place with
          | 0 => go 1 b 0 (count + 1) acc cs
          | 1 => go 2 (b % 16) 0 (count + 1) ((left * 4 + b / 16).toUInt8 :: acc) cs
          | 2 => go 3 (b % 4) 0 (count + 1) ((left * 16 + b / 4).toUInt8 :: acc) cs
          | _ => go 0 0 0 (count + 1) ((left * 64 + b).toUInt8 :: acc) cs

end Launchpad.Text
