import Launchpad.Text.Printable

/-!
Letters, digits and the characters of a word: those of the first plane of Unicode, mathematical
letters and ideographs.
-/

namespace Launchpad.Text

def alphanumeric : Array (Nat × Nat) := readRanges "
aa 7-1 1 3-1 1-2 1-16 1-1e 1-1c9 4-b e-4 7 1 81-4 1-1 2-3 1 6 1-2 1 1-13 1-52 1-8a 8-a5 1-25 2 6-28
47-1a 4-3 2d-2a 15-9 4-1 1-62 1 f-1 7-e 2 10 1-1d 1d-58 b e-2a 9-1 4 5-15 4 9 3 17-18 7-a 5-17 1-5
11-29 3a-35 3 12 7-9 4-9 1-f 4-7 2-1 2-15 1-6 1 3-3 3 10 d-1 1-2 4-b 2-5 2 8-5 4-1 2-15 1-6 1-1 1-1
1-1 1f-3 1 7-9 2-2 10-8 1-2 1-15 1-6 1-1 1-4 3 12 f-1 4-9 9 b-7 2-1 2-15 1-6 1-1 1-4 3 1e-1 1-2 4-9
1-6 b 1-5 3-2 1-3 3-1 1 1-1 3-1 3-2 3-b 16 15-c 12-7 1-2 1-16 1-f 3 1a-2 2 2-1 4-9 8-6 1 4-7 1-2
1-16 1-9 1-4 3 1f-1 1-1 4-9 1-1 11-8 1-2 1-28 2 10 5-2 1-9 4-12 1-5 5-11 3-17 1-8 1 2-6 1f-9 11-2f
1-1 c-6 9-9 27-1 1 1-4 1-17 1 1-9 1-1 9 2-4 1 9-9 2-3 20 1f-13 c-7 1-23 1b-4 73-2a 14-a 6-5 4-3 3
3-1 7-2 4-c c 1-9 6-25 1 5 2-2a 1-14c 1-3 2-6 1 1-3 2-28 1-3 2-20 1-3 2-6 1 1-3 2-e 1-38 1-3 2-42
e-13 3-f 10-55 2-5 3-26b 2-10 1-19 5-4a 3-a 7-11 d-12 e-11 e-c 1-2 f-33 23 4 3-9 6-9 16-9 6-58 7-4
2-21 1 5-45 a-1e 27-27 2-4 b-2b 4-19 6-a 25-16 9-34 2b-9 6-9 d 5d-2e 11-7 3-9 29-1d d-37 1a-23 1c-9
3-30 2-8 7-2a 2-2 29-3 1-5 1-1 3 5-bf 40-115 2-5 2-25 2-5 2-7 1 1 1 1-1e 2-34 1-6 1 3-2 1-6 3-3 2-5
4-c 5-2 1-6 73-1 2-5 5-a 6-c 65 4 2-9 1 3-4 6 1 1 1-3 1-a 2-3 5-4 4 1-39 2d6-3b 4e-15 276-1d 46c-e4
6-3 3-1 9 2-25 1 5 2-37 7 10-16 9-6 1-6 1-6 1-6 1-6 1-6 1-6 1-6 50 1d5-2 19-8 7-4 2-4 4-55 6-2 1-59
1-3 5-2a 1-5d 3-3 a-1f 30-f 20-9 1e-7 1-e 20-9 27-e 140-19bf 40-568c 43-2d 2-10c 3-1b 14-2e 10-1e
2-4f 27-8 2-66 2-3f 5-1 1 1-4 18-f 1-2 1-3 1-16 d-5 a-33 e-31 1c-9 18-5 3 1-1 1-25 a-16 19-1c 7-2e
1c-a 6-4 1-18 1-28 17-2 1-7 4-9 6-16 3 3-31 1 3-1 2-4 2 1 18-2 2-a 7-2 c-5 2-5 2-5 9-6 1-6 1-2a 1-d
6-72 d-9 6-2ba3 c-16 4-30 2104-16d 2-69 26-6 c-4 5 1-9 1-c 1-4 1 1-1 1-1 1-6b 21-16a 12-3f 2-35
28-b 74-4 1-86 13-9 7-19 6-19 b-58 3-5 2-5 2-5 2-2 d423-54 1-46 1-1 2 2-1 2-3 1-b 1 1-6 1-40 1-3
2-7 1-6 1-1b 1-3 1-4 1 3-6 1-153 2-18 1-18 1-1e 1-18 1-1e 1-18 1-1e 1-18 1-1e 1-18 1-7 2-31
2800-a6df 20-1038 7-dd 2-1681 e-1d30 c1f-21d 5e2-134a"

def decimals : Array (Nat × Nat) := readRanges "
660-9 86-9 c6-9 19c-9 76-9 76-9 76-9 76-9 76-9 76-9 76-9 76-9 76-9 60-9 76-9 46-9 116-9 46-9 746-9
26-9 12c-9 80-9 a6-9 6-9 b6-9 56-9 86-9 6-9 89c6-9 2a6-9 26-9 c6-9 16-9 56-9 196-9 5316-9 d8b4-31"

def isAlphanumeric (c : Char) : Bool :=
  if c.toNat < 128 then c.isAlphanum else inRanges alphanumeric c.toNat

def isDecimal (c : Char) : Bool :=
  if c.toNat < 128 then c.isDigit else inRanges decimals c.toNat

def decimalValue? (c : Char) : Option Nat :=
  let n := c.toNat
  if n < 128 then (if c.isDigit then some (n - 48) else none)
  else (decimals.find? fun (a, b) => a ≤ n && n ≤ b).map fun (a, _) => (n - a) % 10

def isWord (c : Char) : Bool :=
  c == '_' || isAlphanumeric c

end Launchpad.Text
