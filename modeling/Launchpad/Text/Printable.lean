import Launchpad.Text.Blank

/-!
The characters that are written as they are in a quoted text. All others (control and format
characters, surrogates, private and unassigned code points, and blanks other than the space) are
written as escapes.
-/

namespace Launchpad.Text

def hexNumber (cs : Chars) : Nat :=
  cs.foldl (fun n c => 16 * n + (if c.isDigit then c.toNat - 48 else c.toNat - 87)) 0

def tableWords (s : String) : List Chars :=
  (splitChars ' ' (s.toList.map fun c => if c == '\n' then ' ' else c)).filter (!·.isEmpty)

/-- The range that a word stands for: how far its first number is behind the range before, which ends
in front of `next`, and how many more there are. -/
def rangeBehind (next : Nat) (w : Chars) : Nat × Nat :=
  let first := next + hexNumber (w.takeWhile (· != '-'))
  (first, first + hexNumber ((w.dropWhile (· != '-')).drop 1))

def readRanges (s : String) : Array (Nat × Nat) :=
  ((tableWords s).foldl (fun (table, next) w =>
    let range := rangeBehind next w
    (table.push range, range.2 + 1)) (#[], 0)).1

/-- The row of a sorted table whose run has a number in it. -/
def rowAt? {α : Type} (run : α → Nat × Nat) (table : Array α) (n : Nat) : Option α :=
  go (table.size + 1) 0 table.size
where
  go : Nat → Nat → Nat → Option α
    | 0, _, _ => none
    | fuel + 1, lo, hi =>
      if lo ≥ hi then none
      else
        let mid := (lo + hi) / 2
        match table[mid]? with
        | none => none
        | some row =>
          if n < (run row).1 then go fuel lo mid
          else if (run row).2 < n then go fuel (mid + 1) hi
          else some row

def inRanges (table : Array (Nat × Nat)) (n : Nat) : Bool :=
  (rowAt? id table n).isSome

def unprintable : Array (Nat × Nat) := readRanges "
0-1f 5f-21 c 2ca-1 6-3 7 1 14 18d 26-1 32-1 3 37-7 1b-3 6-10 16 c0 30-1 3b-1 65-d 3b-1 31-1 f 1c-1
1 b-4 1f-8 4a a1 8-1 2-1 16 7 1-2 4-1 9-1 2-1 4-7 1-3 2 5-1 19-1 3 6-3 2-1 16 7 2 2 2-1 1 5-3 2-1
3-2 1-6 4 1-6 11-9 3 9 3 16 7 2 5-1 a 3 3-1 1-e 4-1 c-6 7 3 8-1 2-1 16 7 2 5-1 9-1 2-1 3-6 3-3 2
5-1 12-9 2 6-2 3 4-2 2 1 2-2 2-2 3-2 c-3 5-2 3 4-1 1-5 1-d 15-4 d 3 17 10-1 9 3 4-6 2 3-1 1-1 4-1
a-6 16 3 17 a 5-1 9 3 4-6 2-5 2 4-1 a 2-c d 3 33 3 6-3 10-1 1a 3 12-2 18 9 1-1 7-2 1-3 6 1 8-5 a-1
3-b 3a-3 1d-24 2 1 5 18 1 17-1 5 1 6-1 a-1 4-1f 48 24-3 27 24 f d-24 c6 1-4 1-1 179 4-1 7 1 4-1 29
4-1 21 4-1 7 1 4-1 f 39 4-1 43-1 20-2 1a-5 56-1 6-1 280 1c-2 59-6 16-8 18-8 14-b d 3 2-b 5e-1 a-5
a-5 e b-5 59-6 2b-4 46-9 1f c-3 c-3 1-2 2a-1 5-a 2c-3 1a-5 b-2 3e-1 41 1d-1 b-5 a-5 e-1 1f-30 4d-2
2f 74-7 3c-2 f-2 3c-6 2b-1 b-7 2b-4 216-1 6-1 26-1 6-1 8 1 1 1 1f-1 35 f e-1 6 13-1 3 9-10 18-7
2f-10 2-1 1b d-2 21-e 21-e 8c-3 297-18 b-14 714-1 20 15d-4 2d 1-4 1-1 38-6 2-d 18-8 7 7 7 7 7 7 7 7
7e-21 1a 59-b d6-19 c-4 3f 56-1 67-4 2b 5e 54-b 2f 726d-2 37-8 15c-13 b8-7 cb-4 2 1 5-17 3b-2 a-5
38-7 46-7 c-5 74-a 1e-2 4e b-3 21 37-8 e-1 a-1 67-17 1c-9 6-1 6-1 6-8 7 7 3c-3 7e-1 a-5 2ba4-b 17-3
31-3 800-18ff 16e-1 6a-25 7-b 5-4 1a 5 1 2 2 7d-f 1bd-1 36-6 1-1f 2a-5 33 13 4-3 5 87-3 be-2 6-1
6-1 6-1 3-2 7 7-c 2-1 1fe-81 aba-125 515-8a da-a5 1c7-b8 2f9-106 1aa-135 19-b6 594-a4b 49f-fd0
247-21b8 390-2af 1ec9-22e6 30c-903 a0-125f 346-99 99-86 6b0-44f 1f-e0 2b-d4 50-13f 70-4df 180-310
cd-c1 f2-10d 2c-3 64-b f-1 f f 25-9 ae-37 1d-c 2c-3 9-6 2-d 6-99 3d8-4 10-2 d-2 74-b 59-6 c-3 1-e
c-3 38-7 a-5 28-7 1e-1 2-4d 154-b e-1 5-2 5-2 7-8 1d-2 b-4 6-9 a-5 8-7 7-8 93 37-24 a-405 ebe1-c1e
21e-5e1 134b-aedb4 f0-2fe0f"

def isPrintable (c : Char) : Bool :=
  let n := c.toNat
  if n < 127 then 32 ≤ n else !inRanges unprintable n

end Launchpad.Text
