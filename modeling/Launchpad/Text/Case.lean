import Launchpad.Text.Printable

/-!
Small letters: every capital letter has a small one at a fixed distance, the same for whole runs of
letters. The capital I with a dot becomes two characters.
-/

namespace Launchpad.Text

/-- Runs in which capital and small letters take turns. -/
def mixedRuns : Array (Nat × Nat) := readRanges "
100-2e 3-4 2-e 2-2c 2-4 4-2 2 3 5 6 7-4 2 4 2 3-2 2 3 8 2 2-10 2-10 3-2 3-26 3-10 8 5 4-8 121-2 3
61-16 8 2 65-20 9-34 2-c 2-5e 18d1-94 b-5e"

/-- Runs of capital letters, with the way to their small letters. -/
def capitalRuns : List ((Nat × Nat) × Int) := (readRanges "
c0-16 1-6 99 8 4 2-1 3 0 0 2 0 1 0 4 0 1 6 2 4 2-1 4 c 2 2 26 4 0 28 19 2 0 4 0 0 139 6 1-2 1 1-1
1-10 1-8 23 24 4 3-2 0-f 0-1f 90 70-25 1947 69-7 8-5 a-7 8-7 dfe1-19").toList.zip
  [32, 32, -121, 210, 206, 205, 79, 202, 203, 205, 207, 211, 209, 211, 213, 214, 218, 218, 218,
    217, 219, 2, 2, 2, 2, -97, -56, -130, 10795, -163, 10792, -195, 69, 71, 116, 38, 37, 64, 63,
    32, 32, 8, -60, -7, -130, 80, 32, 15, 48, -7615, -8, -8, -8, -8, 32]

def lowerChar (c : Char) : Chars :=
  let n := c.toNat
  if n < 128 then [c.toLower]
  else if n == 0x130 then ['i', Char.ofNat 0x307]
  else if mixedRuns.any fun (a, b) => a ≤ n && n ≤ b && (n - a) % 2 == 0 then [Char.ofNat (n + 1)]
  else match capitalRuns.find? fun ((a, b), _) => a ≤ n && n ≤ b with
    | some (_, d) => [Char.ofNat (n + d).toNat]
    | none => [c]

def lower (s : String) : String :=
  String.ofList (s.toList.flatMap lowerChar)

end Launchpad.Text
