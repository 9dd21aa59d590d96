import Launchpad.Text.Letter

/-!
Identifiers: a letter or an underscore, and behind it letters, decimal digits, marks and
connectors.
-/

namespace Launchpad.Text

def startExceptions : Array (Nat × Nat) := readRanges "
b2-1 5 2-2 2bb 679-5 178-5 78-2 85-6 d9-6 11-8 ba 7f 76-9 435-13 473-9 8b-1 153 695 3-5 6-9 8e 15
21-f 29 2d6-3b 4e-15 276-1d 569 131 362-3 8a-9 1e-7 1-e 20-9 27-e 7570-5 5428-5 196-1 74 1 1 1 1 1
1 1 11f-1"

def marks : Array (Nat × Nat) := readRanges "
b7 248-6f 17 fb-4 109-2c 1 1-1 1-1 1 48-a 30-14 10 65-6 2-5 2-1 1-3 23 1e-1a 5b-a 3a-8 9 18-3 1-8
1-2 1-4 2b-2 3c-7 2a-17 1-20 36-2 1-11 1-6 a-1 1d-2 38 1-6 2-1 2-2 9 a-1 1a 2-2 38 1-4 4-1 2-2 3
1e-1 3 b-2 38 1-7 1-2 1-2 14-1 16-5 1-2 38 1-6 2-1 2-2 7-2 a-1 1e 3b-4 3-2 1-3 9 28-4 37 1-6 1-2
1-3 7-1 b-1 1d-2 38 1-6 1-2 1-3 7-1 b-1 1c-3 37-1 1-6 1-2 1-3 9 a-1 1d-2 46 4-5 1 1-7 12-1 3d 1-7
c-7 62 1-9 b-5 4a-1 1b 1 1 4-1 31-13 1-1 5-a 1-23 9 64-13 17-3 4-2 1-2 2-6 3-3 d-b 1 a-3 2bf-2 9-8
3a0-3 1c-2 1d-1 1e-1 40-1f 9 2d-2 1 99 76-b 4-b 9e 3c-4 39-9 1-1c 2 30-d 1-f 31-4 2f-10 26-8 c-2
1e-c 38-d 30-13 98-2 1-14 4 6 2-2 c6-3f 23f-1 13 7b-c 4 3-b bfe-2 8d 60-1f 22a-5 69-1 75d4 4-9 20-1
50-1 110 3 4 17-4 4 53-1 32-11 1a-11 d 26-7 19-c 2c-3 2f-d 24 43-d c 8-1 2d-2 32 1-2 2-1 5-1 1 29-4
5-1 ec-7 1-1 4f30 2e1-f 10-f 3-1 18-2 ef 5e-1 d0160-ef"

def isNameStart (c : Char) : Bool :=
  if c.toNat < 128 then c == '_' || c.isAlpha
  else (isAlphanumeric c && !isDecimal c) != inRanges startExceptions c.toNat

def isNamePart (c : Char) : Bool :=
  isNameStart c || isDecimal c || (c.toNat ≥ 128 && inRanges marks c.toNat)

def isIdentifier (s : String) : Bool :=
  match s.toList with
  | [] => false
  | c :: cs => isNameStart c && cs.all isNamePart

end Launchpad.Text
