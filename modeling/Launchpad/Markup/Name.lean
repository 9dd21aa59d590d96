import Launchpad.Text.Printable

/-!
Names in markup: which characters they start with and go on with, with the ranges of characters
that the standard lists. A qualified name is a name, or two of them with a colon in between.
-/

namespace Launchpad.Markup

def nameStarts : Array (Nat × Nat) := Text.readRanges "
41-19 4 1-19 45-16 1-1e 1-39 2-a 2-7 1-34 1-43 9-23 3-1 4-1d 38-58 12-6 c4 1-2 1 1-13 1-2b 1-6 3 1
1 1 1-11 d-b 1-41 1-b 1-23 e-34 2-1 2-1 3-1b 2-7 2-1 37-25 2 7-25 49-1a 5-2 2e-19 6-9 26-46 2-4 1-e
1-3 1 f-1 21e-34 3 1a-9 23-7 2-1 2-15 1-6 1 3-3 22-1 1-2 e-1 13-5 4-1 2-15 1-6 1-1 1-1 1-1 1f-3 1
13-2 10-6 1 1-2 1-15 1-6 1-1 1-4 3 22 24-7 2-1 2-15 1-6 1-1 2-3 3 1e-1 1-2 23-5 3-2 1-3 3-1 1 1-1
3-1 3-2 3-7 1-2 4b-7 1-2 1-16 1-9 1-4 26-1 23-7 1-2 1-16 1-9 1-4 24 1-1 23-7 1-2 1-16 1-f 26-1
9f-2d 1 1-1 c-5 3b-1 1 2-1 1 2 6-3 1-6 1-2 1 1 2-1 1-1 1 1-1 9 2-4 7b-7 1-20 136-25 a-26 9 1-1 1-2
1 1-1 1-4 29 1 1 b 1 1 3-1 3 5-2 1 1 1 1 3-1 3-1 1 28 9 2 2-1 7-1 1 1-6 28 4 8 c06-9b 4-59 6-15 2-5
2-25 2-5 2-7 1 1 1 1-1e 2-34 1-6 1 3-2 1-6 3-3 2-5 4-c 5-2 1-6 129 3-1 2 51-2 e84 19-8 17-53 c-59
a-27 1cd3-51a5 c5a-2ba3"

def nameFollowers : Array (Nat × Nat) := Text.readRanges "
2d-1 1-9 7d 218-1 2e-45 1a-1 25 fb-3 10a-10 1-16 1-2 1 1-1 1 7b a-7 d-9 6 65-e 2-1 1-3 2-9 207-2 38
1-f 3-3 d-1 2-9 11-2 38 1-6 2-1 2-2 9 a-1 2-9 12 39 1-4 4-1 2-2 18-b f-2 38 1-7 1-2 1-2 18-9 11-2
38 1-5 3-1 2-2 8-1 e-9 12-1 3a-4 3-2 1-3 9 f-8 11-2 3a-6 1-2 1-3 7-1 f-9 12-1 3a-6 1-2 1-3 7-1 f-9
12-1 3a-5 2-2 1-3 9 e-9 c1 2-6 b-8 1-9 57 2-5 1-1 9 1-5 2-9 3e-1 6-9 b 1 1 4-1 31-13 1-5 4-5 1 1-14
3-6 1 1116-c 4 f23 24-5 1-4 63-1 2-1 5d-2"

def isNameStart (c : Char) : Bool := Text.inRanges nameStarts c.toNat

def isNamePart (c : Char) : Bool := isNameStart c || Text.inRanges nameFollowers c.toNat

def isSpace (c : Char) : Bool :=
  c == ' ' || c == '\t' || c == '\n' || c == '\r'

def skipSpaces (cs : Chars) : Chars := cs.dropWhile isSpace

def takeName (cs : Chars) : Option (String × Chars) :=
  match cs with
  | c :: _ =>
    if isNameStart c then
      some (String.ofList (cs.takeWhile isNamePart), cs.dropWhile isNamePart)
    else none
  | [] => none

def takeQualified (cs : Chars) : Option (String × Chars) := do
  let (first, rest) ← takeName cs
  match rest with
  | ':' :: rest =>
    let (second, rest) ← takeName rest
    return (first ++ ":" ++ second, rest)
  | rest => return (first, rest)

end Launchpad.Markup
