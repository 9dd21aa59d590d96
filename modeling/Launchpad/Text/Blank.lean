/-!
Blank characters and the operations that cut text at them. The class is that of the Unicode
standard: every character whose general category is a space separator, or whose bidirectional
class is a white space, a segment separator or a paragraph separator.
-/

abbrev Launchpad.Chars := List Char

/-- A beginning and what is behind it. -/
abbrev Launchpad.Split := Option (Chars × Chars)

abbrev Launchpad.TextPairs := List (String × String)

namespace Launchpad.Text

def isBlank (c : Char) : Bool :=
  let n := c.toNat
  (9 ≤ n && n ≤ 13) || (28 ≤ n && n ≤ 32) || n == 0x85 || n == 0xA0 || n == 0x1680 ||
    (0x2000 ≤ n && n ≤ 0x200A) || n == 0x2028 || n == 0x2029 || n == 0x202F || n == 0x205F ||
    n == 0x3000

def trimLeftBy (p : Char → Bool) (s : String) : String :=
  String.ofList (s.toList.dropWhile p)

def trimRightBy (p : Char → Bool) (s : String) : String :=
  String.ofList (s.toList.reverse.dropWhile p).reverse

def trimBy (p : Char → Bool) (s : String) : String :=
  trimRightBy p (trimLeftBy p s)

def trim (s : String) : String :=
  trimBy isBlank s

def words (s : String) : List String :=
  go s.toList []
where
  go : Chars → Chars → List String
    | [], [] => []
    | [], w => [String.ofList w.reverse]
    | c :: cs, w =>
      if isBlank c then
        match w with
        | [] => go cs []
        | w => String.ofList w.reverse :: go cs []
      else go cs (c :: w)

def startsWith (s p : String) : Bool :=
  p.toList.isPrefixOf s.toList

def endsWith (s p : String) : Bool :=
  p.toList.reverse.isPrefixOf s.toList.reverse

def cutChars (pat : Chars) : Chars → Split
  | [] => if pat.isEmpty then some ([], []) else none
  | c :: cs =>
    if pat.isPrefixOf (c :: cs) then some ([], (c :: cs).drop pat.length)
    else (cutChars pat cs).map fun (a, b) => (c :: a, b)

def cut? (s pat : String) : Option (String × String) :=
  (cutChars pat.toList s.toList).map fun (a, b) => (String.ofList a, String.ofList b)

def cutLast? (s pat : String) : Option (String × String) :=
  (cutChars pat.toList.reverse s.toList.reverse).map fun (a, b) =>
    (String.ofList b.reverse, String.ofList a.reverse)

def contains (s pat : String) : Bool :=
  (cut? s pat).isSome

def splitChars (sep : Char) : Chars → List Chars
  | [] => [[]]
  | c :: cs =>
    if c = sep then [] :: splitChars sep cs
    else
      match splitChars sep cs with
      | [] => [[c]]
      | w :: ws => (c :: w) :: ws

def splitAt (s : String) (sep : Char) : List String :=
  (splitChars sep s.toList).map String.ofList

def splitText (s sep : String) : List String :=
  go s.length s
where
  go : Nat → String → List String
    | 0, s => [s]
    | n + 1, s =>
      match cut? s sep with
      | none => [s]
      | some (a, b) => a :: go n b

def replace (s pat by' : String) : String :=
  by'.intercalate (splitText s pat)

def repeatText (s : String) (n : Nat) : String :=
  String.join (List.replicate n s)

def padRight (s : String) (n : Nat) : String :=
  s ++ repeatText " " (n - s.length)

def padLeft (c : Char) (s : String) (n : Nat) : String :=
  String.ofList (List.replicate (n - s.length) c) ++ s

end Launchpad.Text
