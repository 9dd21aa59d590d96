/-!
Lines of a text. A line ends at a line feed, at a carriage return (with a line feed after it or
not), at a vertical tab or form feed, at one of the three separators of information, or at one of
the three line ends beyond the first 128 code points.
-/

namespace Launchpad.Text

def isLineEnd (c : Char) : Bool :=
  let n := c.toNat
  (10 ≤ n && n ≤ 13) || (28 ≤ n && n ≤ 30) || n == 0x85 || n == 0x2028 || n == 0x2029

def linesWithEnds (s : String) : List String :=
  go s.toList []
where
  go : List Char → List Char → List String
    | [], [] => []
    | [], w => [String.ofList w.reverse]
    | '\r' :: '\n' :: cs, w => String.ofList ('\n' :: '\r' :: w).reverse :: go cs []
    | c :: cs, w =>
      if isLineEnd c then String.ofList (c :: w).reverse :: go cs []
      else go cs (c :: w)

def dropLineEnd (s : String) : String :=
  String.ofList (s.toList.reverse.dropWhile isLineEnd).reverse

def lines (s : String) : List String :=
  (linesWithEnds s).map dropLineEnd

def unifyLineEnds (s : String) : String :=
  String.ofList (go s.toList)
where
  go : List Char → List Char
    | [] => []
    | '\r' :: '\n' :: cs => '\n' :: go cs
    | '\r' :: cs => '\n' :: go cs
    | c :: cs => c :: go cs

end Launchpad.Text
