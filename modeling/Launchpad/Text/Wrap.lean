import Launchpad.Text.Indent
import Launchpad.Text.Letter
import Launchpad.Text.Lines

/-!
Wrapping text to a width. A text is cut into chunks: runs of white space, words, parts of
hyphenated words up to their hyphen, and long dashes between words. Lines are filled with as many
chunks as fit; white space at a line break is dropped, and a chunk that fits on no line is broken.
-/

namespace Launchpad.Text

namespace Chunk

def isSpace (c : Char) : Bool :=
  let n := c.toNat
  (9 ≤ n && n ≤ 13) || n == 32

def isLetter (c : Char) : Bool :=
  isWord c && !isDecimal c

def isWordOrPunctuation (c : Char) : Bool :=
  isWord c || "!\"'&.,?".toList.contains c

def cutsAfter : Chars → Bool
  | b₁ :: b₂ :: rest =>
    (isLetter b₁ && isLetter b₂) ||
      (isWordOrPunctuation b₁ && b₂ == '-' && rest.head?.any isLetter)
  | _ => false

def cutsBefore : Chars → Bool
  | a :: '-' :: b :: _ => isLetter a && isLetter b
  | a :: b :: _ => isLetter a && isLetter b
  | _ => false

def dashStarts (before rest : Chars) : Bool :=
  before.head?.any isWordOrPunctuation && (rest.takeWhile (· == '-')).length ≥ 2 &&
    (rest.dropWhile (· == '-')).head?.any isWord

def wordLength (before : Chars) : Chars → Nat
  | [] => 0
  | c :: rest =>
    if isSpace c then 0
    else if c == '-' && cutsAfter before && cutsBefore rest then 1
    else if dashStarts before (c :: rest) then 0
    else wordLength (c :: before) rest + 1

def length (before : Chars) : Chars → Nat
  | [] => 0
  | c :: rest =>
    if isSpace c then (rest.takeWhile isSpace).length + 1
    else if dashStarts before (c :: rest) then ((c :: rest).takeWhile (· == '-')).length
    else wordLength (c :: before) rest + 1

def cut : Nat → Chars → Chars → List Chars
  | 0, _, _ => []
  | _ + 1, _, [] => []
  | fuel + 1, before, c :: cs =>
    let n := length before (c :: cs)
    let chunk := (c :: cs).take n
    chunk :: cut fuel (chunk.reverse ++ before) ((c :: cs).drop n)

def ofText (s : String) : List Chars :=
  cut s.length [] s.toList

def takeFitting (width used : Int) : List Chars → List Chars × List Chars
  | [] => ([], [])
  | c :: cs =>
    if used + c.length ≤ width then
      let (taken, rest) := takeFitting width (used + c.length) cs
      (c :: taken, rest)
    else ([], c :: cs)

end Chunk

structure Wrapping where
  width : Int
  first : String := ""
  later : String := ""

namespace Wrapping

def breakLong (width : Int) (line : List Chars) : List Chars → List Chars × List Chars
  | [] => (line, [])
  | c :: cs =>
    if (c.length : Int) > width then
      let used : Int := line.flatten.length
      let room := (max (width - used) 1).toNat
      (line ++ [c.take room], c.drop room :: cs)
    else (line, c :: cs)

def dropLastSpace (line : List Chars) : List Chars :=
  match line.reverse with
  | c :: before => if c.all isBlank then before.reverse else line
  | [] => []

def fillLines (w : Wrapping) : Nat → Bool → List Chars → List String
  | 0, _, _ => []
  | _ + 1, _, [] => []
  | fuel + 1, atStart, c :: cs =>
    let indent := if atStart then w.first else w.later
    let width := w.width - indent.length
    let chunks := if !atStart && c.all isBlank then cs else c :: cs
    let (line, rest) := Chunk.takeFitting width 0 chunks
    let (line, rest) := breakLong width line rest
    match dropLastSpace line with
    | [] => fillLines w fuel atStart rest
    | line => (indent ++ String.ofList line.flatten) :: fillLines w fuel false rest

def fill (w : Wrapping) (s : String) : String :=
  let t := expandTabs s
  "\n".intercalate (w.fillLines (2 * t.length + 1) true (Chunk.ofText t))

def indented (w : Wrapping) (n : Nat) : Wrapping :=
  { w with first := w.first ++ repeatText " " n, later := w.later ++ repeatText " " n }

def indentOnly (w : Wrapping) (s : String) : String :=
  match lines s with
  | [] => ""
  | l :: ls => "\n".intercalate ((w.first ++ l) :: ls.map (w.later ++ ·))

end Wrapping

structure Paragraph where
  indent : Nat
  lines : List String

namespace Paragraph

/-- Collects the lines of paragraphs, which are set apart by empty lines. The indentation of the
first line is that of the paragraph. -/
def collect : Option Paragraph → List String → List Paragraph
  | p, [] => p.toList
  | p, "" :: ls => p.toList ++ collect none ls
  | none, l :: ls =>
    collect (some ⟨indentOf l, [trimLeftBy isBlank l]⟩) ls
  | some p, l :: ls => collect (some { p with lines := p.lines ++ [l] }) ls

def asIs : String := "\x08"

def render (w : Wrapping) (p : Paragraph) : String :=
  let w := w.indented p.indent
  match p.lines with
  | l :: ls =>
    if trim l == asIs then w.indentOnly ("\n".intercalate ls)
    else w.fill (" ".intercalate (l :: ls))
  | [] => ""

end Paragraph

def Wrapping.fillParagraphs (w : Wrapping) (s : String) : String :=
  "\n\n".intercalate ((Paragraph.collect none (lines (expandTabs s))).map (·.render w))

end Launchpad.Text
