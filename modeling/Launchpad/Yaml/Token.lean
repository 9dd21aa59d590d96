import Launchpad.Pattern.Reader
import Launchpad.Yaml.Failure

/-!
The tokens of a parameter file. Block structure is given by columns: a deeper column opens a
block and a shallower one closes it. That a text is the key of an entry shows only at the colon
behind it, so the place of such a text is remembered until then.
-/

namespace Launchpad.Yaml

inductive Token where
  | streamEnd
  | directive (name : String) (args : List String)
  | documentStart
  | documentEnd
  | sequenceStart
  | mappingStart
  | blockEnd
  | flowSequenceStart
  | flowSequenceEnd
  | flowMappingStart
  | flowMappingEnd
  | entry
  | flowEntry
  | key
  | value
  | «alias» (name : String)
  | anchor (name : String)
  | tag (handle : Option String) (suffix : String)
  | scalar (text : String) (plain : Bool)
deriving DecidableEq, Repr

def Token.label : Token → String
  | .streamEnd => "<stream end>"
  | .directive .. => "<directive>"
  | .documentStart => "<document start>"
  | .documentEnd => "<document end>"
  | .sequenceStart => "<block sequence start>"
  | .mappingStart => "<block mapping start>"
  | .blockEnd => "<block end>"
  | .flowSequenceStart => "["
  | .flowSequenceEnd => "]"
  | .flowMappingStart => "\x7b"
  | .flowMappingEnd => "\x7d"
  | .entry => "-"
  | .flowEntry => ","
  | .key => "?"
  | .value => ":"
  | .«alias» _ => "<alias>"
  | .anchor _ => "<anchor>"
  | .tag .. => "<tag>"
  | .scalar .. => "<scalar>"

structure Located where
  token : Token
  start : Mark
  stop : Mark

structure KeyPlace where
  number : Nat
  required : Bool
  index : Nat
  mark : Mark

/-- How far a text has been read: what is left, where it stands, the open blocks, and the tokens
that were found and not yet taken. -/
structure Scanner where
  rest : Chars
  index : Nat := 0
  line : Nat := 0
  column : Nat := 0
  done : Bool := false
  flowLevel : Int := 0
  queue : List Located := []
  taken : Nat := 0
  indent : Int := -1
  indents : List Int := []
  allowKey : Bool := true
  keys : List (Int × KeyPlace) := []

abbrev Scan := StateT Scanner (Except Failure)

def Scanner.mark (s : Scanner) : Mark := ⟨s.line, s.column⟩

namespace Scan

def mark : Scan Mark := do
  return (← get).mark

def fail {α : Type} (problem : String) (context : Option Context := none) : Scan α := do
  let here ← mark
  throw { cause := .yamlScan, context, problem, mark := some here }

def failIn {α : Type} (text : String) (start : Mark) (problem : String) : Scan α :=
  fail problem (some ⟨text, some start⟩)

def peek (k : Nat := 0) : Scan Char := do
  return ((← get).rest[k]?).getD (Char.ofNat 0)

def isBreak (c : Char) : Bool :=
  c == '\n' || c == '\r' || c == Char.ofNat 0x85 || c == Char.ofNat 0x2028 ||
    c == Char.ofNat 0x2029

def isLineEnd (c : Char) : Bool := c == Char.ofNat 0 || isBreak c

def isSpaceOrEnd (c : Char) : Bool := c == ' ' || isLineEnd c

def isGap (c : Char) : Bool := c == '\t' || isSpaceOrEnd c

def Scanner.step (s : Scanner) : Scanner :=
  match s.rest with
  | [] => s
  | c :: cs =>
    let breaks := isBreak c && !(c == '\r' && cs.head? == some '\n')
    if breaks then
      { s with rest := cs, index := s.index + 1, line := s.line + 1, column := 0 }
    else if c == Char.ofNat 0xFEFF then { s with rest := cs, index := s.index + 1 }
    else { s with rest := cs, index := s.index + 1, column := s.column + 1 }

def Scanner.forward (s : Scanner) : Nat → Scanner
  | 0 => s
  | n + 1 => Scanner.forward (Scanner.step s) n

def forward (n : Nat := 1) : Scan Unit :=
  modify fun s => Scanner.forward s n

def takeWhile (p : Char → Bool) : Scan Chars := do
  let cs := (← get).rest.takeWhile p
  forward cs.length
  return cs

def ahead (n : Nat) : Scan Chars := do
  return (← get).rest.take n

def addFrom (start : Mark) (t : Token) : Scan Unit :=
  modify fun s => { s with queue := s.queue ++ [⟨t, start, s.mark⟩] }

def add (t : Token) : Scan Unit := do
  addFrom (← mark) t

def lineBreak : Scan Chars := do
  let c ← peek
  if c == '\r' && (← peek 1) == '\n' then
    forward 2
    return ['\n']
  else if c == '\r' || c == '\n' || c == Char.ofNat 0x85 then
    forward
    return ['\n']
  else if c == Char.ofNat 0x2028 || c == Char.ofNat 0x2029 then
    forward
    return [c]
  else return []

def skipGaps : Nat → Scan Unit
  | 0 => pure ()
  | fuel + 1 => do
    let _ ← takeWhile (· == ' ')
    if (← peek) == '#' then
      let _ ← takeWhile fun c => !isLineEnd c
    let b ← lineBreak
    if b.isEmpty then pure ()
    else
      if (← get).flowLevel == 0 then modify fun s => { s with allowKey := true }
      skipGaps fuel

def skipMark : Scan Unit := do
  if (← get).index == 0 && (← peek) == Char.ofNat 0xFEFF then forward

def failKey {α : Type} (k : KeyPlace) : Scan α :=
  failIn "while scanning a simple key" k.mark "could not find expected ':'"

def dropStaleKeys : Scan Unit := do
  let s ← get
  let stale (k : KeyPlace) : Bool := k.mark.line != s.line || s.index - k.index > 1024
  match s.keys.find? fun e => stale e.2 && e.2.required with
  | some e => failKey e.2
  | none => set { s with keys := s.keys.filter fun e => !stale e.2 }

def removeKey : Scan Unit := do
  let s ← get
  match s.keys.lookup s.flowLevel with
  | none => pure ()
  | some k =>
    if k.required then failKey k
    else set { s with keys := s.keys.filter fun e => e.1 != s.flowLevel }

def saveKey : Scan Unit := do
  let s ← get
  let required := s.flowLevel == 0 && s.indent == s.column
  if s.allowKey then
    removeKey
    modify fun s => { s with keys := s.keys ++ [(s.flowLevel,
      ⟨s.taken + s.queue.length, required, s.index, s.mark⟩)] }

def closeBlocks (column : Int) : Scan Unit := do
  let s ← get
  if s.flowLevel != 0 then pure ()
  else
    let n := ((s.indent :: s.indents).takeWhile fun i => decide (i > column)).length
    let close : Located := ⟨.blockEnd, s.mark, s.mark⟩
    let left := (s.indent :: s.indents).drop n
    set { s with
      indent := left.headD (-1), indents := left.drop 1,
      queue := s.queue ++ List.replicate n close }

def openBlock (column : Int) : Scan Bool := do
  let s ← get
  if s.indent < column then
    set { s with indents := s.indent :: s.indents, indent := column }
    return true
  else return false

def allow (b : Bool) : Scan Unit :=
  modify fun s => { s with allowKey := b }

def insertAt (place : KeyPlace) (t : Token) : Scan Unit :=
  modify fun s =>
    let k := place.number - s.taken
    { s with queue := s.queue.take k ++ ⟨t, place.mark, place.mark⟩ :: s.queue.drop k }

def isNameChar (c : Char) : Bool :=
  c.isDigit || ('a' ≤ c && c ≤ 'z') || ('A' ≤ c && c ≤ 'Z') || c == '-' || c == '_'

def expected (what : String) (found : Char) : String :=
  let text := shown found
  s!"expected {what}, but found {text}"

def failExpected {α : Type} (text : String) (start : Mark) (what : String) : Scan α := do
  failIn text start (expected what (← peek))

def ignoredLine (text : String) (start : Mark) : Scan Unit := do
  let _ ← takeWhile (· == ' ')
  if (← peek) == '#' then
    let _ ← takeWhile fun c => !isLineEnd c
  if isLineEnd (← peek) then
    let _ ← lineBreak
  else failExpected text start "a comment or a line break"

def isUriChar (c : Char) : Bool :=
  c.isAlphanum || "-;/?:@&=+$,_.!~*'()[]".toList.contains c

def uriBytes (what : String) (start : Mark) : Nat → Scan (List UInt8)
  | 0 => return []
  | fuel + 1 => do
    if (← peek) == '%' then
      forward
      let a ← peek
      let b ← peek 1
      match Pattern.hexValue? a, Pattern.hexValue? b with
      | some x, some y =>
        forward 2
        return (UInt8.ofNat (16 * x + y)) :: (← uriBytes what start fuel)
      | hexed, _ =>
        let wrong := if hexed.isNone then a else b
        failIn ("while scanning a " ++ what) start
          (expected "URI escape sequence of 2 hexadecimal numbers" wrong)
    else return []

def uriParts (what : String) (start : Mark) : Nat → Scan Chars
  | 0 => return []
  | fuel + 1 => do
    let cs ← takeWhile isUriChar
    if (← peek) == '%' then
      let here ← mark
      let bytes ← uriBytes what start (← get).rest.length
      match String.fromUTF8? ⟨bytes.toArray⟩ with
      | some t => return cs ++ t.toList ++ (← uriParts what start fuel)
      | none =>
        throw { cause := .yamlScan, context := some ⟨"while scanning a " ++ what, some start⟩,
                problem := "invalid bytes", mark := some here }
    else return cs

def uri (what : String) (start : Mark) : Scan String := do
  let cs ← uriParts what start ((← get).rest.length + 1)
  if cs.isEmpty then failExpected ("while parsing a " ++ what) start "URI"
  else return String.ofList cs

def tagHandle (what : String) (start : Mark) : Scan String := do
  if (← peek) != '!' then failExpected ("while scanning a " ++ what) start "'!'"
  forward
  if (← peek) == ' ' then return "!"
  let name ← takeWhile isNameChar
  if (← peek) == '!' then
    forward
    return String.ofList ('!' :: name ++ ['!'])
  else failExpected ("while scanning a " ++ what) start "'!'"

def inDirective : String := "while scanning a directive"

def directiveNumber (start : Mark) : Scan String := do
  let ds ← takeWhile Char.isDigit
  if ds.isEmpty then failExpected inDirective start "a digit" else return String.ofList ds

def directive : Scan Token := do
  let start ← mark
  forward
  let name ← takeWhile isNameChar
  if name.isEmpty || !isSpaceOrEnd (← peek) then
    failExpected inDirective start "alphabetic or numeric character"
  let name := String.ofList name
  let args ← match name with
    | "YAML" => do
      let _ ← takeWhile (· == ' ')
      let major ← directiveNumber start
      if (← peek) != '.' then failExpected inDirective start "a digit or '.'"
      forward
      let minor ← directiveNumber start
      if !isSpaceOrEnd (← peek) then failExpected inDirective start "a digit or ' '"
      pure [major, minor]
    | "TAG" => do
      let _ ← takeWhile (· == ' ')
      let handle ← tagHandle "directive" start
      if (← peek) != ' ' then failExpected inDirective start "' '"
      let _ ← takeWhile (· == ' ')
      let root ← uri "directive" start
      if !isSpaceOrEnd (← peek) then failExpected inDirective start "' '"
      pure [handle, root]
    | _ => do
      let _ ← takeWhile fun c => !isLineEnd c
      pure []
  ignoredLine inDirective start
  return .directive name args

def anchorName (what : String) : Scan String := do
  let start ← mark
  forward
  let name ← takeWhile isNameChar
  let c ← peek
  if !name.isEmpty && (isGap c || "?:,]\x7d%@`".toList.contains c) then return String.ofList name
  else failExpected ("while scanning an " ++ what) start "alphabetic or numeric character"

def tag : Scan Token := do
  let start ← mark
  let c ← peek 1
  let t ← if c == '<' then do
      forward 2
      let suffix ← uri "tag" start
      if (← peek) != '>' then failExpected "while parsing a tag" start "'>'"
      forward
      pure (Token.tag none suffix)
    else if isGap c then do
      forward
      pure (Token.tag none "!")
    else do
      let upTo := ((← get).rest.drop 1).takeWhile fun c => !isSpaceOrEnd c
      let handle ← if upTo.contains '!' then tagHandle "tag" start else do
        forward
        pure "!"
      let suffix ← uri "tag" start
      pure (Token.tag (some handle) suffix)
  if isSpaceOrEnd (← peek) then return t else failExpected "while scanning a tag" start "' '"

/-- How the line ends behind a block text are kept, and how deep it stands. -/
structure BlockMarks where
  keep : Option Bool := none
  deeper : Option Nat := none

def chomping? (c : Char) : Option Bool :=
  if c == '+' then some true else if c == '-' then some false else none

def inBlockText : String := "while scanning a block scalar"

def blockMarks (start : Mark) : Scan BlockMarks := do
  let number : Scan (Option Nat) := do
    let c ← peek
    if c.isDigit then
      if c == '0' then
        failIn inBlockText start
          "expected indentation indicator in the range 1-9, but found 0"
      forward
      return some (c.toNat - '0'.toNat)
    else return none
  let chomp : Scan (Option Bool) := do
    match chomping? (← peek) with
    | some b =>
      forward
      return some b
    | none => return none
  let k ← chomp
  let n ← number
  let k ← match k with
    | some b => pure (some b)
    | none => if n.isSome then chomp else pure none
  if isSpaceOrEnd (← peek) then return ⟨k, n⟩
  else failExpected inBlockText start "chomping or indentation indicators"

def blockLead : Nat → Nat → Scan (List Chars × Nat)
  | 0, deepest => return ([], deepest)
  | fuel + 1, deepest => do
    let c ← peek
    if c == ' ' then
      forward
      blockLead fuel (max deepest (← get).column)
    else if isBreak c then
      let b ← lineBreak
      let (bs, d) ← blockLead fuel deepest
      return (b :: bs, d)
    else return ([], deepest)

def skipTo (column : Nat) : Scan Unit := do
  let s ← get
  let n := ((s.rest.takeWhile (· == ' ')).take (column - s.column)).length
  forward n

def blockBreaks (column : Nat) : Nat → Scan (List Chars)
  | 0 => return []
  | fuel + 1 => do
    skipTo column
    if isBreak (← peek) then
      let b ← lineBreak
      return b :: (← blockBreaks column fuel)
    else return []

def blockLines (folded : Bool) (column : Nat) :
    Nat → List Chars → Chars → Scan (Chars × Chars × List Chars)
  | 0, breaks, last => return ([], last, breaks)
  | fuel + 1, breaks, last => do
    let s ← get
    if s.column == column && (← peek) != Char.ofNat 0 then
      let c ← peek
      let flush := !(c == ' ' || c == '\t')
      let text ← takeWhile fun c => !isLineEnd c
      let b ← lineBreak
      let fewer ← blockBreaks column (← get).rest.length
      let more := (← get).column == column && (← peek) != Char.ofNat 0
      let here := breaks.flatten ++ text
      if more then
        let d ← peek
        let joint := if folded && b == ['\n'] && flush && !(d == ' ' || d == '\t') then
            (if fewer.isEmpty then [' '] else [])
          else b
        let (r, last, rest) ← blockLines folded column fuel fewer b
        return (here ++ joint ++ r, last, rest)
      else return (here, b, fewer)
    else return ([], last, breaks)

def blockText (folded : Bool) : Scan Token := do
  let start ← mark
  forward
  let marks ← blockMarks start
  ignoredLine inBlockText start
  let s ← get
  let least : Nat := (max (s.indent + 1) 1).toNat
  let (breaks, column) ← match marks.deeper with
    | none => do
      let (bs, deepest) ← blockLead s.rest.length 0
      pure (bs, max least deepest)
    | some n => do
      let column := least + n - 1
      let bs ← blockBreaks column s.rest.length
      pure (bs, column)
  let fuel := (← get).rest.length + 1
  let (text, last, rest) ← blockLines folded column fuel breaks []
  let text := if marks.keep == some false then text else text ++ last
  let text := if marks.keep == some true then text ++ rest.flatten else text
  return .scalar (String.ofList text) false

def escapes : List (Char × Nat) :=
  [('0', 0), ('a', 7), ('b', 8), ('t', 9), ('\t', 9), ('n', 10), ('v', 11), ('f', 12), ('r', 13),
    ('e', 27), (' ', 32), ('"', 34), ('\\', 92), ('/', 47), ('N', 0x85), ('_', 0xA0),
    ('L', 0x2028), ('P', 0x2029)]

def escapeLength? (c : Char) : Option Nat :=
  if c == 'x' then some 2 else if c == 'u' then some 4 else if c == 'U' then some 8 else none

def atDocumentMark : Scan Bool := do
  let p ← ahead 3
  if p == ['-', '-', '-'] || p == ['.', '.', '.'] then return isGap (← peek 3) else return false

def inQuoted : String := "while scanning a quoted scalar"

def inDoubleQuoted : String := "while scanning a double-quoted scalar"

def quotedBreaks (start : Mark) : Nat → Scan (List Char)
  | 0 => return []
  | fuel + 1 => do
    if ← atDocumentMark then failIn inQuoted start "found unexpected document separator"
    let _ ← takeWhile fun c => c == ' ' || c == '\t'
    if isBreak (← peek) then
      let b ← lineBreak
      return b ++ (← quotedBreaks start fuel)
    else return []

def quotedPart (start : Mark) (double : Bool) : Nat → Scan (List Char)
  | 0 => return []
  | fuel + 1 => do
    let cs ← takeWhile fun c => !(c == '\'' || c == '"' || c == '\\' || isGap c)
    let c ← peek
    if !double && c == '\'' && (← peek 1) == '\'' then
      forward 2
      return cs ++ '\'' :: (← quotedPart start double fuel)
    else if (double && c == '\'') || (!double && (c == '"' || c == '\\')) then
      forward
      return cs ++ c :: (← quotedPart start double fuel)
    else if double && c == '\\' then
      forward
      let d ← peek
      match escapes.lookup d, escapeLength? d with
      | some n, _ =>
        forward
        return cs ++ Char.ofNat n :: (← quotedPart start double fuel)
      | none, some k =>
        forward
        let ds ← ahead k
        let digits := ds.takeWhile fun c => (Pattern.hexValue? c).isSome
        if digits.length == k then
          let n := Pattern.numberIn 16 ds
          if n > 0x10FFFF then
            throw (.plain .invalidValue "chr() arg not in range(0x110000)")
          forward k
          return cs ++ Char.ofNat n :: (← quotedPart start double fuel)
        else
          let wrong := (ds[digits.length]?).getD (Char.ofNat 0)
          failIn inDoubleQuoted start
            (expected s!"escape sequence of {k} hexadecimal numbers" wrong)
      | none, none =>
        if isBreak d then
          let _ ← lineBreak
          let bs ← quotedBreaks start ((← get).rest.length + 1)
          return cs ++ bs ++ (← quotedPart start double fuel)
        else failIn inDoubleQuoted start ("found unknown escape character " ++ shown d)
    else return cs

def quotedGap (start : Mark) : Scan (List Char) := do
  let blanks ← takeWhile fun c => c == ' ' || c == '\t'
  let c ← peek
  if c == Char.ofNat 0 then failIn inQuoted start "found unexpected end of stream"
  else if isBreak c then
    let b ← lineBreak
    let bs ← quotedBreaks start ((← get).rest.length + 1)
    if b != ['\n'] then return b ++ bs
    else if bs.isEmpty then return [' ']
    else return bs
  else return blanks

def quotedRest (start : Mark) (quote : Char) : Nat → Scan (List Char)
  | 0 => failIn inQuoted start "found unexpected end of stream"
  | fuel + 1 => do
    if (← peek) == quote then
      forward
      return []
    else
      let gap ← quotedGap start
      let part ← quotedPart start (quote == '"') ((← get).rest.length + 1)
      return gap ++ part ++ (← quotedRest start quote fuel)

def quoted : Scan Token := do
  let start ← mark
  let quote ← peek
  forward
  let fuel := (← get).rest.length + 1
  let part ← quotedPart start (quote == '"') fuel
  let rest ← quotedRest start quote fuel
  return .scalar (String.ofList (part ++ rest)) false

def plainBreaks : Nat → Scan (Option (List Char))
  | 0 => return some []
  | fuel + 1 => do
    let c ← peek
    if c == ' ' then
      forward
      plainBreaks fuel
    else if isBreak c then
      let b ← lineBreak
      if ← atDocumentMark then return none
      else
        match ← plainBreaks fuel with
        | some bs => return some (b ++ bs)
        | none => return none
    else return some []

def plainGap : Scan (List Char) := do
  let blanks ← takeWhile (· == ' ')
  if isBreak (← peek) then
    let b ← lineBreak
    allow true
    if ← atDocumentMark then return []
    else
      match ← plainBreaks ((← get).rest.length + 1) with
      | none => return []
      | some bs =>
        if b != ['\n'] then return b ++ bs
        else if bs.isEmpty then return [' ']
        else return bs
  else return blanks

def isFlowSign (c : Char) : Bool :=
  c == ',' || c == '[' || c == ']' || c == '\x7b' || c == '\x7d'

def plainChars (flow : Bool) : List Char → List Char
  | [] => []
  | c :: cs =>
    let next := cs.headD (Char.ofNat 0)
    if isGap c || (c == ':' && (isGap next || (flow && isFlowSign next))) ||
        (flow && (c == '?' || isFlowSign c)) then []
    else c :: plainChars flow cs

def plainParts (column : Int) : Nat → List Char → Scan (List Char)
  | 0, _ => return []
  | fuel + 1, gap => do
    if (← peek) == '#' then return []
    let flow := (← get).flowLevel != 0
    let cs := plainChars flow (← get).rest
    if cs.isEmpty then return []
    allow false
    forward cs.length
    let next ← plainGap
    let c ← peek
    if next.isEmpty || c == '#' || (!flow && ((← get).column : Int) < column) then
      return gap ++ cs
    else return gap ++ cs ++ (← plainParts column fuel next)

def plain : Scan Token := do
  let s ← get
  let cs ← plainParts (s.indent + 1) (s.rest.length + 1) []
  return .scalar (String.ofList cs) true

def beginsPlain (flow : Bool) (c next : Char) : Bool :=
  !(isGap c || "-?:,[]#&*!|>'\"%@`".toList.contains c || c == '\x7b' || c == '\x7d') ||
    (!isGap next && (c == '-' || (!flow && (c == '?' || c == ':'))))

def addSign (t : Token) (length : Nat := 1) : Scan Unit := do
  let start ← mark
  forward length
  addFrom start t

def addRead (read : Scan Token) : Scan Unit := do
  let start ← mark
  addFrom start (← read)

/-- Reads a token that may begin a key. -/
def addKeyed (read : Scan Token) : Scan Unit := do
  saveKey
  allow false
  addRead read

def flowStart (t : Token) : Scan Unit := do
  saveKey
  modify fun s => { s with flowLevel := s.flowLevel + 1 }
  allow true
  addSign t

def flowEnd (t : Token) : Scan Unit := do
  removeKey
  modify fun s => { s with flowLevel := s.flowLevel - 1 }
  allow false
  addSign t

def blockSign (opening sign : Token) (what : String) : Scan Unit := do
  let s ← get
  if s.flowLevel == 0 then
    if !s.allowKey then fail (what ++ " are not allowed here")
    if ← openBlock s.column then add opening
  allow (sign == .entry || s.flowLevel == 0)
  removeKey
  addSign sign

def valueSign : Scan Unit := do
  let s ← get
  match s.keys.lookup s.flowLevel with
  | some k =>
    set { s with keys := s.keys.filter fun e => e.1 != s.flowLevel }
    insertAt k .key
    if s.flowLevel == 0 then
      if ← openBlock k.mark.column then insertAt k .mappingStart
    allow false
  | none =>
    if s.flowLevel == 0 then
      if !s.allowKey then fail "mapping values are not allowed here"
      if ← openBlock s.column then add .mappingStart
    allow (s.flowLevel == 0)
    removeKey
  addSign .value

def documentSign (t : Token) : Scan Unit := do
  closeBlocks (-1)
  removeKey
  allow false
  addSign t 3

def fetch : Scan Unit := do
  skipMark
  skipGaps ((← get).rest.length + 1)
  dropStaleKeys
  closeBlocks (← get).column
  let s ← get
  let c ← peek
  let next ← peek 1
  let flow := s.flowLevel != 0
  let p ← ahead 3
  let marked := s.column == 0 && isGap (← peek 3)
  if c == Char.ofNat 0 then
    closeBlocks (-1)
    removeKey
    modify fun s => { s with
      allowKey := false, keys := [], queue := s.queue ++ [⟨.streamEnd, s.mark, s.mark⟩],
      done := true }
  else if c == '%' && s.column == 0 then
    closeBlocks (-1)
    removeKey
    allow false
    addRead directive
  else if p == ['-', '-', '-'] && marked then documentSign .documentStart
  else if p == ['.', '.', '.'] && marked then documentSign .documentEnd
  else if c == '[' then flowStart .flowSequenceStart
  else if c == '\x7b' then flowStart .flowMappingStart
  else if c == ']' then flowEnd .flowSequenceEnd
  else if c == '\x7d' then flowEnd .flowMappingEnd
  else if c == ',' then
    allow true
    removeKey
    addSign .flowEntry
  else if c == '-' && isGap next then blockSign .sequenceStart .entry "sequence entries"
  else if c == '?' && (flow || isGap next) then blockSign .mappingStart .key "mapping keys"
  else if c == ':' && (flow || isGap next) then valueSign
  else if c == '*' then addKeyed (.«alias» <$> anchorName "alias")
  else if c == '&' then addKeyed (.anchor <$> anchorName "anchor")
  else if c == '!' then addKeyed tag
  else if (c == '|' || c == '>') && !flow then
    allow true
    removeKey
    addRead (blockText (c == '>'))
  else if c == '\'' || c == '"' then addKeyed quoted
  else if beginsPlain flow c next then addKeyed plain
  else
    fail s!"found character {shown c} that cannot start any token"
      (some ⟨"while scanning for the next token", none⟩)

def needsMore : Scan Bool := do
  let s ← get
  if s.done then return false
  else if s.queue.isEmpty then return true
  else
    dropStaleKeys
    let s ← get
    return match s.keys.map (·.2.number) with
      | [] => false
      | n :: ns => ns.foldl min n == s.taken

def fill : Nat → Scan Unit
  | 0 => pure ()
  | fuel + 1 => do
    if ← needsMore then
      fetch
      fill fuel
    else pure ()

def look : Scan Located := do
  fill ((← get).rest.length + 2)
  let s ← get
  return s.queue.headD ⟨.streamEnd, s.mark, s.mark⟩

def next : Scan Located := do
  let t ← look
  modify fun s => { s with queue := s.queue.drop 1, taken := s.taken + 1 }
  return t

end Scan

end Launchpad.Yaml
