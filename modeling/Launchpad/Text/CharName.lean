import Launchpad.Text.Blank

/-!
The names of characters: of Latin and Greek letters, of punctuation and common signs, and of the
ideographs, whose names are their numbers.
-/

namespace Launchpad.Text

def nameParts : List (Char × String) := [
    ('a', " WITH "), ('b', " ARROW"), ('c', "RIGHT"), ('i', "LEFT"), ('j', " SIGN"),
    ('k', "DOUBLE"), ('r', "CAPITAL "), ('t', " BRACKET"), ('u', "LETTER "),
    ('v', " QUOTATION MARK"), ('w', "SMALL "), ('>', "CIRCUMFLEX"), ('?', "DIAERESIS"),
    ('|', " MARK")]

/-- The characters of a block that begins with a character, one behind the other. A digit in front
is the number of words that a name shares with the name before it. -/
def nameBlocks : List (Nat × String) := [
    (0x20, "
SPACE;EXCLAMATION|;QUOTATION|;NUMBERj;DOLLARj;PERCENTj;AMPERSAND;APOSTROPHE;i PARENTHESIS;
c PARENTHESIS;ASTERISK;PLUSj;COMMA;HYPHEN-MINUS;FULL STOP;SOLIDUS;DIGIT ZERO;1ONE;1TWO;1THREE;
1FOUR;1FIVE;1SIX;1SEVEN;1EIGHT;1NINE;COLON;SEMICOLON;LESS-THANj;EQUALSj;GREATER-THANj;QUESTION|;
COMMERCIAL AT;LATIN ruA;3B;3C;3D;3E;3F;3G;3H;3I;3J;3K;3L;3M;3N;3O;3P;3Q;3R;3S;3T;3U;3V;3W;3X;3Y;3Z;
i SQUAREt;REVERSE SOLIDUS;c SQUAREt;> ACCENT;LOW LINE;GRAVE ACCENT;LATIN wuA;3B;3C;3D;3E;3F;3G;3H;
3I;3J;3K;3L;3M;3N;3O;3P;3Q;3R;3S;3T;3U;3V;3W;3X;3Y;3Z;i CURLYt;VERTICAL LINE;c CURLYt;TILDE"),
    (0xa0, "
NO-BREAK SPACE;INVERTED EXCLAMATION|;CENTj;POUNDj;CURRENCYj;YENj;BROKEN BAR;SECTIONj;?;COPYcj;
FEMININE ORDINAL INDICATOR;i-POINTING k ANGLEv;NOTj;SOFT HYPHEN;REGISTEREDj;MACRON;DEGREEj;
PLUS-MINUSj;SUPERSCRIPT TWO;1THREE;ACUTE ACCENT;MICROj;PILCROWj;MIDDLE DOT;CEDILLA;SUPERSCRIPT ONE;
MASCULINE ORDINAL INDICATOR;c-POINTING k ANGLEv;VULGAR FRACTION ONE QUARTER;3HALF;2THREE QUARTERS;
INVERTED QUESTION|;LATIN ruAaGRAVE;5ACUTE;5>;5TILDE;5?;5RING ABOVE;3AE;3CaCEDILLA;3EaGRAVE;5ACUTE;
5>;5?;3IaGRAVE;5ACUTE;5>;5?;3ETH;3NaTILDE;3OaGRAVE;5ACUTE;5>;5TILDE;5?;MULTIPLICATIONj;
LATIN ruOaSTROKE;3UaGRAVE;5ACUTE;5>;5?;3YaACUTE;3THORN;1wuSHARP S;3AaGRAVE;5ACUTE;5>;5TILDE;5?;
5RING ABOVE;3AE;3CaCEDILLA;3EaGRAVE;5ACUTE;5>;5?;3IaGRAVE;5ACUTE;5>;5?;3ETH;3NaTILDE;3OaGRAVE;
5ACUTE;5>;5TILDE;5?;DIVISIONj;LATIN wuOaSTROKE;3UaGRAVE;5ACUTE;5>;5?;3YaACUTE;3THORN;3Ya?"),
    (0x391, "
GREEK ruALPHA;3BETA;3GAMMA;3DELTA;3EPSILON;3ZETA;3ETA;3THETA;3IOTA;3KAPPA;3LAMDA;3MU;3NU;3XI;
3OMICRON;3PI;3RHO"),
    (0x3a3, "
GREEK ruSIGMA;3TAU;3UPSILON;3PHI;3CHI;3PSI;3OMEGA"),
    (0x3b1, "
GREEK wuALPHA;3BETA;3GAMMA;3DELTA;3EPSILON;3ZETA;3ETA;3THETA;3IOTA;3KAPPA;3LAMDA;3MU;3NU;3XI;
3OMICRON;3PI;3RHO;3FINAL SIGMA;3SIGMA;3TAU;3UPSILON;3PHI;3CHI;3PSI;3OMEGA"),
    (0x2010, "
HYPHEN;NON-BREAKING HYPHEN;FIGURE DASH;EN DASH;EM DASH;HORIZONTAL BAR;k VERTICAL LINE;1LOW LINE;
i SINGLEv;c SINGLEv;SINGLE LOW-9v;1HIGH-REVERSED-9v;i kv;c kv;k LOW-9v;1HIGH-REVERSED-9v;DAGGER;
k DAGGER;BULLET;TRIANGULAR BULLET;ONE DOT LEADER;TWO DOT LEADER;HORIZONTAL ELLIPSIS;
HYPHENATION POINT"),
    (0x2190, "
iWARDSb;UPWARDSb;cWARDSb;DOWNWARDSb;i cb;UP DOWNb"),
    (0x0, "
NULL;START OF HEADING;START OF TEXT;END OF TEXT;END OF TRANSMISSION;ENQUIRY;ACKNOWLEDGE;ALERT;
BACKSPACE;CHARACTER TABULATION;LINE FEED;LINE TABULATION;FORM FEED;CARRIAGE RETURN;SHIFT OUT;
SHIFT IN;DATA LINK ESCAPE;DEVICE CONTROL ONE;;;;NAK;SYN;ETB;CANCEL;;SUBSTITUTE;ESCAPE;
FILE SEPARATOR;GROUP SEPARATOR;RECORD SEPARATOR;UNIT SEPARATOR;SP"),
    (0x7f, "DELETE;;;;;;NEXT LINE"), (0xa0, "NBSP"), (0xad, "SHY"),
    (0x200b, "ZWSP;ZWNJ;ZWJ;LRM;RLM"), (0x202f, "NNBSP;PER MILLEj"), (0x203d, "INTERROBANG"),
    (0x20ac, "EUROj"), (0x2116, "NUMEROj"), (0x2122, "TRADE|j;;;;OHMj"),
    (0x2200, "FOR ALL;;;THERE EXISTS;;EMPTY SET;;;ELEMENT OF"), (0x2211, "N-ARY SUMMATION"),
    (0x221a, "SQUARE ROOT;;;;INFINITY"), (0x2248, "ALMOST EQUAL TO"),
    (0x2260, "NOT EQUAL TO;;;;LESS-THAN OR EQUAL TO;GREATER-THAN OR EQUAL TO"),
    (0x25a0, "BLACK SQUARE"), (0x25b2, "BLACK UP-POINTING TRIANGLE"), (0x25cf, "BLACK CIRCLE"),
    (0x2600, "BLACK SUNaRAYS;;;SNOWMAN;;BLACK STAR"), (0x263a, "WHITE SMILING FACE"),
    (0x2665, "BLACK HEART SUIT"), (0x2713, "CHECK|;HEAVY CHECK|;;;BALLOT X"), (0xfeff, "BOM"),
    (0xfffd, "REPLACEMENT CHARACTER"), (0x1f600, "GRINNING FACE"),
    (0x0, "
NUL;SOH;STX;ETX;EOT;ENQ;ACK;BEL;BS;HORIZONTAL TABULATION;NEW LINE;VERTICAL TABULATION;FF;CR;
LOCKING-SHIFT ONE;SI;DLE;DC1"),
    (0x18, "CAN;;SUB;ESC;;;;INFORMATION SEPARATOR ONE"), (0x7f, "DEL;;;;;;NEL"),
    (0xfeff, "BYTE ORDER|"), (0x9, "HT;END OF LINE;VT;;;SO"), (0xfeff, "ZWNBSP"), (0x9, "TAB;LF"),
    (0xfeff, "ZERO WIDTH NO-BREAK SPACE"), (0xa, "NL"), (0xa, "EOL")]

def nameWords (before : List String) (entry : Chars) : List String :=
  let shared := (entry.takeWhile Char.isDigit).foldl (fun n c => 10 * n + (c.toNat - 48)) 0
  let own := (entry.dropWhile Char.isDigit).flatMap fun c =>
    ((nameParts.lookup c).map String.toList).getD [c]
  before.take shared ++ ((splitChars ' ' own).filter (!·.isEmpty)).map String.ofList

def blockNames (text : String) : List String :=
  go [] (splitChars ';' (text.toList.filter (· != '\n')))
where
  go (before : List String) : List Chars → List String
    | [] => []
    | entry :: rest =>
      let words := nameWords before entry
      " ".intercalate words :: go words rest

def placeOf? (name : String) : Nat → List String → Option Nat
  | _, [] => none
  | i, n :: ns => if n == name then some i else placeOf? name (i + 1) ns

def ideographs : List (Nat × Nat) :=
  [(0x3400, 0x4dbf), (0x4e00, 0x9fff), (0x20000, 0x2a6df), (0x2a700, 0x2b738), (0x2b740, 0x2b81d),
    (0x2b820, 0x2cea1), (0x2ceb0, 0x2ebe0), (0x30000, 0x3134a)]

def ideograph? (name : String) : Option Nat := do
  let front := "CJK UNIFIED IDEOGRAPH-"
  if !startsWith name front then none
  let ds := name.toList.drop front.length
  if ds.length < 4 || ds.length > 5 then none
  let digit (c : Char) : Option Nat :=
    if c.isDigit then some (c.toNat - 48)
    else if 'A' ≤ c && c ≤ 'F' then some (c.toNat - 55) else none
  let n ← ds.foldlM (fun n c => (digit c).map (16 * n + ·)) 0
  if ideographs.any fun (a, b) => a ≤ n && n ≤ b then some n else none

def charNamed? (name : String) : Option Char :=
  let name := String.ofList (name.toList.map Char.toUpper)
  let found := nameBlocks.findSome? fun (first, text) =>
    (placeOf? name 0 (blockNames text)).map (first + ·)
  (if name == "" then none else found.or (ideograph? name)).map Char.ofNat

end Launchpad.Text
