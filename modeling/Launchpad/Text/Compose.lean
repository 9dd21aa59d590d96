import Launchpad.Text.Identifier

/-!
The one spelling of an identifier: characters that are mere forms of others (ligatures, wide and
mathematical letters) are replaced by these, marks are put in order, and a letter is joined with
the marks behind it where a character for both exists. The tables list the letters of the Latin,
Greek and Cyrillic scripts.
-/

namespace Launchpad.Text

/-- A row of a table: a run of characters, and the numbers that belong to it. -/
structure Row where
  run : Nat × Nat
  values : List Nat

/-- Reads the rows of a table: a run of characters, which is told from the end of the one before,
stands in front of the equals sign, and the numbers behind it. -/
def readTable (s : String) : Array Row :=
  ((tableWords s).foldl (fun (table, next) w =>
    let run := rangeBehind next (w.takeWhile (· != '='))
    let values := (splitChars '+' ((w.dropWhile (· != '=')).drop 1)).map hexNumber
    (table.push ⟨run, values⟩, run.2 + 1)) (#[], 0)).1

/-- Runs of characters that are forms of other single characters, with what the first one stands
for. -/
def singleForms : Array Row := readTable "
aa=61 a=3bc 4=6f c4=73 130=68 =266 =6a =72 =279 =27b =281 =77 =79 27=263 =6c =73 =78 =295 5b-1=300
1=313 30=2b9 12=b7 48=3b2 =3b8 =3a5 2=3c6 =3c0 19=3ba -1=3c1 1=398 =3b5 3=3a3 1d08=43 4=190 2=67
=48 =48 =48 =68 =127 =49 =49 =4c =6c 1=4e 3-2=50 =52 =52 6=5a 1=3a9 1=5a 1=4b 1-1=42 1=65 -1=45
1=4d =6f -3=5d0 =69 2=3c0 =3b3 =393 =3a0 5=44 -1=64 -1=69 16=49 3=56 4=58 2=4c -1=43 =4d =69 3=76
4=78 2=6c -1=63 =6d dd90-9=30 7-19=41 4=5f 1-19=61 d4a5-19=41 -19=61 -19=41 -6=61 1-11=69 -19=41
-19=61 =41 1-1=43 2=47 2-1=4a 2-3=4e 1-7=53 -3=61 1=66 1-6=68 1-a=70 -19=41 -19=61 -1=41 1-3=44
2-7=4a 1-6=53 1-19=61 -1=41 1-3=44 1-4=49 1=4f 3-6=53 1-19=61 -19=41 -19=61 -19=41 -19=61 -19=41
-19=61 -19=41 -19=61 -19=41 -19=61 -19=41 -19=61 =131 =237 2-10=391 =398 -6=3a3 1-18=3b1 1=3b5 =3b8
=3ba =3c6 =3c1 =3c0 -10=391 =398 -6=3a3 1-18=3b1 1=3b5 =3b8 =3ba =3c6 =3c1 =3c0 -10=391 =398 -6=3a3
1-18=3b1 1=3b5 =3b8 =3ba =3c6 =3c1 =3c0 -10=391 =398 -6=3a3 1-18=3b1 1=3b5 =3b8 =3ba =3c6 =3c1 =3c0
-10=391 =398 -6=3a3 1-18=3b1 1=3b5 =3b8 =3ba =3c6 =3c1 =3c0 -1=3dc 2-9=30 -9=30 -9=30 -9=30 -9=30"

def tableChars (s : String) : Chars :=
  s.toList.filter (· != '\n')

def longForms : Array Row := readTable "
132=49+4a =69+6a b=4c+b7 =6c+b7 8=2bc+6e 7a=44+5a+30c =44+7a+30c =64+7a+30c =4c+4a =4c+6a =6c+6a
=4e+4a =4e+6a =6e+6a 24=44+5a =44+7a =64+7a 150=308+301 1de6=41+30a 35=49+49 =49+49+49 =49+56
1=56+49 =56+49+49 =56+49+49+49 =49+58 1=58+49 =58+49+49 5=69+69 =69+69+69 =69+76 1=76+69 =76+69+69
=76+69+69+69 =69+78 1=78+69 =78+69+69 d984=66+66 =66+69 =66+6c =66+66+69 =66+66+6c -1=73+74"

def joinedLetters : List (Nat × String) := [
    (0x300, "AÀEÈIÌNǸOÒUÙaàeèiìnǹoòuùÜǛüǜЕЀИЍеѐиѝ"),
    (0x301, "
AÁCĆEÉGǴIÍLĹNŃOÓRŔSŚUÚYÝZŹaácćeégǵiílĺnńoórŕsśuúyýzź¨΅ÅǺÆǼØǾÜǗåǻæǽøǿüǘΑΆΕΈΗΉΙΊΟΌΥΎΩΏαάεέηήιίοόυύωώ
ϊΐϋΰϒϓГЃКЌгѓкќ"),
    (0x302, "AÂCĈEÊGĜHĤIÎJĴOÔSŜUÛWŴYŶaâcĉeêgĝhĥiîjĵoôsŝuûwŵyŷ"), (0x303, "AÃIĨNÑOÕUŨaãiĩnñoõuũ"),
    (0x304, "AĀEĒIĪOŌUŪYȲaāeēiīoōuūyȳÄǞÆǢÕȬÖȪÜǕäǟæǣõȭöȫüǖǪǬǫǭȦǠȧǡȮȰȯȱИӢУӮиӣуӯ"),
    (0x306, "AĂEĔGĞIĬOŎUŬaăeĕgğiĭoŏuŭАӐЕӖЖӁИЙУЎаӑеӗжӂийуў"), (0x307, "AȦCĊEĖGĠIİOȮZŻaȧcċeėgġoȯzż"),
    (0x308, "
AÄEËIÏOÖUÜYŸaäeëiïoöuüyÿΙΪΥΫιϊυϋϒϔІЇАӒЕЁЖӜЗӞИӤОӦУӰЧӴЫӸЭӬаӓеёжӝзӟиӥоӧуӱчӵыӹэӭіїӘӚәӛӨӪөӫ"),
    (0x30a, "AÅUŮaåuů"), (0x30b, "OŐUŰoőuűУӲуӳ"),
    (0x30c, "AǍCČDĎEĚGǦHȞIǏKǨLĽNŇOǑRŘSŠTŤUǓZŽaǎcčdďeěgǧhȟiǐjǰkǩlľnňoǒrřsštťuǔzžÜǙüǚƷǮʒǯ"),
    (0x30f, "AȀEȄIȈOȌRȐUȔaȁeȅiȉoȍrȑuȕѴѶѵѷ"), (0x311, "AȂEȆIȊOȎRȒUȖaȃeȇiȋoȏrȓuȗ"),
    (0x31b, "OƠUƯoơuư"), (0x326, "SȘTȚsștț"), (0x327, "CÇEȨGĢKĶLĻNŅRŖSŞTŢcçeȩgģkķlļnņrŗsştţ"),
    (0x328, "AĄEĘIĮOǪUŲaąeęiįoǫuų")]

structure Composite where
  letter : Nat
  mark : Nat
  joined : Nat

def composites : List Composite :=
  joinedLetters.flatMap fun (mark, text) => go mark (tableChars text)
where
  go (mark : Nat) : Chars → List Composite
    | letter :: joined :: rest => ⟨letter.toNat, mark, joined.toNat⟩ :: go mark rest
    | _ => []

def markClasses : Array Row := readTable "
300-14=e6 =e8 -3=dc =e8 =d8 -4=dc -1=ca -3=dc -1=ca -a=dc -4=1 -3=dc -7=e6 =f0 =e6 -2=dc -2=e6
-1=dc 1-2=e6 -3=dc =e6 =e8 -1=dc =e6 =e9 -1=ea =e9 -1=ea =e9 -c=e6"

def markClass (n : Nat) : Nat :=
  ((rowAt? Row.run markClasses n).map fun r => r.values.headD 0).getD 0

def takeApart : Nat → Nat → List Nat
  | 0, n => [n]
  | fuel + 1, n =>
    if n < 128 then [n]
    else match rowAt? Row.run singleForms n with
      | some r => [r.values.headD 0 + (n - r.run.1)]
      | none => match rowAt? Row.run longForms n with
        | some r => r.values
        | none => match composites.find? (·.joined == n) with
          | some c => [c.letter, c.mark].flatMap (takeApart fuel)
          | none => [n]

def insertMark (k n : Nat) : List Nat → List Nat
  | [] => [n]
  | m :: ms =>
    let c := markClass m
    if c == 0 || c ≤ k then n :: m :: ms else m :: insertMark k n ms

def orderMarks : List Nat → List Nat → List Nat
  | acc, [] => acc
  | acc, n :: ns =>
    let k := markClass n
    orderMarks (if k == 0 then n :: acc else insertMark k n acc) ns

def compose? (a b : Nat) : Option Nat :=
  (composites.find? fun c => c.letter == a && c.mark == b).map (·.joined)

/-- Joins letters with the marks behind them. `base` is the last letter, `held` the characters
behind it in reversed order, and `last` the class of the last one of them. -/
def joinMarks : Option Nat → List Nat → Nat → List Nat → List Nat
  | base, held, _, [] => base.toList ++ held.reverse
  | none, held, _, n :: ns =>
    if markClass n == 0 then held.reverse ++ joinMarks (some n) [] 0 ns
    else joinMarks none (n :: held) 0 ns
  | some b, held, last, n :: ns =>
    let k := markClass n
    let blocked := !held.isEmpty && (last == 0 || last ≥ k)
    match if blocked then none else compose? b n with
    | some c => joinMarks (some c) held last ns
    | none =>
      if k == 0 then b :: held.reverse ++ joinMarks (some n) [] 0 ns
      else joinMarks (some b) (n :: held) k ns

def identifier (s : String) : String :=
  if s.toList.all fun c => c.toNat < 128 then s
  else
    let parts := s.toList.flatMap fun c => takeApart 8 c.toNat
    let ordered := (orderMarks [] parts).reverse
    String.ofList ((joinMarks none [] 0 ordered).map Char.ofNat)

end Launchpad.Text
