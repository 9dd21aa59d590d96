import Launchpad.Fault

/-!
Encodings that a document can declare. A document is stored in the common encoding of all
characters; one that declares another encoding has its bytes read in that one.
-/

namespace Launchpad.Markup

/-! ### Names of encodings, in small letters, with underscores for all other signs -/

def plainEncodings : List String :=
  ["ascii", "cp65001", "iso2022_jp", "iso646_us", "iso_2022_jp", "u8", "us", "us_ascii", "utf",
    "utf8", "utf_8", "utf_8_sig"]

def byteEncodings : List String :=
  ["cp1250", "cp1251", "cp1252", "cp1253", "cp1254", "cp1255", "cp1256", "cp1257", "cp1258",
    "cp437", "cp850", "cp852", "cp858", "cp866", "iso8859", "iso8859_1", "iso8859_15", "iso8859_2",
    "iso8859_5", "iso8859_7", "iso8859_9", "iso_8859_1", "iso_8859_15", "iso_8859_2", "iso_8859_5",
    "iso_8859_7", "iso_8859_9", "koi8_r", "koi8_u", "l1", "l2", "latin", "latin1", "latin2",
    "latin9", "latin_1", "mac_roman", "macintosh", "windows_1250", "windows_1251", "windows_1252",
    "windows_1253", "windows_1254", "windows_1255", "windows_1256", "windows_1257", "windows_1258"]

def wideEncodings : List String :=
  ["big5", "cp932", "cp936", "cp949", "cp950", "euc_jp", "euc_kr", "gb18030", "gb2312", "gbk",
    "shift_jis", "sjis", "u16", "u32", "utf16", "utf32", "utf7", "utf_16", "utf_16_be", "utf_16_le",
    "utf_32", "utf_32_be", "utf_32_le", "utf_7"]

def strangeEncodings : List String :=
  ["cp037", "cp1026", "cp500", "ibm037", "ibm1026", "ibm500"]

def encodingName (s : String) : String :=
  let sign (c : Char) := if c.isAlphanum then c.toLower else '_'
  String.ofList (collapse (s.toList.map sign))
where
  collapse : Chars → Chars
    | [] => []
    | '_' :: cs => match collapse cs with
      | '_' :: rest => '_' :: rest
      | rest => '_' :: rest
    | c :: cs => c :: collapse cs

def bytesOf (cs : Chars) : Chars :=
  (String.ofList cs).toUTF8.toList.map fun b => Char.ofNat b.toNat

/-- The characters of a document that declares an encoding. A byte above the first 128 is taken for
the character with its number. -/
def decode (encoding : String) (cs : Chars) : Try Chars :=
  let plain := cs.all (·.toNat < 128)
  let failed := fails .badMarkup
  let name := encodingName encoding
  if encoding.map Char.toLower == "utf-8" then .ok cs
  else if ["utf-16", "utf-16be", "utf-16le"].contains (encoding.map Char.toLower) then failed
  else if plainEncodings.contains name then if plain then .ok cs else failed
  else if byteEncodings.contains name then .ok (bytesOf cs)
  else if wideEncodings.contains name then fails .invalidValue
  else if strangeEncodings.contains name then failed
  else fails .lookup

end Launchpad.Markup
