import ProtectionLimits.Text.Codepages
import ProtectionLimits.Text.Encoding.Chinese
import ProtectionLimits.Text.Encoding.DomainName
import ProtectionLimits.Text.Encoding.Escaped
import ProtectionLimits.Text.Encoding.Japanese
import ProtectionLimits.Text.Encoding.Korean
import ProtectionLimits.Text.Encoding.Punycode
import ProtectionLimits.Text.Encoding.ShiftedUnits
import ProtectionLimits.Text.Encoding.Switched
import ProtectionLimits.Text.Encoding.Units
import ProtectionLimits.Text.EncodingName

/-!
Contract: bytes read as text.

Owns the list of encodings, the names under which they are known, and reading bytes
in an encoding. Most encodings go through their bytes from the front; a few look at
a text as a whole, and one refuses everything. What cannot be read is reported with
the bytes, their place and the reason.
-/

set_option autoImplicit false

namespace ProtectionLimits.Text

/-- The encodings of East Asia with codes of one or more bytes. -/
inductive PairEncoding where
  | big5
  | codepage950
  | hongKong
  | gb2312
  | gbk
  | gb18030
  | tilde
  | upperJapanese
  | upperPlanes (edition : Edition)
  | shiftedJapanese
  | shiftedPlanes (edition : Edition)
  | codepage932
  | upperKorean
  | codepage949
  | johab
deriving DecidableEq, Repr

/-- The encodings that switch between sets. -/
inductive SwitchFamily where
  | japanese
  | japaneseFurther
  | japaneseNeighbours
  | japanesePlanes (edition : Edition)
  | japaneseKatakana
  | korean
deriving DecidableEq, Repr

inductive Encoding where
  /-- UTF-8, where a mark at the beginning may be left out. -/
  | unicode8 (dropsMark : Bool)
  | ascii
  | latin
  | codepage (page : Codepage)
  /-- UTF-16 in an order of bytes, or in the one that the text tells. -/
  | unicode16 (order : Option ByteOrder)
  /-- UTF-32 likewise. -/
  | unicode32 (order : Option ByteOrder)
  | unicode7
  | escaped
  | plainlyEscaped
  | pairs (name : String) (family : PairEncoding)
  | switched (name : String) (family : SwitchFamily)
  | punycode
  | domainName
  /-- The encoding that refuses everything. -/
  | refusing
deriving DecidableEq, Repr

/-- What a name stands for. Some encodings are known but are not for text. -/
inductive EncodingEntry where
  | known (encoding : Encoding)
  | notText
  | unknown
deriving DecidableEq, Repr

/-! ### Names -/

/-- The encodings of East Asia by settled name. -/
def pairEncodings : List (String × PairEncoding) :=
  [("big5", .big5), ("cp950", .codepage950), ("big5hkscs", .hongKong), ("gb2312", .gb2312),
    ("gbk", .gbk), ("gb18030", .gb18030), ("hz", .tilde), ("euc_jp", .upperJapanese),
    ("euc_jis_2004", .upperPlanes .second), ("euc_jisx0213", .upperPlanes .first),
    ("shift_jis", .shiftedJapanese), ("shift_jis_2004", .shiftedPlanes .second),
    ("shift_jisx0213", .shiftedPlanes .first), ("cp932", .codepage932), ("euc_kr", .upperKorean),
    ("cp949", .codepage949), ("johab", .johab)]

def switchFamilies : List (String × SwitchFamily) :=
  [("iso2022_jp", .japanese), ("iso2022_jp_1", .japaneseFurther),
    ("iso2022_jp_2", .japaneseNeighbours), ("iso2022_jp_2004", .japanesePlanes .second),
    ("iso2022_jp_3", .japanesePlanes .first), ("iso2022_jp_ext", .japaneseKatakana),
    ("iso2022_kr", .korean)]

def singleEncodings : List (String × Encoding) :=
  [("utf_8", .unicode8 false), ("utf_8_sig", .unicode8 true), ("ascii", .ascii),
    ("latin_1", .latin), ("iso8859_1", .latin), ("charmap", .latin), ("unicode_escape", .escaped),
    ("raw_unicode_escape", .plainlyEscaped), ("utf_7", .unicode7), ("utf_16", .unicode16 none),
    ("utf_16_le", .unicode16 (some .smallFirst)), ("utf_16_be", .unicode16 (some .largeFirst)),
    ("utf_32", .unicode32 none), ("utf_32_le", .unicode32 (some .smallFirst)),
    ("utf_32_be", .unicode32 (some .largeFirst)), ("punycode", .punycode), ("idna", .domainName),
    ("undefined", .refusing)]

def Encoding.ofSettled? (name : String) : Option Encoding :=
  (singleEncodings.lookup name)
    |>.or ((Codepage.ofName? name).map .codepage)
    |>.or ((pairEncodings.lookup name).map (.pairs name))
    |>.or ((switchFamilies.lookup name).map (.switched name))

namespace EncodingEntry

/-- The encodings that lead from bytes to bytes or from text to text. -/
def notTextNames : List String :=
  ["base64_codec", "bz2_codec", "hex_codec", "quopri_codec", "rot_13", "uu_codec", "zlib_codec"]

def ofSettled (name : String) : EncodingEntry :=
  match Encoding.ofSettled? name with
  | some encoding => known encoding
  | none => if notTextNames.contains name then notText else unknown

/-- Whether a character can stand in the plain name of an encoding. -/
def isPlain (character : Char) : Bool := character.isAlphanum || character == '.'

/-- The parts of a name in small letters, with one underscore between them. -/
def plainName (name : List Char) : List Char :=
  plainEncoding (name.map fun character =>
    if isPlain character then character.toLower else ' ')

/-- What a name as people write it stands for: first what its common name stands
for, then the name itself. -/
def ofName (name : String) : EncodingEntry :=
  let plain := plainName name.toList
  let pointless := plain.map fun character => if character == '.' then '_' else character
  let common := (encodingAliases.lookup (String.ofList plain)).or
    (encodingAliases.lookup (String.ofList pointless))
  match common.map ofSettled with
  | some (known encoding) => known encoding
  | some notText => notText
  | _ => if plain.contains '.' then unknown else ofSettled (String.ofList plain)

end EncodingEntry

namespace PairEncoding

def reader? : PairEncoding → Option (ByteReader Unit)
  | big5 => some big5Reader
  | codepage950 => some codepage950Reader
  | hongKong => some hongKongReader
  | gb2312 => some gb2312Reader
  | gbk => some gbkReader
  | gb18030 => some gb18030Reader
  | tilde => none
  | upperJapanese => some upperJapaneseReader
  | upperPlanes edition => some (upperPlanesReader edition)
  | shiftedJapanese => some shiftedJapaneseReader
  | shiftedPlanes edition => some (shiftedPlanesReader edition)
  | codepage932 => some codepage932Reader
  | upperKorean => some upperKoreanReader
  | codepage949 => some codepage949Reader
  | johab => some johabReader

def read (family : PairEncoding) (name : String) (bytes : List UInt8) :
    Except Undecodable (List Char) :=
  match family.reader? with
  | some reader => reader.read name () bytes
  | none => tildeReader.read name false bytes

end PairEncoding

def SwitchFamily.encoding : SwitchFamily → SwitchedEncoding
  | japanese => switchedJapanese [romanSet] false
  | japaneseFurther => switchedJapanese [jisX0212Set, romanSet] false
  | japaneseNeighbours => switchedJapanese neighbourSets true
  | japanesePlanes edition => switchedPlanes edition
  | japaneseKatakana => switchedJapanese [jisX0212Set, romanSet, katakanaSet] false
  | korean => switchedKorean

namespace Encoding

/-- The mark that may stand at the beginning of UTF-8. -/
def mark8 : List UInt8 := [0xef, 0xbb, 0xbf]

/-- The text that bytes are in an encoding that goes through them from the front. -/
def readThrough (encoding : Encoding) (bytes : List UInt8) :
    Except Undecodable (List Char) :=
  match encoding with
  | unicode8 dropsMark =>
      byteUnitReader.read "utf-8" ()
        (if dropsMark && mark8.isPrefixOf bytes then bytes.drop mark8.length else bytes)
  | latin => .ok (bytes.map byteChar)
  | codepage page => (ByteReader.ofBytes page.char? .undefined).read "charmap" () bytes
  | unicode16 order => readUnits 2 pairUnitReader "utf-16" order bytes
  | unicode32 order => readUnits 4 pointUnitReader "utf-32" order bytes
  | unicode7 => shiftedUnitReader.read "utf7" () bytes
  | escaped => escapedReader.read "unicodeescape" () bytes
  | plainlyEscaped => plainlyEscapedReader.read "rawunicodeescape" () bytes
  | pairs name family => family.read name bytes
  | switched name family => (switchedReader family.encoding).read name .start bytes
  | _ => (ByteReader.ofBytes asciiChar? .beyondAscii).read "ascii" () bytes

def read (encoding : Encoding) (bytes : List UInt8) : Except DecodingFailure (List Char) :=
  match encoding with
  | punycode => Punycode.read bytes
  | domainName => DomainName.read bytes
  | refusing => .error (.refused .never)
  | _ => (encoding.readThrough bytes).mapError .undecodable

end Encoding

end ProtectionLimits.Text
