import ProtectionLimits.Text.Charset.Dos
import ProtectionLimits.Text.Charset.Ebcdic
import ProtectionLimits.Text.Charset.Iso8859
import ProtectionLimits.Text.Charset.Macintosh
import ProtectionLimits.Text.Charset.National
import ProtectionLimits.Text.Charset.Windows

/-!
Contract: character sets of one byte.

Owns the list of the sets by name, and the character of a byte in a set. Most sets
agree with ASCII in their lower half; of them only the upper half is on record.
-/

set_option autoImplicit false

namespace ProtectionLimits.Text

/-- A set of one byte: the runs of code points of all bytes in order. -/
abbrev Codepage := List CodeRun

def Codepage.char? (codepage : Codepage) (byte : UInt8) : Option Char :=
  (codePoint? byte.toNat codepage).map Char.ofNat

/-- The set with ASCII below an upper half. -/
def overAscii (upper : List CodeRun) : Codepage := ⟨0x80, 0⟩ :: upper

/-- The character sets that have ASCII in their lower half, by name, with their upper
halves. -/
def upperHalves : List (String × List CodeRun) :=
  [("cp437", cp437Upper), ("cp720", cp720Upper), ("cp737", cp737Upper), ("cp775", cp775Upper),
    ("cp850", cp850Upper), ("cp852", cp852Upper), ("cp855", cp855Upper), ("cp856", cp856Upper),
    ("cp857", cp857Upper), ("cp858", cp858Upper), ("cp860", cp860Upper), ("cp861", cp861Upper),
    ("cp862", cp862Upper), ("cp863", cp863Upper), ("cp865", cp865Upper), ("cp866", cp866Upper),
    ("cp869", cp869Upper), ("cp1006", cp1006Upper), ("cp1125", cp1125Upper),
    ("iso8859_2", iso88592Upper), ("iso8859_3", iso88593Upper), ("iso8859_4", iso88594Upper),
    ("iso8859_5", iso88595Upper), ("iso8859_6", iso88596Upper), ("iso8859_7", iso88597Upper),
    ("iso8859_8", iso88598Upper), ("iso8859_9", iso88599Upper), ("iso8859_10", iso885910Upper),
    ("iso8859_11", iso885911Upper), ("iso8859_13", iso885913Upper), ("iso8859_14", iso885914Upper),
    ("iso8859_15", iso885915Upper), ("iso8859_16", iso885916Upper), ("mac_arabic", macArabicUpper),
    ("mac_croatian", macCroatianUpper), ("mac_cyrillic", macCyrillicUpper),
    ("mac_farsi", macFarsiUpper), ("mac_greek", macGreekUpper), ("mac_iceland", macIcelandUpper),
    ("mac_latin2", macLatin2Upper), ("mac_roman", macRomanUpper),
    ("mac_romanian", macRomanianUpper), ("mac_turkish", macTurkishUpper),
    ("hp_roman8", hpRoman8Upper), ("koi8_r", koi8RUpper), ("koi8_t", koi8TUpper),
    ("koi8_u", koi8UUpper), ("kz1048", kz1048Upper), ("palmos", palmosUpper),
    ("ptcp154", ptcp154Upper), ("tis_620", tis620Upper), ("cp874", cp874Upper),
    ("cp1250", cp1250Upper), ("cp1251", cp1251Upper), ("cp1252", cp1252Upper),
    ("cp1253", cp1253Upper), ("cp1254", cp1254Upper), ("cp1255", cp1255Upper),
    ("cp1256", cp1256Upper), ("cp1257", cp1257Upper), ("cp1258", cp1258Upper)]

def wholeSets : List (String × Codepage) :=
  [("cp864", cp864Whole), ("cp037", cp037Whole), ("cp273", cp273Whole), ("cp424", cp424Whole),
    ("cp500", cp500Whole), ("cp875", cp875Whole), ("cp1026", cp1026Whole), ("cp1140", cp1140Whole)]

/-- The character set of a settled name. -/
def Codepage.ofName? (name : String) : Option Codepage :=
  ((upperHalves.lookup name).map overAscii).or (wholeSets.lookup name)

end ProtectionLimits.Text
