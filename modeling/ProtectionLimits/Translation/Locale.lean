import ProtectionLimits.Text.EncodingName
import ProtectionLimits.Text.Lowercase
import ProtectionLimits.Text.Split
import ProtectionLimits.Translation.LocaleNames

/-!
Contract: from a language to the names under which catalogs may stand.

Owns the full name of a locale and its variants. A language is first completed
by the territory and encoding that its common name stands for; the variants then
leave out modifier, encoding and territory in every combination, the most
specific one first.
-/

set_option autoImplicit false

namespace ProtectionLimits.Translation

def found? (table : List (String × String)) (key : List Char) : Option (List Char) :=
  (table.lookup (String.ofList key)).map String.toList

def withoutJoints (name : List Char) : List Char :=
  name.filter fun character => character != '-' && character != '_'

def localeEncoding (encoding : List Char) : List Char :=
  let settled := Text.encodingName encoding
  let lowered := settled.map Char.toLower
  ((found? Text.localeEncodings lowered).or
    (found? Text.localeEncodings (withoutJoints lowered))).getD settled

def withEncoding (locale encoding : List Char) : List Char :=
  (Text.splitAt '.' locale).1 ++ '.' :: localeEncoding encoding

/-- A locale with a modifier; the currency modifier turns into an encoding. -/
def withModifier (locale modifier : List Char) : List Char :=
  if modifier = "euro".toList then
    match (Text.splitAt '.' locale).2 with
    | none => locale ++ ".ISO8859-15".toList
    | some encoding =>
        if encoding = "ISO8859-15".toList || encoding = "UTF-8".toList then locale
        else if encoding = "ISO8859-1".toList then withEncoding locale "ISO8859-15".toList
        else locale ++ '@' :: modifier
  else locale ++ '@' :: modifier

/-- The parts of a locale name as people write it: language with territory,
encoding, modifier. -/
structure LocaleName where
  language : List Char
  encoding : List Char
  modifier : List Char

namespace LocaleName

/-- The parts of a name in lower case; a colon may stand before the encoding. -/
def ofText (text : List Char) : LocaleName :=
  let lowered := (Text.lowercase text).map fun character =>
    if character == ':' then '.' else character
  let (code, modifier) := Text.splitAt '@' lowered
  let (language, rest) := Text.splitAt '.' code
  { language := language
    encoding := (rest.map fun behind => (Text.splitAt '.' behind).1).getD []
    modifier := modifier.getD [] }

def modified (name : LocaleName) (code : List Char) : List Char :=
  if name.modifier.isEmpty then code else code ++ '@' :: name.modifier

def withPlainEncoding (name : LocaleName) : List Char :=
  if name.encoding.isEmpty then name.language
  else name.language ++ '.' :: withoutJoints name.encoding

def direct? (name : LocaleName) : Option (List Char) :=
  found? localeNames (name.modified name.withPlainEncoding)

def withoutModifier? (name : LocaleName) : Option (List Char) :=
  if name.modifier.isEmpty then none
  else
    (found? localeNames name.withPlainEncoding).bind fun code =>
      match (Text.splitAt '@' code).2 with
      | none => some (withModifier code name.modifier)
      | some modifier => if modifier.map Char.toLower = name.modifier then some code else none

def withoutEncoding? (name : LocaleName) : Option (List Char) :=
  if name.encoding.isEmpty then none
  else
    (found? localeNames (name.modified name.language)).map fun code =>
      match Text.splitAt '@' code with
      | (_, none) => withEncoding code name.encoding
      | (bare, some modifier) => withEncoding bare name.encoding ++ '@' :: modifier

def languageOnly? (name : LocaleName) : Option (List Char) :=
  if name.encoding.isEmpty || name.modifier.isEmpty then none
  else
    (found? localeNames name.language).bind fun code =>
      match Text.splitAt '@' code with
      | (_, none) => some (withModifier (withEncoding code name.encoding) name.modifier)
      | (bare, some modifier) =>
          if modifier.map Char.toLower = name.modifier then
            some (withEncoding bare name.encoding ++ '@' :: modifier)
          else none

end LocaleName

/-- The full name of a locale, or the name itself where none is known. -/
def fullName (text : List Char) : List Char :=
  let name := LocaleName.ofText text
  (((name.direct?.or name.withoutModifier?).or name.withoutEncoding?).or
    name.languageOnly?).getD text

/-- A part that can be left out: with it first, without it second. A part that
is not there is not left out twice. -/
def optionalPart (separator : Char) (part : Option (List Char)) : List (List Char) :=
  match part with
  | some text => [separator :: text, []]
  | none => [[]]

/-- The names under which catalogs for a language may stand, the most specific
first. -/
def variants (language : String) : List String :=
  let (code, modifier) := Text.splitAt '@' (fullName language.toList)
  let (code, encoding) := Text.splitAt '.' code
  let (bare, territory) := Text.splitAt '_' code
  (optionalPart '@' modifier).flatMap fun modifierPart =>
    (optionalPart '_' territory).flatMap fun territoryPart =>
      (optionalPart '.' encoding).map fun encodingPart =>
        String.ofList (bare ++ territoryPart ++ encodingPart ++ modifierPart)

/-- The names for several languages in order, without repetitions. -/
def allVariants (languages : List String) : List String :=
  (languages.flatMap variants).eraseDups

/-- The name at which the search for catalogs ends. -/
def untranslated : String := "C"

def searched (languages : List String) : List String :=
  (allVariants languages).takeWhile (· != untranslated)

end ProtectionLimits.Translation
