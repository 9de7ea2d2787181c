import ProtectionLimits.Entries
import ProtectionLimits.Text.Blank
import ProtectionLimits.Text.Encoding
import ProtectionLimits.Text.Lowercase
import ProtectionLimits.Text.Split
import ProtectionLimits.Translation.PluralRule

/-!
Contract: from the file of a catalog to its messages.

Owns the header of a catalog, the encoding that it states for everything in the
file and its rule for plural forms, reading the messages, and looking a message up. The
header is the translation of the empty message. Messages are read in order, the header
first. A message with plural forms has a translation for each form and none of its own;
the later edition of the library takes the form for the count one in its place, and asks
the rule of the catalog which one that is. The first fault ends the reading.
-/

set_option autoImplicit false

namespace ProtectionLimits

/-- The file of a catalog: where it stands, and messages with their translations
as they were written. -/
structure CatalogFile where
  place : String
  messages : List (String × String)
deriving DecidableEq, Repr

/-- The editions of the library that looks messages up: the earlier one only knows
messages with a translation of their own, the later one also looks among plural forms. -/
inductive Edition where
  | messages
  | messagesAndForms
deriving DecidableEq, Repr

/-- The messages of a catalog with their translations, the translations of plural forms by
message and form, the last one in front, and the rule for these forms. -/
structure Catalog where
  messages : List (String × String)
  forms : List ((String × Nat) × String) := []
  rule : Translation.PluralRule.Formula := Translation.PluralRule.standard
deriving DecidableEq, Repr

/-- Why a catalog cannot be read. -/
inductive CatalogFault where
  /-- A field of the header lacks a part. -/
  | fieldCut
  /-- The rule for plural forms is refused. -/
  | pluralRule (fault : Translation.PluralFault)
  /-- The encoding is not known. -/
  | encodingUnknown (name : String)
  /-- The encoding is not one for texts. -/
  | encodingNotText (name : String)
  /-- The name of an encoding holds a zero. -/
  | encodingBroken
  /-- Some bytes cannot be read. -/
  | undecodable (failure : Text.Undecodable)
  /-- The encoding refuses some bytes as a whole. -/
  | refused (encoding : String) (refusal : Text.DecodingRefusal)
  /-- A message has more than two forms. -/
  | formsExcess
deriving DecidableEq, Repr

namespace Catalog

def empty : Catalog := { messages := [] }

def form? (catalog : Catalog) (message : String) (form : Int) : Option String :=
  if 0 ≤ form then catalog.forms.lookup (message, form.toNat) else none

/-- The translation of a message by an edition of the library. The rule of the catalog is
not asked before it is needed. -/
def message? (catalog : Catalog) (edition : Edition) (message : String) :
    Except Unwritable (Option String) :=
  match catalog.messages.lookup message, edition with
  | some translation, _ => .ok (some translation)
  | none, .messages => .ok none
  | none, .messagesAndForms => (catalog.rule.form 1).map (catalog.form? message)

/-! ### Header -/

/-- The mark around the fields of a header that was merged from several. -/
def mergeMark : List Char := "#-#-#-#-#".toList

def isRemark (line : List Char) : Bool :=
  mergeMark.isPrefixOf line && mergeMark.isSuffixOf line

def statedEncoding (field : List Char) : Except CatalogFault String :=
  match Text.between? "charset=".toList field with
  | some name => .ok (String.ofList name)
  | none => .error .fieldCut

/-- The rule that a statement about plural forms makes. -/
def statedRule (field : List Char) : Except CatalogFault (List Char) :=
  match (Text.pieces ';' field)[1]? with
  | none => .error .fieldCut
  | some second =>
      match Text.between? "plural=".toList second with
      | some rule => .ok rule
      | none => .error .fieldCut

/-- A catalog while it is read: the encoding in force, and what has been read. -/
structure Reading where
  encoding : String
  catalog : Catalog

def readLine (reading : Reading) (line : List Char) : Except CatalogFault Reading :=
  let trimmed := Text.trim line
  if isRemark trimmed then .ok reading
  else
    match Text.splitAt ':' trimmed with
    | (_, none) => .ok reading
    | (name, some field) =>
        let name := Text.lowercase (Text.trim name)
        let field := Text.trim field
        if name == "content-type".toList then
          (statedEncoding field).map fun encoding => { reading with encoding := encoding }
        else if name == "plural-forms".toList then do
          let rule ← statedRule field
          match Translation.PluralRule.read rule with
          | .ok formula => pure { reading with catalog := { reading.catalog with rule := formula } }
          | .error fault => .error (.pluralRule fault)
        else .ok reading

def readHeader (reading : Reading) (header : String) : Except CatalogFault Reading :=
  (Text.pieces '\n' header.toList).foldlM readLine reading

/-! ### Messages -/

def defaultEncoding : String := "ascii"

/-- Bytes in the encoding of a name. Where there are no bytes the name does not
matter, unless it holds a zero. -/
def decoded (encoding : String) (bytes : List UInt8) : Except CatalogFault String :=
  if encoding.toList.contains '\x00' then .error .encodingBroken
  else if bytes.isEmpty then .ok ""
  else
    match Text.EncodingEntry.ofName (if encoding.isEmpty then defaultEncoding else encoding) with
    | .unknown => .error (.encodingUnknown encoding)
    | .notText => .error (.encodingNotText encoding)
    | .known known =>
        match known.read bytes with
        | .ok text => .ok (String.ofList text)
        | .error (.undecodable failure) => .error (.undecodable failure)
        | .error (.refused refusal) => .error (.refused encoding refusal)

/-- The bytes of a text as it stands in a file. -/
def written (text : String) : List UInt8 := text.toUTF8.toList

def withMessage (catalog : Catalog) (message translation : String) : Catalog :=
  { catalog with messages := Entries.enter catalog.messages message translation }

def withForms (catalog : Catalog) (message : String) (translations : List String) : Catalog :=
  let added := translations.zipIdx.map fun numbered => ((message, numbered.2), numbered.1)
  { catalog with forms := added ++ catalog.forms }

/-- What is known of a catalog behind a message of its file. The translation of a single
message is read before the message, and those of plural forms behind it. -/
def readMessage (reading : Reading) (message translation : String) :
    Except CatalogFault Reading := do
  match Text.pieces 0 (written message) with
  | [single] =>
      let translation ← decoded reading.encoding (written translation)
      let message ← decoded reading.encoding single
      pure { reading with catalog := reading.catalog.withMessage message translation }
  | [first, _] =>
      let message ← decoded reading.encoding first
      let translations ← (Text.pieces 0 (written translation)).mapM (decoded reading.encoding)
      pure { reading with catalog := reading.catalog.withForms message translations }
  | _ => .error .formsExcess

/-- What is known of a catalog behind an entry of its file, which may be the header. -/
def readEntry (reading : Reading) (entry : String × String) : Except CatalogFault Reading := do
  let reading ← if entry.1.isEmpty then readHeader reading entry.2 else pure reading
  readMessage reading entry.1 entry.2

def standardHeader : String := "Content-Type: text/plain; charset=UTF-8\n"

/-- What stands in a file, sorted by message. A repeated message takes its last
translation. -/
def contents (file : CatalogFile) : List (String × String) :=
  (Entries.enterAll [("", standardHeader)] file.messages).mergeSort
    fun left right => left.1 ≤ right.1

def read (file : CatalogFile) : Except CatalogFault Catalog :=
  ((contents file).foldlM readEntry ⟨"", .empty⟩).map Reading.catalog

end Catalog

end ProtectionLimits
