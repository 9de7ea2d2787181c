import ProtectionLimits.Text.Split
import ProtectionLimits.Translation.Catalog

/-!
Contract: where catalogs stand.

Owns the way from the name of a language to the folder that its catalog stands
in. A name is a path below the folder of all catalogs: a slash leads down, one
point stays, and two points lead up again, but only from a folder that exists.
-/

set_option autoImplicit false

namespace ProtectionLimits.Translation

/-- A step on a path. -/
inductive Step where
  | down (name : List Char)
  | up
deriving DecidableEq, Repr

/-- The steps of a path; a path from the root of all folders leads nowhere. -/
def steps? (path : List Char) : Option (List Step) :=
  match path with
  | '/' :: _ => none
  | _ =>
      some ((Text.pieces '/' path).filterMap fun piece =>
        if piece.isEmpty || piece == ['.'] then none
        else if piece == ['.', '.'] then some .up
        else some (.down piece))

/-- The folder behind some steps, as long as there is one after every step.
Folders are listed from the inside out. -/
def walk? (isFolder : List (List Char) → Bool) :
    List (List Char) → List Step → Option (List (List Char))
  | folder, [] => some folder
  | folder, .down name :: rest =>
      if isFolder (name :: folder) then walk? isFolder (name :: folder) rest else none
  | _ :: outer, .up :: rest => walk? isFolder outer rest
  | [], .up :: _ => none

/-- The folder of the messages below the folder of a language. -/
def messageFolder : List Char := "LC_MESSAGES".toList

def passed (folder : List (List Char)) : List Step → List (List (List Char))
  | [] => [folder]
  | .down name :: rest => passed (name :: folder) rest ++ [folder]
  | .up :: rest => passed folder.tail rest ++ [folder]

/-- The folders that were made for a file; it stands in the first of them. -/
def foldersOf (file : CatalogFile) : List (List (List Char)) :=
  match steps? file.place.toList with
  | some steps => passed [] (steps ++ [.down messageFolder])
  | none => []

def isFolder (files : List CatalogFile) (folder : List (List Char)) : Bool :=
  files.any fun file => (foldersOf file).contains folder

/-- The file that stands in the folder of a language; of several in one folder the
last one. -/
def file? (files : List CatalogFile) (language : String) : Option CatalogFile :=
  ((steps? language.toList).bind fun steps =>
    walk? (isFolder files) [] (steps ++ [.down messageFolder])).bind fun folder =>
      files.reverse.find? fun file => (foldersOf file).head? == some folder

end ProtectionLimits.Translation
