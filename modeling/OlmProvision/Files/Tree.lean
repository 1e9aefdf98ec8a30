/-
A working directory as the program sees it: named files with their text, and directories.

Reading a name answers the file's text, or the operating system's error: a name that is not
there is missing (`ENOENT`), and a directory cannot be read as a file (`EISDIR`). A leading
`./` names the same entry as the plain name.
-/
namespace OlmProvision

/-- An error of reading a file, by its operating-system error. -/
inductive ReadError where
  | notFound
  | isDirectory
deriving DecidableEq, Repr, Inhabited

namespace ReadError

/-- The text the operating system gives the error, with its number. -/
def message : ReadError → String
  | .notFound => "No such file or directory (os error 2)"
  | .isDirectory => "Is a directory (os error 21)"

end ReadError

/-- The entries of a working directory: a file's text, or `none` for a directory. -/
structure FileTree where
  entries : List (String × Option String)
deriving Inhabited

namespace FileTree

/-- The empty directory. -/
def empty : FileTree := ⟨[]⟩

/-- A name's characters with leading `./` removed. -/
def stripCurrent : List Char → List Char
  | '.' :: '/' :: rest => stripCurrent rest
  | cs => cs

/-- A name with leading `./` removed. -/
def normalize (path : String) : String := String.ofList (stripCurrent path.toList)

/-- The text of the file at `path`. -/
def read (t : FileTree) (path : String) : Except ReadError String :=
  match (t.entries.find? (fun e => e.1 == normalize path)).map Prod.snd with
  | some (some text) => .ok text
  | some none => .error .isDirectory
  | none => .error .notFound

/-- Whether something is at `path`. -/
def isPresent (t : FileTree) (path : String) : Bool :=
  t.entries.any (fun e => e.1 == normalize path)

end FileTree

end OlmProvision
