/-!
# Files

The program reads two files, its configuration and its vocabulary. Where they come from is
left open: a reader gives for every path the contents or the reason why there are none. On
a machine that is its file system; a `Directory` is one that is given as a list of names
and contents.
-/

namespace Emend

/-- Why a file cannot be read, with the number that the system has for the reason, if it
is one of the system's. -/
structure FileError where
  description : String
  code : Option Nat
deriving DecidableEq, Repr

namespace FileError

/-- There is nothing of that name. -/
def notFound : FileError := ⟨"No such file or directory", some 2⟩

/-- A file is used as if it were a directory. -/
def notDirectory : FileError := ⟨"Not a directory", some 20⟩

/-- A directory is used as if it were a file. -/
def isDirectory : FileError := ⟨"Is a directory", some 21⟩

/-- The file may not be read. -/
def permissionDenied : FileError := ⟨"Permission denied", some 13⟩

/-- The reason of a number, described in the given words if it is not one of the above. -/
def ofCode (code : Nat) (description : String) : FileError :=
  ([notFound, notDirectory, isDirectory, permissionDenied].find? (·.code = some code)).getD
    ⟨description, some code⟩

/-- The contents are not a text. -/
def notText : FileError := ⟨"stream did not contain valid UTF-8", none⟩

/-- What the user is told. -/
def message (e : FileError) : String :=
  match e.code with
  | some code => e.description ++ " (os error " ++ toString code ++ ")"
  | none => e.description

end FileError

/-- The files below a working directory, by the names on their paths. -/
structure Directory where
  files : List (List String × String)

namespace Directory

/-- A place that a path leads to: below the working directory, or outside of it. -/
inductive Place
  | below (names : List String)
  | outside
deriving DecidableEq, Repr

/-- The files with the given paths. -/
def ofPaths (files : List (String × String)) : Directory :=
  ⟨files.map fun (path, contents) => (path.splitOn "/", contents)⟩

/-- The contents of the file at a place. -/
def contents? (d : Directory) : Place → Option String
  | .below names => d.files.lookup names
  | .outside => none

/-- Whether a place is a directory. -/
def isDirectory (d : Directory) : Place → Bool
  | .below names => names.isEmpty || d.files.any fun f => names.isPrefixOf f.1 && names ≠ f.1
  | .outside => true

/-- The place that a name leads to from a directory. -/
def enter (name : String) : Place → Option Place
  | .below names =>
    if name = "" ∨ name = "." then some (.below names)
    else if name = ".." then some (if names = [] then .outside else .below names.dropLast)
    else some (.below (names ++ [name]))
  | .outside => if name = "" ∨ name = "." ∨ name = ".." then some .outside else none

/-- Follow a path from a place. -/
def follow (d : Directory) : Place → List String → Except FileError Place
  | place, [] => .ok place
  | place, name :: rest =>
    if (d.contents? place).isSome then .error .notDirectory
    else if d.isDirectory place then
      match enter name place with
      | some next => follow d next rest
      | none => .error .notFound
    else .error .notFound

/-- Read the file that a path leads to. -/
def read (d : Directory) (path : String) : Except FileError String :=
  if path = "" then .error .notFound
  else do
    let start := if path.startsWith "/" then Place.outside else .below []
    let place ← d.follow start (path.splitOn "/")
    match d.contents? place with
    | some contents => .ok contents
    | none => .error (if d.isDirectory place then .isDirectory else .notFound)

end Directory

end Emend
