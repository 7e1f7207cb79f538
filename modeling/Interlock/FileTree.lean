/-! # Files below a working directory

A tree of files, as far as the commands see it: which names lead to a file, which to a directory and
which to nothing. Directories are those that hold a file, and no command makes any.
-/

namespace Interlock

/-- What a file holds. Profiles are made by the system, and their contents do not matter here. -/
inductive FileContent where
  | text (s : String)
  | profile
deriving DecidableEq, Repr

/-- Why a name does not lead to what was asked for. -/
inductive FileError where
  | notExist
  | notDirectory
  | isDirectory
  | nameTooLong
  | invalidName
  /-- A reason that only a machine has. -/
  | other (reason : String)
deriving DecidableEq, Repr

/-- The wording of a file error. -/
def FileError.reason : FileError → String
  | .notExist => "no such file or directory"
  | .notDirectory => "not a directory"
  | .isDirectory => "is a directory"
  | .nameTooLong => "file name too long"
  | .invalidName => "invalid argument"
  | .other reason => reason

/-- The step of a file access that failed. -/
inductive FileStep where
  | opening
  | reading
deriving DecidableEq, Repr

/-- A failed file access. -/
structure FileFailure where
  step : FileStep
  path : String
  error : FileError
deriving DecidableEq, Repr

/-- The wording of a failed file access. -/
def FileFailure.message (f : FileFailure) : String :=
  (match f.step with
    | .opening => "open "
    | .reading => "read ") ++ f.path ++ ": " ++ f.error.reason

/-- Files by the names on the way to them. -/
structure FileTree where
  files : List (List String × FileContent) := []
deriving DecidableEq, Repr

namespace FileTree

/-- Whether the names lead to a directory. -/
def isDirectory (t : FileTree) (names : List String) : Bool :=
  names.isEmpty || t.files.any fun (file, _) => names.isPrefixOf file && names.length < file.length

/-- What a path leads to. -/
inductive Place where
  | directory
  | file (names : List String)
  /-- Nothing yet, but a file can be made there. -/
  | free (names : List String)
deriving DecidableEq, Repr

/-- Whether a name does not lead further down. -/
def isUpward (name : String) : Bool :=
  name = "" || name = "." || name = ".."

/-- Follows the names of a path from a directory. Outside of the tree there are only the directories
above it. -/
def walk (t : FileTree) : (directory : List String) → List String → Except FileError Place
  | _, [] => .ok .directory
  | directory, name :: rest =>
    if name = "" ∨ name = "." then walk t directory rest
    else if name = ".." then
      if directory ≠ [] then walk t directory.dropLast rest
      else if rest.all isUpward then .ok .directory
      else .error .notExist
    else if 255 < name.utf8ByteSize then .error .nameTooLong
    else
      let names := directory ++ [name]
      if t.isDirectory names then walk t names rest
      else if (t.files.lookup names).isSome then
        if rest = [] then .ok (.file names) else .error .notDirectory
      else if rest.all (· = "") then .ok (.free names)
      else .error .notExist

/-- What a path leads to, from the working directory. -/
def locate (t : FileTree) (path : String) : Except FileError Place :=
  if path = "" then .error .notExist
  else if path.contains '\x00' then .error .invalidName
  else if 4095 < path.utf8ByteSize then .error .nameTooLong
  else if path.startsWith "/" then
    if (path.splitOn "/").all isUpward then .ok .directory else .error .notExist
  else t.walk [] (path.splitOn "/")

/-- Reads a file. A directory can be opened, but not read. -/
def read (t : FileTree) (path : String) : Except FileFailure String :=
  match t.locate path with
  | .error e => .error ⟨.opening, path, e⟩
  | .ok .directory => .error ⟨.reading, path, .isDirectory⟩
  | .ok (.free _) => .error ⟨.opening, path, .notExist⟩
  | .ok (.file names) =>
    match t.files.lookup names with
    | some (.text s) => .ok s
    | _ => .ok ""

/-- Puts a file in the place of another, or at the end. -/
def put (names : List String) (content : FileContent) :
    List (List String × FileContent) → List (List String × FileContent)
  | [] => [(names, content)]
  | (other, old) :: rest =>
    if other = names then (names, content) :: rest else (other, old) :: put names content rest

/-- Writes a file. A path that ends with a slash asks for a directory. -/
def write (t : FileTree) (path : String) (content : FileContent) : Except FileFailure FileTree :=
  let named := String.ofList (path.toList.reverse.dropWhile (· = '/')).reverse
  let asGiven := 4095 < path.utf8ByteSize || path.startsWith "/"
  match t.locate (if asGiven then path else named) with
  | .error e => .error ⟨.opening, path, e⟩
  | .ok .directory => .error ⟨.opening, path, .isDirectory⟩
  | .ok (.file names) | .ok (.free names) =>
    if path = named then .ok ⟨put names content t.files⟩ else .error ⟨.opening, path, .isDirectory⟩

end FileTree

end Interlock
