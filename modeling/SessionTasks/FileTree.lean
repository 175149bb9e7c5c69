/-
# Files

A small tree of files and folders below a working folder.  Names are looked up as a file
system does it: each folder on the way has to exist, `.` and `..` are followed, and a name
has at most 255 bytes.
-/
import SessionTasks.KeyMap
import SessionTasks.Text.Pieces
namespace SessionTasks

/-- Why a file cannot be read or written. -/
inductive FileFault where
  /-- A name on the way, or the file, does not exist. -/
  | missing
  /-- A name on the way is not a folder. -/
  | notFolder
  /-- The name is that of a folder. -/
  | isFolder
  /-- A name on the way, or the path, is too long. -/
  | nameTooLong
  /-- The content is not text. -/
  | notText
  /-- The path holds the character NUL. -/
  | nulInName
  deriving DecidableEq

/-- The words for a fault. -/
def FileFault.message : FileFault → String
  | .missing => "No such file or directory (os error 2)"
  | .notFolder => "Not a directory (os error 20)"
  | .isFolder => "Is a directory (os error 21)"
  | .nameTooLong => "File name too long (os error 36)"
  | .notText => "stream did not contain valid UTF-8"
  | .nulInName => "file name contained an unexpected NUL byte"

/-- What stands under a name. -/
inductive FileEntry where
  /-- A file and its bytes. -/
  | file (content : ByteArray)
  /-- A folder. -/
  | folder

/-- A tree of files, by their paths from the root; the names of a path are joined by `/`. -/
structure FileTree where
  /-- The names of the working folder, outermost first. -/
  working : List String
  /-- What there is, apart from the root and the working folder. -/
  entries : KeyMap FileEntry

namespace FileTree

/-- An empty working folder. -/
def empty : FileTree := ⟨["tmp", "work"], .empty⟩

/-! ## Paths -/

/-- The names of a path; empty ones are dropped. -/
def namesOf (path : String) : List String :=
  ((Text.cutAt '/' path.toList).filter (!·.isEmpty)).map String.ofList

/-- A list of names as one path. -/
def joined (names : List String) : String := "/".intercalate names

/-- What stands at a place, given by its names. -/
def entryAt? (tree : FileTree) (names : List String) : Option FileEntry :=
  if names.isPrefixOf tree.working then some .folder else tree.entries.get? (joined names)

/-- The place that a name leads to from a folder. -/
def child (folder : List String) (name : String) : List String :=
  if name = "." then folder else if name = ".." then folder.dropLast else folder ++ [name]

/-- Follows names from a folder, and gives the place of the last one, which need not exist;
`folder` is the place reached so far. -/
def follow (tree : FileTree) (folder : List String) :
    List String → Except FileFault (List String)
  | [] => .ok folder
  | name :: rest =>
    match tree.entryAt? folder with
    | none => .error .missing
    | some (.file _) => .error .notFolder
    | some .folder =>
      if 255 < name.utf8ByteSize then .error .nameTooLong
      else follow tree (child folder name) rest

/-- The folder in which a path starts. -/
def startOf (tree : FileTree) (path : String) : List String :=
  if path.startsWith "/" then [] else tree.working

/-- A path that ends in `/`, in `.` or in `..` means a folder. -/
def meansFolder (path : String) : Bool :=
  path.endsWith "/" || (namesOf path).getLast? = some "." || (namesOf path).getLast? = some ".."

/-- What is wrong with a path as such. -/
def pathFault? (path : String) : Option FileFault :=
  if path.toList.contains '\x00' then some .nulInName
  else if path.isEmpty then some .missing
  else if 4096 ≤ path.utf8ByteSize then some .nameTooLong
  else none

/-- The place that a path leads to. -/
def locate (tree : FileTree) (path : String) : Except FileFault (List String) :=
  match pathFault? path with
  | some fault => .error fault
  | none => tree.follow (tree.startOf path) (namesOf path)

/-! ## Reading and writing -/

/-- The bytes of a file. -/
def readBytes (tree : FileTree) (path : String) : Except FileFault ByteArray := do
  let place ← tree.locate path
  match tree.entryAt? place with
  | none => throw .missing
  | some .folder => throw .isFolder
  | some (.file content) => if meansFolder path then throw .notFolder else return content

/-- The text of a file. -/
def readText (tree : FileTree) (path : String) : Except FileFault String := do
  match String.fromUTF8? (← tree.readBytes path) with
  | some text => return text
  | none => throw .notText

/-- Writes a file in a folder that exists. -/
def write (tree : FileTree) (path : String) (content : ByteArray) :
    Except FileFault FileTree := do
  let place ← tree.locate path
  match tree.entryAt? place with
  | some .folder => throw .isFolder
  | _ =>
    if meansFolder path then throw .isFolder
    else return { tree with entries := tree.entries.insert (joined place) (.file content) }

/-- Drops a file; `none` if there is none at the path. -/
def remove? (tree : FileTree) (path : String) : Option FileTree :=
  match tree.locate path with
  | .error _ => none
  | .ok place =>
    match tree.entryAt? place with
    | some (.file _) =>
      if meansFolder path then none
      else some { tree with entries := tree.entries.erase (joined place) }
    | _ => none

/-- Writes a file where that can be done, and leaves the tree as it is elsewhere. -/
def writeIfPossible (tree : FileTree) (path : String) (content : ByteArray) : FileTree :=
  (tree.write path content).toOption.getD tree

/-! ## Folders -/

/-- Goes along names from a folder and makes the folders that do not exist, until a name is
that of a file or too long. -/
def makeAlong (tree : FileTree) (folder : List String) : List String → FileTree
  | [] => tree
  | name :: rest =>
    if 255 < name.utf8ByteSize then tree
    else
      let place := child folder name
      match tree.entryAt? place with
      | some .folder => makeAlong tree place rest
      | some (.file _) => tree
      | none =>
        makeAlong { tree with entries := tree.entries.insert (joined place) .folder } place rest

/-- The names of a path that a folder can be made for. A `.` at the end speaks of a folder
that is there, so the name before it is not one of them. -/
def namesToMake (path : String) : List String :=
  let names := namesOf path
  if names.getLast? = some "." then
    ((names.reverse.dropWhile (· = ".")).drop 1).reverse
  else names

/-- Makes a folder and those around it, as far as that can be done. -/
def makeFolders (tree : FileTree) (path : String) : FileTree :=
  match pathFault? path with
  | some _ => tree
  | none => tree.makeAlong (tree.startOf path) (namesToMake path)

/-- The places that a path passes, one for each of its names. -/
def placesOn (tree : FileTree) (path : String) : List (List String) :=
  let names := namesOf path
  (List.range names.length).map fun n => (names.take (n + 1)).foldl child (tree.startOf path)

/-! ## Listing -/

/-- The names below the working folder; that of a folder ends in `/`. -/
def list (tree : FileTree) : List String :=
  let root := joined tree.working ++ "/"
  let names := tree.entries.entries.filterMap fun e =>
    if e.1.startsWith root then
      let name := String.ofList (e.1.toList.drop root.length)
      some (match e.2 with
        | .folder => name ++ "/"
        | .file _ => name)
    else none
  names.mergeSort (fun a b => a ≤ b)

end FileTree

end SessionTasks
