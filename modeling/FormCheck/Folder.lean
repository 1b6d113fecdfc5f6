import FormCheck.Failure
import FormCheck.Table
import FormCheck.Text.Split

/-!
# Files in a folder

A folder holds files and other folders by path.  A path leads from the folder to one of
them, or nowhere.  Parts of a path that stay where they are do not count, and neither does a
stroke at its end.  The folders around a folder, and the root, are always there.

What is there need not be open to everybody: at some paths one may not even look, perhaps
because their names are too long, and some files must not be read.
-/

namespace FormCheck

/-- Files, as octets, and folders by their paths in short; and why one cannot look at a
path, or cannot read a file that is there. -/
structure Folder where
  files : Table (List UInt8)
  folders : List String
  hidden : Table HostFault
  locked : Table HostFault

namespace Path

/-- The parts of a path that count. -/
def parts (path : String) : List String :=
  ((Text.pieces '/' path.toList).map String.ofList).filter fun part => part != "" && part != "."

/-- The strokes at the beginning of a path that starts from the root; more than two count
as one. -/
def root (path : String) : String :=
  match path.toList with
  | '/' :: '/' :: '/' :: _ => "/"
  | '/' :: '/' :: _ => "//"
  | '/' :: _ => "/"
  | _ => ""

def normalised (path : String) : String :=
  let short := root path ++ "/".intercalate (parts path)
  if short.isEmpty then "." else short

end Path

namespace Folder

/-- What a path leads to. -/
inductive Found where
  | missing
  | hidden (fault : HostFault)
  | locked (fault : HostFault)
  | folder
  | file (content : List UInt8)

/-- The folder with nothing but files in it. -/
def ofFiles (files : List (String × List UInt8)) : Folder :=
  ⟨.ofList files, [], .empty, .empty⟩

def find (folder : Folder) (path : String) : Found :=
  let short := Path.normalised path
  match folder.hidden.get? short, folder.locked.get? short, folder.files.get? short with
  | some fault, _, _ => .hidden fault
  | none, some fault, _ => .locked fault
  | none, none, some content => .file content
  | none, none, none =>
      if folder.folders.contains short || (Path.parts path).all (· == "..") then
        .folder
      else
        .missing

/-- The content of a file.  `path` is the path that led to the file. -/
def contentOf (path : String) : Found → Except Failure (List UInt8)
  | .file content => .ok content
  | .hidden fault | .locked fault => .error (.file (.barred fault))
  | .folder | .missing => .error (.file (.directory path))

/-- A text in which every way of ending a line is a line feed. -/
def withLineFeeds : List Char → List Char
  | [] => []
  | '\r' :: '\n' :: rest => '\n' :: withLineFeeds rest
  | '\r' :: rest => '\n' :: withLineFeeds rest
  | c :: rest => c :: withLineFeeds rest

/-- The text that octets write; a line feed ends every line. -/
def textOf (content : List UInt8) : Except Utf8.Fault (List Char) :=
  (Utf8.decode content).map withLineFeeds

end Folder

end FormCheck
