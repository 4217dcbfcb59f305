import Connexive.Text.Quoted
import Connexive.Text.Lines

namespace Connexive

/-! The files that a program can reach, under the paths by which it names them. -/

namespace Path

def parts (path : String) : List String :=
  ((Text.split '/' path.toList).map String.ofList).filter fun part => part != "" && part != "."

/-- The slashes that lead an absolute path. Two of them, and no more, mean something else than
one. -/
def root (path : String) : String :=
  match path.toList with
  | '/' :: '/' :: '/' :: _ => "/"
  | '/' :: '/' :: _ => "//"
  | '/' :: _ => "/"
  | _ => ""

/-- The path without empty parts and without those that stay in place. -/
def normalise (path : String) : String :=
  let text := root path ++ "/".intercalate (parts path)
  if text.isEmpty then "." else text

/-- Whether a path leads nowhere but to where it starts or upwards, where folders are. -/
def isOutward (path : String) : Bool :=
  (parts path).all (· == "..")

/-- The most bytes of a name in a folder. -/
def nameLimit : Nat := 255

/-- The most bytes of a path. -/
def lengthLimit : Nat := 4095

/-- The folder in which a path looks for a name that is too long, if it does so. -/
def beforeLongName? (path : String) : Option String :=
  let short := (parts path).takeWhile fun part => part.utf8ByteSize ≤ nameLimit
  if short.length = (parts path).length then none
  else some (normalise (root path ++ "/".intercalate short))

/-- Whether the first path passes through the second. -/
def isBelow (path ancestor : String) : Bool :=
  (ancestor ++ "/").toList.isPrefixOf path.toList

end Path

/-- The texts of the files and the names of the folders inside, all under normal paths. -/
structure Folder where
  files : List (String × String)
  folders : List String

inductive Entry
  | file (text : String)
  | folder
  | missing
  | belowFile
  | nameTooLong
  deriving DecidableEq

/-- Why a path cannot be read as a file. -/
inductive FileFault
  | missing (path : String)
  | isFolder (path : String)
  | belowFile (path : String)
  | nameTooLong (path : String)
  | nullCharacter

def FileFault.message : FileFault → String
  | missing path => "[Errno 2] No such file or directory: " ++ Text.quote path
  | isFolder path => "[Errno 21] Is a directory: " ++ Text.quote path
  | belowFile path => "[Errno 20] Not a directory: " ++ Text.quote path
  | nameTooLong path => "[Errno 36] File name too long: " ++ Text.quote path
  | nullCharacter => "embedded null byte"

namespace Folder

def ofFiles (files : List (String × String)) : Folder := ⟨files, []⟩

/-- Whether a normal path is one of a folder. -/
def isFolder (folder : Folder) (path : String) : Bool :=
  Path.isOutward path || folder.folders.contains path || folder.files.any (Path.isBelow ·.1 path)

/-- Whether the way along a path comes to a folder in which a name is looked for that is too
long. -/
def meetsLongName (folder : Folder) (path : String) : Bool :=
  (Path.beforeLongName? path).elim false folder.isFolder

/-- What is found at a normal path. No name holds the null character. -/
def entry (folder : Folder) (path : String) : Entry :=
  if path.toList.contains '\x00' then .missing
  else if Path.lengthLimit < path.utf8ByteSize || folder.meetsLongName path then .nameTooLong
  else
    match folder.files.lookup path with
    | some text => .file text
    | none =>
      if folder.isFolder path then .folder
      else if folder.files.any (Path.isBelow path ·.1) then .belowFile
      else .missing

/-- Whether there is anything at a normal path. -/
def holds (folder : Folder) (path : String) : Bool :=
  match folder.entry path with
  | .file _ | .folder => true
  | .missing | .belowFile | .nameTooLong => false

/-- The text of the file at a normal path. -/
def read (folder : Folder) (path : String) : Except FileFault String :=
  if path.toList.contains '\x00' then .error .nullCharacter
  else
    match folder.entry path with
    | .file text => .ok text
    | .folder => .error (.isFolder path)
    | .missing => .error (.missing path)
    | .belowFile => .error (.belowFile path)
    | .nameTooLong => .error (.nameTooLong path)

end Folder

end Connexive
