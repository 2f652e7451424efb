import BlockTree.Entries
import BlockTree.Text.Quoted
import BlockTree.Text.Utf8

/-!
Files under a common folder, as plain data.

* `Path`: a path by its parts, with its name, stem and suffix; two dots lead back to the folder
  around;
* `FileTree`: the contents of files by path; a folder exists if a file lies in it;
* `FileTree.read` and `FileTree.write` with the ways in which they fail.
-/

namespace BlockTree

/-- A path: its parts, counted from the common folder or from the root of all files. -/
structure Path where
  absolute : Bool
  parts : List Text
  deriving DecidableEq, Repr

namespace Path

/-- The path that a text names: empty parts and single dots count for nothing. -/
def ofText (text : Text) : Path where
  absolute := text.head? = some '/'
  parts := (Text.splitOn '/' text).filter fun part => !part.isEmpty && part ≠ ['.']

/-- The text of a path. -/
def text (path : Path) : Text :=
  if path.absolute then '/' :: Text.join "/" path.parts
  else if path.parts.isEmpty then ['.']
  else Text.join "/" path.parts

/-- The last part of a path. -/
def name (path : Path) : Text :=
  path.parts.getLastD []

/-- The folder that a path lies in. -/
def parent (path : Path) : Path :=
  { path with parts := path.parts.dropLast }

/-- The folders on the way to a path, and the path. -/
def stations (path : Path) : List Path :=
  (List.range path.parts.length).map fun n => { path with parts := path.parts.take (n + 1) }

/-- The name without its suffix, and the suffix with its dot: there is none without characters on
both sides of the dot. -/
def stemAndSuffix (path : Path) : Text × Text :=
  match Text.cut? '.' path.name.reverse with
  | some (c :: suffix, d :: stem) => ((d :: stem).reverse, '.' :: (c :: suffix).reverse)
  | _ => (path.name, [])

/-- The name without its suffix. -/
def stem (path : Path) : Text :=
  path.stemAndSuffix.1

/-- The suffix of the name with its dot. -/
def suffix (path : Path) : Text :=
  path.stemAndSuffix.2

end Path

/-- The path of a part in a folder. -/
def Path.child (path : Path) (part : Text) : Path :=
  { path with parts := path.parts ++ [part] }

/-- The part of a path that leads back to the folder around. -/
def Path.back : Text := ['.', '.']

/-- The folder around a folder; the root of all files is its own. -/
def Path.outer (path : Path) : Path :=
  if path.parts.all (· = Path.back) then
    if path.absolute then path else path.child Path.back
  else path.parent

/-- Why a file cannot be read or written. -/
inductive FileFault where
  | missing (path : Text)
  | alreadyThere (path : Text)
  | notAFolder (path : Text)
  | isAFolder (path : Text)
  | nameTooLong (path : Text)
  | nullInName
  | undecodable (fault : Utf8.Fault)
  deriving DecidableEq, Repr

/-- The wording of a fault. -/
def FileFault.message : FileFault → Text
  | .missing path => "[Errno 2] No such file or directory: " ++ Text.quote path
  | .alreadyThere path => "[Errno 17] File exists: " ++ Text.quote path
  | .notAFolder path => "[Errno 20] Not a directory: " ++ Text.quote path
  | .isAFolder path => "[Errno 21] Is a directory: " ++ Text.quote path
  | .nameTooLong path => "[Errno 36] File name too long: " ++ Text.quote path
  | .nullInName => "embedded null byte"
  | .undecodable fault => fault.message

/-- The contents of files by the text of their paths. -/
abbrev FileTree := Entries Octets

namespace FileTree

/-- The contents of a file. -/
def file? (tree : FileTree) (path : Path) : Option Octets :=
  Entries.find? path.text tree

/-- The path names the common folder, one around it, or a folder with a file in it. -/
def isFolder (tree : FileTree) (path : Path) : Bool :=
  path.parts.all (· = Path.back)
    || tree.any fun entry => (entry.1.after? (path.text ++ ['/'])).isSome

/-! ### Ways through the folders -/

/-- What ends a way through the folders. -/
inductive Obstacle where
  | missing
  | notAFolder
  | nameTooLong
  deriving DecidableEq, Repr

/-- The fault of a path with an obstacle on its way. -/
def Obstacle.fault (path : Path) : Obstacle → FileFault
  | .missing => .missing path.text
  | .notAFolder => .notAFolder path.text
  | .nameTooLong => .nameTooLong path.text

/-- The greatest length of a name, in octets. -/
def nameLimit : Nat := 255

/-- The greatest length of a path, in octets. -/
def pathLimit : Nat := 4095

/-- Where parts lead to from a folder. Missing folders on the way may be taken to be there. -/
def follow (tree : FileTree) (making : Bool) (here : Path) : List Text → Except Obstacle Path
  | [] => .ok here
  | part :: rest =>
    if part = Path.back then follow tree making here.outer rest
    else if nameLimit < (Utf8.encode part).length then .error .nameTooLong
    else
      let next := here.child part
      if rest.isEmpty then .ok next
      else if (tree.file? next).isSome then .error .notAFolder
      else if making || tree.isFolder next then follow tree making next rest
      else .error .missing

/-- Where a path leads to. -/
def locate (tree : FileTree) (making : Bool) (path : Path) : Except FileFault Path :=
  if path.text.contains '\x00' then .error .nullInName
  else if pathLimit < (Utf8.encode path.text).length then .error (.nameTooLong path.text)
  else
    match tree.follow making { path with parts := [] } path.parts with
    | .ok target => .ok target
    | .error obstacle => .error (obstacle.fault path)

/-! ### Reading and writing -/

/-- The path names a file or a folder. Only a name that is too long is a fault. -/
def exists? (tree : FileTree) (path : Path) : Except FileFault Bool :=
  match tree.locate false path with
  | .ok target => .ok ((tree.file? target).isSome || tree.isFolder target)
  | .error (.nameTooLong text) => .error (.nameTooLong text)
  | .error _ => .ok false

/-- The contents of a file as a text with line feeds. -/
def read (tree : FileTree) (path : Path) : Except FileFault Text :=
  match tree.locate false path with
  | .error fault => .error fault
  | .ok target =>
    match tree.file? target with
    | some octets =>
      match Utf8.decode octets with
      | .ok text => .ok (Text.readLines text)
      | .error fault => .error (.undecodable fault)
    | none => .error (if tree.isFolder target then .isAFolder path.text else .missing path.text)

/-- Writes a text to a file, in a folder that is made if it is not there. -/
def write (tree : FileTree) (path : Path) (text : Text) : Except FileFault FileTree :=
  match tree.locate true path.parent with
  | .error fault => .error fault
  | .ok folder =>
    if (tree.file? folder).isSome then .error (.alreadyThere path.parent.text)
    else
      match tree.locate true path with
      | .error fault => .error fault
      | .ok target =>
        if tree.isFolder target then .error (.isAFolder path.text)
        else .ok (Entries.insert target.text (Utf8.encode text) tree)

/-- The files that are new in a tree, or have other contents than in an older one. -/
def changes (old new : FileTree) : FileTree :=
  new.filter fun entry => Entries.find? entry.1 old ≠ some entry.2

end FileTree

end BlockTree
