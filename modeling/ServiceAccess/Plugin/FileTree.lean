import ServiceAccess.Failure
import ServiceAccess.Table
import ServiceAccess.Text.Path

/-! # File trees

The files and directories that loading reads, by normalised path. A path that ends in a slash can only
name a directory. -/

namespace ServiceAccess

/-- Files with their text, and directories. -/
structure FileTree where
  /-- The texts of the files. -/
  files : Table String String
  /-- The directories. -/
  directories : List String

namespace FileTree

/-- The tree that holds given files and directories, and every directory above them. -/
def ofPaths (files : Table String String) (directories : List String) : FileTree :=
  let above := (files.keys ++ directories).flatMap Text.Path.ancestors
  ⟨files, (directories ++ above).eraseDups⟩

/-- Whether a path names a file. -/
def isFile (t : FileTree) (path : String) : Bool := t.files.contains path

/-- Whether a path names a directory. -/
def isDirectory (t : FileTree) (path : String) : Bool := t.directories.contains (Text.Path.withoutSlash path)

/-- Whether a path names anything. -/
def contains (t : FileTree) (path : String) : Bool := t.isFile path || t.isDirectory path

/-- The directories directly inside a directory. -/
def subdirectories (t : FileTree) (path : String) : List String :=
  t.directories.filter fun d => (Text.Path.ancestors d).getLast? = some (Text.Path.withoutSlash path)

/-- The text of a file. A directory has none. -/
def read (t : FileTree) (path : String) : Except Failure String :=
  match t.files.get? path with
  | some text => .ok text
  | none =>
    if t.isDirectory path then
      .error (.service (.plain "EISDIR: illegal operation on a directory, read"))
    else .error (.service (.plain ("ENOENT: no such file or directory, open '" ++ path ++ "'")))

end FileTree

end ServiceAccess
