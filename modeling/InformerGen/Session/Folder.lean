import InformerGen.Session

/-! Folders that manifests are read from. -/
namespace InformerGen

/-- Files by the path to them, one name for each folder on the way. -/
structure Folder where
  files : List (List String × ByteArray)

namespace Folder

def names (path : String) : List String :=
  (Text.pieces '/' path).filter fun name => name != "" && name != "."

def hasFolder (folder : Folder) (path : List String) : Bool :=
  path.isEmpty || folder.files.any fun file => path.isPrefixOf file.1 && path != file.1

def file? (folder : Folder) (path : List String) : Option ByteArray := folder.files.lookup path

inductive Target where
  | file (content : ByteArray)
  | folder (path : List String)
  | outside

/-- Follows names from a folder. Only folders lead on, and two dots lead back. -/
def follow (folder : Folder) : Target → List String → Except ReadFailure Target
  | target, [] => .ok target
  | .file _, _::_ => .error .notADirectory
  | .outside, name::rest =>
    if name = ".." then folder.follow .outside rest else .error .notFound
  | .folder path, name::rest =>
    if name = ".." then
      folder.follow (if path.isEmpty then .outside else .folder path.dropLast) rest
    else
      let next := path ++ [name]
      match folder.file? next with
      | some content => folder.follow (.file content) rest
      | none =>
        if folder.hasFolder next then folder.follow (.folder next) rest else .error .notFound

/-- A path that ends in a slash or a dot means a folder. -/
def meansFolder (path : String) : Bool := ["","."].contains (Text.lastPiece '/' path)

def bytes (folder : Folder) (path : String) : Except ReadFailure ByteArray :=
  if path = "" then .error .notFound
  else
    let start := if path.toList.head? = some '/' then Target.outside else .folder []
    match folder.follow start (names path) with
    | .error failure => .error failure
    | .ok (.file content) => if meansFolder path then .error .notADirectory else .ok content
    | .ok _ => .error .isADirectory

def read (folder : Folder) (path : String) : Except ReadFailure String :=
  match folder.bytes path with
  | .error failure => .error failure
  | .ok content =>
    match String.fromUTF8? content with
    | some text => .ok text
    | none => .error .notUtf8

def openSession (folder : Folder) (path : String) : Except SessionError (Option Session) :=
  Session.load path (folder.read path)

end Folder

end InformerGen
