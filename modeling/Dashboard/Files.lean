import Dashboard.Text.Split

/-!
# Files

The files that a command may read, as they lie below its working directory. A path is walked part by
part: `.` stays, `..` goes up, and only directories can be walked through. Nothing is known of what
lies outside of the working directory, and nothing is found there.
-/

namespace Dashboard

/-- Why a file cannot be read. -/
inductive ReadError where
  | notFound
  | isDirectory
  | notDirectory
  | nameTooLong
  | nulInName
  | notText
  deriving DecidableEq, Repr

namespace ReadError

def message : ReadError → String
  | notFound => "No such file or directory (os error 2)"
  | isDirectory => "Is a directory (os error 21)"
  | notDirectory => "Not a directory (os error 20)"
  | nameTooLong => "File name too long (os error 36)"
  | nulInName => "file name contained an unexpected NUL byte"
  | notText => "stream did not contain valid UTF-8"

end ReadError

/-- What a program can learn of files by their paths. -/
structure FileAccess where
  isFile : String → Bool
  read : String → Except ReadError String

namespace FileAccess

/-- Access to files that have been read before. No other file is there. -/
def ofContents (contents : List (String × Except ReadError String)) : FileAccess where
  isFile path := match contents.lookup path with
    | some (.ok _) | some (.error .notText) => true
    | _ => false
  read path := (contents.lookup path).getD (.error .notFound)

end FileAccess

/-- What a file holds. -/
inductive FileContent where
  | text (s : String)
  | bytes (b : List UInt8)

namespace FileContent

def read : FileContent → Except ReadError String
  | text s => .ok s
  | bytes b =>
    match String.fromUTF8? ⟨b.toArray⟩ with
    | some s => .ok s
    | none => .error .notText

end FileContent

/-- Files under their paths below the working directory. -/
structure FileTree where
  files : List (List String × FileContent)

/-- What a path leads to. -/
inductive Place where
  | directory (path : List String)
  | file (content : FileContent)
  /-- Above the working directory. -/
  | outside

namespace FileTree

def parts (path : String) : List String := (Text.split '/' path.toList).map String.ofList

def ofNames (files : List (String × FileContent)) : FileTree :=
  ⟨files.map fun f => ((parts f.1).filter fun p => p != "" && p != ".", f.2)⟩

def step (t : FileTree) (place : Place) (part : String) : Except ReadError Place :=
  match place with
  | .file _ => .error .notDirectory
  | .outside =>
    if part = "" || part = "." || part = ".." then .ok .outside
    else if 255 < part.utf8ByteSize then .error .nameTooLong
    else .error .notFound
  | .directory path =>
    if part = "" || part = "." then .ok place
    else if part = ".." then .ok (if path.isEmpty then .outside else .directory path.dropLast)
    else if 255 < part.utf8ByteSize then .error .nameTooLong
    else
      let next := path ++ [part]
      match t.files.find? (·.1 == next) with
      | some (_, content) => .ok (.file content)
      | none =>
        if t.files.any fun f => next.isPrefixOf f.1 then .ok (.directory next)
        else .error .notFound

/-- What a path leads to. A path that starts with a slash leads outside. -/
def walk (t : FileTree) (path : String) : Except ReadError Place :=
  if path.isEmpty then .error .notFound
  else if path.toList.contains '\x00' then .error .nulInName
  else if 4096 ≤ path.utf8ByteSize then .error .nameTooLong
  else
    let start := if path.toList.head? = some '/' then Place.outside else .directory []
    (parts path).foldlM t.step start

def read (t : FileTree) (path : String) : Except ReadError String :=
  match t.walk path with
  | .error e => .error e
  | .ok (.file content) => content.read
  | .ok _ => .error .isDirectory

def isFile (t : FileTree) (path : String) : Bool :=
  match t.walk path with
  | .ok (.file _) => true
  | _ => false

def access (t : FileTree) : FileAccess := ⟨t.isFile, t.read⟩

end FileTree

end Dashboard
