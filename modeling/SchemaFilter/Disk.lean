import SchemaFilter.Text.Pieces

/-!
# Files

A `Disk` holds texts under paths and knows which folders there are. A folder exists if it has been
made or if a file lies in it. Relative paths start at the working folder; the folders above it
exist, and of their files only those are known that have been given by such a path.
-/

namespace SchemaFilter

/-- Files and folders. -/
structure Disk where
  files : List (List String × String)
  folders : List (List String) := []
deriving Repr, Inhabited

inductive ReadError where
  | missing
  /-- The path names a folder, or leads through a file. -/
  | unreadable
deriving DecidableEq, Repr

inductive Place where
  | file (path : List String) (text : String)
  | folder (path : List String)

namespace Disk

/-- The name in front of absolute paths. -/
def top : String := "/"

/-- Whether a place is the working folder or lies above it. -/
def isAbove (path : List String) : Bool :=
  path.all (· == "..")

/-- The folder that holds a folder. The top holds itself. -/
def parent (folder : List String) : List String :=
  if folder == [top] then folder
  else if isAbove folder then folder ++ [".."]
  else folder.dropLast

def isFolder (d : Disk) (path : List String) : Bool :=
  isAbove path || path == [top] || d.folders.contains path ||
    d.files.any fun (p, _) => path.isPrefixOf p && path.length < p.length

/-- Follows names from a folder on. -/
def follow (d : Disk) : (folder : List String) → List String → Except ReadError Place
  | folder, [] => .ok (.folder folder)
  | folder, name :: rest =>
    if name = "" ∨ name = "." then follow d folder rest
    else if name = ".." then follow d (parent folder) rest
    else
      let path := folder ++ [name]
      if d.isFolder path then follow d path rest
      else
        match List.lookup path d.files with
        | some text => if rest.isEmpty then .ok (.file path text) else .error .unreadable
        | none => .error .missing

/-- The names of a path, and the folder where it starts. -/
def split (path : String) : List String × List String :=
  let names := (Text.pieces '/' path.toList).map String.ofList
  match path.toList with
  | '/' :: _ => ([top], names)
  | _ => ([], names)

/-- What a path names. The empty path names nothing. -/
def place (d : Disk) (path : String) : Except ReadError Place :=
  if path.isEmpty then .error .missing
  else
    let (start, names) := split path
    d.follow start names

def read (d : Disk) (path : String) : Except ReadError String :=
  match d.place path with
  | .ok (.file _ text) => .ok text
  | .ok (.folder _) => .error .unreadable
  | .error e => .error e

def has (d : Disk) (path : String) : Bool :=
  (d.place path).toBool

/-- The names of a path that name something. -/
def parts (path : String) : List String × List String :=
  let (start, names) := split path
  (start, names.filter fun name => name != "" && name != ".")

/-- Makes the folders of a path that are missing, and answers with the last of them. -/
def makeFolders (d : Disk) : (folder : List String) → List String → Option (Disk × List String)
  | folder, [] => some (d, folder)
  | folder, name :: rest =>
    if name = ".." then makeFolders d (parent folder) rest
    else
      let path := folder ++ [name]
      if d.isFolder path then makeFolders d path rest
      else if (List.lookup path d.files).isSome then none
      else makeFolders { d with folders := path :: d.folders } path rest

def put (d : Disk) (path : List String) (text : String) : Disk :=
  if (List.lookup path d.files).isSome then
    { d with files := d.files.map fun (p, t) => if p = path then (p, text) else (p, t) }
  else { d with files := d.files ++ [(path, text)] }

inductive WriteError where
  | noFolder
  | noFile
deriving DecidableEq, Repr

/-- Writes a text, after making the folders that lead to it. -/
def write (d : Disk) (path text : String) : Except WriteError Disk :=
  let (start, names) := parts path
  match names.reverse with
  | [] => .error .noFile
  | name :: before =>
    match d.makeFolders start before.reverse with
    | none => .error .noFolder
    | some (d, folder) =>
      let target := folder ++ [name]
      let last := ((split path).2.getLast?).getD ""
      if name = ".." ∨ last = "" ∨ last = "." ∨ d.isFolder target then .error .noFile
      else .ok (d.put target text)

/-- Adds a file and the folders that lead to it, if that is possible. -/
def add (d : Disk) (path text : String) : Disk :=
  match d.write path text with
  | .ok d => d
  | .error _ => d

/-- Adds a folder and those that lead to it, if that is possible. -/
def addFolder (d : Disk) (path : String) : Disk :=
  let (start, names) := parts path
  match d.makeFolders start names with
  | some (d, _) => d
  | none => d

/-- Files given by their paths. -/
def ofFiles (files : List (String × String)) : Disk :=
  files.foldl (fun d (path, text) => d.add path text) ⟨[], []⟩

/-- The path up to its last name. -/
def folderPath (path : String) : String :=
  String.ofList ((path.toList.reverse.dropWhile (· != '/')).dropWhile (· == '/')).reverse

end Disk

end SchemaFilter
