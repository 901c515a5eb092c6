import MarketSnapshot.Text.SystemForm
import MarketSnapshot.Value.Display

namespace MarketSnapshot

inductive FileNode where
  | file
  | directory (entries : List (Text × FileNode))

abbrev Place := List Text

namespace FileNode

def at? (node : FileNode) : Place → Option FileNode
  | [] => some node
  | name :: rest =>
    match node with
    | .file => none
    | .directory entries => (Table.find? entries name).bind fun below => below.at? rest

def put (node : FileNode) (place : Place) (new : FileNode) : FileNode :=
  match place with
  | [] => new
  | name :: rest =>
    match node with
    | .file => .file
    | .directory entries =>
      let below := (Table.find? entries name).getD (.directory [])
      .directory (Table.put entries name (below.put rest new))

mutual

def files : FileNode → List Place
  | .file => [[]]
  | .directory entries => filesOfEntries entries

def filesOfEntries : List (Text × FileNode) → List Place
  | [] => []
  | (name, node) :: rest => (files node).map (name :: ·) ++ filesOfEntries rest

end

end FileNode

inductive FileFault where
  | missing (path : Text)
  | exists (path : Text)
  | notDirectory (path : Text)
  | isDirectory (path : Text)
  | tooLong (path : Text)
  | refused (number : Nat) (reason : String) (path : Text)
  | tooDeep
  | noSystemForm (fault : Text.SystemFault)
  | nullCharacter
  | noText
deriving DecidableEq

namespace FileFault

def message : FileFault → String
  | .missing path => "[Errno 2] No such file or directory: " ++ path.quoted
  | .exists path => "[Errno 17] File exists: " ++ path.quoted
  | .notDirectory path => "[Errno 20] Not a directory: " ++ path.quoted
  | .isDirectory path => "[Errno 21] Is a directory: " ++ path.quoted
  | .tooLong path => "[Errno 36] File name too long: " ++ path.quoted
  | .refused number reason path =>
    "[Errno " ++ toString number ++ "] " ++ reason ++ ": " ++ path.quoted
  | .tooDeep => "maximum recursion depth exceeded while calling a Python object"
  | .noSystemForm fault => fault.message
  | .nullCharacter => "embedded null byte"
  | .noText => Value.noText

def ofPath? (path : Text) : Option FileFault :=
  match path.systemFault? with
  | some fault => some (.noSystemForm fault)
  | none => if path.hasNull then some .nullCharacter else none

end FileFault

structure FilePath where
  root : Text
  parts : List Text
deriving DecidableEq

namespace FilePath

def slash : Glyph := .char '/'

def up : Text := ".."

def splitSlashes : List Glyph → List Text
  | [] => [[]]
  | g :: rest =>
    if g = slash then [] :: splitSlashes rest
    else
      match splitSlashes rest with
      | [] => [[g]]
      | part :: parts => (g :: part) :: parts

/-- Exactly two slashes at the start stay two, more of them count as one. -/
def rootOf (t : Text) : Text :=
  match (t.takeWhile (· = slash)).length with
  | 0 => []
  | 2 => [slash, slash]
  | _ => [slash]

def ofText (t : Text) : FilePath :=
  ⟨rootOf t, (splitSlashes t).filter fun part => part ≠ [] ∧ part ≠ Text.ofString "."⟩

def joined (parts : List Text) : Text := List.flatten (parts.intersperse [slash])

def text (path : FilePath) : Text :=
  if path.root = [] ∧ path.parts = [] then "." else path.root ++ joined path.parts

def folder (path : FilePath) : FilePath := { path with parts := path.parts.dropLast }

end FilePath

structure FileTree where
  top : FileNode
  working : Place
  /-- Where nothing can be made or opened, although the nodes would allow it, and the fault that
  this gives for a path that leads there. -/
  refuses : Place → Option (Text → FileFault)

namespace FileTree

def bare : FileTree := ⟨.directory [], [], fun _ => none⟩

def way (tree : FileTree) (path : FilePath) : List Text :=
  if path.root = [] then tree.working ++ path.parts else path.parts

def nameLimit : Nat := 255

def pathLimit : Nat := 4096

inductive Walk where
  | at (place : Place) (node : Option FileNode)
  | missing
  | notDirectory
  | tooLong

/-- Walks along names. All nodes on the way have to be directories. `trail` holds the names passed,
the last one first, each with the directory that it was looked up in. -/
def walkFrom (trail : List (Text × FileNode)) (node : Option FileNode) : List Text → Walk
  | [] => .at (trail.map Prod.fst).reverse node
  | name :: rest =>
    match node with
    | none => .missing
    | some .file => .notDirectory
    | some (.directory entries) =>
      if name = FilePath.up then
        match trail with
        | [] => walkFrom [] node rest
        | (_, above) :: trail => walkFrom trail (some above) rest
      else if nameLimit < name.systemSize then .tooLong
      else walkFrom ((name, .directory entries) :: trail) (Table.find? entries name) rest

def makeDirectory (tree : FileTree) (path : FilePath) : Except FileFault FileTree :=
  if pathLimit ≤ path.text.systemSize then .error (.tooLong path.text)
  else
    match walkFrom [] (some tree.top) ((tree.way path).map Text.systemName) with
    | .missing => .error (.missing path.text)
    | .notDirectory => .error (.notDirectory path.text)
    | .tooLong => .error (.tooLong path.text)
    | .at _ (some (.directory _)) => .ok tree
    | .at _ (some .file) => .error (.exists path.text)
    | .at place none =>
      match tree.refuses place with
      | some fault => .error (fault path.text)
      | none => .ok { tree with top := tree.top.put place (.directory []) }

def attempt (tree : FileTree) (path : FilePath) : FileTree × Option FileFault :=
  match tree.makeDirectory path with
  | .ok made => (made, none)
  | .error fault => (tree, some fault)

def missingLimit : Nat := 987

/-- Makes the directory at the end of the parts, which are listed from the last to the first, and
those on the way if they are missing, for so many levels at most. -/
def makeDirectories (tree : FileTree) (root : Text) (levels : Nat) :
    List Text → FileTree × Option FileFault
  | [] => (tree, none)
  | part :: above =>
    let path : FilePath := ⟨root, (part :: above).reverse⟩
    match levels with
    | 0 => (tree, some .tooDeep)
    | levels + 1 =>
      match tree.attempt path with
      | (tree, some (.missing _)) =>
        match makeDirectories tree root levels above with
        | (tree, none) => tree.attempt path
        | failed => failed
      | result => result

/-- The names from the top to where a path leads, read off the names alone. -/
def plainWay (tree : FileTree) (path : FilePath) : List Text :=
  (tree.way path).foldl
    (fun names name => if name = FilePath.up then names.dropLast else names ++ [name]) []

def fullText (path : FilePath) (names : List Text) : Text :=
  (if path.root = [] then [FilePath.slash] else path.root) ++ FilePath.joined names

def openFile (tree : FileTree) (path : FilePath) : Except FileFault (FileTree × Place) :=
  let names := tree.plainWay path
  let full := fullText path names
  match FileFault.ofPath? full with
  | some fault => .error fault
  | none =>
    let place : Place := names.map Text.systemName
    if pathLimit ≤ full.systemSize ∨ place.any (nameLimit < ·.systemSize) then
      .error (.tooLong full)
    else
      match tree.top.at? place, tree.refuses place with
      | some (.directory _), _ => .error (.isDirectory full)
      | _, some fault => .error (fault full)
      | some .file, none => .ok (tree, place)
      | none, none => .ok ({ tree with top := tree.top.put place .file }, place)

/-- Opens a file after making the directory that holds it. Directories that were made stay if a
later step fails. -/
def create (tree : FileTree) (name : Text) : FileTree × Except FileFault Place :=
  let path := FilePath.ofText name
  match FileFault.ofPath? path.folder.text with
  | some fault => (tree, .error fault)
  | none =>
    match tree.makeDirectories path.root missingLimit path.folder.parts.reverse with
    | (tree, some fault) => (tree, .error fault)
    | (tree, none) =>
      match tree.openFile path with
      | .error fault => (tree, .error fault)
      | .ok (tree, place) => (tree, .ok place)

def files (tree : FileTree) : List (Place × Text) :=
  (tree.top.at? tree.working).elim [] fun node =>
    node.files.map fun below => (tree.working ++ below, FilePath.joined below)

end FileTree

end MarketSnapshot
