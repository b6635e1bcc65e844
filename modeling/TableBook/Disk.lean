import TableBook.Text.Pieces

namespace TableBook

inductive PathFault
  | missing
  | notFolder
  | isFolder
  | nul
deriving DecidableEq, Repr

def PathFault.message : PathFault → String
  | .missing => "No such file or directory (os error 2)"
  | .notFolder => "Not a directory (os error 20)"
  | .isFolder => "Is a directory (os error 21)"
  | .nul => "file name contained an unexpected NUL byte"

/-- The names on the way to a file or folder. -/
abbrev Way := List String

structure Disk where
  files : List (Way × String) := []
  /-- Folders that are there even without a file. -/
  folders : List Way := []
deriving Repr

namespace Disk

/-- The way from the outermost folder, for a path that starts with a slash. -/
def outermost : Way := ["/"]

/-- The folder for files that are kept for a while; it is always there. -/
def temporary : Way := ["/", "tmp"]

/-- A way that leads up from the program's folder and nowhere else. -/
def isAbove (way : Way) : Bool := way.all (· == "..")

def fileAt? (d : Disk) (way : Way) : Option String := (d.files.find? (·.1 == way)).map (·.2)

def hasFolder (d : Disk) (way : Way) : Bool :=
  isAbove way || way == outermost || way == temporary || d.folders.contains way ||
    d.files.any fun file => way.isPrefixOf file.1 && file.1 != way

/-- The folder around a folder; the outermost one is its own. -/
def up (way : Way) : Way :=
  if isAbove way then way ++ [".."] else if way = outermost then way else way.dropLast

inductive Place
  | folder (way : Way)
  | file (way : Way) (text : String)
deriving DecidableEq, Repr

/-- One name further. -/
def step (d : Disk) (place : Place) (name : String) : Except PathFault Place :=
  match place with
  | .file .. => .error .notFolder
  | .folder way =>
      if name = "" ∨ name = "." then .ok place
      else if name = ".." then .ok (.folder (up way))
      else
        let way := way ++ [name]
        match d.fileAt? way with
        | some text => .ok (.file way text)
        | none => if d.hasFolder way then .ok (.folder way) else .error .missing

/-- Where a path starts, and the names it goes on with. -/
def split (path : String) : Way × List String :=
  let names := (Text.pieces '/' path.toList).map String.ofList
  match names with
  | "" :: rest => (outermost, rest)
  | names => ([], names)

def locate (d : Disk) (path : String) : Except PathFault Place :=
  if path.isEmpty then .error .missing
  else if path.toList.contains '\x00' then .error .nul
  else
    let (start, names) := split path
    names.foldlM d.step (.folder start)

def isFile (d : Disk) (path : String) : Bool :=
  match d.locate path with
  | .ok (.file ..) => true
  | _ => false

def read (d : Disk) (path : String) : Except PathFault String :=
  match d.locate path with
  | .ok (.file _ text) => .ok text
  | .ok (.folder _) => .error .isFolder
  | .error fault => .error fault

/-- Whether new files can be made in the folder at a path. -/
def checkFolder (d : Disk) (path : String) : Except PathFault Unit :=
  match d.locate (if path.isEmpty then "." else path) with
  | .ok (.folder _) => .ok ()
  | .ok (.file ..) => .error .notFolder
  | .error fault => .error fault

def put (d : Disk) (way : Way) (text : String) : Disk :=
  { d with files := (way, text) :: d.files.filter (·.1 != way) }

/-- Make a file with a text, or replace the text of one that is there. -/
def write (d : Disk) (path text : String) : Except PathFault Disk :=
  match d.locate path with
  | .ok (.file way _) => .ok (d.put way text)
  | .ok (.folder _) => .error .isFolder
  | .error .missing =>
      let (start, names) := split path
      match names.getLast? with
      | none => .error .missing
      | some name =>
          if path.isEmpty then .error .missing
          else if name.isEmpty then .error .isFolder
          else
            match names.dropLast.foldlM d.step (.folder start) with
            | .ok (.folder way) => .ok (d.put (way ++ [name]) text)
            | .ok (.file ..) => .error .notFolder
            | .error fault => .error fault
  | .error fault => .error fault

def wayOf (path : String) : Way :=
  let (start, names) := split path
  names.foldl (fun way name =>
    if name = "" ∨ name = "." then way else if name = ".." then up way else way ++ [name]) start

def ofFiles (files : List (String × String)) : Disk where
  files := files.map fun (path, text) => (wayOf path, text)

end Disk

end TableBook
