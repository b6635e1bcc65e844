import TableBook.Command

namespace TableBook.Command

def Request.sources : Request → List String
  | .lint inputs setup => inputs ++ setup.styles.toList
  | .writeCsv input _ _ _ _ setup => input :: setup.styles.toList
  | .info input setup => input :: setup.styles.toList
  | .sheets input setup => input :: setup.styles.toList
  | .styles file => file.toList

def Request.target? : Request → Option String
  | .writeCsv _ output _ _ _ _ => output
  | _ => none

def Request.imageFolder? : Request → Option String
  | .lint _ setup => setup.options.imageFolder
  | .writeCsv _ _ _ _ _ setup => setup.options.imageFolder
  | .info _ setup => setup.options.imageFolder
  | .sheets _ setup => setup.options.imageFolder
  | .styles _ => none

def imagesOf (text : String) : List String :=
  (Node.findAll (fun _ => true) (Node.ofHtml text)).filterMap (·.mark? .image)

/-- The path of the folder that a file lies in. -/
def folderOf (path : String) : String :=
  let cs := path.toList.reverse.dropWhile (· != '/')
  if cs.isEmpty then "." else String.ofList cs.reverse

/-- Note what is at a path: a folder, or a file with its text if that is read. -/
def note (withText : Bool) (disk : Disk) (path : String) : IO Disk := do
  if path.isEmpty || disk.isFile path then return disk
  try
    let place ← IO.FS.realPath path
    if ← place.isDir then
      return { disk with folders := Disk.wayOf path :: disk.folders }
    else if withText then
      return disk.put (Disk.wayOf path) (← IO.FS.readFile path)
    else if ← place.pathExists then
      return disk.put (Disk.wayOf path) ""
    else return disk
  catch _ => return disk

/-- Note everything that a request looks at. -/
def noteAll (request : Request) : IO Disk := do
  let disk ← (request.sources ++ request.target?.toList).foldlM (note true) {}
  let images := request.sources.flatMap fun path =>
    ((disk.read path).toOption.map imagesOf).getD []
  let places := images ++ request.imageFolder?.toList ++
    request.target?.toList.map folderOf
  places.foldlM (note false) disk

end TableBook.Command

open TableBook in
def main (words : List String) : IO UInt32 := do
  let request? := (Command.Request.ofWords words).toOption
  let disk ← (request?.map Command.noteAll).getD (pure {})
  let outcome := Command.run disk words
  if let some path := request?.bind (·.target?) then
    let before := (disk.read path).toOption
    if let some text := (outcome.disk.read path).toOption then
      if before ≠ some text then IO.FS.writeFile path text
  IO.print outcome.output
  IO.eprint outcome.errors
  return outcome.status.toUInt32
