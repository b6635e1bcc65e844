import TableBook.Command.Arguments
import TableBook.Csv
import TableBook.Markup.Document
import TableBook.Style.Custom
import TableBook.Style.Json
import TableBook.Table

namespace TableBook.Command

structure Outcome where
  status : Nat := 0
  output : String := ""
  errors : String := ""
  disk : Disk
deriving Repr

/-- Messages from the outermost to the cause that lies deepest. -/
abbrev Trace := List String

def Trace.inline (trace : Trace) : String := ": ".intercalate trace

/-- A trace as a report; several causes are numbered. -/
def Trace.report : Trace → String
  | [] => ""
  | [first] => "Error: " ++ first ++ "\n"
  | [first, cause] => "Error: " ++ first ++ "\n\nCaused by:\n    " ++ cause ++ "\n"
  | first :: causes =>
      "Error: " ++ first ++ "\n\nCaused by:\n" ++
        String.join (causes.mapIdx fun i cause => s!"    {i}: " ++ cause ++ "\n")

/-- A path between apostrophes after what was tried with it. -/
def tried (action path : String) : String := action ++ " '" ++ path ++ "'"

def readFile (disk : Disk) (action path : String) : Except Trace String :=
  (disk.read path).mapError fun fault => [tried action path, fault.message]

/-- The presets, with the styles of a file on top. -/
def loadCatalogue (disk : Disk) : Option String → Except Trace Catalogue
  | none => .ok Catalogue.presets
  | some path => do
      let text ← readFile disk "Failed to read styles from" path
      (Catalogue.ofText text).mapError fun fault => [tried "Invalid styles file" path, fault.message]

/-- The workbook of the text of a document. -/
def interpret (disk : Disk) (catalogue : Catalogue) (options : Options) (text : String) :
    Except Trace Workbook :=
  (Workbook.ofNodes ⟨catalogue, options, disk⟩ (Node.ofHtml text)).mapError DocumentFault.chain

def convert (disk : Disk) (input : String) (setup : Setup) : Except Trace Workbook := do
  let text ← readFile disk "Failed to read" input
  let catalogue ← loadCatalogue disk setup.styles
  (interpret disk catalogue setup.options text).mapError (tried "Failed to interpret" input :: ·)

/-- The line about one file, and whether all is well with it. -/
def lintLine (disk : Disk) (catalogue : Catalogue) (options : Options) (input : String) :
    Bool × String :=
  match readFile disk "Failed to read" input >>= interpret disk catalogue options with
  | .ok w => (true, "OK    " ++ input ++ s!" ({w.count} sheets)\n")
  | .error trace => (false, "ERROR " ++ input ++ ": " ++ trace.inline ++ "\n")

/-- What a sheet holds, in a few lines. -/
def sheetLines (index : Nat) (s : Sheet) : String :=
  let used := match s.usedRange with
    | some r => r.text ++ s!" ({r.last.row} rows x {r.last.column} columns)"
    | none => "empty"
  let freeze := match s.freeze with
    | some a => "    Frozen at: " ++ a.text ++ "\n"
    | none => ""
  let filter := match s.autoFilter with
    | some r => "    Autofilter: " ++ r.text ++ "\n"
    | none => ""
  s!"\n  Sheet {index}: \"" ++ s.name ++ "\"\n    Used range: " ++ used ++
    s!"\n    Merges: {s.merges.length}\n    Images: {s.drawings.length}\n" ++ freeze ++ filter

def failing (disk : Disk) (trace : Trace) : Outcome :=
  { status := 1, errors := trace.report, disk }

/-- Write a sheet of a workbook to a new file. The file is made before the sheet
is looked up, and stays empty if there is none. -/
def writeFile (disk : Disk) (csv : Csv) (w : Workbook) (index : Nat) (path : String) : Outcome :=
  match disk.write path "" with
  | .error fault => failing disk [tried "Failed to create" path, fault.message]
  | .ok made =>
      match w.sheet? index with
      | none =>
          failing made [tried "Failed to write" path, (CsvFault.noSheet index w.count).message]
      | some s =>
          match csv.save made s path with
          | ⟨disk, none⟩ => { errors := tried s!"Wrote sheet {index} to" path ++ "\n", disk }
          | ⟨disk, some fault⟩ => failing disk [tried "Failed to write" path, fault.message]

def printing (disk : Disk) : Except Trace String → Outcome
  | .ok output => { output, disk }
  | .error trace => failing disk trace

def lint (disk : Disk) (inputs : List String) (setup : Setup) : Outcome :=
  match loadCatalogue disk setup.styles with
  | .error trace => failing disk trace
  | .ok catalogue =>
      let lines := inputs.map (lintLine disk catalogue setup.options)
      let failed := lines.countP (!·.1)
      let output := String.join (lines.map (·.2))
      if failed = 0 then { output, disk }
      else
        { failing disk [s!"{failed} of {inputs.length} files failed"] with output }

def writeCsv (disk : Disk) (input : String) (output : Option String) (index : Nat)
    (delimiter : Char) (lineEnd : LineEnd) (setup : Setup) : Outcome :=
  if 128 ≤ delimiter.toNat then
    let message := "Delimiter must be an ASCII character, got '" ++ delimiter.toString ++ "'"
    failing disk [message]
  else
    match convert disk input setup with
    | .error trace => failing disk trace
    | .ok w =>
        let csv : Csv := { delimiter, lineEnd }
        match output with
        | some path => writeFile disk csv w index path
        | none =>
            printing disk <| (csv.writeSheet w index).mapError fun fault =>
              ["Failed to write to stdout", fault.message]

def info (disk : Disk) (input : String) (setup : Setup) : Outcome :=
  printing disk <| (convert disk input setup).map fun w =>
    "File: " ++ input ++ s!"\nSheets: {w.count}\n" ++ String.join (w.sheets.mapIdx sheetLines)

def sheets (disk : Disk) (input : String) (setup : Setup) : Outcome :=
  printing disk <| (convert disk input setup).map fun w =>
    String.join (w.names.mapIdx fun i name => s!"{i}\t" ++ name ++ "\n")

def Request.run (disk : Disk) : Request → Outcome
  | .lint inputs setup => Command.lint disk inputs setup
  | .writeCsv input output index delimiter lineEnd setup =>
      Command.writeCsv disk input output index delimiter lineEnd setup
  | .info input setup => Command.info disk input setup
  | .sheets input setup => Command.sheets disk input setup
  | .styles file =>
      printing disk <| (loadCatalogue disk file).map fun catalogue => catalogue.json.text ++ "\n"

def usage : String :=
  "Usage: sheetmark [-v]... <COMMAND>\n\n" ++
    "  lint <FILE>...   tell whether the tables of files can be turned into sheets\n" ++
    "  to-csv <FILE>    write one sheet as text\n" ++
    "  info <FILE>      describe every sheet\n" ++
    "  sheets <FILE>    list the names of the sheets\n" ++
    "  styles           print the named styles\n"

def Stop.outcome (disk : Disk) : Stop → Outcome
  | .help => { output := usage, disk }
  | .version => { output := "sheetmark 0.1.0\n", disk }
  | .misuse => { status := 2, errors := usage, disk }

def run (disk : Disk) (words : List String) : Outcome :=
  match Request.ofWords words with
  | .ok request => request.run disk
  | .error stop => stop.outcome disk

end TableBook.Command
