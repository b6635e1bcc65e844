import TableBook.Csv
import TableBook.Table.Context

/-!
Reading the words of a command line. Options may stand before and after the
files, in a long form (`--sheet 1` or `--sheet=1`) or as letters that may be
joined (`-s1`); after `--` every word is a file.
-/

namespace TableBook.Command

/-- How tables are turned into sheets, and a file with more named styles. -/
structure Setup where
  options : Options := {}
  styles : Option String := none
deriving DecidableEq, Repr

inductive Request
  /-- Tell for every file whether its tables can be turned into sheets. -/
  | lint (inputs : List String) (setup : Setup)
  /-- Write one sheet to a file or to the output. -/
  | writeCsv (input : String) (output : Option String) (sheet : Nat) (delimiter : Char)
      (lineEnd : LineEnd) (setup : Setup)
  /-- Describe every sheet of a file. -/
  | info (input : String) (setup : Setup)
  /-- List the names of the sheets of a file. -/
  | sheets (input : String) (setup : Setup)
  /-- Print the named styles. -/
  | styles (file : Option String)
deriving DecidableEq, Repr

inductive Stop
  | help
  | version
  | misuse
deriving DecidableEq, Repr

inductive Verb
  | lint
  | writeCsv
  | info
  | sheets
  | styles
deriving DecidableEq, Repr

def Verb.ofWord? : String → Option Verb
  | "lint" => some .lint
  | "to-csv" => some .writeCsv
  | "csv" => some .writeCsv
  | "info" => some .info
  | "sheets" => some .sheets
  | "styles" => some .styles
  | _ => none

/-- How many files a verb takes at most. -/
def Verb.mostInputs : Verb → Option Nat
  | .lint => none
  | .styles => some 0
  | _ => some 1

inductive Switch
  | nonStrict
  | dedupe
  | rejectCovered
  | unix
deriving DecidableEq, Repr

inductive Setting
  | locale
  | styles
  | imageFolder
  | output
  | sheet
  | delimiter
deriving DecidableEq, Repr

inductive Flag
  | switch (s : Switch)
  | setting (s : Setting)
  /-- Allowed any number of times, and without effect on what is done. -/
  | verbose
  | help
deriving DecidableEq, Repr

def Flag.ofLong? : String → Option Flag
  | "non-strict" => some (.switch .nonStrict)
  | "dedupe" => some (.switch .dedupe)
  | "reject-covered" => some (.switch .rejectCovered)
  | "unix" => some (.switch .unix)
  | "locale" => some (.setting .locale)
  | "styles" => some (.setting .styles)
  | "temp-dir" => some (.setting .imageFolder)
  | "output" => some (.setting .output)
  | "sheet" => some (.setting .sheet)
  | "delimiter" => some (.setting .delimiter)
  | "verbose" => some .verbose
  | "help" => some .help
  | _ => none

def Flag.ofLetter? : Char → Option Flag
  | 'o' => some (.setting .output)
  | 's' => some (.setting .sheet)
  | 'd' => some (.setting .delimiter)
  | 'v' => some .verbose
  | 'h' => some .help
  | _ => none

def Verb.allows (verb : Verb) : Flag → Bool
  | .verbose => true
  | .help => true
  | .setting .styles => true
  | .switch .unix => verb = .writeCsv
  | .setting .output => verb = .writeCsv
  | .setting .sheet => verb = .writeCsv
  | .setting .delimiter => verb = .writeCsv
  | _ => verb ≠ .styles

structure Arguments where
  verb : Verb
  inputs : List String := []
  switches : List Switch := []
  locale : Option String := none
  styles : Option String := none
  imageFolder : Option String := none
  output : Option String := none
  sheet : Option Nat := none
  delimiter : Option Char := none
deriving DecidableEq, Repr

/-- One more than the greatest sheet index. -/
def indexLimit : Nat := Nat.pow 2 64

/-- A sheet index; a plus sign may stand in front. -/
def readIndex (text : String) : Option Nat :=
  let digits := match text.toList with
    | '+' :: digits => digits
    | digits => digits
  let n := Text.natOfDigits digits
  if !digits.isEmpty && digits.all Char.isDigit && n < indexLimit then some n else none

def readPath (text : String) : Option String := if text.isEmpty then none else some text

def readChar (text : String) : Option Char :=
  match text.toList with
  | [c] => some c
  | _ => none

namespace Arguments

/-- Fill a place that is still empty with a value that was understood. -/
def once {α : Type} (place value : Option α) : Except Stop (Option α) :=
  if place.isSome || value.isNone then .error .misuse else .ok value

def addInput (a : Arguments) (path : String) : Except Stop Arguments :=
  let full := a.verb.mostInputs.any fun most => decide (most ≤ a.inputs.length)
  if full || path.isEmpty then .error .misuse else .ok { a with inputs := a.inputs ++ [path] }

def addSwitch (a : Arguments) (s : Switch) : Except Stop Arguments :=
  if a.switches.contains s then .error .misuse else .ok { a with switches := s :: a.switches }

def set (a : Arguments) (s : Setting) (text : String) : Except Stop Arguments := do
  match s with
  | .locale => return { a with locale := ← once a.locale (some text) }
  | .styles => return { a with styles := ← once a.styles (readPath text) }
  | .imageFolder => return { a with imageFolder := ← once a.imageFolder (readPath text) }
  | .output => return { a with output := ← once a.output (readPath text) }
  | .sheet => return { a with sheet := ← once a.sheet (readIndex text) }
  | .delimiter => return { a with delimiter := ← once a.delimiter (readChar text) }

/-- What a flag does by itself; a setting goes on to wait for its value. -/
def raise (a : Arguments) (flag : Option Flag) : Except Stop (Arguments × Option Setting) :=
  match flag.filter a.verb.allows with
  | some (.switch s) => (a.addSwitch s).map (·, none)
  | some (.setting s) => .ok (a, some s)
  | some .verbose => .ok (a, none)
  | some .help => .error .help
  | none => .error .misuse

/-- Read joined letters; the rest of them is the value of a setting, with or
without an equals sign. -/
def addLetters (a : Arguments) : List Char → Except Stop (Arguments × Option Setting)
  | [] => .ok (a, none)
  | letter :: rest => do
      match ← a.raise (Flag.ofLetter? letter), rest with
      | (a, none), rest => a.addLetters rest
      | (a, some s), [] => .ok (a, some s)
      | (a, some s), '=' :: value => return (← a.set s (String.ofList value), none)
      | (a, some s), value => return (← a.set s (String.ofList value), none)

def addLong (a : Arguments) (word : List Char) : Except Stop (Arguments × Option Setting) := do
  match Text.cut '=' word with
  | none => a.raise (Flag.ofLong? (String.ofList word))
  | some (name, value) =>
      match Flag.ofLong? (String.ofList name) with
      | some (.setting s) =>
          if a.verb.allows (.setting s) then return (← a.set s (String.ofList value), none)
          else throw .misuse
      | _ => throw .misuse

/-- Whether a word is no option; a single dash is none. -/
def isPlain (word : String) : Bool :=
  match word.toList with
  | '-' :: _ :: _ => false
  | _ => true

/-- Read the words after the verb. A setting that waits takes the next one. -/
def addWords (a : Arguments) (waiting : Option Setting) : List String → Except Stop Arguments
  | [] => if waiting.isSome then .error .misuse else .ok a
  | word :: rest => do
      match waiting with
      | some s =>
          if isPlain word then (← a.set s word).addWords none rest else throw .misuse
      | none =>
          match word.toList with
          | ['-', '-'] => rest.foldlM addInput a
          | '-' :: '-' :: option =>
              let (a, waiting) ← a.addLong option
              a.addWords waiting rest
          | '-' :: letter :: letters =>
              let (a, waiting) ← a.addLetters (letter :: letters)
              a.addWords waiting rest
          | _ => (← a.addInput word).addWords none rest

def setup (a : Arguments) : Setup where
  options := {
    strict := !a.switches.contains .nonStrict
    locale := a.locale
    imageFolder := a.imageFolder
    dedupe := a.switches.contains .dedupe
    policy := if a.switches.contains .rejectCovered then .reject else .skipCovered }
  styles := a.styles

/-- The request, if no file is missing. -/
def request (a : Arguments) : Except Stop Request :=
  match a.verb, a.inputs with
  | .styles, _ => .ok (.styles a.styles)
  | _, [] => .error .misuse
  | .lint, inputs => .ok (.lint inputs a.setup)
  | .writeCsv, input :: _ =>
      let lineEnd := if a.switches.contains .unix then LineEnd.lf else .crlf
      .ok (.writeCsv input a.output (a.sheet.getD 0) (a.delimiter.getD ',') lineEnd a.setup)
  | .info, input :: _ => .ok (.info input a.setup)
  | .sheets, input :: _ => .ok (.sheets input a.setup)

end Arguments

def checkLeadLetters : List Char → Except Stop Unit
  | [] => .ok ()
  | letter :: rest =>
      if letter = 'v' then checkLeadLetters rest
      else if letter = 'h' then .error .help
      else if letter = 'V' then .error .version
      else .error .misuse

/-- The words after a request for help name a verb, if any. -/
def helpFor : List String → Stop
  | [] => .help
  | [word] => if (Verb.ofWord? word).isSome || word == "help" then .help else .misuse
  | _ => .misuse

def Request.ofWords : List String → Except Stop Request
  | [] => .error .misuse
  | word :: rest => do
      match word.toList with
      | '-' :: '-' :: option =>
          if option = "verbose".toList then Request.ofWords rest
          else if option = "help".toList then throw .help
          else if option = "version".toList then throw .version
          else throw .misuse
      | '-' :: letter :: letters =>
          checkLeadLetters (letter :: letters)
          Request.ofWords rest
      | _ =>
          if word = "help" then throw (helpFor rest)
          else
            match Verb.ofWord? word with
            | some verb => (← ({ verb } : Arguments).addWords none rest).request
            | none => throw .misuse

end TableBook.Command
