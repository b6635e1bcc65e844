import TableBook.Address
import TableBook.Disk
import TableBook.Text.Base64
import TableBook.Text.Word

namespace TableBook

/-- Where the bytes of an image are. -/
inductive ImageSource
  | file (path : String)
  /-- Decoded bytes, kept under a name that ends in the extension. -/
  | temporary (extension : String) (bytes : List Nat)
deriving DecidableEq, Repr

structure Drawing where
  anchor : Address
  source : ImageSource
  width : Option Nat := none
  height : Option Nat := none
deriving DecidableEq, Repr

inductive ImageReason
  | noFile
  | unsupported
  | invalidBase64 (fault : Text.Base64.Fault)
  | noFolder (folder : String) (fault : PathFault)
deriving DecidableEq, Repr

def ImageReason.message : ImageReason → String
  | .noFile => "no such file"
  | .unsupported => "unsupported data URI"
  | .invalidBase64 fault => "invalid base64: " ++ fault.message
  | .noFolder folder fault => "cannot create file in " ++ folder ++ ": " ++ fault.message

structure ImageFault where
  source : String
  reason : ImageReason
deriving DecidableEq, Repr

def ImageFault.message (f : ImageFault) : String :=
  "Image not found: " ++ f.source ++ " (" ++ f.reason.message ++ ")"

namespace ImageSource

/-- How inline bytes are named in a message: what comes before them. -/
def label (source : String) : String :=
  match Text.cut ',' source.toList with
  | some (lead, _) => String.ofList lead ++ ",..."
  | none => source

/-- The extension and the encoded bytes of an inline image. -/
def inline? (cs : List Char) : Option (List Char × List Char) := do
  let cs ← Text.after "data:image/" cs
  let extension := cs.takeWhile Text.isWordChar
  let payload ← Text.after ";base64," (cs.dropWhile Text.isWordChar)
  if extension.isEmpty || payload.isEmpty then none else some (extension, payload)

/-- Space, tab, line feed, form feed and carriage return. -/
def isAsciiBlank (c : Char) : Bool :=
  c == ' ' || c == '\t' || c == '\n' || c == '\x0c' || c == '\r'

def bytesOf (cs : List Char) : List Nat :=
  (String.ofList cs).toUTF8.toList.map UInt8.toNat

/-- Decode an inline image into the folder for new files; without a name the
folder is one that is always there. -/
def decode (d : Disk) (source : String) (folder : Option String) : Except ImageReason ImageSource :=
  match inline? source.toList with
  | none => .error .unsupported
  | some (extension, payload) =>
      match Text.Base64.decode (bytesOf (payload.filter (!isAsciiBlank ·))) with
      | .error fault => .error (.invalidBase64 fault)
      | .ok bytes =>
          match folder with
          | none => .ok (.temporary (String.ofList extension) bytes)
          | some path =>
              match d.checkFolder path with
              | .ok () => .ok (.temporary (String.ofList extension) bytes)
              | .error fault => .error (.noFolder path fault)

def resolve (d : Disk) (source : String) (folder : Option String) :
    Except ImageFault ImageSource :=
  if d.isFile source then .ok (.file source)
  else if "data:".toList.isPrefixOf source.toList then
    match decode d source folder with
    | .ok image => .ok image
    | .error reason => .error ⟨label source, reason⟩
  else .error ⟨source, .noFile⟩

end ImageSource

end TableBook
