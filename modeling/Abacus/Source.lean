/-
Sources: files that hold expressions, one to a line.

The suffix of a path says how a file is read.  A `.txt` file is text.  From an
archive the first member, as stored, whose name ends in `.txt` is taken, and
read where unpacking puts it: parts of its name that would lead out of the
place of unpacking are dropped there, so a member with such a name is not found
again.  Text is strict UTF-8, and its carriage returns become line feeds.
-/
import Abacus.FileTree
import Abacus.Text.Lines
import Abacus.Text.Utf8

namespace Abacus

open Abacus.Text

namespace Archive

inductive Format where
  | zip
  | tarXz
  | sevenZip
deriving DecidableEq, Repr

def Format.name : Format → String
  | zip => "zip"
  | tarXz => "tar.xz"
  | sevenZip => "7z"

structure Member where
  name : String
  content : List UInt8

def Member.isText (m : Member) : Bool :=
  ".txt".toList.isSuffixOf m.name.toList

end Archive

/-- What a file holds: bytes, which may be those of an archive with its members in
stored order. -/
inductive Content where
  | bytes (bytes : List UInt8)
  | archive (format : Archive.Format) (members : List Archive.Member) (bytes : List UInt8)

/-- How a file is read. -/
inductive Source where
  | plain
  | archive (format : Archive.Format)
deriving DecidableEq, Repr

inductive ReadError where
  | undecodable (fault : Utf8Fault)
  | unsupported (format : String)
  | noText (format : Archive.Format) (path : Path)
  | damaged (format : Archive.Format)
  | directory
  | notFound

/-- The wording of an unreadable text and of a format that cannot be used.  Failures of the
file itself have none of their own. -/
def ReadError.message? : ReadError → Option String
  | undecodable fault => some fault.message
  | unsupported format => some s!"Unsupported input format: {format}"
  | noText format path => some s!"No .txt file found in {format.name} archive: {path.text}"
  | damaged _ => none
  | directory => none
  | notFound => none

namespace Source

/-- How a file of a given name is read. -/
def ofName? (name : List Char) : Option Source :=
  if lastSuffix name = ".txt".toList then some plain
  else if lastSuffix name = ".zip".toList then some (archive .zip)
  else if [".tar".toList, ".xz".toList].isSuffixOf (suffixes name) then some (archive .tarXz)
  else if lastSuffix name = ".7z".toList then some (archive .sevenZip)
  else none

/-- What an unsupported format is called: the suffixes, or the whole name where
there are none. -/
def formatOf (name : List Char) : String :=
  let tail := (suffixes name).flatten
  String.ofList (if tail.isEmpty then name else tail)

def decode (bytes : List UInt8) : Except ReadError (List Char) :=
  match decodeUtf8 bytes with
  | .ok text => .ok (unifyBreaks text)
  | .error fault => .error (.undecodable fault)

/-- The text of what a path leads to, where it is a file of plain text. -/
def readPlain : Option (Entry (List UInt8)) → Except ReadError (List Char)
  | some (.file bytes) => decode bytes
  | some .directory => .error .directory
  | none => .error .notFound

/-- Where unpacking puts a file of a given name. -/
def unpackedAt (name : String) : List String :=
  (Path.ofText name).components.filter (· ≠ "..")

/-- The bytes that unpacking leaves under the name of a member: in a zip archive
those of the last member of that name. -/
def unpackedContent (format : Archive.Format) (members : List Archive.Member)
    (m : Archive.Member) : List UInt8 :=
  match format with
  | .zip => ((members.reverse.find? (·.name == m.name)).getD m).content
  | _ => m.content

/-- The text of an archive. -/
def readMembers (path : Path) (format : Archive.Format) (members : List Archive.Member) :
    Except ReadError (List Char) :=
  match members.find? Archive.Member.isText with
  | none => .error (.noText format path)
  | some m =>
    let unpacked : FileTree (List UInt8) :=
      ⟨[(unpackedAt m.name, .file (unpackedContent format members m))]⟩
    readPlain (unpacked.find? (.ofText m.name))

def readArchive (path : Path) (format : Archive.Format) :
    Option (Entry Content) → Except ReadError (List Char)
  | some (.file (.archive actual members _)) =>
    if actual = format then readMembers path format members else .error (.damaged format)
  | some (.file (.bytes _)) => .error (.damaged format)
  | some .directory => .error .directory
  | none => .error .notFound

/-- What is found, with a file as its bytes. -/
def rawBytes : Entry Content → Entry (List UInt8)
  | .file (.bytes bytes) => .file bytes
  | .file (.archive _ _ bytes) => .file bytes
  | .directory => .directory

/-- The text of the file that a path leads to. -/
def read (path : Path) (found : Option (Entry Content)) : Except ReadError (List Char) :=
  match ofName? path.name with
  | some plain => readPlain (found.map rawBytes)
  | some (archive format) => readArchive path format found
  | none => .error (.unsupported (formatOf path.name))

/-- The expressions in a text: its lines that are not blank. -/
def expressions (text : List Char) : List String :=
  (filledLines text).map String.ofList

/-- The expressions in the file that a path leads to. -/
def load (path : Path) (found : Option (Entry Content)) : Except ReadError (List String) :=
  (read path found).map expressions

end Source

end Abacus
