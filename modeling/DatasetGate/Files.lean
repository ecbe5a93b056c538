import DatasetGate.Text.Utf8

/-!
# Files

A store of files and directories, and what goes wrong when a path is used. A path is followed from the
working directory, or from the root when it starts with a slash; every part of it but the last must be
a directory. The working directory and the directories above it always exist.
-/

set_option autoImplicit false

namespace DatasetGate

open DatasetGate.Text

inductive FileFault where
  | notFound
  | alreadyExists
  | notDirectory
  | isDirectory
  | nameTooLong
  | zeroInName
  | notText
  deriving DecidableEq, Repr

def FileFault.message : FileFault → String
  | .notFound => "No such file or directory (os error 2)"
  | .alreadyExists => "File exists (os error 17)"
  | .notDirectory => "Not a directory (os error 20)"
  | .isDirectory => "Is a directory (os error 21)"
  | .nameTooLong => "File name too long (os error 36)"
  | .zeroInName => "file name contained an unexpected NUL byte"
  | .notText => "stream did not contain valid UTF-8"

inductive Node where
  | file (bytes : List UInt8)
  | directory
  deriving DecidableEq, Repr

/-- The octets of a file; a directory counts as one block. -/
def Node.size : Node → Nat
  | .file bytes => bytes.length
  | .directory => 4096

/-- A place: the names that lead to it from the working directory. -/
abbrev Place := List String

structure Files where
  entries : List (Place × Node)
  deriving DecidableEq

namespace Files

def empty : Files := ⟨[]⟩

/-- The place above another one. Above the working directory further places have no names but
`..`. -/
def above (place : Place) : Place :=
  if place = ["/"] then place
  else if place.all (· = "..") then place ++ [".."]
  else place.dropLast

def isFixed (place : Place) : Bool :=
  place = ["/"] || place.all (· = "..")

def node? (files : Files) (place : Place) : Option Node :=
  if isFixed place then some .directory else files.entries.lookup place

def put (files : Files) (place : Place) (node : Node) : Files :=
  ⟨(place, node) :: files.entries.filter fun entry => entry.1 ≠ place⟩

def parts (path : String) : List String :=
  (path.toList.splitOn '/').map String.ofList

def start (path : String) : Place × List String :=
  match parts path with
  | "" :: rest => if path.isEmpty then ([], [""]) else (["/"], rest)
  | rest => ([], rest)

def octets (s : String) : Nat := s.utf8ByteSize

/-- Faults of a path that do not depend on the store. -/
def pathFault? (path : String) : Option FileFault :=
  if path.toList.contains (Char.ofNat 0) then some .zeroInName
  else if path.isEmpty then some .notFound
  else if 4096 ≤ octets path then some .nameTooLong
  else none

def follow (place : Place) (part : String) : Except FileFault Place :=
  if part = "" ∨ part = "." then .ok place
  else if part = ".." then .ok (above place)
  else if 255 < octets part then .error .nameTooLong
  else .ok (place ++ [part])

def walk (files : Files) : Place → List String → Except FileFault (Place × Node)
  | place, [] =>
      match files.node? place with
      | some node => .ok (place, node)
      | none => .error .notFound
  | place, part :: rest =>
      match files.node? place with
      | none => .error .notFound
      | some (.file _) => .error .notDirectory
      | some .directory =>
          match follow place part with
          | .error fault => .error fault
          | .ok next => walk files next rest

def find (files : Files) (path : String) : Except FileFault Node :=
  match pathFault? path with
  | some fault => .error fault
  | none =>
      let (place, parts) := start path
      (files.walk place parts).map (·.2)

def read (files : Files) (path : String) : Except FileFault (List UInt8) :=
  match files.find path with
  | .error fault => .error fault
  | .ok .directory => .error .isDirectory
  | .ok (.file bytes) => .ok bytes

def readText (files : Files) (path : String) : Except FileFault (List Char) :=
  match files.read path with
  | .error fault => .error fault
  | .ok bytes =>
      match Utf8.decode? bytes with
      | some text => .ok text
      | none => .error .notText

/-- Makes the directories of a path that are missing. A file in the place of the last one is there
already; in the place of another one it is no directory. -/
def makeDirectories (files : Files) : Place → List String → Except FileFault Files
  | _, [] => .ok files
  | place, part :: rest =>
      match follow place part with
      | .error fault => .error fault
      | .ok next =>
          match files.node? next with
          | some .directory => makeDirectories files next rest
          | some (.file _) => .error (if rest.isEmpty then .alreadyExists else .notDirectory)
          | none => makeDirectories (files.put next .directory) next rest

def namedParts (parts : List String) : List String :=
  parts.filter fun part => part ≠ "" ∧ part ≠ "."

def makeParent (files : Files) (path : String) : Except FileFault Files :=
  let (place, parts) := start path
  files.makeDirectories place (namedParts parts).dropLast

/-- The place of a file to be written: that of a file, or a missing name in a directory. A slash at
the end asks for a directory. -/
def target (files : Files) (path : String) : Except FileFault Place :=
  match pathFault? path with
  | some fault => .error fault
  | none =>
      let (place, parts) := start path
      let named := (parts.reverse.dropWhile (· = "")).reverse
      match files.walk place named.dropLast with
      | .error fault => .error fault
      | .ok (_, .file _) => .error .notDirectory
      | .ok (inside, .directory) =>
          if named.length < parts.length then .error .isDirectory
          else
            match follow inside (named.getLast?.getD "") with
            | .error fault => .error fault
            | .ok place =>
                match files.node? place with
                | some .directory => .error .isDirectory
                | _ => .ok place

def write (files : Files) (path : String) (bytes : List UInt8) : Except FileFault Files :=
  (files.target path).map fun place => files.put place (.file bytes)

def save (files : Files) (path : String) (bytes : List UInt8) : Except FileFault Files :=
  match pathFault? path with
  | some fault => .error fault
  | none => (files.makeParent path).bind fun files => files.write path bytes

def append (files : Files) (path : String) (bytes : List UInt8) : Except FileFault Files :=
  (files.target path).map fun place =>
    match files.node? place with
    | some (.file old) => files.put place (.file (old ++ bytes))
    | _ => files.put place (.file bytes)

def routeFrom (text : String) (place : Place) : List String → List (String × Place)
  | [] => []
  | part :: rest =>
      match follow place part with
      | .error _ => []
      | .ok next => (text ++ part, next) :: routeFrom (text ++ part ++ "/") next rest

def route (path : String) : List (String × Place) :=
  let (place, parts) := start path
  routeFrom (if place.isEmpty then "" else "/") place parts

def parentText? (path : String) : Option String :=
  match (parts path).dropLast with
  | [] => none
  | [""] => some "/"
  | above => some ("/".intercalate above)

end Files
end DatasetGate
