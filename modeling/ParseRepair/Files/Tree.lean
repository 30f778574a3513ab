import ParseRepair.Files.Path
import ParseRepair.Text.Utf8

namespace ParseRepair.Files

inductive Fault
  | missing
  | notDirectory
  | isDirectory
  | nameTooLong
  | other (code : Nat) (reason : Text)
  deriving DecidableEq, Repr

namespace Fault

def code : Fault → Nat
  | .missing => 2
  | .notDirectory => 20
  | .isDirectory => 21
  | .nameTooLong => 36
  | .other code _ => code

def reason : Fault → Text
  | .missing => "No such file or directory"
  | .notDirectory => "Not a directory"
  | .isDirectory => "Is a directory"
  | .nameTooLong => "File name too long"
  | .other _ reason => reason

def message (f : Fault) (path : Text) : Text :=
  .concat ["[Errno ", .ofNat f.code, "] ", f.reason, ": ", path.quoted]

def findsNone (f : Fault) : Bool := f.code == 2 || f.code == 21

def isDenial (f : Fault) : Bool := f.code == 13

def isLoop (f : Fault) : Bool := f.code == 40

/-- A test takes these faults to say that nothing is there. The last two are a bad descriptor and a
loop of links. -/
def leadsNowhere (f : Fault) : Bool := [2, 20, 9, 40].contains f.code

end Fault

/-- An unreadable file is there. Of what is unreachable the system does not even say what it is. -/
inductive Entry
  | file (content : Utf8.Bytes)
  | directory
  | unreadable (fault : Fault)
  | unreachable (fault : Fault)
  deriving DecidableEq, Repr

abbrev Location := List Text

/-- What there is to read, and the directory that relative paths start from. No entry is a link to
another: a link that leads nowhere for going round in a loop is unreachable. -/
structure Tree where
  entry? : Location → Option Entry
  current : Location

structure SystemError where
  fault : Fault
  path : Text
  deriving DecidableEq, Repr

def SystemError.message (e : SystemError) : Text := e.fault.message e.path

def Location.path (l : Location) : Path := ⟨1, l⟩

inductive AccessError
  | nullByte
  | system (e : SystemError)
  deriving DecidableEq, Repr

def AccessError.message : AccessError → Text
  | .nullByte => "embedded null byte"
  | .system e => e.message

inductive ResolveError
  | nullByte
  | loop (path : Text)
  deriving DecidableEq, Repr

def loopMessage (path : Text) : Text := "Symlink loop from ".toList ++ path.quoted

def nameLimit : Nat := 255

def pathLimit : Nat := 4096

namespace Tree

variable (t : Tree)

def step (from_ : Location) (name : Text) : Except Fault Location :=
  match t.entry? from_ with
  | some .directory =>
    if name = "..".toList then .ok from_.dropLast
    else if nameLimit < (Utf8.encode name).length then .error .nameTooLong
    else if (t.entry? (from_ ++ [name])).isSome then .ok (from_ ++ [name])
    else .error .missing
  | some (.file _) | some (.unreadable _) => .error .notDirectory
  | some (.unreachable f) => .error f
  | none => .error .missing

def walk (from_ : Location) : List Text → Except Fault Location
  | [] => .ok from_
  | name :: r => do walk (← t.step from_ name) r

def locate (p : Path) : Except Fault Location :=
  if pathLimit ≤ (Utf8.encode p.text).length then .error .nameTooLong
  else t.walk (if p.isAbsolute then [] else t.current) p.parts

def find (p : Path) : Except Fault Entry := do
  match t.entry? (← t.locate p) with
  | some (.unreachable f) => .error f
  | some e => .ok e
  | none => .error .missing

def readFault (p : Path) : Except Fault Utf8.Bytes := do
  match ← t.find p with
  | .file content => .ok content
  | .directory => .error .isDirectory
  | .unreadable f | .unreachable f => .error f

def read (p : Path) : Except AccessError Utf8.Bytes :=
  if p.hasNull then .error .nullByte
  else (t.readFault p).mapError fun f => .system ⟨f, p.text⟩

def test (kind : Entry → Bool) (p : Path) : Except SystemError Bool :=
  if p.hasNull then .ok false
  else match t.find p with
  | .ok e => .ok (kind e)
  | .error f => if f.leadsNowhere then .ok false else .error ⟨f, p.text⟩

def isDirectory (p : Path) : Except SystemError Bool := t.test (· == .directory) p

def isFile (p : Path) : Except SystemError Bool := t.test (· != .directory) p

/-- The location that a path names when double dots are taken to undo the part before them. The system
follows links first: this is the same only because a tree has none. -/
def lexical (p : Path) : Location :=
  p.parts.foldl (fun at_ name => if name = "..".toList then at_.dropLast else at_ ++ [name])
    (if p.isAbsolute then [] else t.current)

/-- The location that a path names, unless the system goes round in a loop there. Other faults do not
count. -/
def resolve (p : Path) : Except ResolveError Location :=
  if p.hasNull then .error .nullByte
  else
    let place := Location.path (t.lexical p)
    match t.find place with
    | .ok _ => .ok (t.lexical p)
    | .error f => if f.isLoop then .error (.loop place.text) else .ok (t.lexical p)

end Tree

end ParseRepair.Files
