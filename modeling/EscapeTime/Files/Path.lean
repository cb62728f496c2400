import EscapeTime.Files.Tree

/-!
# Paths

A path is resolved name by name. Every name but the last has to lead to a directory; what the
last one may lead to depends on what is done there.
-/

namespace EscapeTime

structure Path where
  absolute : Bool
  names : List String
  trailing : Bool
  deriving DecidableEq, Repr

namespace Path

def maxName : Nat := 255

/-- The first length of a path that is refused, in bytes. -/
def maxLength : Nat := 4096

def segments : List Char → List (List Char)
  | [] => [[]]
  | c :: cs =>
    if c = '/' then [] :: segments cs
    else
      match segments cs with
      | [] => [[c]]
      | s :: ss => (c :: s) :: ss

def namesOf (text : String) : List String :=
  ((segments text.toList).filter (· ≠ [])).map String.ofList

def parse (text : String) : Except Errno Path :=
  if text.toList.contains '\x00' then .error .invalidArgument
  else if text.isEmpty then .error .noEntry
  else if maxLength ≤ text.utf8ByteSize then .error .nameTooLong
  else
    .ok {
      absolute := text.toList.head? = some '/'
      names := namesOf text
      trailing := text.toList.getLast? = some '/' }

def isDots (name : String) : Bool := name = "." || name = ".."

end Path

namespace Tree

def enter (t : Tree) (dir : Place) (name : String) : Except Errno Place :=
  if name = "." then .ok dir
  else if name = ".." then .ok dir.dropLast
  else if Path.maxName < name.utf8ByteSize then .error .nameTooLong
  else
    match t.find? (dir ++ [name]) with
    | none => .error .noEntry
    | some .directory => .ok (dir ++ [name])
    | some _ => .error .notDirectory

def descend (t : Tree) : Place → List String → Except Errno Place
  | dir, [] => .ok dir
  | dir, name :: names =>
    match t.enter dir name with
    | .error e => .error e
    | .ok next => t.descend next names

/-- The place where a path asks for a regular file: its directory exists and its last name is a
proper one. -/
def locate (t : Tree) (path : String) : Except Errno Place :=
  match Path.parse path with
  | .error e => .error e
  | .ok p =>
    match t.descend (if p.absolute then [] else t.work) p.names.dropLast with
    | .error e => .error e
    | .ok dir =>
      match p.names.getLast? with
      | none => .error .isDirectory
      | some name =>
        if p.trailing || Path.isDots name then .error .isDirectory
        else if Path.maxName < name.utf8ByteSize then .error .nameTooLong
        else .ok (dir ++ [name])

inductive Handle where
  | file (place : Place)
  | device (d : Device)
  deriving DecidableEq, Repr

/-- Opens a path for writing. A regular file is created if there is none, and emptied. -/
def openEmpty (t : Tree) (path : String) : Except Errno (Tree × Handle) :=
  match t.locate path with
  | .error e => .error e
  | .ok place =>
    match t.find? place with
    | some .directory => .error .isDirectory
    | some (.device d) => .ok (t, .device d)
    | some (.file _) => .ok (t.put place (.file []), .file place)
    | none => .ok (t.put place (.file []), .file place)

/-- The content of the file at a place, empty if there is none. -/
def contentAt (t : Tree) (place : Place) : List UInt8 :=
  match t.find? place with
  | some (.file content) => content
  | _ => []

def append (t : Tree) (h : Handle) (bytes : List UInt8) : Except Errno Tree :=
  match h with
  | .file place => .ok (t.put place (.file (t.contentAt place ++ bytes)))
  | .device .null => .ok t
  | .device .full => .error .noSpace

/-- Cuts an open file to a length, or extends it with zeros. Devices have no length. -/
def resize (t : Tree) (h : Handle) (length : Nat) : Except Errno Tree :=
  match h with
  | .file place =>
    let content := t.contentAt place
    .ok (t.put place
      (.file (content.take length ++ List.replicate (length - content.length) 0)))
  | .device _ => .error .invalidArgument

def overwrite (t : Tree) (h : Handle) (offset : Nat) (bytes : List UInt8) : Tree :=
  match h with
  | .file place =>
    let content := t.contentAt place
    t.put place (.file (content.take offset ++ bytes ++ content.drop (offset + bytes.length)))
  | .device _ => t

def read? (t : Tree) (path : String) : Option (List UInt8) :=
  match t.locate path with
  | .error _ => none
  | .ok place =>
    match t.find? place with
    | some (.file content) => some content
    | some (.device .null) => some []
    | _ => none

/-- Makes a directory, seen from the working directory, with those above it. -/
def addDirectory (t : Tree) (path : String) : Tree :=
  (t.makeDirectories t.work (Path.namesOf path)).1

/-- Puts a regular file, seen from the working directory, with the directories above it. Where no
file can be opened, none is put. -/
def addFile (t : Tree) (path : String) (content : List UInt8) : Tree :=
  let made := (t.makeDirectories t.work (Path.namesOf path).dropLast).1
  match made.openEmpty path with
  | .ok (opened, .file place) => opened.put place (.file content)
  | _ => made

end Tree

end EscapeTime
