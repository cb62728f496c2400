/-!
# File trees

A tree of directories, regular files and devices, seen from a working directory. Nodes are kept under
the names that lead to them from the root. What is refused is refused with a system error number.
-/

namespace EscapeTime

inductive Errno where
  | noEntry
  | isDirectory
  | notDirectory
  | nameTooLong
  | invalidArgument
  | noSpace
  | accessDenied
  /-- A reason that the tree itself gives for nothing, with the text that the system has for it. -/
  | other (number : Nat) (text : String)
  deriving DecidableEq, Repr

/-- The reason with a given number. -/
def Errno.numbered? (number : Nat) : Option Errno :=
  match number with
  | 2 => some .noEntry
  | 13 => some .accessDenied
  | 20 => some .notDirectory
  | 21 => some .isDirectory
  | 22 => some .invalidArgument
  | 28 => some .noSpace
  | 36 => some .nameTooLong
  | _ => none

def Errno.message : Errno → String
  | .noEntry => "no such file or directory"
  | .isDirectory => "is a directory"
  | .notDirectory => "not a directory"
  | .nameTooLong => "file name too long"
  | .invalidArgument => "invalid argument"
  | .noSpace => "no space left on device"
  | .accessDenied => "permission denied"
  | .other _ text => text

/-- The names that lead from the root to a node. -/
abbrev Place := List String

/-- The place that a name leads to from a directory. One dot stays, two dots go up. -/
def Place.follow (dir : Place) (name : String) : Place :=
  if name = "." then dir else if name = ".." then dir.dropLast else dir ++ [name]

inductive Device where
  /-- Takes every byte and keeps none. -/
  | null
  /-- Has room for no byte. -/
  | full
  deriving DecidableEq, Repr

inductive Node where
  | directory
  | file (content : List UInt8)
  | device (d : Device)
  deriving DecidableEq, Repr

structure Tree where
  entries : List (Place × Node)
  work : Place
  deriving DecidableEq, Repr

namespace Tree

/-- The node at a place. The root is always a directory. -/
def find? (t : Tree) (place : Place) : Option Node :=
  if place = [] then some .directory else t.entries.lookup place

def putEntry (place : Place) (node : Node) : List (Place × Node) → List (Place × Node)
  | [] => [(place, node)]
  | e :: es => if e.1 = place then (place, node) :: es else e :: putEntry place node es

def put (t : Tree) (place : Place) (node : Node) : Tree :=
  { t with entries := putEntry place node t.entries }

theorem lookup_putEntry (place other : Place) (node : Node) (es : List (Place × Node)) :
    (putEntry place node es).lookup other =
      if other = place then some node else es.lookup other := by
  induction es with
  | nil =>
    by_cases h : other = place
    · simp [putEntry, h]
    · have hne : (other == place) = false := beq_eq_false_iff_ne.mpr h
      simp [putEntry, List.lookup_cons, h, hne]
  | cons e es ih =>
    obtain ⟨name, old⟩ := e
    by_cases he : name = place
    · subst he
      by_cases h : other = name
      · simp [putEntry, h]
      · have hne : (other == name) = false := beq_eq_false_iff_ne.mpr h
        simp [putEntry, List.lookup_cons, h, hne]
    · by_cases h : other = name
      · subst h
        simp [putEntry, he]
      · have hne : (other == name) = false := beq_eq_false_iff_ne.mpr h
        simp [putEntry, he, List.lookup_cons, hne, ih]

/-- A node that is put at a place is found there, and every other place keeps its node. -/
theorem find?_put (t : Tree) (place other : Place) (node : Node) (h : place ≠ []) :
    (t.put place node).find? other = if other = place then some node else t.find? other := by
  by_cases hroot : other = []
  · subst hroot
    simp [find?, Ne.symm h]
  · simp [find?, put, hroot, lookup_putEntry]

def relative? (t : Tree) (place : Place) : Option String :=
  if t.work.isPrefixOf place then some ("/".intercalate (place.drop t.work.length)) else none

/-- The regular files below the working directory with their contents. -/
def listing (t : Tree) : List (String × List UInt8) :=
  t.entries.filterMap fun
    | (place, .file content) => (t.relative? place).map fun name => (name, content)
    | _ => none

/-- A tree with the two devices and an empty working directory, whose name no path can spell. -/
def scratch : Tree where
  entries := [
    (["dev"], .directory),
    (["dev", "null"], .device .null),
    (["dev", "full"], .device .full),
    (["tmp"], .directory),
    (["tmp", ""], .directory)]
  work := ["tmp", ""]

/-- Follows names down from a directory and makes the directories that are missing on the way.
Gives the tree and the directory reached. -/
def makeDirectories (t : Tree) (dir : Place) : List String → Tree × Place
  | [] => (t, dir)
  | name :: names =>
    let place := Place.follow dir name
    let t := if (t.find? place).isSome then t else t.put place .directory
    t.makeDirectories place names

end Tree

end EscapeTime
