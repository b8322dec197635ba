import ArchiveUpkeep.Files.Fault
import ArchiveUpkeep.Files.Path

/-! A tree of directories and files, and the ways in which a log file is prepared in it. A place in
the tree is the list of names that lead to it from the root, which is always a directory. -/
namespace ArchiveUpkeep

inductive Entry where
  | file (content : String)
  | directory
deriving DecidableEq, Repr

structure FileTree where
  entries : List (List String × Entry) := []
deriving Repr

namespace FileTree

/-- What stands at a place. -/
def entry? (tree : FileTree) (place : List String) : Option Entry :=
  if place = [] then some .directory else tree.entries.lookup place

/-- Puts an entry at a place. -/
def put (tree : FileTree) (place : List String) (entry : Entry) : FileTree :=
  ⟨(place, entry) :: tree.entries.filter (·.1 ≠ place)⟩

/-- The directory to which steps from a directory lead. One dot stays where it is, and two dots
lead one directory up. -/
def walk (tree : FileTree) (place : List String) : List String → Except PathFault (List String)
  | [] => .ok place
  | step :: rest =>
    if step = "." then tree.walk place rest
    else if step = ".." then tree.walk place.dropLast rest
    else
      match tree.entry? (place ++ [step]) with
      | none => .error .missing
      | some (.file _) => .error .notADirectory
      | some .directory => tree.walk (place ++ [step]) rest

/-- The place of an entry: the directory it is in, and its name there. There is none if the steps
end in dots, which name a directory by where it lies and not by its name. -/
def locate (tree : FileTree) (steps : List String) : Except PathFault (Option (List String)) :=
  match steps.getLast? with
  | none => .ok none
  | some name => do
    let parent ← tree.walk [] steps.dropLast
    return if name = "." ∨ name = ".." then none else some (parent ++ [name])

/-- Makes one directory, in a directory that is there. -/
def makeDirectory (tree : FileTree) (steps : List String) : Except PathFault FileTree := do
  match ← tree.locate steps with
  | none => .error .alreadyExists
  | some place =>
    match tree.entry? place with
    | some _ => .error .alreadyExists
    | none => .ok (tree.put place .directory)

/-- Makes one directory unless it is there. -/
def ensureDirectory (tree : FileTree) (steps : List String) : Except PathFault FileTree :=
  match tree.makeDirectory steps with
  | .ok made => .ok made
  | .error fault =>
    match tree.walk [] steps with
    | .ok _ => .ok tree
    | .error _ => .error fault

/-- Makes a directory and those above it that are missing. The steps are given from the last one to
the first, and single dots at their end are passed over. -/
def ensureUpward (tree : FileTree) : List String → Except PathFault FileTree
  | [] => .ok tree
  | "." :: above => tree.ensureUpward above
  | step :: above =>
    match tree.ensureDirectory (step :: above).reverse with
    | .error .missing => do (← tree.ensureUpward above).ensureDirectory (step :: above).reverse
    | result => result

/-- Makes the directories above an entry that are missing. -/
def ensureAbove (tree : FileTree) (steps : List String) : Except PathFault FileTree :=
  tree.ensureUpward (steps.reverse.dropWhile (· = ".")).tail

/-- Makes a directory and those above it that are missing. Steps that end in a single dot do not
make the directory they end in: it has to be there before the dot is followed. -/
def ensureDirectories (tree : FileTree) (steps : List String) : Except PathFault FileTree :=
  match tree.ensureDirectory steps with
  | .error .missing => do (← tree.ensureAbove steps).ensureDirectory steps
  | result => result

/-- Writes a file, in a directory that is made if it is missing. -/
def write (tree : FileTree) (steps : List String) (content : String) :
    Except PathFault FileTree := do
  let tree ← tree.ensureAbove steps
  match ← tree.locate steps with
  | none => .error .isADirectory
  | some place => .ok (tree.put place (.file content))

/-- Opens a file for appending and gives its content. A file that is missing is made, unless the
path ends in a slash, because that would make a directory of it. -/
def openForAppend (tree : FileTree) (path : String) : Except PathFault (String × FileTree) := do
  match ← tree.locate (Path.steps path) with
  | none => .error .isADirectory
  | some place =>
    if Path.endsInSlash path then .error .isADirectory else
    match tree.entry? place with
    | some (.file content) => .ok (content, tree)
    | some .directory => .error .isADirectory
    | none => .ok ("", tree.put place (.file ""))

/-- Whether the steps lead to a file. -/
def isFile (tree : FileTree) (steps : List String) : Bool :=
  match tree.locate steps with
  | .ok (some place) =>
    match tree.entry? place with
    | some (.file _) => true
    | _ => false
  | _ => false

end FileTree

end ArchiveUpkeep
