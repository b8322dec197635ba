/-! Why a path cannot be used as asked, in the words of the operating system. -/
namespace ArchiveUpkeep

inductive PathFault where
  | missing
  | alreadyExists
  | notADirectory
  | isADirectory
deriving DecidableEq, Repr

/-- The number of the error. -/
def PathFault.number : PathFault → Nat
  | missing => 2
  | alreadyExists => 17
  | notADirectory => 20
  | isADirectory => 21

def PathFault.description : PathFault → String
  | missing => "No such file or directory"
  | alreadyExists => "File exists"
  | notADirectory => "Not a directory"
  | isADirectory => "Is a directory"

def PathFault.message (fault : PathFault) : String :=
  s!"{fault.description} (os error {fault.number})"

end ArchiveUpkeep
