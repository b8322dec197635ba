import ArchiveUpkeep.Text.Literal
import ArchiveUpkeep.Worker.Executions
import ArchiveUpkeep.Worker.Basic

/-! The one-line description of a worker for diagnosis: its archive, how many targets and tasks it
has, and its tick interval. -/
namespace ArchiveUpkeep

/-- The decimals of a number of thousandths, without trailing zeros. -/
def thousandths (n : Nat) : String :=
  let digits := [n / 100, n / 10 % 10, n % 10]
  "".intercalate ((digits.reverse.dropWhile (· = 0)).reverse.map toString)

/-- A number of milliseconds in its largest fitting unit. -/
def intervalText (milliseconds : Nat) : String :=
  if milliseconds = 0 then "0ns"
  else if milliseconds < 1000 then s!"{milliseconds}ms"
  else if milliseconds % 1000 = 0 then s!"{milliseconds / 1000}s"
  else s!"{milliseconds / 1000}.{thousandths (milliseconds % 1000)}s"

/-- The worker's archive is never in a volume group, and its role is always that of an archive. -/
def Worker.describe (worker : Worker) (executions : Executions) : String :=
  let archive := worker.primary
  let name := Text.textLiteral archive.name
  let addr := Text.textLiteral archive.addr
  s!"Worker \x7b a0: ServerParams \x7b name: {name}, addr: {addr}, port: {archive.port}, " ++
    s!"role: Archive, vg: None \x7d, repl_targets: {worker.targets.length}, " ++
    s!"registry: {executions.slots}, tick_interval: {intervalText worker.tickInterval}, .. \x7d"

end ArchiveUpkeep
