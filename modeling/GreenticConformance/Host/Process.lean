import GreenticConformance.Host.Path

/-!
# Processes

`std::process::Command`. A process that is started may answer differently each time,
so what it does depends on how many were started before it.
-/

namespace GreenticConformance.Host

/-- `std::process::ExitStatus`: the exit code, unless a signal ended the process,
and the text it is displayed as. -/
structure ExitStatus where
  code : Option ℕ
  display : String
  deriving DecidableEq

/-- `ExitStatus::success`. -/
def ExitStatus.success (status : ExitStatus) : Bool := status.code = some 0

/-- `std::process::Output`. -/
structure Output where
  status : ExitStatus
  stdout : OsStr
  stderr : OsStr
  deriving DecidableEq

/-- `std::process::Command`, with the payload that is written to its standard input.
The environment is what is set on top of the inherited one, later entries over
earlier ones. -/
structure Command where
  program : Path
  args : List OsStr
  env : List (String × OsStr)
  currentDir : Option Path
  stdin : Option String
  deriving DecidableEq

/-- A process that was started. -/
structure Child where
  writeStdin : Except String Unit
  waitWithOutput : Except String Output

/-- How the programs of the system behave, by the number of processes started
before. -/
structure Processes where
  spawn : ℕ → Command → Except String Child

/-- `Command::output`. -/
def Processes.output (processes : Processes) (started : ℕ) (command : Command) :
    Except String Output := do
  let child ← processes.spawn started command
  child.waitWithOutput

end GreenticConformance.Host
