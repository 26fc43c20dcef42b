import Gatehouse.Command

namespace Gatehouse

def Command.file? : Command → Option String
  | health _ => none
  | routes config => config
  | checkConfig config => some config

/-- Answers without connections. -/
def outOfReach (_ : Unit) (_ : RequestTarget) : Outcome × Unit := (.refused 0, ())

def readFile? (path : String) : IO (Option ByteArray) := do
  try return some (← IO.FS.readBinFile path)
  catch _ => return none

def usageStatus : UInt32 := 2

def usage : String := "usage: gatehouse health | routes | check-config"

def execute (command : Command) : IO UInt32 := do
  let contents ← match command.file? with
    | some path => readFile? path
    | none => pure none
  let files : Files := fun path => if some path = command.file? then contents else none
  let report := ((command.run files).run outOfReach ()).result
  (← IO.getStdout).putStr report.stdout
  (← IO.getStderr).putStr report.stderr
  return report.exit.toUInt32

end Gatehouse

def main (arguments : List String) : IO UInt32 := do
  match Gatehouse.Command.ofArguments? arguments with
  | some command => Gatehouse.execute command
  | none =>
    (← IO.getStderr).putStrLn Gatehouse.usage
    return Gatehouse.usageStatus
