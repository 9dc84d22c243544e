import VaultUsage.Run

/-!
# The command line program

Collects what a run depends on, and carries out what comes of it. There is no HTTP library to build on, so
every request ends without a reply.
-/

namespace VaultUsage

/-- What stands at a path now. -/
def entryAt (path : String) : IO Entry := do
  try
    return .file (← IO.FS.readFile path)
  catch
    | .noFileOrDirectory .. => return .vacant
    | .inappropriateType _ code _ => return if code = 21 then .folder else .blocked
    | .invalidArgument .. => return .overlong
    | _ => return .binary

/-- The paths that a run looks at. -/
def pathsOf (a : Arguments) : List String :=
  [Settings.fileName, Settings.usualPath] ++ a.config.toList ++ a.output.toList

def filesFor (paths : List String) : IO Files := do
  let entries ← paths.mapM fun path => return (path, ← entryAt path)
  return fun path => (entries.lookup path).getD .missing

/-- No report is made without a reply, so no time is shown. -/
def clock : Clock := ⟨⟨⟨1970, 1, 1⟩, ⟨0, 0, 0, 0⟩, by decide⟩, .zero false⟩

def invocation (arguments : List String) : IO Invocation := do
  let environment : Arguments.Environment := ⟨← IO.getEnv "VAULTDOOR_URL", ← IO.getEnv "VAULTDOOR_TOKEN"⟩
  let paths := match Arguments.read environment arguments with
    | .ok a => pathsOf a
    | .error _ => []
  return { arguments, environment, files := ← filesFor paths, clock, network := .unreachable "no HTTP library" }

def perform (o : Outcome) : IO Unit := do
  for record in o.log do
    IO.eprintln record.render
  for (path, content) in o.writes do
    IO.FS.writeFile path content
  IO.print o.output
  IO.eprint o.errors

end VaultUsage

def main (arguments : List String) : IO UInt32 := do
  let outcome := VaultUsage.run (← VaultUsage.invocation arguments)
  VaultUsage.perform outcome
  return outcome.exitCode.toUInt32
