import SecretRotation.Startup

/-!
# The command

The operator as a command: it takes its settings from the environment of its process, logs to the
standard output, and says on the standard error stream why it ends.
-/

namespace SecretRotation

/-- The environment of the process, as far as the operator looks at it. -/
def processEnvironment : IO Environment := do
  let names := ["WATCH_NAMESPACE", "MAX_CONCURRENT_UPDATES", "LIST_PAGE_SIZE"]
  let values ← names.mapM fun name => return (name, ← IO.getEnv name)
  return values.filterMap fun (name, value) => value.map fun v => (name, v.toUTF8)

end SecretRotation

/-- Runs the operator. -/
def main : IO UInt32 := do
  let ending := SecretRotation.startUp (← SecretRotation.processEnvironment)
  for event in ending.events do
    IO.println event.consoleText
  IO.eprintln ending.complaint
  return ending.status.toUInt32
