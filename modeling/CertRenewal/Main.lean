import CertRenewal.Program

/-!
The command line. Its machine keeps files and has no network, so the daemon ends
where it would begin to take requests.
-/

namespace CertRenewal.Main

def faultOf : IO.Error → FileFault
  | .noFileOrDirectory .. => .notFound
  | .alreadyExists .. => .exists
  | .inappropriateType _ 20 _ => .notDirectory
  | .inappropriateType .. => .isDirectory
  | problem => .other (toString problem)

def attempt {α : Type} (action : IO α) : IO (Except FileFault α) := do
  match ← action.toBaseIO with
  | .ok value => return .ok value
  | .error problem => return .error (faultOf problem)

/-- Creates a directory and those on the way to it. What went wrong is what goes
wrong with the directory itself. -/
def makeDirectories (path : String) : IO (Except FileFault Unit) := do
  match ← attempt (IO.FS.createDirAll path) with
  | .ok () => return .ok ()
  | .error _ => attempt (IO.FS.createDir path)

def machine : Machine IO where
  makeDirectories := makeDirectories
  read path := attempt do return (← IO.FS.readBinFile path).toList
  listen _ _ := return .error .networkUnreachable

def readEnvironment : IO Environment := do
  let values ← Program.environmentNames.mapM fun name => do return (name, ← IO.getEnv name)
  return fun name => (values.lookup name).join

def finish (result : ProgramResult) : IO UInt32 := do
  for line in result.outputLines do
    IO.println line
  for line in result.complaint do
    IO.eprintln line
  return UInt32.ofNat result.exitCode

end CertRenewal.Main

open CertRenewal

def main (words : List String) : IO UInt32 := do
  match ← Program.run Main.machine words (← Main.readEnvironment) with
  | .ended result => Main.finish result
  | .started entries daemon => Main.finish ⟨0, none, none, entries, daemon.settings.logFormat⟩
