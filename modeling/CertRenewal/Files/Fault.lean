/-!
What can go wrong with a file, in the words of the operating system.
-/

namespace CertRenewal

inductive FileFault
  | notFound
  | exists
  | notDirectory
  | isDirectory
  /-- Anything else, as the system tells it. -/
  | other (reason : String)
deriving DecidableEq, Repr

def FileFault.message : FileFault → String
  | .notFound => "No such file or directory (os error 2)"
  | .exists => "File exists (os error 17)"
  | .notDirectory => "Not a directory (os error 20)"
  | .isDirectory => "Is a directory (os error 21)"
  | .other reason => reason

end CertRenewal
