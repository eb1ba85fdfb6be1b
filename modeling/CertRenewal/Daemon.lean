import CertRenewal.Catalogue
import CertRenewal.Http.Issuer
import CertRenewal.Machine
import CertRenewal.Settings.Basic

/-!
How the daemon starts. Its settings are checked before anything else, and the
directory for keys and certificate is there before the catalogue is read, so
that the first thing that is wrong is what is reported.
-/

namespace CertRenewal

inductive StartFault
  | settings (fault : SettingsFault)
  | directory (fault : FileFault)
  | catalogue (fault : CatalogueFault)
  | listening (fault : ListenFault)
deriving DecidableEq, Repr

def StartFault.message : StartFault → String
  | .settings fault => fault.message
  | .directory fault => fault.message
  | .catalogue fault => fault.message
  | .listening fault => fault.message

structure Daemon where
  settings : Settings
  stateDirectory : String
  catalogue : Catalogue
  issuer : HttpIssuer

namespace Daemon

variable {m : Type → Type} [Monad m]

def loadCatalogue (machine : Machine m) (settings : Settings) :
    m (Except CatalogueFault Catalogue) :=
  match settings.catalogueFile with
  | none => return .ok .builtIn
  | some file => return Catalogue.load (← machine.read file)

def issuerOf (settings : Settings) (environment : Environment) : HttpIssuer :=
  .new settings.issuerUrl settings.certificateDuration (environment "HOSTNAME")

def start (machine : Machine m) (settings : Settings) (environment : Environment) :
    m (Except StartFault Daemon) := do
  match settings.validate with
  | .error fault => return .error (.settings fault)
  | .ok () =>
    let directory := settings.stateDirectoryIn environment
    match ← machine.makeDirectories directory with
    | .error fault => return .error (.directory fault)
    | .ok () =>
      match ← loadCatalogue machine settings with
      | .error fault => return .error (.catalogue fault)
      | .ok catalogue =>
        match ← machine.listen settings.host settings.port with
        | .error fault => return .error (.listening fault)
        | .ok () => return .ok ⟨settings, directory, catalogue, issuerOf settings environment⟩

end Daemon

end CertRenewal
