import CertRenewal.Daemon
import CertRenewal.Log.Filter
import CertRenewal.Settings.CommandLine
import CertRenewal.Text.Line

/-!
The program behind the command line: what it tells, what it puts into the log
and the code with which it ends.
-/

namespace CertRenewal

/-- How a run of the program that ended by itself went. -/
structure ProgramResult where
  exitCode : Nat
  output : Option String
  complaint : Option String
  /-- The entries of the log that were let through, and the form they have. -/
  entries : List LogEntry
  logFormat : LogFormat
deriving DecidableEq, Repr

/-- A run that has ended, or the daemon that goes on. -/
inductive ProgramStage
  | ended (result : ProgramResult)
  | started (entries : List LogEntry) (daemon : Daemon)

namespace ProgramResult

def outputLines (result : ProgramResult) : List String :=
  result.output.toList ++ result.entries.flatMap fun entry => entry.lines result.logFormat

end ProgramResult

namespace Program

def form : CommandForm := ⟨"Keep a client certificate fresh", some "certkeeper 0.1.0"⟩

def environmentNames : List String :=
  Setting.all.map Setting.environmentName
    ++ ["XDG_STATE_HOME", "HOME", "HOSTNAME", "RUST_LOG"]

def shortMargin (intervals : Intervals) : LogEntry where
  level := .warn
  target := "certkeeper::config"
  message := "refresh margin shorter than check interval; a check may miss the window"
  values :=
    [("refresh_earlier_by_ms", intervals.refreshEarlierBy),
     ("check_interval_ms", intervals.checkInterval)]

/-- The entry about a daemon that did not start. -/
def fatal (message : String) : LogEntry :=
  ⟨.error, "certkeeper", "fatal: " ++ message, []⟩

/-- What is noted about settings: only those that may be used are looked at
further. -/
def notices (settings : Settings) : List LogEntry :=
  match settings.validate with
  | .error _ => []
  | .ok () => if settings.hasShortMargin then [shortMargin settings.intervals] else []

def tell (line : String) : ProgramResult := ⟨0, some line, none, [], .text⟩

def complain (fault : UsageFault) : ProgramResult :=
  ⟨2, none, some (Line.first fault.message), [], .text⟩

def fail (filter : LogFilter) (settings : Settings) (message : String) : ProgramResult :=
  ⟨1, none, none, (notices settings ++ [fatal message]).filter filter.admits,
    settings.logFormat⟩

def run {m : Type → Type} [Monad m] (machine : Machine m) (words : List String)
    (environment : Environment) : m ProgramStage := do
  match form.read words environment with
  | .error fault => return .ended (complain fault)
  | .ok (.tell line) => return .ended (tell line)
  | .ok (.start settings) =>
    let filter := LogFilter.ofEnvironment environment
    match ← Daemon.start machine settings environment with
    | .error fault => return .ended (fail filter settings fault.message)
    | .ok daemon => return .started ((notices settings).filter filter.admits) daemon

end Program

end CertRenewal
