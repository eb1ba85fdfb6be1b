import CertRenewal.Log.Directive

/-!
What of the log is let through. A filter is a list of directives; of those that
speak of an entry the one that counts first decides, and without any nothing is
let through.
-/

namespace CertRenewal

/-- Directives in the order in which they count. -/
structure LogFilter where
  directives : List LogDirective
deriving DecidableEq, Repr

namespace LogFilter

/-- What is let through when nothing else is asked for. -/
def standard : LogFilter := ⟨[{ LogDirective.blank with verbosity := some .info }]⟩

/-- Puts a directive in its place among the others, over one with the same words. -/
def insert (directive : LogDirective) : List LogDirective → List LogDirective
  | [] => [directive]
  | other :: others =>
    if directive.isSame other then directive :: others
    else if directive.precedes other then directive :: other :: others
    else other :: insert directive others

/-- The filter of directives that were given in some order. Those with fields are
taken after those without. -/
def ofDirectives (given : List LogDirective) : LogFilter :=
  let deciding := given.filter LogDirective.isStatic
  ⟨(deciding.filter (·.fields.isEmpty) ++ deciding.filter (!·.fields.isEmpty)).foldl
    (fun directives directive => insert directive directives) []⟩

def ofText? (text : String) : Option LogFilter := do
  let parts := (text.toList.splitOn ',').filter fun part => !part.isEmpty
  return ofDirectives (← parts.mapM LogDirective.ofText?)

/-- The filter that the environment asks for; one that cannot be read counts for
nothing. -/
def ofEnvironment (environment : Environment) : LogFilter :=
  ((environment "RUST_LOG").bind ofText?).getD standard

def verbosityFor (filter : LogFilter) (entry : LogEntry) : Verbosity :=
  (filter.directives.find? fun directive => directive.speaksOf entry).bind (·.verbosity)

def admits (filter : LogFilter) (entry : LogEntry) : Bool :=
  (filter.verbosityFor entry).admits entry.level

end LogFilter

end CertRenewal
