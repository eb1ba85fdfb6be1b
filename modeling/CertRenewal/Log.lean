import CertRenewal.Settings.Basic
import CertRenewal.Json.Printer
import CertRenewal.Text.Line

/-!
The log: entries at five levels, each from some part of the program, and the
lines in which they are written.
-/

namespace CertRenewal

inductive LogLevel
  | error
  | warn
  | info
  | debug
  | trace
deriving DecidableEq, Repr

namespace LogLevel

def name : LogLevel → String
  | error => "ERROR"
  | warn => "WARN"
  | info => "INFO"
  | debug => "DEBUG"
  | trace => "TRACE"

def rank : LogLevel → Nat
  | error => 1
  | warn => 2
  | info => 3
  | debug => 4
  | trace => 5

def all : List LogLevel := [error, warn, info, debug, trace]

end LogLevel

structure LogEntry where
  level : LogLevel
  target : String
  message : String
  values : List (String × Nat)
deriving DecidableEq, Repr

namespace LogEntry

def fields (entry : LogEntry) : List String := "message" :: entry.values.map (·.1)

/-- A character of a message in a line of text. Those that a terminal would obey
are written as their codes. -/
def writeChar (char : Char) : List Char :=
  let code := char.toNat
  if code = 0x07 then "\\x07".toList
  else if code = 0x08 then "\\x08".toList
  else if code = 0x0C then "\\x0c".toList
  else if code = 0x1B then "\\x1b".toList
  else if code = 0x7F then "\\x7f".toList
  else if 0x80 ≤ code ∧ code ≤ 0x9F then
    ['\\', 'u', '\x7b'] ++ Nat.toDigits 16 code ++ ['\x7d']
  else [char]

def writeMessage (message : String) : String := String.ofList (message.toList.flatMap writeChar)

def write (entry : LogEntry) : LogFormat → String
  | .text =>
    entry.level.name ++ " " ++ entry.target ++ ": " ++ writeMessage entry.message
      ++ String.join (entry.values.map fun (name, value) => " " ++ name ++ "=" ++ toString value)
  | .json =>
    (Json.Tree.object
      [("level", .text entry.level.name),
       ("fields", .object (("message", .text entry.message)
         :: entry.values.map fun (name, value) => (name, .number value))),
       ("target", .text entry.target)]).compact

/-- The entry in lines. A message may hold the ends of several. -/
def lines (entry : LogEntry) (format : LogFormat) : List String :=
  Line.split (entry.write format)

end LogEntry

/-- The last level that is let through; none lets nothing through. -/
abbrev Verbosity := Option LogLevel

namespace Verbosity

def admits (verbosity : Verbosity) (level : LogLevel) : Bool :=
  match verbosity with
  | none => false
  | some last => level.rank ≤ last.rank

end Verbosity

end CertRenewal
