import CertRenewal.Settings.Draft

/-!
The words of a command line. A setting is named by two hyphens and its word, and
its value is the word after that or follows an equals sign. A value in a word of
its own is looked at only when the next setting or the end is reached, so that a
word that has no place is reported before it.
-/

namespace CertRenewal

/-- How a command line can be asked about the program. -/
structure CommandForm where
  /-- The first line that is told when help is asked for. -/
  about : String
  /-- What is told when the version is asked for, if that can be asked. -/
  version : Option String
deriving DecidableEq, Repr

inductive CommandRequest
  | start (settings : Settings)
  | tell (line : String)
deriving DecidableEq, Repr

/-- Why reading ends before the last word. -/
inductive CommandStop
  | fault (fault : UsageFault)
  | tell (line : String)
deriving DecidableEq, Repr

/-- The setting that was named last, as long as its value is not yet looked at. -/
inductive PendingSetting
  | nothing
  | awaiting (setting : Setting)
  | given (setting : Setting) (value : String)
deriving DecidableEq, Repr

namespace CommandForm

def settle (draft : SettingsDraft) : PendingSetting → Except CommandStop SettingsDraft
  | .nothing => .ok draft
  | .awaiting setting => .error (.fault (.missingValue setting))
  | .given setting value => (draft.give setting value).mapError .fault

inductive Word
  | long (name : String) (value : Option String)
  /-- A hyphen and letters, of which the first counts. -/
  | short (letter : Char)
  | plain (text : String)
deriving DecidableEq, Repr

/-- The text before the first equals sign, and what follows it. -/
def splitValue (text : List Char) : String × Option String :=
  let name := String.ofList (text.takeWhile (· ≠ '='))
  match text.dropWhile (· ≠ '=') with
  | [] => (name, none)
  | _ :: value => (name, some (String.ofList value))

def Word.ofText (text : String) : Word :=
  match text.toList with
  | '-' :: '-' :: rest => let (name, value) := splitValue rest; .long name value
  | '-' :: letter :: _ => .short letter
  | _ => .plain text

/-- What a long name that is no setting asks to be told. -/
def longAnswer? (form : CommandForm) (name : String) : Option String :=
  if name = "help" then some form.about
  else if name = "version" then form.version
  else none

def shortAnswer? (form : CommandForm) (letter : Char) : Option String :=
  if letter = 'h' then some form.about
  else if letter = 'V' then form.version
  else none

/-- Ends reading with an answer, unless what is pending is at fault. -/
def tellAfter {α : Type} (draft : SettingsDraft) (pending : PendingSetting) (line : String) :
    Except CommandStop α := do
  let _ ← settle draft pending
  throw (.tell line)

def readWord (form : CommandForm) (draft : SettingsDraft) (pending : PendingSetting)
    (word : Word) : Except CommandStop (SettingsDraft × PendingSetting) :=
  match word with
  | .plain text =>
    match pending with
    | .awaiting setting => .ok (draft, .given setting text)
    | _ => .error (.fault (.unknownWord text))
  | .short letter =>
    match form.shortAnswer? letter with
    | some line => tellAfter draft pending line
    | none => .error (.fault (.unknownWord (String.ofList ['-', letter])))
  | .long name value =>
    match Setting.ofWord? name, value with
    | some setting, none => do return (← settle draft pending, .awaiting setting)
    | some setting, some value => do
      let settled ← settle draft pending
      let after ← (settled.give setting value).mapError .fault
      return (after, .nothing)
    | none, _ =>
      match form.longAnswer? name, value with
      | none, _ => .error (.fault (.unknownWord ("--" ++ name)))
      | some line, none => tellAfter draft pending line
      | some _, some value => .error (.fault (.needlessValue ("--" ++ name) value))

/-- Reads words up to the end. After two hyphens alone no word has a place. -/
def readWords (form : CommandForm) (draft : SettingsDraft) (pending : PendingSetting) :
    List String → Except CommandStop SettingsDraft
  | [] => settle draft pending
  | ["--"] => settle draft pending
  | "--" :: next :: _ => .error (.fault (.unknownWord next))
  | text :: texts => do
    let (grown, left) ← form.readWord draft pending (Word.ofText text)
    form.readWords grown left texts

/-- Reads a command line, and from the environment what it leaves open. -/
def read (form : CommandForm) (words : List String) (environment : Environment) :
    Except UsageFault CommandRequest :=
  match form.readWords .blank .nothing words with
  | .error (.tell line) => .ok (.tell line)
  | .error (.fault fault) => .error fault
  | .ok draft => do return .start (← draft.fill environment Setting.all).finish

end CommandForm

end CertRenewal
