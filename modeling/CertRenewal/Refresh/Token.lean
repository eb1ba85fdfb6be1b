/-!
A single token that tasks take in turn. One that asks while the token is taken
stands in line; whoever gives the token back grants it to the first in line, who
holds it once it accepts. Nobody else can take it in between.
-/

namespace CertRenewal

abbrev TaskId := Nat

inductive TokenPlace
  | free
  /-- Handed to a task that has not taken it up yet. -/
  | granted (task : TaskId)
  | held (task : TaskId)
deriving DecidableEq, Repr

/-- The token and the line of those who wait for it. -/
structure Token where
  place : TokenPlace
  line : List TaskId
deriving DecidableEq, Repr

namespace Token

def initial : Token := ⟨.free, []⟩

/-- Takes the token when it is free, and stands in line otherwise. -/
def ask (token : Token) (task : TaskId) : Token :=
  match token.place with
  | .free => { token with place := .held task }
  | _ => { token with line := token.line ++ [task] }

def passOn (token : Token) : Token :=
  match token.line with
  | [] => ⟨.free, []⟩
  | next :: rest => ⟨.granted next, rest⟩

def accept (token : Token) (task : TaskId) : Token :=
  if token.place = .granted task then { token with place := .held task } else token

/-- Leaves the line, and passes on a token that was granted meanwhile. -/
def leave (token : Token) (task : TaskId) : Token :=
  if token.place = .granted task then token.passOn
  else { token with line := token.line.filter (· ≠ task) }

def release (token : Token) (task : TaskId) : Token :=
  if token.place = .held task then token.passOn else token

def isFree (token : Token) : Bool := token.place = .free

end Token

end CertRenewal
