import CertRenewal.Text.Digit

/-!
Which texts are patterns: alternatives of parts, each of them a character, a class
of characters in brackets or a group in parentheses, perhaps repeated. A pattern
of this kind holds no closing brace, so that a brace never opens a count.
-/

namespace CertRenewal.Pattern

/-- Characters that mean themselves behind a backslash, apart from marks that are
not used for anything. -/
def isSign (char : Char) : Bool :=
  let code := char.toNat
  33 ≤ code && code ≤ 126 && !char.isAlphanum && char ≠ '<' && char ≠ '>'

def afterDigits? : Nat → List Char → Option (List Char)
  | 0, rest => some rest
  | count + 1, digit :: rest =>
    if (Digit.value? digit).isSome then afterDigits? count rest else none
  | _, [] => none

/-- What follows an escape, behind its backslash. -/
def afterEscape? : List Char → Option (List Char)
  | [] => none
  | 'x' :: rest => afterDigits? 2 rest
  | 'u' :: rest => afterDigits? 4 rest
  | 'U' :: rest => afterDigits? 8 rest
  | char :: rest =>
    if isSign char || ['a', 'f', 't', 'n', 'r', 'v', 'A', 'z'].contains char then some rest
    else none

/-- What follows a class, behind its opening bracket. A class may hold others; its
first character may be a closing bracket. -/
def afterClass? : Nat → Nat → List Char → Option (List Char)
  | 0, _, _ => none
  | _, _, [] => none
  | fuel + 1, depth, '\\' :: rest => do afterClass? fuel depth (← afterEscape? rest)
  | fuel + 1, depth, '[' :: '^' :: ']' :: rest => afterClass? fuel (depth + 1) rest
  | fuel + 1, depth, '[' :: ']' :: rest => afterClass? fuel (depth + 1) rest
  | fuel + 1, depth, '[' :: rest => afterClass? fuel (depth + 1) rest
  | fuel + 1, depth, ']' :: rest =>
    if depth = 1 then some rest else afterClass? fuel (depth - 1) rest
  | fuel + 1, depth, _ :: rest => afterClass? fuel depth rest

/-- What follows a question mark that stands behind an opening parenthesis: a name
for the group or flags. The flag says whether a group was opened. -/
def afterFlags? (text : List Char) : Option (Bool × List Char) :=
  let behindName := fun (rest : List Char) =>
    let name := rest.takeWhile (· ≠ '>')
    match rest.dropWhile (· ≠ '>'), name with
    | _ :: after, first :: _ =>
      if (first.isAlpha || first = '_')
          && name.all (fun char => char.isAlphanum || ['_', '.', '[', ']'].contains char) then
        some (true, after)
      else none
    | _, _ => none
  match text with
  | 'P' :: '<' :: rest => behindName rest
  | '<' :: rest => behindName rest
  | _ =>
    let flags := text.takeWhile fun char => ['i', 'm', 's', 'U', 'u', 'x', 'R', '-'].contains char
    match text.drop flags.length with
    | ':' :: rest => if flags.getLast? = some '-' then none else some (true, rest)
    | ')' :: rest =>
      if flags.isEmpty || flags.getLast? = some '-' then none else some (false, rest)
    | _ => none

/-- Whether what is left of a pattern is valid inside of so many groups; the flag
says whether there is something to repeat. -/
def isValidFrom : Nat → Nat → Bool → List Char → Bool
  | 0, _, _, _ => false
  | _, depth, _, [] => depth = 0
  | fuel + 1, depth, canRepeat, char :: rest =>
    match char with
    | '(' =>
      match rest with
      | '?' :: flags =>
        match afterFlags? flags with
        | some (true, inside) => isValidFrom fuel (depth + 1) false inside
        | some (false, after) => isValidFrom fuel depth false after
        | none => false
      | _ => isValidFrom fuel (depth + 1) false rest
    | ')' => depth ≠ 0 && isValidFrom fuel (depth - 1) true rest
    | '|' => isValidFrom fuel depth false rest
    | '[' =>
      match afterClass? fuel 0 (char :: rest) with
      | some after => isValidFrom fuel depth true after
      | none => false
    | '\\' =>
      match afterEscape? rest with
      | some after => isValidFrom fuel depth true after
      | none => false
    | '\x7b' => false
    | _ =>
      if ['*', '+', '?'].contains char then canRepeat && isValidFrom fuel depth true rest
      else isValidFrom fuel depth true rest

def isValid (text : List Char) : Bool := isValidFrom (text.length + 1) 0 false text

end CertRenewal.Pattern
