import CertRenewal.Http.Headers

/-!
Media types, as they stand in a header: a type and a subtype, which may have a
suffix after its last plus sign, and parameters.
-/

namespace CertRenewal.MediaType

def isToken (byte : UInt8) : Bool :=
  (48 ≤ byte && byte ≤ 57) || (65 ≤ byte && byte ≤ 90) || (97 ≤ byte && byte ≤ 122)
    || [33, 35, 36, 37, 38, 39, 42, 43, 45, 46, 94, 95, 96, 124, 126].contains byte

def isTokenText (text : Bytes) : Bool := text.all isToken

def isQuotable (byte : UInt8) : Bool := 31 < byte && byte ≠ 127

/-- What follows a value in quotes, whose first byte may be a quote and whose
others may not. -/
def afterQuoted? : Bytes → Option Bytes
  | [] => none
  | first :: rest =>
    if isQuotable first then
      match rest.dropWhile fun byte => isQuotable byte && byte ≠ 34 with
      | 34 :: after => some after
      | _ => none
    else none

/-- Whether the text after a semicolon is a list of parameters, which may be empty
or end with a semicolon. A value is a token, which may be empty at the very end,
or stands in quotes. -/
def areParameters : Nat → Bytes → Bool
  | 0, _ => false
  | fuel + 1, text =>
    let text := text.dropWhile (· = 32)
    let name := text.takeWhile isToken
    if text.isEmpty then true
    else if name.isEmpty then false
    else
      match text.dropWhile isToken with
      | 61 :: 34 :: quoted =>
        match (afterQuoted? quoted).map fun (rest : Bytes) => rest.dropWhile (· = 32) with
        | some [] => true
        | some (59 :: more) => areParameters fuel more
        | _ => false
      | 61 :: plain =>
        match plain.dropWhile isToken with
        | [] => true
        | 59 :: more => if plain.head? = some 59 then false else areParameters fuel more
        | _ => false
      | _ => false

/-- The subtype without its suffix, and the suffix. A plus sign at the very
beginning belongs to the subtype. -/
def splitSuffix (subtype : Bytes) : Bytes × Option Bytes :=
  match subtype with
  | [] => ([], none)
  | first :: rest =>
    match rest.reverse.dropWhile (· ≠ 43) with
    | [] => (subtype, none)
    | _ :: before =>
      (first :: before.reverse, some (rest.reverse.takeWhile (· ≠ 43)).reverse)

def lowerByte (byte : UInt8) : UInt8 := if 65 ≤ byte && byte ≤ 90 then byte + 32 else byte

/-- Whether a header value names JSON or a type that is built on it. -/
def isJson (value : Bytes) : Bool :=
  let lowered := value.map lowerByte
  let kind := lowered.takeWhile (· ≠ 47)
  match lowered.dropWhile (· ≠ 47) with
  | [] => false
  | _ :: rest =>
    let subtype := rest.takeWhile (· ≠ 59)
    let parameters := (rest.dropWhile (· ≠ 59)).drop 1
    let (plain, suffix) := splitSuffix subtype
    kind = Bytes.ofText "application" && !subtype.isEmpty && isTokenText subtype
      && areParameters (parameters.length + 1) parameters
      && (plain = Bytes.ofText "json" || suffix = some (Bytes.ofText "json"))

end CertRenewal.MediaType
