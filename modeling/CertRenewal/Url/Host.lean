import CertRenewal.Url.Domain
import CertRenewal.Url.Fault
import CertRenewal.Url.Percent

/-!
Hosts of addresses: domain names in their form in ASCII, and numeric addresses in
the shortest of their usual forms.
-/

namespace CertRenewal.Host

open Digit (number?)
open Domain (splitDots)

/-- A part of a numeric address, in decimal, octal or hexadecimal. -/
def ipv4Part? (part : List Char) : Option Nat :=
  match part with
  | [] => none
  | '0' :: 'x' :: digits => number? 16 digits
  | '0' :: 'X' :: digits => number? 16 digits
  | ['0'] => some 0
  | '0' :: digits => number? 8 digits
  | digits => number? 10 digits

/-- The parts of a domain, without an empty one at the very end. -/
def domainParts (domain : List Char) : List (List Char) :=
  let parts := splitDots domain
  if parts.getLast? = some [] then parts.dropLast else parts

/-- Whether the last part of a domain is a number, so that all of it must be an
address. -/
def endsInNumber (domain : List Char) : Bool :=
  match (domainParts domain).getLast? with
  | none => false
  | some last =>
    (!last.isEmpty && last.all fun char => '0' ≤ char && char ≤ '9')
      || (match last with
        | '0' :: mark :: digits =>
          (mark = 'x' || mark = 'X') && (number? 16 digits).isSome
        | _ => false)

def writeIpv4 (address : Nat) : List Char :=
  (".".intercalate ([address / 16777216, address / 65536 % 256, address / 256 % 256,
    address % 256].map toString)).toList

/-- A numeric address of four bytes. The last part stands for all that is left. -/
def ipv4? (domain : List Char) : Option (List Char) := do
  let parts := domainParts domain
  if 4 < parts.length then none
  else
    let numbers ← parts.mapM ipv4Part?
    let last ← numbers.getLast?
    let leading := numbers.dropLast
    if leading.any (255 < ·) then none
    else if Nat.pow 256 (4 - leading.length) ≤ last then none
    else
      let (address, _) := leading.foldl (fun (value, weight) number =>
        (value + number * weight, weight / 256)) (0, 16777216)
      some (writeIpv4 (address + last))

def group? (digits : List Char) : Option Nat :=
  if digits.isEmpty || 4 < digits.length then none else number? 16 digits

/-- The last two groups, from four decimal parts. -/
def dottedGroups? (text : List Char) : Option (List Nat) := do
  match ← (splitDots text).mapM fun part =>
    if part.isEmpty || (part.take 1 = ['0'] && part.length ≠ 1) then none
    else (number? 10 part).filter (· ≤ 255) with
  | [a, b, c, d] => some [a * 256 + b, c * 256 + d]
  | _ => none

/-- Groups between colons, where the last may be in decimal parts. -/
def groups? (text : List Char) : Option (List Nat) :=
  if text.isEmpty then some []
  else
    let parts := text.splitOn ':'
    match parts.getLast? with
    | none => none
    | some last =>
      if last.contains '.' then do
        some ((← parts.dropLast.mapM group?) ++ (← dottedGroups? last))
      else parts.mapM group?

def splitGap : List Char → List Char → Option (List Char × List Char)
  | _, [] => none
  | before, ':' :: ':' :: after => some (before.reverse, after)
  | before, char :: rest => splitGap (char :: before) rest

def ipv6Groups? (text : List Char) : Option (List Nat) :=
  match splitGap [] text with
  | none => (groups? text).filter (·.length = 8)
  | some (before, after) => do
    let left ← groups? before
    let right ← groups? after
    if before.contains '.' || 7 < left.length + right.length then none
    else some (left ++ List.replicate (8 - left.length - right.length) 0 ++ right)

def zeroRun (groups : List Nat) : Nat := (groups.takeWhile (· = 0)).length

/-- Where the longest run of zeros begins and how long it is. -/
def longestZeroRun (groups : List Nat) : Nat × Nat :=
  ((List.range groups.length).map fun start => (start, zeroRun (groups.drop start))).foldl
    (fun best run => if best.2 < run.2 then run else best) (0, 0)

def writeGroups (groups : List Nat) : List Char :=
  [':'].intercalate (groups.map (Nat.toDigits 16))

/-- The written form; the first of the longest runs of zeros is left out. -/
def writeIpv6 (groups : List Nat) : List Char :=
  let (start, length) := longestZeroRun groups
  let inside :=
    if length < 2 then writeGroups groups
    else writeGroups (groups.take start) ++ [':', ':'] ++ writeGroups (groups.drop (start + length))
  '[' :: inside ++ [']']

def readIpv6 (text : List Char) : Except UrlFault (List Char) :=
  match text with
  | '[' :: rest =>
    if rest.getLast? = some ']' then
      match ipv6Groups? rest.dropLast with
      | some groups => .ok (writeIpv6 groups)
      | none => .error .badIpv6
    else .error .badIpv6
  | _ => .error .badIpv6

/-- Reads the host of an address of a scheme whose hosts are domain names. -/
def readDomain (text : List Char) : Except UrlFault (List Char) :=
  if text.head? = some '[' then readIpv6 text
  else
    match (Bytes.text? (Percent.decode text)).bind fun name => Domain.ascii? name.toList with
    | none => .error .badDomain
    | some [] => .error .emptyHost
    | some domain =>
      if endsInNumber domain then
        match ipv4? domain with
        | some address => .ok address
        | none => .error .badIpv4
      else .ok domain

def readOpaque (text : List Char) : Except UrlFault (List Char) :=
  if text.head? = some '[' then readIpv6 text
  else if text.any Domain.isForbiddenInHost then .error .badDomainCharacter
  else .ok (Percent.encode Percent.isBeyond text)

end CertRenewal.Host
