import CertRenewal.FailureKind
import CertRenewal.Files.Fault
import CertRenewal.Json.Decode
import CertRenewal.NumberMap

/-!
What the codes and statuses of the issuer mean. A catalogue that is loaded from
a file is laid over the one built in, and a code counts before a status.
-/

namespace CertRenewal

open Json

/-- A failure as the issuer or the network in front of it reports it. -/
structure RemoteFailure where
  /-- The status of the answer, when there was one. -/
  status : Option UInt16
  code : Option Int64
  message : String
  /-- The time to wait that came with the answer. -/
  retryAfter : Option Span
deriving DecidableEq, Repr

namespace RemoteFailure

/-- A failure of the network, before there was an answer. -/
def transport (message : String) : RemoteFailure := ⟨none, none, message, none⟩

def describe (failure : RemoteFailure) : String :=
  match failure.status, failure.code with
  | some status, some code =>
    toString status.toNat ++ " (code " ++ toString code.toInt ++ "): " ++ failure.message
  | some status, none => toString status.toNat ++ ": " ++ failure.message
  | none, _ => failure.message

end RemoteFailure

structure Catalogue where
  codes : NumberMap Int64 FailureKind
  statuses : NumberMap UInt16 FailureKind
deriving DecidableEq

/-- Why a catalogue could not be loaded. -/
inductive CatalogueFault
  | unreadable (fault : FileFault)
  | notText
  | malformed (message : String)
deriving DecidableEq, Repr

def CatalogueFault.message : CatalogueFault → String
  | .unreadable fault => fault.message
  | .notText => "stream did not contain valid UTF-8"
  | .malformed message => message

namespace Catalogue

def empty : Catalogue := ⟨.empty, .empty⟩

def builtIn : Catalogue where
  codes := .ofList
    [(10013, .sessionExpired),
     (86101, .certificateExpired),
     (86102, .certificateRevoked),
     (86103, .needNewKeys), -- the key was used several times
     (86104, .systemError .serverError),
     (86105, .systemError .badCertificateSignature),
     (86106, .systemError .certificateNotProvided),
     (86110, .policyViolation .maxSessionsUnknown),
     (86111, .policyViolation .maxSessionsFree),
     (86112, .policyViolation .maxSessionsBasic),
     (86113, .policyViolation .maxSessionsPlus),
     (86114, .policyViolation .maxSessionsVisionary),
     (86115, .policyViolation .maxSessionsPro),
     (86151, .policyViolation .restrictedServer),
     (86152, .policyViolation .lowPlan),
     (86153, .policyViolation .delinquent),
     (86154, .policyViolation .torrentNotAllowed),
     (86155, .policyViolation .badBehavior),
     (86156, .policyViolation .guestSession),
     (86202, .needNewKeys), -- the session of the server has another key
     (86211, .systemError .netshield),
     (86226, .systemError .nonRandomizedNat),
     (86231, .systemError .splitTcp),
     (86241, .systemError .safeMode)]
  statuses := .ofList
    [(401, .sessionExpired),
     (409, .needNewKeys), -- the keys conflict
     (429, .tooManyRequests)]

def overlay (base upper : Catalogue) : Catalogue :=
  ⟨base.codes.overlay upper.codes, base.statuses.overlay upper.statuses⟩

/-- The kind of a failure: that of its code, or else that of its status. -/
def kind? (catalogue : Catalogue) (failure : RemoteFailure) : Option FailureKind :=
  match failure.code.bind catalogue.codes.get? with
  | some kind => some kind
  | none => failure.status.bind catalogue.statuses.get?

def classify (catalogue : Catalogue) (failure : RemoteFailure) : Failure :=
  match catalogue.kind? failure with
  | some kind => kind.toFailure failure.retryAfter
  | none => .unclassified failure.describe

def readKind : Reader FailureKind := do
  let tag ← Reader.string
  match FailureKind.ofTag? tag with
  | some kind => return kind
  | none => Reader.refuseInWords (FailureKind.unknownMessage tag)

structure Draft where
  codes : Option (NumberMap Int64 FailureKind)
  statuses : Option (NumberMap UInt16 FailureKind)

def readCode : Reader Int64 := do return Int64.ofInt (← Reader.int64)

def readStatus : Reader UInt16 := do return UInt16.ofNat (← Reader.uint16)

def shape : Shape Draft Catalogue where
  name := "ClassificationTable"
  blank := ⟨none, none⟩
  fields :=
    [⟨"codes", (·.codes.isSome), fun draft => do
        return { draft with
          codes := some (← Reader.numberMap readCode readKind NumberMap.insert .empty) }, true⟩,
     ⟨"statuses", (·.statuses.isSome), fun draft => do
        return { draft with
          statuses := some (← Reader.numberMap readStatus readKind NumberMap.insert .empty) },
        true⟩]
  finish draft := .ok ⟨draft.codes.getD .empty, draft.statuses.getD .empty⟩

def ofBytes (bytes : Bytes) : Except Fault Catalogue := readAll shape.read bytes

def entryTrees {κ : Type} [Numbered κ] (map : NumberMap κ FailureKind) : List (String × Tree) :=
  map.entries.map fun entry =>
    (toString (Numbered.number entry.1), .text entry.2.tag)

def toTree (catalogue : Catalogue) : Tree :=
  .object [("codes", .object (entryTrees catalogue.codes)),
    ("statuses", .object (entryTrees catalogue.statuses))]

def toBytes (catalogue : Catalogue) : Bytes := Bytes.ofText catalogue.toTree.compact

def load (file : Except FileFault Bytes) : Except CatalogueFault Catalogue :=
  match file with
  | .error fault => .error (.unreadable fault)
  | .ok content =>
    match Bytes.text? content with
    | none => .error .notText
    | some _ =>
      match ofBytes content with
      | .ok upper => .ok (builtIn.overlay upper)
      | .error fault => .error (.malformed (fault.message content))

end Catalogue

end CertRenewal
