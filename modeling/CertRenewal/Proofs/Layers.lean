import CertRenewal.Catalogue
import CertRenewal.Proofs.Entries
import CertRenewal.Proofs.Renders
import CertRenewal.Proofs.Utf8

/-!
A catalogue from a file, laid over the one built in. A failure is made out to be what is
found first: under its code in the file, under its code among those built in, under its
status in the file, or under its status among those built in. Where the file has several
entries for a number, the last one counts.
-/

namespace CertRenewal

open Json

/-- The entries of a file in the order in which they stand there, repeated ones included. -/
structure Listing where
  codes : List (Int64 × FailureKind)
  statuses : List (UInt16 × FailureKind)
deriving DecidableEq

namespace Listing

structure Draft where
  codes : Option (List (Int64 × FailureKind))
  statuses : Option (List (UInt16 × FailureKind))

/-- Entries are listed one behind the other. -/
def note {κ : Type} (key : κ) (kind : FailureKind) (list : List (κ × FailureKind)) :
    List (κ × FailureKind) := list ++ [(key, kind)]

def shape : Shape Draft Listing where
  name := "ClassificationTable"
  blank := ⟨none, none⟩
  fields :=
    [⟨"codes", (·.codes.isSome), fun draft => do
        return { draft with
          codes := some (← Reader.numberMap Catalogue.readCode Catalogue.readKind note []) }, true⟩,
     ⟨"statuses", (·.statuses.isSome), fun draft => do
        return { draft with
          statuses := some
            (← Reader.numberMap Catalogue.readStatus Catalogue.readKind note []) }, true⟩]
  finish draft := .ok ⟨draft.codes.getD [], draft.statuses.getD []⟩

def ofBytes (bytes : Bytes) : Except Fault Listing := readAll shape.read bytes

def catalogue (listing : Listing) : Catalogue :=
  ⟨.ofList listing.codes, .ofList listing.statuses⟩

def Draft.catalogue (draft : Draft) : Catalogue.Draft :=
  ⟨draft.codes.map .ofList, draft.statuses.map .ofList⟩

theorem insert_note {κ : Type} [Numbered κ] (key : κ) (kind : FailureKind)
    (list : List (κ × FailureKind)) :
    (NumberMap.ofList list).insert key kind = NumberMap.ofList (note key kind list) := by
  simp [NumberMap.ofList, note]

/-- The maps of a catalogue are read from the entries that are listed. -/
theorem shapes : Renders.Shapes Draft.catalogue catalogue shape Catalogue.shape where
  name := rfl
  blank := rfl
  fields := by
    refine .cons ⟨rfl, fun draft => Option.isSome_map, fun draft => ?_, rfl⟩
      (.cons ⟨rfl, fun draft => Option.isSome_map, fun draft => ?_, rfl⟩ .nil)
    · exact (Renders.number_map insert_note []).bind fun codes => .pure _
    · exact (Renders.number_map insert_note []).bind fun statuses => .pure _
  finish draft := by
    obtain ⟨codes, statuses⟩ := draft
    cases codes <;> cases statuses <;> rfl

theorem of_bytes_catalogue (content : Bytes) :
    Catalogue.ofBytes content = (ofBytes content).map catalogue :=
  (Renders.record shapes).read_all content

/-- What is found for a failure, in the order in which it counts. -/
def findings (listing : Listing) (failure : RemoteFailure) : List (Option FailureKind) :=
  [failure.code.bind (NumberMap.last? listing.codes),
   failure.code.bind Catalogue.builtIn.codes.get?,
   failure.status.bind (NumberMap.last? listing.statuses),
   failure.status.bind Catalogue.builtIn.statuses.get?]

/-- The first kind that is found for a failure. -/
def FirstFound (listing : Listing) (failure : RemoteFailure) (kind : FailureKind) : Prop :=
  (listing.findings failure).findSome? id = some kind

/-- What a failure is made out to be. Only a rate limit keeps the time to wait. -/
inductive MadeOut (listing : Listing) (failure : RemoteFailure) : Failure → Prop
  | rateLimit (found : listing.FirstFound failure .tooManyRequests) :
      MadeOut listing failure (.tooManyRequests failure.retryAfter)
  | known {kind : FailureKind} (found : listing.FirstFound failure kind)
      (other : kind ≠ .tooManyRequests) : MadeOut listing failure (kind.toFailure none)
  | unknown (nothing : ∀ kind, ¬ listing.FirstFound failure kind) :
      MadeOut listing failure (.unclassified failure.describe)

/-! What a file is laid over. -/

variable {listing : Listing} {failure : RemoteFailure} {kind : FailureKind}

theorem bind_overlay {κ : Type} [Numbered κ] (number : Option κ)
    (base : NumberMap κ FailureKind) (list : List (κ × FailureKind)) :
    number.bind (base.overlay (.ofList list)).get? =
      (number.bind (NumberMap.last? list)).or (number.bind base.get?) := by
  cases number with
  | none => rfl
  | some number =>
      rw [Option.bind_some, NumberMap.get_overlay, NumberMap.get_of_list]
      rfl

theorem kind_found (listing : Listing) (failure : RemoteFailure) :
    (Catalogue.builtIn.overlay listing.catalogue).kind? failure =
      (listing.findings failure).findSome? id := by
  unfold Catalogue.kind? Catalogue.overlay catalogue findings
  simp only [bind_overlay]
  cases failure.code.bind (NumberMap.last? listing.codes) with
  | some kind => rfl
  | none =>
      cases failure.code.bind Catalogue.builtIn.codes.get? with
      | some kind => rfl
      | none =>
          cases failure.status.bind (NumberMap.last? listing.statuses) with
          | some kind => rfl
          | none => cases failure.status.bind Catalogue.builtIn.statuses.get? <;> rfl

theorem failure_without_wait (retryAfter : Option Span) (other : kind ≠ .tooManyRequests) :
    kind.toFailure retryAfter = kind.toFailure none := by
  cases kind with
  | tooManyRequests => exact absurd rfl other
  | _ => rfl

theorem classify_made_out (listing : Listing) (failure : RemoteFailure) :
    listing.MadeOut failure ((Catalogue.builtIn.overlay listing.catalogue).classify failure) := by
  have found := kind_found listing failure
  unfold Catalogue.classify
  cases kinds : (Catalogue.builtIn.overlay listing.catalogue).kind? failure with
  | some kind =>
      rw [kinds] at found
      by_cases limited : kind = .tooManyRequests
      · subst limited
        exact .rateLimit found.symm
      · show listing.MadeOut failure (kind.toFailure failure.retryAfter)
        rw [failure_without_wait _ limited]
        exact .known found.symm limited
  | none =>
      refine .unknown fun kind first => ?_
      rw [kinds] at found
      cases found.trans first

theorem MadeOut.lasting {result : Failure} (madeOut : listing.MadeOut failure result) :
    result ≠ .timedOut ∧ result ≠ .cancelled := by
  cases madeOut with
  | rateLimit found => exact ⟨nofun, nofun⟩
  | @known kind found other => cases kind <;> exact ⟨nofun, nofun⟩
  | unknown nothing => exact ⟨nofun, nofun⟩

/-- What a catalogue says in which a file is laid over the one built in. -/
structure LaidOver (listing : Listing) (catalogue : Catalogue) : Prop where
  madeOut : ∀ failure, listing.MadeOut failure (catalogue.classify failure)
  /-- Codes and statuses that the file does not mention keep their meanings. -/
  codes : ∀ code, (∀ kind, (code, kind) ∉ listing.codes) →
    catalogue.codes.get? code = Catalogue.builtIn.codes.get? code
  statuses : ∀ status, (∀ kind, (status, kind) ∉ listing.statuses) →
    catalogue.statuses.get? status = Catalogue.builtIn.statuses.get? status
  unmentioned : ∀ failure : RemoteFailure,
    (∀ code kind, failure.code = some code → (code, kind) ∉ listing.codes) →
    (∀ status kind, failure.status = some status → (status, kind) ∉ listing.statuses) →
      catalogue.classify failure = Catalogue.builtIn.classify failure
  /-- Where the code is known, the status does not count. -/
  codeFirst : ∀ (failure : RemoteFailure) kind, failure.code.bind catalogue.codes.get? = some kind →
    ∀ status, catalogue.classify { failure with status } = kind.toFailure failure.retryAfter
  lasting : ∀ failure, catalogue.classify failure ≠ .timedOut ∧
    catalogue.classify failure ≠ .cancelled

theorem unmentioned_overlay {κ : Type} [Numbered κ] {number : κ}
    {base : NumberMap κ FailureKind} {list : List (κ × FailureKind)}
    (absent : ∀ kind, (number, kind) ∉ list) :
    (base.overlay (.ofList list)).get? number = base.get? number := by
  rw [NumberMap.get_overlay, NumberMap.get_of_list, NumberMap.last_absent absent, Option.none_or]

theorem bind_unmentioned {κ : Type} [Numbered κ] {number : Option κ}
    {base : NumberMap κ FailureKind} {list : List (κ × FailureKind)}
    (absent : ∀ one kind, number = some one → (one, kind) ∉ list) :
    number.bind (base.overlay (.ofList list)).get? = number.bind base.get? := by
  cases number with
  | none => rfl
  | some number => exact unmentioned_overlay fun kind => absent number kind rfl

theorem laid_over (listing : Listing) :
    listing.LaidOver (Catalogue.builtIn.overlay listing.catalogue) where
  madeOut := classify_made_out listing
  codes code absent := unmentioned_overlay absent
  statuses status absent := unmentioned_overlay absent
  unmentioned failure codes statuses := by
    have same : (Catalogue.builtIn.overlay listing.catalogue).kind? failure =
        Catalogue.builtIn.kind? failure := by
      unfold Catalogue.kind? Catalogue.overlay catalogue
      simp only [bind_unmentioned codes, bind_unmentioned statuses]
    unfold Catalogue.classify
    rw [same]
  codeFirst failure kind known status := by
    simp only [Catalogue.classify, Catalogue.kind?, known]
  lasting failure := (classify_made_out listing failure).lasting

/-- What becomes of the content of a file. -/
structure Loads (content : Bytes) : Prop where
  notText : ¬ content.IsText → Catalogue.load (.ok content) = .error .notText
  malformed : ∀ fault, content.IsText → Listing.ofBytes content = .error fault →
    Catalogue.load (.ok content) = .error (.malformed (fault.message content))
  loaded : ∀ listing, content.IsText → Listing.ofBytes content = .ok listing →
    ∃ catalogue, Catalogue.load (.ok content) = .ok catalogue ∧ listing.LaidOver catalogue

/-- A file is laid over the catalogue built in, or it is no catalogue and is refused. -/
theorem files_laid_over_built_in (content : Bytes) : Loads content where
  notText noText := by
    have unread : Bytes.text? content = none :=
      Option.not_isSome_iff_eq_none.mp (mt Bytes.text_found_iff.mp noText)
    simp only [Catalogue.load, unread]
  malformed fault isText faulty := by
    obtain ⟨text, found⟩ := Option.isSome_iff_exists.mp (Bytes.text_found_iff.mpr isText)
    simp only [Catalogue.load, found, of_bytes_catalogue, faulty, Except.map]
  loaded listing isText read := by
    obtain ⟨text, found⟩ := Option.isSome_iff_exists.mp (Bytes.text_found_iff.mpr isText)
    refine ⟨Catalogue.builtIn.overlay listing.catalogue, ?_, laid_over listing⟩
    simp only [Catalogue.load, found, of_bytes_catalogue, read, Except.map]

/-- Repeated entries are listed, and the last one counts. -/
example : ofBytes (Bytes.ofText "\x7b\"codes\":\x7b\"-7\":\"need_new_keys\",
    \"-7\":\"certificate_revoked\"\x7d\x7d") =
    .ok ⟨[(-7, .needNewKeys), (-7, .certificateRevoked)], []⟩ := by decide +kernel

end Listing

end CertRenewal
