import CertRenewal.Refresh.Request

/-!
The body that comes with a request for a refresh. It may be left out, and each
of its fields as well.
-/

namespace CertRenewal.RefreshBody

open Json

structure Draft where
  features : Option (Option Features)
  userInitiated : Option Bool
  forced : Option Bool

/-- The request of a host that says nothing about it. -/
def standard : Request := ⟨none, true, false⟩

def shape : Shape Draft Request where
  name := "RefreshBody"
  blank := ⟨none, none, none⟩
  fields :=
    [⟨"features", (·.features.isSome), fun draft => do
        return { draft with features := some (← Reader.optional Features.shape.read) }, true⟩,
     ⟨"user_initiated", (·.userInitiated.isSome), fun draft => do
        return { draft with userInitiated := some (← Reader.bool) }, true⟩,
     ⟨"forced", (·.forced.isSome), fun draft => do
        return { draft with forced := some (← Reader.bool) }, true⟩]
  finish draft := .ok
    { features := draft.features.getD standard.features
      userInitiated := draft.userInitiated.getD standard.userInitiated
      forced := draft.forced.getD standard.forced }

/-- Blanks of ASCII, the form feed among them. -/
def isBlank (byte : UInt8) : Bool :=
  byte = 32 || byte = 9 || byte = 10 || byte = 12 || byte = 13

/-- Reads a body; one of nothing but blanks says nothing. -/
def ofBytes (bytes : Bytes) : Except Fault Request :=
  if bytes.all isBlank then .ok standard else readAll shape.read bytes

end CertRenewal.RefreshBody
