import CertRenewal.Http.Issuer
import CertRenewal.Proofs.Keeping
import CertRenewal.Proofs.Verdict

/-!
What a document keeps of the times of a certificate. The milliseconds since the epoch are
counted in 64 bits: moments from the epoch on are rounded down and stay in their order until
the count is used up, and behind that it starts again at the epoch.
-/

namespace CertRenewal

namespace Instant

variable {moment : Instant}

/-- The first moment whose milliseconds since the epoch do not fit in 64 bits. -/
def limit : Instant := ⟨18446744073709551616 * 1000000⟩

/-- The greatest of the whole milliseconds since the epoch that are not after a moment. -/
structure IsLastMillis (moment last : Instant) : Prop where
  counted : ∃ millis, last = ofEpochMillis millis
  notAfter : last ≤ moment
  greatest : ∀ millis, ofEpochMillis millis ≤ moment → ofEpochMillis millis ≤ last

theorem IsLastMillis.unique {first second : Instant} (one : IsLastMillis moment first)
    (other : IsLastMillis moment second) : first = second := by
  obtain ⟨millis, rfl⟩ := one.counted
  obtain ⟨count, rfl⟩ := other.counted
  have below := other.greatest millis one.notAfter
  have above := one.greatest count other.notAfter
  exact congrArg Instant.mk (Int.le_antisymm below above)

theorem floor_millis_last (behind : epoch ≤ moment) : IsLastMillis moment moment.floorMillis := by
  have positive : 0 ≤ moment.nanos := behind
  refine ⟨⟨(moment.nanos / 1000000).toNat, ?_⟩, ?_, fun millis within => ?_⟩
  · have count : ((moment.nanos / 1000000).toNat : Int) = moment.nanos / 1000000 := by omega
    rw [floorMillis, ofEpochMillis, count]
  · show moment.nanos / 1000000 * 1000000 ≤ moment.nanos
    omega
  · have early : (millis : Int) * 1000000 ≤ moment.nanos := within
    show (millis : Int) * 1000000 ≤ moment.nanos / 1000000 * 1000000
    omega

theorem persisted_before_limit (moment : Instant) : moment.persisted < limit := by
  have small : moment.epochMillis < 18446744073709551616 := Nat.mod_lt _ (by decide)
  show (moment.epochMillis : Int) * 1000000 < 18446744073709551616 * 1000000
  omega

/-- The count starts again whenever it is used up. -/
theorem persisted_wraps (behind : epoch ≤ moment) :
    ∃ turns : Nat, (⟨moment.persisted.nanos + turns * limit.nanos⟩ : Instant) =
      moment.floorMillis := by
  have positive : 0 ≤ moment.nanos := behind
  refine ⟨moment.nanos.toNat / 1000000 / 18446744073709551616, ?_⟩
  simp only [persisted, ofEpochMillis, epochMillis, floorMillis, limit, mk.injEq]
  omega

theorem persisted_le_floor (behind : epoch ≤ moment) : moment.persisted ≤ moment.floorMillis := by
  obtain ⟨turns, whole⟩ := persisted_wraps behind
  rw [← whole]
  show moment.persisted.nanos ≤ moment.persisted.nanos + turns * (18446744073709551616 * 1000000)
  omega

theorem limit_le_floor (late : limit ≤ moment) : limit ≤ moment.floorMillis := by
  have after : 18446744073709551616 * 1000000 ≤ moment.nanos := late
  show 18446744073709551616 * 1000000 ≤ moment.nanos / 1000000 * 1000000
  omega

theorem persisted_floor_iff (behind : epoch ≤ moment) :
    moment.persisted = moment.floorMillis ↔ moment < limit := by
  constructor
  · intro same
    refine Int.not_le.mp fun late => ?_
    have before := persisted_before_limit moment
    rw [same] at before
    exact Int.not_lt.mpr (limit_le_floor late) before
  · intro early
    exact IsNamed.persisted ⟨behind, early⟩

theorem epoch_millis_mono {first second : Instant} (inOrder : first ≤ second)
    (early : second < limit) : first.epochMillis ≤ second.epochMillis := by
  have ordered : first.nanos ≤ second.nanos := inOrder
  have small : second.nanos < 18446744073709551616 * 1000000 := early
  simp only [epochMillis]
  omega

/-- The last millisecond before the limit, which the limit falls behind. -/
theorem limit_out_of_order :
    (ofEpochMillis 18446744073709551615) < limit ∧
      limit.epochMillis < (ofEpochMillis 18446744073709551615).epochMillis := by
  decide

/-- What 64 bits of milliseconds keep of the moments from the epoch on. -/
structure MillisKept : Prop where
  rounded : ∀ moment, epoch ≤ moment →
    (IsLastMillis moment (ofEpochMillis moment.epochMillis) ↔ moment < limit)
  /-- Moments behind the limit come back whole turns of the count too early. -/
  wrapped : ∀ moment, epoch ≤ moment → ofEpochMillis moment.epochMillis < limit ∧
    ∃ turns : Nat, IsLastMillis moment
      ⟨(ofEpochMillis moment.epochMillis).nanos + turns * limit.nanos⟩
  ordered : ∀ bound, epoch ≤ bound →
    ((∀ first second, epoch ≤ first → first ≤ second → second ≤ bound →
      first.epochMillis ≤ second.epochMillis) ↔ bound < limit)
  /-- The moments of the issuer, which are whole seconds. -/
  issued : ∀ seconds moment, ofEpochSeconds? seconds = some moment →
    epoch ≤ moment ∧ (moment < limit ↔ seconds ≤ 18446744073709551)

theorem millis_kept : MillisKept where
  rounded moment behind := by
    refine Iff.trans ⟨fun last => ?_, fun same => ?_⟩ (persisted_floor_iff behind)
    · exact last.unique (floor_millis_last behind)
    · have last := floor_millis_last behind
      rw [← same] at last
      exact last
  wrapped moment behind := by
    obtain ⟨turns, whole⟩ := persisted_wraps behind
    refine ⟨persisted_before_limit moment, turns, ?_⟩
    have last := floor_millis_last behind
    rw [← whole] at last
    exact last
  ordered bound behind := by
    constructor
    · intro ordered
      refine Int.not_le.mp fun late => ?_
      obtain ⟨early, fallen⟩ := limit_out_of_order
      have risen := ordered (ofEpochMillis 18446744073709551615) limit (by decide)
        (Int.le_of_lt early) late
      exact Nat.not_lt.mpr risen fallen
    · intro early first second _ inOrder within
      exact epoch_millis_mono inOrder (Int.lt_of_le_of_lt within early)
  issued seconds moment named := by
    unfold ofEpochSeconds? at named
    split at named
    · obtain rfl := Option.some.inj named
      have count : limit = ⟨18446744073709551616 * 1000000⟩ := rfl
      constructor
      · show (0 : Int) ≤ (seconds : Int) * 1000000000
        omega
      · show (seconds : Int) * 1000000000 < 18446744073709551616 * 1000000 ↔ _
        omega
    · cases named

end Instant

namespace Freshness

variable {first second certificate : Certificate} {recorded requested : Option Features}
  {now : Instant} {margin : Span}

/-- The verdict looks at one time of a certificate only. -/
theorem assess_same_time (same : first.refreshTime = second.refreshTime) :
    assess (some first) recorded requested now margin =
      assess (some second) recorded requested now margin := by
  have deadline : deadline first margin = deadline second margin := by
    unfold deadline
    rw [same]
  simp only [assess, deadline]

/-- A certificate that does not serve is not looked at. -/
theorem assess_unserved (unserved : ¬ Serves recorded requested) :
    assess (some first) recorded requested now margin =
      assess (some second) recorded requested now margin := by
  rcases serves_cases recorded requested with
    serves | ⟨wanted, rfl, rfl⟩ | ⟨held, wanted, rfl, rfl, differ⟩
  · exact absurd serves unserved
  · rfl
  · rw [assess_changed differ, assess_changed differ]

theorem served_needs_refresh_iff (behind : Instant.epoch ≤ now)
    (serves : Serves recorded requested) :
    (assess (some certificate) recorded requested now margin).needsRefresh = true ↔
      certificate.refreshTime ≤ now.after margin := by
  rw [assess_served serves]
  by_cases reached : certificate.refreshTime ≤ now.after margin
  · simp [due_of_reached behind reached, reached, needsRefresh]
  · obtain ⟨remaining, ahead, exactly⟩ := exists_remaining reached
    simp [fresh_of_ahead behind ahead exactly, reached, needsRefresh]

end Freshness

namespace DirectoryStore

/-- What a store in a directory gives back of a certificate that was stored in it. -/
structure GivesBack (certificate : Certificate) (features : Option Features)
    (after : DirectoryStore) : Prop where
  readBack : ∃ back, after.certificate = some back ∧ back.content = certificate.content ∧
    back.validUntil = .ofEpochMillis certificate.validUntil.epochMillis ∧
    back.refreshTime = .ofEpochMillis certificate.refreshTime.epochMillis
  rounded : after.certificate = some certificate.floorMillis ↔
    certificate.validUntil < .limit ∧ certificate.refreshTime < .limit
  /-- Before the limit the verdict is that on the rounded certificate, at every moment. -/
  agrees : certificate.refreshTime < .limit → ∀ requested now margin,
    Freshness.assess after.certificate after.features requested now margin =
      Freshness.assess (some certificate.floorMillis) features requested now margin
  /-- Behind it, a certificate that serves is refreshed from the time that it came back with. -/
  differs : ∀ requested now margin, Instant.epoch ≤ now →
    ((Freshness.assess after.certificate after.features requested now margin).needsRefresh ≠
        (Freshness.assess (some certificate.floorMillis) features requested now
          margin).needsRefresh ↔
      Freshness.Serves features requested ∧
        .ofEpochMillis certificate.refreshTime.epochMillis ≤ now.after margin ∧
        now.after margin < certificate.refreshTime.floorMillis)

theorem gives_back {certificate : Certificate} {features : Option Features}
    {after : DirectoryStore}
    (behind : Instant.epoch ≤ certificate.validUntil ∧ Instant.epoch ≤ certificate.refreshTime)
    (back : after.certificate = some certificate.persisted)
    (recorded : after.features = features) : GivesBack certificate features after where
  readBack := ⟨_, back, rfl, rfl, rfl⟩
  rounded := by
    rw [back, Option.some.injEq, ← Instant.persisted_floor_iff behind.1,
      ← Instant.persisted_floor_iff behind.2]
    simp [Certificate.persisted, Certificate.floorMillis]
  agrees early requested now margin := by
    rw [back, recorded]
    exact Freshness.assess_same_time (Instant.IsNamed.persisted ⟨behind.2, early⟩)
  differs requested now margin later := by
    rw [back, recorded]
    by_cases serves : Freshness.Serves features requested
    · have early : certificate.persisted.refreshTime ≤ certificate.floorMillis.refreshTime :=
        Instant.persisted_le_floor behind.2
      have within (reached : certificate.floorMillis.refreshTime ≤ now.after margin) :
          certificate.persisted.refreshTime ≤ now.after margin := Int.le_trans early reached
      have ahead : now.after margin < certificate.floorMillis.refreshTime ↔
          ¬ certificate.floorMillis.refreshTime ≤ now.after margin := Int.not_le.symm
      rw [ne_eq, Bool.eq_iff_iff, Freshness.served_needs_refresh_iff later serves,
        Freshness.served_needs_refresh_iff later serves]
      show _ ↔ _ ∧ certificate.persisted.refreshTime ≤ _ ∧
        _ < certificate.floorMillis.refreshTime
      tauto
    · have same : Freshness.assess (some certificate.persisted) features requested now margin =
          Freshness.assess (some certificate.floorMillis) features requested now margin :=
        Freshness.assess_unserved serves
      simp [same, serves]

/-- The times of a certificate from the epoch on keep their value, in whole milliseconds, and
their order up to the limit of the count, and start again at the epoch behind it. -/
theorem times_kept_up_to_limit (held : DirectoryStore) (certificate : Certificate)
    (features : Option Features) (after : DirectoryStore)
    (behind : Instant.epoch ≤ certificate.validUntil ∧ Instant.epoch ≤ certificate.refreshTime)
    (stored : held.store certificate features = (.ok (), after)) :
    Instant.MillisKept ∧ GivesBack certificate features after := by
  have document := store_saved (congrArg Prod.fst stored)
  rw [stored] at document
  refine ⟨Instant.millis_kept, gives_back behind ?_ ?_⟩
  · simp only [DirectoryStore.certificate, document]
    exact CertificateDocument.certificate_persisted certificate features
  · simp only [DirectoryStore.features, document]
    rfl

/-- A certificate that is to be refreshed, and expires, at the first whole second behind the
limit. -/
def longLived : Certificate where
  content := [1]
  validUntil := ⟨18446744073709552 * 1000000000⟩
  refreshTime := ⟨18446744073709552 * 1000000000⟩

/-- An empty directory. -/
def unused : DirectoryStore := ⟨[], ⟨[]⟩⟩

/-- One moment, seen from the year 2027, in which the certificate that was stored needs a
refresh and the rounded one does not. -/
theorem long_lived_verdicts_differ :
    (Instant.epoch ≤ longLived.validUntil ∧ Instant.epoch ≤ longLived.refreshTime) ∧
      (unused.store longLived none).1 = .ok () ∧
      (Freshness.assess (unused.store longLived none).2.certificate
        (unused.store longLived none).2.features none ⟨1800000000 * 1000000000⟩
          .zero).needsRefresh ≠
        (Freshness.assess (some longLived.floorMillis) none none ⟨1800000000 * 1000000000⟩
          .zero).needsRefresh := by
  have behind : Instant.epoch ≤ longLived.validUntil ∧ Instant.epoch ≤ longLived.refreshTime := by
    decide
  have saved : (unused.store longLived none).1 = .ok () := rfl
  have kept := times_kept_up_to_limit unused longLived none _ behind (Prod.ext saved rfl)
  refine ⟨behind, saved, (kept.2.differs none _ .zero (by decide)).mpr ⟨?_, by decide⟩⟩
  exact fun wanted asked => nomatch asked

/-- A time of the issuer comes back as 384 milliseconds behind the epoch, which is not the
last millisecond up to it, and the certificate that was stored is due while the rounded one
is fresh. -/
theorem long_lived_stored_is_due :
    Instant.ofEpochSeconds? 18446744073709552 = some longLived.refreshTime ∧
      (unused.store longLived none).1 = .ok () ∧
      (unused.store longLived none).2.certificate = some ⟨[1], ⟨384000000⟩, ⟨384000000⟩⟩ ∧
      ¬ Instant.IsLastMillis longLived.refreshTime
        (.ofEpochMillis longLived.refreshTime.epochMillis) ∧
      Freshness.assess (unused.store longLived none).2.certificate
        (unused.store longLived none).2.features none ⟨1800000000 * 1000000000⟩ .zero = .due ∧
      (Freshness.assess (some longLived.floorMillis) none none ⟨1800000000 * 1000000000⟩
        .zero).needsRefresh = false := by
  refine ⟨rfl, rfl, by decide +kernel, fun last => ?_, by decide +kernel, by decide⟩
  exact absurd ((Instant.millis_kept.rounded _ (by decide)).mp last) (by decide)

end DirectoryStore

end CertRenewal
