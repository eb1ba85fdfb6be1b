import CertRenewal.Freshness

/-!
The verdict on a stored certificate. Its rules stand in an order, and at every moment
from the epoch on exactly one of them holds: the verdict is that of the exact sum of the
moment and the margin, also where the clock cannot name the deadline.
-/

namespace CertRenewal

namespace Features

/-- A certificate for the first features does not serve the second ones. A safe mode
counts only where both sides choose one. -/
inductive Differ (held wanted : Features) : Prop
  | shield (other : held.shield ≠ wanted.shield)
  | accelerator (other : held.accelerator ≠ wanted.accelerator)
  | nat (other : held.nat ≠ wanted.nat)
  | bouncing (other : held.bouncing ≠ wanted.bouncing)
  | safeMode {first second : Bool} (chosen : held.safeMode = some first)
      (asked : wanted.safeMode = some second) (other : first ≠ second)

variable {held wanted : Features}

theorem safe_mode_tolerant {first second : Option Bool} :
    safeModeAgrees .tolerant first second = true ↔
      ∀ one two, first = some one → second = some two → one = two := by
  cases first <;> cases second <;> simp [safeModeAgrees]

theorem agree_tolerant : held.agree .tolerant wanted = true ↔ ¬ held.Differ wanted := by
  simp only [agree, Bool.and_eq_true, decide_eq_true_eq, safe_mode_tolerant]
  constructor
  · rintro ⟨⟨⟨⟨shield, accelerator⟩, nat⟩, bouncing⟩, safeMode⟩ differ
    cases differ with
    | shield other => exact other shield
    | accelerator other => exact other accelerator
    | nat other => exact other nat
    | bouncing other => exact other bouncing
    | safeMode chosen asked other => exact other (safeMode _ _ chosen asked)
  · intro alike
    refine ⟨⟨⟨⟨?_, ?_⟩, ?_⟩, ?_⟩, fun first second chosen asked => ?_⟩
    · exact Decidable.byContradiction fun other => alike (.shield other)
    · exact Decidable.byContradiction fun other => alike (.accelerator other)
    · exact Decidable.byContradiction fun other => alike (.nat other)
    · exact Decidable.byContradiction fun other => alike (.bouncing other)
    · exact Decidable.byContradiction fun other => alike (.safeMode chosen asked other)

theorem agree_self (rule : SafeModeRule) (features : Features) :
    features.agree rule features = true := by
  have choice : safeModeAgrees rule features.safeMode features.safeMode = true := by
    cases rule <;> cases mode : features.safeMode <;> simp [safeModeAgrees]
  simp [agree, choice]

end Features

namespace Freshness

variable {stored : Option Certificate} {recorded requested : Option Features}
  {now moment : Instant} {margin : Span} {certificate : Certificate}

/-! The deadline. -/

theorem of_deadline_before {deadline : Instant} (early : moment < deadline) :
    (ofDeadline moment deadline).needsRefresh = false := by
  rw [ofDeadline, if_pos early]
  rfl

/-- A deadline that cannot be named has passed, at any moment behind the epoch. -/
theorem deadline_reached
    (named : (certificate.refreshTime.before? margin).isSome = true ∨ Instant.epoch ≤ now) :
    deadline certificate margin ≤ now ↔ certificate.refreshTime.before margin ≤ now := by
  unfold deadline
  unfold Instant.before? at named ⊢
  split
  · rfl
  · rename_i unnamed
    rw [if_neg unnamed] at named
    have behind : Instant.epoch ≤ now := named.resolve_left Bool.false_ne_true
    have past : (certificate.refreshTime.before margin).nanos < Instant.earliest.nanos :=
      Int.not_le.mp unnamed
    have old : Instant.earliest.nanos < Instant.epoch.nanos := by decide
    have now : (certificate.refreshTime.before margin).nanos ≤ now.nanos :=
      Int.le_trans (Int.le_of_lt (Int.lt_trans past old)) behind
    exact ⟨fun _ => now, fun _ => behind⟩

/-- A deadline that lies ahead can be named, so that it is the exact one. -/
theorem deadline_ahead (behind : Instant.epoch ≤ now) (ahead : now < deadline certificate margin) :
    deadline certificate margin = certificate.refreshTime.before margin := by
  unfold deadline Instant.before? at ahead ⊢
  split
  · rfl
  · rename_i unnamed
    rw [if_neg unnamed] at ahead
    exact absurd behind (Int.not_le.mpr ahead)

/-- The margin is taken from the time of the refresh or added to the moment. -/
theorem before_margin {refreshTime : Instant} :
    refreshTime.before margin ≤ now ↔ refreshTime ≤ now.after margin := by
  show refreshTime.nanos - margin.nanos ≤ now.nanos ↔ refreshTime.nanos ≤ now.nanos + margin.nanos
  omega

/-- What has not been reached lies some time ahead. -/
theorem exists_remaining {start finish : Instant} (early : ¬ finish ≤ start) :
    ∃ remaining : Span, 0 < remaining.nanos ∧ start.after remaining = finish := by
  obtain ⟨start⟩ := start
  obtain ⟨finish⟩ := finish
  have ahead : start < finish := Int.not_le.mp early
  refine ⟨⟨(finish - start).toNat⟩, Int.lt_toNat.mpr (Int.sub_pos_of_lt ahead), ?_⟩
  simp only [Instant.after, Instant.mk.injEq]
  omega

/-- The span up to a moment ahead is the only one that ends there. -/
theorem span_to_ahead {finish : Instant} {remaining : Span}
    (ahead : now < finish.before margin) :
    now.spanTo (finish.before margin) = remaining ↔
      (now.after margin).after remaining = finish := by
  obtain ⟨count⟩ := remaining
  obtain ⟨finish⟩ := finish
  have early : now.nanos < finish - margin.nanos := ahead
  simp only [Instant.spanTo, Instant.before, Instant.after, Span.mk.injEq, Instant.mk.injEq]
  omega

/-! The rules. -/

/-- Features that are asked for are those that a certificate was issued for. -/
def Serves (recorded requested : Option Features) : Prop :=
  ∀ wanted, requested = some wanted → ∃ held, recorded = some held ∧ ¬ held.Differ wanted

/-- The rules of the verdict, in their order: each holds where those before it do not. -/
inductive Rule (stored : Option Certificate) (recorded requested : Option Features)
    (now : Instant) (margin : Span) : Freshness → Prop
  | missing (nothing : stored = none) : Rule stored recorded requested now margin .missing
  | featuresUnknown {certificate : Certificate} {wanted : Features}
      (there : stored = some certificate) (asked : requested = some wanted)
      (unrecorded : recorded = none) : Rule stored recorded requested now margin .featuresUnknown
  | featuresChanged {certificate : Certificate} {held wanted : Features}
      (there : stored = some certificate) (asked : requested = some wanted)
      (noted : recorded = some held) (differ : held.Differ wanted) :
      Rule stored recorded requested now margin .featuresChanged
  | due {certificate : Certificate} (there : stored = some certificate)
      (serves : Serves recorded requested)
      (reached : certificate.refreshTime ≤ now.after margin) :
      Rule stored recorded requested now margin .due
  | fresh {certificate : Certificate} {remaining : Span} (there : stored = some certificate)
      (serves : Serves recorded requested) (ahead : 0 < remaining.nanos)
      (exactly : (now.after margin).after remaining = certificate.refreshTime) :
      Rule stored recorded requested now margin (.fresh remaining)

theorem assess_served (serves : Serves recorded requested) :
    assess (some certificate) recorded requested now margin =
      ofDeadline now (deadline certificate margin) := by
  cases requested with
  | none => rfl
  | some wanted =>
      obtain ⟨held, rfl, alike⟩ := serves wanted rfl
      simp only [assess, Features.agree_tolerant.mpr alike, if_true]

theorem assess_changed {held wanted : Features} (differ : held.Differ wanted) :
    assess (some certificate) (some held) (some wanted) now margin = .featuresChanged := by
  have apart : ¬ held.agree .tolerant wanted = true := fun agree =>
    Features.agree_tolerant.mp agree differ
  simp only [assess, if_neg apart]

theorem serves_cases (recorded requested : Option Features) :
    Serves recorded requested ∨ (∃ wanted, requested = some wanted ∧ recorded = none) ∨
      ∃ held wanted, requested = some wanted ∧ recorded = some held ∧ held.Differ wanted := by
  cases requested with
  | none => exact .inl fun wanted asked => nomatch asked
  | some wanted =>
      cases recorded with
      | none => exact .inr (.inl ⟨wanted, rfl, rfl⟩)
      | some held =>
          by_cases differ : held.Differ wanted
          · exact .inr (.inr ⟨held, wanted, rfl, rfl, differ⟩)
          · refine .inl fun other asked => ⟨held, rfl, ?_⟩
            obtain rfl := Option.some.inj asked
            exact differ

theorem due_of_reached (behind : Instant.epoch ≤ now)
    (reached : certificate.refreshTime ≤ now.after margin) :
    ofDeadline now (deadline certificate margin) = .due := by
  have past := (deadline_reached (.inr behind)).mpr (before_margin.mpr reached)
  have late : ¬ now < deadline certificate margin := Int.not_lt.mpr past
  rw [ofDeadline, if_neg late]

theorem fresh_of_ahead {remaining : Span} (behind : Instant.epoch ≤ now)
    (ahead : 0 < remaining.nanos)
    (exactly : (now.after margin).after remaining = certificate.refreshTime) :
    ofDeadline now (deadline certificate margin) = .fresh remaining := by
  have early : ¬ certificate.refreshTime ≤ now.after margin := by
    rw [← exactly]
    show ¬ (now.after margin).nanos + remaining.nanos ≤ (now.after margin).nanos
    omega
  have before : now < deadline certificate margin := Int.not_le.mp fun past =>
    early (before_margin.mp ((deadline_reached (.inr behind)).mp past))
  have named := deadline_ahead behind before
  rw [ofDeadline, if_pos before]
  rw [named] at before ⊢
  rw [(span_to_ahead before).mpr exactly]

/-- Some rule holds of the verdict. -/
theorem rule_of_verdict (behind : Instant.epoch ≤ now) :
    Rule stored recorded requested now margin (assess stored recorded requested now margin) := by
  cases stored with
  | none => exact .missing rfl
  | some certificate =>
      rcases serves_cases recorded requested with
        serves | ⟨wanted, rfl, rfl⟩ | ⟨held, wanted, rfl, rfl, differ⟩
      · rw [assess_served serves]
        by_cases reached : certificate.refreshTime ≤ now.after margin
        · rw [due_of_reached behind reached]
          exact .due rfl serves reached
        · obtain ⟨remaining, ahead, exactly⟩ := exists_remaining reached
          rw [fresh_of_ahead behind ahead exactly]
          exact .fresh rfl serves ahead exactly
      · exact .featuresUnknown rfl rfl rfl
      · rw [assess_changed differ]
        exact .featuresChanged rfl rfl rfl differ

/-- A rule holds of no other verdict. -/
theorem Rule.verdict {verdict : Freshness} (behind : Instant.epoch ≤ now)
    (rule : Rule stored recorded requested now margin verdict) :
    assess stored recorded requested now margin = verdict := by
  cases rule with
  | missing nothing =>
      subst nothing
      rfl
  | featuresUnknown there asked unrecorded =>
      subst there asked unrecorded
      rfl
  | featuresChanged there asked noted differ =>
      subst there asked noted
      exact assess_changed differ
  | due there serves reached =>
      subst there
      rw [assess_served serves, due_of_reached behind reached]
  | fresh there serves ahead exactly =>
      subst there
      rw [assess_served serves, fresh_of_ahead behind ahead exactly]

theorem needs_refresh_iff (verdict : Freshness) :
    verdict.needsRefresh = true ↔ ∀ remaining, verdict ≠ .fresh remaining := by
  cases verdict <;> simp [needsRefresh]

/-- From the epoch on, the verdict is that of the one rule that holds, and a certificate
needs a refresh in every case but the last. -/
theorem verdict_iff_rule (stored : Option Certificate) (recorded requested : Option Features)
    (now : Instant) (margin : Span) (behind : Instant.epoch ≤ now) :
    (∀ verdict, assess stored recorded requested now margin = verdict ↔
        Rule stored recorded requested now margin verdict) ∧
      ((assess stored recorded requested now margin).needsRefresh = true ↔
        ∀ remaining, ¬ Rule stored recorded requested now margin (.fresh remaining)) := by
  have rule (verdict : Freshness) : assess stored recorded requested now margin = verdict ↔
      Rule stored recorded requested now margin verdict :=
    ⟨fun same => same ▸ rule_of_verdict behind, Rule.verdict behind⟩
  refine ⟨rule, (needs_refresh_iff _).trans (forall_congr' fun remaining => ?_)⟩
  exact not_congr (rule (.fresh remaining))

/-- A certificate that was to be refreshed at the first moment that the clock can name is
due, however long the margin is, and one that is to be refreshed one nanosecond behind the
margin is still fresh. -/
theorem deadline_beyond_the_clock_is_due :
    Instant.epoch ≤ Instant.epoch ∧
      Rule (some ⟨[], Instant.latest, Instant.earliest⟩) none none Instant.epoch
        (.ofSeconds 18446744073709551615) .due ∧
      Rule (some ⟨[], Instant.latest, ⟨180000000001⟩⟩) none none Instant.epoch (.ofSeconds 180)
        (.fresh ⟨1⟩) :=
  have behind : Instant.epoch ≤ Instant.epoch := Int.le_refl _
  ⟨behind, ((verdict_iff_rule _ _ _ _ _ behind).1 _).mp (by decide +kernel),
    ((verdict_iff_rule _ _ _ _ _ behind).1 _).mp (by decide +kernel)⟩

/-! Certificates and the features that they were issued for. -/

theorem serves_own (features : Option Features) : Serves features features :=
  fun wanted asked => ⟨wanted, asked, Features.agree_tolerant.mp (Features.agree_self _ wanted)⟩

theorem serves_of_fresh
    (fresh : (assess (some certificate) recorded requested now margin).needsRefresh = false) :
    Serves recorded requested := by
  rcases serves_cases recorded requested with
    serves | ⟨wanted, rfl, rfl⟩ | ⟨held, wanted, rfl, rfl, differ⟩
  · exact serves
  · cases fresh
  · rw [assess_changed differ] at fresh
    cases fresh

/-- A certificate that serves at one moment serves at each one before its deadline. -/
theorem serves_until_deadline
    (fresh : (assess (some certificate) recorded requested now margin).needsRefresh = false)
    (early : moment < deadline certificate margin) :
    (assess (some certificate) recorded requested moment margin).needsRefresh = false := by
  rw [assess_served (serves_of_fresh fresh)]
  exact of_deadline_before early

/-- A certificate serves requests for the features that it was issued for. -/
theorem serves_own_features {features : Option Features}
    (early : moment < deadline certificate margin) :
    (assess (some certificate) features features moment margin).needsRefresh = false := by
  rw [assess_served (serves_own features)]
  exact of_deadline_before early

/-- A certificate that was issued for the features asked for is refreshed from its deadline
on. -/
theorem own_features_due {features : Option Features} :
    (assess (some certificate) features features now margin).needsRefresh = true ↔
      deadline certificate margin ≤ now := by
  constructor
  · intro needed
    refine Int.not_lt.mp fun before => ?_
    rw [serves_own_features before] at needed
    cases needed
  · intro due
    have late : ¬ now < deadline certificate margin := Int.not_lt.mpr due
    rw [assess_served (serves_own features), ofDeadline, if_neg late]
    rfl

end Freshness

end CertRenewal
