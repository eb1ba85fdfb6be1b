import CertRenewal.Proofs.Shown
import CertRenewal.Proofs.Whole
import CertRenewal.Settings.Draft

/-!
The values of settings. What is given for a setting is read in the same way wherever it
was given, and it is the value of this setting alone. In the end a setting has the value
that was given for it, or else the one that the environment has for it, or else its
standard value; and the standard values can be used.
-/

namespace CertRenewal

section

variable {Fault Value Result : Type} {outcome : Except Fault Value} {fault : Fault}
  {result : Result}

theorem mapped_ok {make : Value → Result} (mapped : outcome.map make = .ok result) :
    ∃ value, outcome = .ok value ∧ make value = result := by
  cases outcome with
  | error fault => cases mapped
  | ok value => exact ⟨value, rfl, Except.ok.inj mapped⟩

theorem mapped_error {make : Value → Result} (mapped : outcome.map make = .error fault) :
    outcome = .error fault := by
  cases outcome with
  | error other => exact congrArg _ (Except.error.inj mapped)
  | ok value => cases mapped

theorem bound_ok {next : Value → Except Fault Result} (bound : outcome.bind next = .ok result) :
    ∃ value, outcome = .ok value ∧ next value = .ok result := by
  cases outcome with
  | error fault => cases bound
  | ok value => exact ⟨value, rfl, bound⟩

theorem bound_error {next : Value → Except Fault Result}
    (bound : outcome.bind next = .error fault) :
    outcome = .error fault ∨ ∃ value, outcome = .ok value ∧ next value = .error fault := by
  cases outcome with
  | error other => exact .inl (congrArg _ (Except.error.inj bound))
  | ok value => exact .inr ⟨value, rfl, bound⟩

end

/-! What is given for a setting. -/

/-- A value, of one kind for each setting. -/
inductive SettingValue
  | word (text : String)
  | port (number : UInt16)
  | millis (number : Nat)
  | format (format : LogFormat)
deriving DecidableEq, Repr

namespace Setting

/-- How the value of a setting is read, wherever it is given. -/
def read (setting : Setting) (text : String) : Except UsageFault SettingValue :=
  match setting with
  | host | authToken | issuerUrl | certificateDuration => .ok (.word text)
  | port => (SettingsDraft.readPort setting text).map .port
  | stateDirectory | catalogueFile => (SettingsDraft.readPath setting text).map .word
  | waitTimeout | checkInterval | refreshEarlierBy | defaultBackoff =>
    (SettingsDraft.readMillis setting text).map .millis
  | logFormat => (SettingsDraft.readLogFormat setting text).map .format

end Setting

namespace SettingsDraft

def value? (draft : SettingsDraft) : Setting → Option SettingValue
  | .host => draft.host.map .word
  | .port => draft.port.map .port
  | .authToken => draft.authToken.map .word
  | .issuerUrl => draft.issuerUrl.map .word
  | .stateDirectory => draft.stateDirectory.map .word
  | .waitTimeout => draft.waitTimeout.map .millis
  | .checkInterval => draft.checkInterval.map .millis
  | .refreshEarlierBy => draft.refreshEarlierBy.map .millis
  | .defaultBackoff => draft.defaultBackoff.map .millis
  | .certificateDuration => draft.certificateDuration.map .word
  | .catalogueFile => draft.catalogueFile.map .word
  | .logFormat => draft.logFormat.map .format

variable {draft next : SettingsDraft} {setting : Setting} {text : String} {fault : UsageFault}

theorem has_value (draft : SettingsDraft) (setting : Setting) :
    draft.has setting = (draft.value? setting).isSome := by
  cases setting <;> simp [has, value?]

theorem ext_value {first second : SettingsDraft}
    (same : ∀ setting, first.value? setting = second.value? setting) : first = second := by
  have word {one two : Option String}
      (equal : one.map SettingValue.word = two.map SettingValue.word) : one = two :=
    Option.map_injective (fun _ _ => SettingValue.word.inj) equal
  have millis {one two : Option Nat}
      (equal : one.map SettingValue.millis = two.map SettingValue.millis) : one = two :=
    Option.map_injective (fun _ _ => SettingValue.millis.inj) equal
  have port : first.port = second.port :=
    Option.map_injective (fun _ _ => SettingValue.port.inj) (same .port)
  have format : first.logFormat = second.logFormat :=
    Option.map_injective (fun _ _ => SettingValue.format.inj) (same .logFormat)
  cases first
  cases second
  simp only [mk.injEq]
  exact ⟨word (same .host), port, word (same .authToken), word (same .issuerUrl),
    word (same .stateDirectory), millis (same .waitTimeout), millis (same .checkInterval),
    millis (same .refreshEarlierBy), millis (same .defaultBackoff),
    word (same .certificateDuration), word (same .catalogueFile), format⟩

/-- A setting is set to the value that is read for it, and the others stay as they are. -/
theorem set_ok {value : SettingValue} (read : setting.read text = .ok value) :
    ∃ next, draft.set setting text = .ok next ∧
      ∀ other, next.value? other = if other = setting then some value else draft.value? other := by
  cases setting with
  | host | authToken | issuerUrl | certificateDuration =>
      obtain rfl := Except.ok.inj read
      refine ⟨_, rfl, fun other => ?_⟩
      cases other <;> rfl
  | _ =>
      obtain ⟨found, reads, rfl⟩ := mapped_ok read
      simp only [set, reads]
      refine ⟨_, rfl, fun other => ?_⟩
      cases other <;> rfl

theorem set_error (read : setting.read text = .error fault) :
    draft.set setting text = .error fault := by
  cases setting with
  | host | authToken | issuerUrl | certificateDuration => cases read
  | _ =>
      have failed := mapped_error read
      simp only [set, failed]
      rfl

theorem set_iff : draft.set setting text = .ok next ↔ ∃ value, setting.read text = .ok value ∧
    ∀ other, next.value? other = if other = setting then some value else draft.value? other := by
  constructor
  · intro made
    cases read : setting.read text with
    | error fault =>
        rw [set_error read] at made
        cases made
    | ok value =>
        obtain ⟨result, same, values⟩ := @set_ok draft _ _ _ read
        obtain rfl := Except.ok.inj (same.symm.trans made)
        exact ⟨value, rfl, values⟩
  · rintro ⟨value, read, values⟩
    obtain ⟨result, made, same⟩ := @set_ok draft _ _ _ read
    rw [made, ext_value fun other => (same other).trans (values other).symm]

theorem give_iff : draft.give setting text = .ok next ↔ draft.value? setting = none ∧
    ∃ value, setting.read text = .ok value ∧
      ∀ other, next.value? other = if other = setting then some value else draft.value? other := by
  unfold give
  rw [has_value]
  cases draft.value? setting with
  | none => simp [set_iff]
  | some value => simp

/-- A setting cannot be given twice, and not with a value that is none for it. -/
theorem give_fault (given : draft.give setting text = .error fault) :
    (∃ value, draft.value? setting = some value) ∧ fault = .repeated setting ∨
      draft.value? setting = none ∧ setting.read text = .error fault := by
  unfold give at given
  rw [has_value] at given
  cases found : draft.value? setting with
  | some value =>
      simp only [found, Option.isSome_some, if_true, Except.error.injEq] at given
      exact .inl ⟨⟨value, rfl⟩, given.symm⟩
  | none =>
      simp only [found, Option.isSome_none, Bool.false_eq_true, if_false] at given
      refine .inr ⟨rfl, ?_⟩
      cases read : setting.read text with
      | error other =>
          rw [set_error read] at given
          exact congrArg _ (Except.error.inj given)
      | ok value =>
          obtain ⟨result, made, -⟩ := @set_ok draft _ _ _ read
          rw [made] at given
          cases given

end SettingsDraft

/-- What the environment has for a setting. -/
def Setting.inEnvironment? (environment : Environment) (setting : Setting) :
    Option SettingValue :=
  (environment setting.environmentName).bind fun text => (setting.read text).toOption

namespace SettingsDraft

variable {draft next : SettingsDraft} {setting : Setting} {environment : Environment}

theorem fill_cons (first : Setting) (settings : List Setting) :
    (∃ text, draft.value? first = none ∧ environment first.environmentName = some text ∧
      draft.fill environment (first :: settings) =
        (draft.set first text).bind fun next => next.fill environment settings) ∨
      (draft.value? first ≠ none ∨ environment first.environmentName = none) ∧
        draft.fill environment (first :: settings) = draft.fill environment settings := by
  rw [fill, has_value]
  cases draft.value? first with
  | some value => exact .inr ⟨.inl (by simp), rfl⟩
  | none =>
      cases environment first.environmentName with
      | none => exact .inr ⟨.inr rfl, rfl⟩
      | some text => exact .inl ⟨text, rfl, rfl, rfl⟩

/-- The environment is asked for what was not given, and for nothing else. -/
theorem fill_ok {settings : List Setting} (filled : draft.fill environment settings = .ok next) :
    (∀ setting ∈ settings, ∀ text, draft.value? setting = none →
      environment setting.environmentName = some text → ∃ value, setting.read text = .ok value) ∧
      ∀ setting, next.value? setting = (draft.value? setting).or
        (if setting ∈ settings then setting.inEnvironment? environment else none) := by
  induction settings generalizing draft with
  | nil =>
      obtain rfl := Except.ok.inj filled
      simp
  | cons first settings induction =>
      rcases @fill_cons draft environment first settings with
        ⟨text, missing, found, same⟩ | ⟨settled, same⟩
      · rw [same] at filled
        obtain ⟨middle, made, rest⟩ := bound_ok filled
        obtain ⟨value, read, values⟩ := set_iff.mp made
        obtain ⟨readable, later⟩ := induction rest
        constructor
        · intro setting member word free there
          by_cases itself : setting = first
          · subst itself
            obtain rfl := Option.some.inj (found.symm.trans there)
            exact ⟨value, read⟩
          · have behind := (List.mem_cons.mp member).resolve_left itself
            exact readable setting behind word (by rw [values, if_neg itself, free]) there
        · intro setting
          rw [later, values]
          by_cases itself : setting = first
          · subst itself
            simp [missing, Setting.inEnvironment?, found, read, Except.toOption]
          · simp [itself]
      · rw [same] at filled
        obtain ⟨readable, later⟩ := induction filled
        constructor
        · intro setting member word free there
          rcases List.mem_cons.mp member with rfl | behind
          · rcases settled with given | unset
            · exact absurd free given
            · exact absurd (unset.symm.trans there) nofun
          · exact readable setting behind word free there
        · intro setting
          rw [later]
          by_cases itself : setting = first
          · subst itself
            rcases settled with given | unset
            · obtain ⟨value, given⟩ := Option.ne_none_iff_exists'.mp given
              simp [given]
            · simp [Setting.inEnvironment?, unset]
          · simp [itself]

theorem fill_fault {settings : List Setting} {fault : UsageFault}
    (failed : draft.fill environment settings = .error fault) :
    ∃ setting text, draft.value? setting = none ∧
      environment setting.environmentName = some text ∧ setting.read text = .error fault := by
  induction settings generalizing draft with
  | nil => cases failed
  | cons first settings induction =>
      rcases @fill_cons draft environment first settings with
        ⟨text, missing, found, same⟩ | ⟨settled, same⟩
      · rw [same] at failed
        cases read : first.read text with
        | error other =>
            rw [set_error read] at failed
            obtain rfl := Except.error.inj failed
            exact ⟨first, text, missing, found, read⟩
        | ok value =>
            obtain ⟨middle, made, values⟩ := @set_ok draft _ _ _ read
            rw [made] at failed
            obtain ⟨setting, other, unset, there, unread⟩ := induction failed
            refine ⟨setting, other, ?_, there, unread⟩
            rw [values] at unset
            split at unset
            · cases unset
            · exact unset
      · rw [same] at failed
        exact induction failed

end SettingsDraft

/-! The settings of the program. -/

namespace Settings

def value? (settings : Settings) : Setting → Option SettingValue
  | .host => some (.word settings.host)
  | .port => some (.port settings.port)
  | .authToken => settings.authToken.map .word
  | .issuerUrl => some (.word settings.issuerUrl)
  | .stateDirectory => settings.stateDirectory.map .word
  | .waitTimeout => some (.millis settings.intervals.waitTimeout)
  | .checkInterval => some (.millis settings.intervals.checkInterval)
  | .refreshEarlierBy => some (.millis settings.intervals.refreshEarlierBy)
  | .defaultBackoff => some (.millis settings.intervals.defaultBackoff)
  | .certificateDuration => settings.certificateDuration.map .word
  | .catalogueFile => settings.catalogueFile.map .word
  | .logFormat => some (.format settings.logFormat)

/-- The settings with all their values given. -/
def draft (settings : Settings) : SettingsDraft where
  host := some settings.host
  port := some settings.port
  authToken := settings.authToken
  issuerUrl := some settings.issuerUrl
  stateDirectory := settings.stateDirectory
  waitTimeout := some settings.intervals.waitTimeout
  checkInterval := some settings.intervals.checkInterval
  refreshEarlierBy := some settings.intervals.refreshEarlierBy
  defaultBackoff := some settings.intervals.defaultBackoff
  certificateDuration := settings.certificateDuration
  catalogueFile := settings.catalogueFile
  logFormat := some settings.logFormat

theorem draft_value (settings : Settings) (setting : Setting) :
    settings.draft.value? setting = settings.value? setting := by
  cases setting <;> rfl

theorem ext_value {first second : Settings}
    (same : ∀ setting, first.value? setting = second.value? setting) : first = second := by
  have drafts : first.draft = second.draft :=
    SettingsDraft.ext_value fun setting => by rw [draft_value, draft_value, same]
  exact congrArg SettingsDraft.finish drafts

/-- What was given counts before the standard value. -/
theorem finish_value (draft : SettingsDraft) (setting : Setting) :
    draft.finish.value? setting = (draft.value? setting).or (standard.value? setting) := by
  have settled {Value : Type} (make : Value → SettingValue) (given : Option Value)
      (usual : Value) :
      some (make (given.getD usual)) = (given.map make).or (some (make usual)) := by
    cases given <;> rfl
  cases setting with
  | authToken | stateDirectory | certificateDuration | catalogueFile => exact Option.or_none.symm
  | host | issuerUrl => exact settled .word _ _
  | port => exact settled .port _ _
  | logFormat => exact settled .format _ _
  | _ => exact settled .millis _ _

end Settings

/-- A value that a setting can have. -/
def Setting.Allows : Setting → SettingValue → Prop
  | host, .word _ | authToken, .word _ | issuerUrl, .word _ | certificateDuration, .word _ => True
  | port, .port _ => True
  | stateDirectory, .word path | catalogueFile, .word path => path ≠ ""
  | waitTimeout, .millis number | checkInterval, .millis number
  | refreshEarlierBy, .millis number | defaultBackoff, .millis number =>
    number ≤ SettingsDraft.millisLimit
  | logFormat, .format _ => True
  | _, _ => False

/-- The word that is written for a value. -/
def SettingValue.write : SettingValue → String
  | .word text => text
  | .port number => toString number.toNat
  | .millis number => toString number
  | .format form => form.name

theorem SettingsDraft.read_millis_iff (setting : Setting) {text : String} {number : Nat} :
    readMillis setting text = .ok number ↔ Whole.natural millisLimit text = .ok number := by
  unfold readMillis
  cases Whole.natural millisLimit text with
  | error fault => exact ⟨nofun, nofun⟩
  | ok other =>
      exact ⟨fun same => congrArg _ (Except.ok.inj same),
        fun same => congrArg _ (Except.ok.inj same)⟩

theorem Setting.read_allows {setting : Setting} {text : String} {value : SettingValue}
    (read : setting.read text = .ok value) : setting.Allows value := by
  cases setting with
  | host | authToken | issuerUrl | certificateDuration =>
      obtain rfl := Except.ok.inj read
      trivial
  | port | logFormat =>
      obtain ⟨found, -, rfl⟩ := mapped_ok read
      trivial
  | stateDirectory | catalogueFile =>
      obtain ⟨path, found, rfl⟩ := mapped_ok read
      unfold SettingsDraft.readPath at found
      split at found
      · cases found
      · rename_i named
        obtain rfl := Except.ok.inj found
        exact fun none => named (by simp [none])
  | _ =>
      obtain ⟨number, found, rfl⟩ := mapped_ok read
      exact Whole.natural_le ((SettingsDraft.read_millis_iff _).mp found)

/-- A value is read back from its word. -/
theorem Setting.read_written {setting : Setting} {value : SettingValue}
    (allowed : setting.Allows value) : setting.read value.write = .ok value := by
  cases setting with
  | host | authToken | issuerUrl | certificateDuration =>
      cases value with
      | word text => rfl
      | _ => cases allowed
  | stateDirectory | catalogueFile =>
      cases value with
      | word path =>
          have named : path.isEmpty = false := by
            rw [← Bool.not_eq_true, String.isEmpty_iff]
            exact allowed
          simp [read, SettingValue.write, SettingsDraft.readPath, named, Except.map]
      | _ => cases allowed
  | port =>
      cases value with
      | port number =>
          have small : number.toNat ≤ SettingsDraft.portLimit := Nat.le_of_lt_succ number.toNat_lt
          have whole := Whole.integer_written (Nat.le_trans small (by decide))
          have inside : (0 : Int) ≤ number.toNat ∧ (number.toNat : Int) ≤ SettingsDraft.portLimit :=
            ⟨Int.natCast_nonneg _, Int.ofNat_le.mpr small⟩
          simp only [read, SettingValue.write, SettingsDraft.readPort, whole, if_pos inside]
          simp [Except.map]
      | _ => cases allowed
  | logFormat =>
      cases value with
      | format form =>
          simp only [read, SettingValue.write, SettingsDraft.readLogFormat, LogFormat.ofName?_name]
          rfl
      | _ => cases allowed
  | _ =>
      cases value with
      | millis number =>
          exact congrArg (Except.map SettingValue.millis)
            ((SettingsDraft.read_millis_iff _).mpr (Whole.natural_written allowed))
      | _ => cases allowed

/-! What settings have to meet. -/

/-- A value that the program can start with. -/
def Setting.Serves : Setting → SettingValue → Prop
  | waitTimeout, .millis number | checkInterval, .millis number => 0 < number
  | issuerUrl, .word address => Settings.isWebAddress address = true
  | _, _ => True

/-- The setting that has an unusable value. -/
def SettingsFault.setting : SettingsFault → Setting
  | zeroWaitTimeout => .waitTimeout
  | zeroCheckInterval => .checkInterval
  | noWebAddress _ => .issuerUrl

theorem SettingsFault.names_setting (fault : SettingsFault) :
    ("--" ++ fault.setting.word).toList <+: fault.message.toList := by
  cases fault with
  | zeroWaitTimeout | zeroCheckInterval => decide
  | noWebAddress url =>
      have begun : ("--" ++ Setting.issuerUrl.word).toList <+:
          "--issuer-url must be an http(s) URL: ".toList := by decide
      have whole : (noWebAddress url).message.toList =
          "--issuer-url must be an http(s) URL: ".toList ++ url.toList := String.toList_append
      rw [whole]
      exact begun.trans (List.prefix_append _ url.toList)

namespace Settings

/-- Only what has a standard value is always set. -/
theorem standard_unset {settings : Settings} {setting : Setting}
    (unset : settings.value? setting = none) : standard.value? setting = none := by
  cases setting <;> first | rfl | cases unset

theorem standard_allowed {setting : Setting} {value : SettingValue}
    (found : standard.value? setting = some value) : setting.Allows value := by
  cases setting with
  | authToken | stateDirectory | certificateDuration | catalogueFile => cases found
  | host | port | issuerUrl | logFormat =>
      obtain rfl := Option.some.inj found
      trivial
  | _ =>
      obtain rfl := Option.some.inj found
      exact Nat.le_of_ble_eq_true rfl

variable {settings : Settings}

theorem validate_iff : settings.validate = .ok () ↔
    ∀ setting value, settings.value? setting = some value → setting.Serves value := by
  constructor
  · intro valid setting value found
    unfold validate at valid
    split at valid
    · cases valid
    rename_i waits
    split at valid
    · cases valid
    rename_i checks
    split at valid
    · cases valid
    rename_i address
    cases setting with
    | waitTimeout =>
        obtain rfl := Option.some.inj found
        exact Nat.pos_of_ne_zero waits
    | checkInterval =>
        obtain rfl := Option.some.inj found
        exact Nat.pos_of_ne_zero checks
    | issuerUrl =>
        obtain rfl := Option.some.inj found
        have serves : isWebAddress settings.issuerUrl = true := by simpa using address
        exact serves
    | _ => trivial
  · intro serves
    have waits : settings.intervals.waitTimeout ≠ 0 := Nat.ne_of_gt (serves .waitTimeout _ rfl)
    have checks : settings.intervals.checkInterval ≠ 0 := Nat.ne_of_gt (serves .checkInterval _ rfl)
    have address : isWebAddress settings.issuerUrl = true := serves .issuerUrl _ rfl
    simp [validate, waits, checks, address]

/-- What is reported is a setting that cannot be used, by its name. -/
theorem validate_fault {fault : SettingsFault} (failed : settings.validate = .error fault) :
    ∃ value, settings.value? fault.setting = some value ∧ ¬ fault.setting.Serves value := by
  unfold validate at failed
  split at failed
  · rename_i never
    obtain rfl := Except.error.inj failed
    exact ⟨_, rfl, fun serves => absurd never (Nat.ne_of_gt serves)⟩
  split at failed
  · rename_i never
    obtain rfl := Except.error.inj failed
    exact ⟨_, rfl, fun serves => absurd never (Nat.ne_of_gt serves)⟩
  split at failed
  · rename_i other
    obtain rfl := Except.error.inj failed
    refine ⟨_, rfl, fun serves => ?_⟩
    have address : isWebAddress settings.issuerUrl = true := serves
    rw [address] at other
    cases other
  · cases failed

/-- Where nothing unusable is given the standard values serve for the rest. -/
theorem finish_valid {draft : SettingsDraft}
    (serves : ∀ setting value, draft.value? setting = some value → setting.Serves value) :
    draft.finish.validate = .ok () := by
  have usual (setting : Setting) (value : SettingValue)
      (found : standard.value? setting = some value) : setting.Serves value := by
    cases setting with
    | waitTimeout =>
        obtain rfl := Option.some.inj found
        exact (by decide : 0 < standard.intervals.waitTimeout)
    | checkInterval =>
        obtain rfl := Option.some.inj found
        exact (by decide : 0 < standard.intervals.checkInterval)
    | issuerUrl =>
        obtain rfl := Option.some.inj found
        exact (by decide : isWebAddress standard.issuerUrl = true)
    | _ => trivial
  refine validate_iff.mpr fun setting value found => ?_
  rw [finish_value] at found
  cases given : draft.value? setting with
  | some other =>
      rw [given] at found
      exact serves setting value (given.trans found)
  | none =>
      rw [given] at found
      exact usual setting value found

theorem standard_valid : standard.validate = .ok () :=
  @finish_valid .blank fun setting value given => by cases setting <;> cases given

end Settings

end CertRenewal
