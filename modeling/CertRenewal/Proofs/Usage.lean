import CertRenewal.Proofs.Values
import CertRenewal.Settings.CommandLine
import Mathlib.Data.List.TakeWhile

/-!
What a command line says. It is read exactly when it gives settings, each of them once
and with a value that can be read; then every setting has the value that was given, or the
one of the environment, or the standard one. Otherwise the first thing that is wrong is
reported: it is in the words or in the environment, and it is told in plain characters.
-/

namespace CertRenewal

namespace Setting

theorem ofWord?_iff {name : String} {setting : Setting} :
    ofWord? name = some setting ↔ name = setting.word := by
  constructor
  · intro found
    have same := List.find?_some found
    exact (of_decide_eq_true same).symm
  · rintro rfl
    exact ofWord?_word setting

theorem word_joins (setting : Setting) : '=' ∉ setting.word.toList := by
  cases setting <;> decide

end Setting

/-- A setting that a command line gives, with its value in the same word or in the next. -/
structure Given where
  setting : Setting
  value : String
  isJoined : Bool

namespace Given

def words (given : Given) : List String :=
  if given.isJoined then ["--" ++ given.setting.word ++ "=" ++ given.value]
  else ["--" ++ given.setting.word, given.value]

open CommandForm in
/-- A value in a word of its own does not look like a setting. -/
def IsSpelled (given : Given) : Prop :=
  given.isJoined = true ∨ Word.ofText given.value = .plain given.value

def spell (all : List Given) : List String := all.flatMap words

/-- Gives the settings one after another. -/
def giveAll (draft : SettingsDraft) : List Given → Except UsageFault SettingsDraft
  | [] => .ok draft
  | given :: more => (draft.give given.setting given.value).bind fun next => giveAll next more

theorem give_append (draft : SettingsDraft) (front back : List Given) :
    giveAll draft (front ++ back) = (giveAll draft front).bind fun next => giveAll next back := by
  induction front generalizing draft with
  | nil => rfl
  | cons given front induction =>
      simp only [List.cons_append, giveAll]
      cases draft.give given.setting given.value with
      | error fault => rfl
      | ok next => exact induction next

theorem spell_append (front back : List Given) :
    spell (front ++ back) = spell front ++ spell back :=
  List.flatMap_append

theorem spell_cons (given : Given) (more : List Given) :
    spell (given :: more) = given.words ++ spell more := List.flatMap_cons

end Given

namespace CommandForm

namespace Word

theorem split_value_whole {text : List Char} (joins : '=' ∉ text) :
    splitValue text = (String.ofList text, none) := by
  have apart : ∀ char ∈ text, (decide (char ≠ '=')) = true := by
    intro char member
    rw [decide_eq_true_iff]
    rintro rfl
    exact joins member
  rw [splitValue, List.takeWhile_eq_self_iff.mpr apart, List.dropWhile_eq_nil_iff.mpr apart]

theorem split_value_joined {name : List Char} (value : List Char) (joins : '=' ∉ name) :
    splitValue (name ++ '=' :: value) = (String.ofList name, some (String.ofList value)) := by
  have apart : ∀ char ∈ name, (decide (char ≠ '=')) = true := by
    intro char member
    rw [decide_eq_true_iff]
    rintro rfl
    exact joins member
  rw [splitValue, List.takeWhile_append_of_pos apart, List.dropWhile_append_of_pos apart]
  simp

theorem split_value_cases (text : List Char) : '=' ∉ text ∨
    ∃ name value, text = name ++ '=' :: value ∧ '=' ∉ name := by
  by_cases joined : '=' ∈ text
  · obtain ⟨name, value, whole, joins⟩ := List.eq_append_cons_of_mem joined
    exact .inr ⟨name, value, whole, joins⟩
  · exact .inl joined

theorem named_chars (name : String) : ("--" ++ name).toList = '-' :: '-' :: name.toList := by
  rw [String.toList_append]
  rfl

theorem joined_chars (name value : String) :
    ("--" ++ name ++ "=" ++ value).toList = '-' :: '-' :: (name.toList ++ '=' :: value.toList) := by
  rw [String.toList_append, String.toList_append, named_chars, List.append_assoc]
  rfl

theorem of_text_named {name : String} (joins : '=' ∉ name.toList) :
    ofText ("--" ++ name) = .long name none := by
  simp only [ofText, named_chars, split_value_whole joins, String.ofList_toList]

theorem of_text_joined {name : String} (value : String) (joins : '=' ∉ name.toList) :
    ofText ("--" ++ name ++ "=" ++ value) = .long name (some value) := by
  simp only [ofText, joined_chars, split_value_joined value.toList joins, String.ofList_toList]

/-- What a word is made of. -/
inductive Read (text : String) : Word → Prop
  | named (name : String) (whole : text = "--" ++ name) : Read text (.long name none)
  | joined (name value : String) (whole : text = "--" ++ name ++ "=" ++ value) :
      Read text (.long name (some value))
  | short (letter : Char) (rest : List Char) (whole : text.toList = '-' :: letter :: rest) :
      Read text (.short letter)
  | plain : Read text (.plain text)

theorem of_text_read (text : String) : Read text (ofText text) := by
  have back {chars : List Char} (same : text.toList = chars) : text = String.ofList chars := by
    rw [← same, String.ofList_toList]
  unfold ofText
  split
  · rename_i rest whole
    rcases split_value_cases rest with joins | ⟨name, value, rfl, joins⟩
    · rw [split_value_whole joins]
      refine .named _ (String.toList_injective ?_)
      rw [whole, named_chars, String.toList_ofList]
    · rw [split_value_joined value joins]
      refine .joined _ _ (String.toList_injective ?_)
      rw [whole, joined_chars, String.toList_ofList, String.toList_ofList]
  · rename_i letter rest _ whole
    exact .short letter rest whole
  · exact .plain

end Word

end CommandForm

/-- The words of the setting whose value is not looked at yet. -/
def PendingSetting.words : PendingSetting → List String
  | .nothing => []
  | .awaiting setting => ["--" ++ setting.word]
  | .given setting value => ["--" ++ setting.word, value]

/-- What is given with it, once its value is there. -/
def PendingSetting.all : PendingSetting → List Given
  | .given setting value => [⟨setting, value, false⟩]
  | _ => []

namespace CommandForm

variable {form : CommandForm} {draft between final : SettingsDraft}
  {pending left : PendingSetting} {texts : List String} {text : String}

theorem read_words_cons (other : text ≠ "--") : form.readWords draft pending (text :: texts) =
    (form.readWord draft pending (Word.ofText text)).bind fun next =>
      form.readWords next.1 next.2 texts := by
  rw [readWords]
  · rfl
  · exact fun same _ => other same
  · exact fun _ _ same _ => other same

theorem map_fault_ok {Value : Type} {outcome : Except UsageFault Value} {value : Value} :
    outcome.mapError CommandStop.fault = .ok value ↔ outcome = .ok value := by
  cases outcome with
  | error fault => exact ⟨nofun, nofun⟩
  | ok other =>
      exact ⟨fun same => congrArg _ (Except.ok.inj same),
        fun same => congrArg _ (Except.ok.inj same)⟩

/-- What is pending can be settled once it has a value. -/
theorem settle_iff : settle draft pending = .ok between ↔
    pending.words = Given.spell pending.all ∧ Given.giveAll draft pending.all = .ok between := by
  cases pending with
  | nothing => simp [settle, PendingSetting.words, PendingSetting.all, Given.spell, Given.giveAll]
  | awaiting setting => simp [settle, PendingSetting.words, PendingSetting.all, Given.spell]
  | given setting value =>
      have spelled : (PendingSetting.given setting value).words =
          Given.spell [⟨setting, value, false⟩] := rfl
      simp only [settle, map_fault_ok, spelled, PendingSetting.all, true_and, Given.giveAll]
      cases draft.give setting value <;> simp [Except.bind]

/-- A word that has a place: the value of the setting before it, or another setting. -/
inductive Takes (draft : SettingsDraft) (pending : PendingSetting) (text : String) :
    SettingsDraft → PendingSetting → Prop
  | value (setting : Setting) (awaited : pending = .awaiting setting)
      (plain : Word.ofText text = .plain text) :
      Takes draft pending text draft (.given setting text)
  | named (setting : Setting) (between : SettingsDraft) (whole : text = "--" ++ setting.word)
      (settled : settle draft pending = .ok between) :
      Takes draft pending text between (.awaiting setting)
  | joined (setting : Setting) (value : String) (between after : SettingsDraft)
      (whole : text = "--" ++ setting.word ++ "=" ++ value)
      (settled : settle draft pending = .ok between)
      (given : between.give setting value = .ok after) : Takes draft pending text after .nothing

/-- A word that is at fault, or before which something is. -/
inductive Refuses (draft : SettingsDraft) (pending : PendingSetting) (text : String) :
    UsageFault → Prop
  | earlier (fault : UsageFault) (failed : settle draft pending = .error (.fault fault)) :
      Refuses draft pending text fault
  | unknown (word : String) (begins : word.toList <+: text.toList) :
      Refuses draft pending text (.unknownWord word)
  | needless (flag value : String) (whole : text = flag ++ "=" ++ value)
      (known : flag = "--help" ∨ flag = "--version") :
      Refuses draft pending text (.needlessValue flag value)
  | unread (setting : Setting) (value : String) (between : SettingsDraft) (fault : UsageFault)
      (whole : text = "--" ++ setting.word ++ "=" ++ value)
      (settled : settle draft pending = .ok between)
      (failed : between.give setting value = .error fault) : Refuses draft pending text fault

/-- A line that the form has to tell. -/
def Answers (form : CommandForm) (line : String) : Prop :=
  line = form.about ∨ form.version = some line

/-- What comes of a word. -/
inductive Meets (form : CommandForm) (draft : SettingsDraft) (pending : PendingSetting)
    (text : String) : Except CommandStop (SettingsDraft × PendingSetting) → Prop
  | taken (after : SettingsDraft) (left : PendingSetting)
      (takes : Takes draft pending text after left) :
      Meets form draft pending text (.ok (after, left))
  | refused (fault : UsageFault) (refuses : Refuses draft pending text fault) :
      Meets form draft pending text (.error (.fault fault))
  | told (line : String) (answers : form.Answers line) :
      Meets form draft pending text (.error (.tell line))

theorem settle_cases (draft : SettingsDraft) (pending : PendingSetting) :
    (∃ between, settle draft pending = .ok between) ∨
      ∃ fault, settle draft pending = .error (.fault fault) := by
  cases pending with
  | nothing => exact .inl ⟨draft, rfl⟩
  | awaiting setting => exact .inr ⟨_, rfl⟩
  | given setting value =>
      simp only [settle]
      cases draft.give setting value with
      | error fault => exact .inr ⟨fault, rfl⟩
      | ok between => exact .inl ⟨between, rfl⟩

theorem settle_tells_nothing {line : String} : settle draft pending ≠ .error (.tell line) := by
  rcases settle_cases draft pending with ⟨between, settled⟩ | ⟨fault, failed⟩
  · rw [settled]
    exact nofun
  · rw [failed]
    exact nofun

theorem short_answer {letter : Char} {line : String}
    (answer : form.shortAnswer? letter = some line) : form.Answers line := by
  unfold shortAnswer? at answer
  split at answer
  · exact .inl (Option.some.inj answer).symm
  · split at answer
    · exact .inr answer
    · cases answer

theorem long_answer {name line : String} (answer : form.longAnswer? name = some line) :
    (name = "help" ∨ name = "version") ∧ form.Answers line := by
  unfold longAnswer? at answer
  split at answer
  · rename_i help
    exact ⟨.inl help, .inl (Option.some.inj answer).symm⟩
  · split at answer
    · rename_i version
      exact ⟨.inr version, .inr answer⟩
    · cases answer

theorem meets_told {line : String} (answers : form.Answers line) :
    form.Meets draft pending text (tellAfter draft pending line) := by
  unfold tellAfter
  rcases settle_cases draft pending with ⟨between, settled⟩ | ⟨fault, failed⟩
  · rw [settled]
    exact .told line answers
  · rw [failed]
    exact .refused fault (.earlier fault failed)

theorem meets_setting (setting : Setting) (whole : text = "--" ++ setting.word) :
    form.Meets draft pending text (form.readWord draft pending (.long setting.word none)) := by
  simp only [readWord, Setting.ofWord?_word]
  rcases settle_cases draft pending with ⟨between, settled⟩ | ⟨fault, failed⟩
  · rw [settled]
    exact .taken between _ (.named setting between whole settled)
  · rw [failed]
    exact .refused fault (.earlier fault failed)

theorem meets_value (setting : Setting) (value : String)
    (whole : text = "--" ++ setting.word ++ "=" ++ value) :
    form.Meets draft pending text
      (form.readWord draft pending (.long setting.word (some value))) := by
  simp only [readWord, Setting.ofWord?_word]
  rcases settle_cases draft pending with ⟨between, settled⟩ | ⟨fault, failed⟩
  · rw [settled]
    cases given : between.give setting value with
    | error fault =>
        simp only [bind, Except.bind, given]
        exact .refused fault (.unread setting value between fault whole settled given)
    | ok after =>
        simp only [bind, Except.bind, given]
        exact .taken after _ (.joined setting value between after whole settled given)
  · rw [failed]
    exact .refused fault (.earlier fault failed)

/-- A word has a place, or it or something before it is at fault, or it asks for a line. -/
theorem word_meets (form : CommandForm) (draft : SettingsDraft) (pending : PendingSetting)
    (text : String) :
    form.Meets draft pending text (form.readWord draft pending (Word.ofText text)) := by
  have word := Word.of_text_read text
  generalize told : Word.ofText text = kind at word ⊢
  cases word with
  | plain =>
      cases pending with
      | awaiting setting => exact .taken draft _ (.value setting rfl told)
      | nothing | given => exact .refused _ (.unknown text List.prefix_rfl)
  | short letter rest whole =>
      simp only [readWord]
      cases answer : form.shortAnswer? letter with
      | some line => exact meets_told (short_answer answer)
      | none =>
          exact .refused _ (.unknown _ ⟨rest, by rw [whole, String.toList_ofList]; rfl⟩)
  | named name whole =>
      cases found : Setting.ofWord? name with
      | some setting =>
          obtain rfl := Setting.ofWord?_iff.mp found
          exact meets_setting setting whole
      | none =>
          simp only [readWord, found]
          cases answer : form.longAnswer? name with
          | some line => exact meets_told (long_answer answer).2
          | none => exact .refused _ (.unknown _ (whole ▸ List.prefix_rfl))
  | joined name value whole =>
      cases found : Setting.ofWord? name with
      | some setting =>
          obtain rfl := Setting.ofWord?_iff.mp found
          exact meets_value setting value whole
      | none =>
          simp only [readWord, found]
          cases answer : form.longAnswer? name with
          | some line =>
              have known := (long_answer answer).1.imp (congrArg ("--" ++ ·)) (congrArg ("--" ++ ·))
              exact .refused _ (.needless _ value whole known)
          | none =>
              refine .refused _ (.unknown _ ⟨'=' :: value.toList, ?_⟩)
              rw [whole, Word.joined_chars, Word.named_chars]
              rfl

theorem takes_of_read (read : form.readWord draft pending (Word.ofText text) = .ok (final, left)) :
    Takes draft pending text final left := by
  have meets := form.word_meets draft pending text
  rw [read] at meets
  cases meets with
  | taken _ _ takes => exact takes

theorem refuses_of_read {fault : UsageFault}
    (failed : form.readWord draft pending (Word.ofText text) = .error (.fault fault)) :
    Refuses draft pending text fault := by
  have meets := form.word_meets draft pending text
  rw [failed] at meets
  cases meets with
  | refused _ refuses => exact refuses

theorem answers_of_read {line : String}
    (told : form.readWord draft pending (Word.ofText text) = .error (.tell line)) :
    form.Answers line := by
  have meets := form.word_meets draft pending text
  rw [told] at meets
  cases meets with
  | told _ answers => exact answers

theorem named_not_end (setting : Setting) : "--" ++ setting.word ≠ "--" := by
  cases setting <;> decide

theorem joined_not_end (setting : Setting) (value : String) :
    "--" ++ setting.word ++ "=" ++ value ≠ "--" := by
  intro same
  have chars := congrArg String.toList same
  rw [Word.joined_chars] at chars
  simp at chars

variable {all : List Given} {ending : List String}

/-- A command line that is read gives settings, and may end with two hyphens alone. -/
theorem words_said (plain : ∀ given ∈ pending.all, given.IsSpelled)
    (read : form.readWords draft pending texts = .ok final) :
    ∃ all ending, (ending = [] ∨ ending = ["--"]) ∧
      pending.words ++ texts = Given.spell all ++ ending ∧
      (∀ given ∈ all, given.IsSpelled) ∧ Given.giveAll draft all = .ok final := by
  induction texts generalizing draft pending with
  | nil =>
      obtain ⟨spelled, given⟩ := settle_iff.mp read
      exact ⟨pending.all, [], .inl rfl, by rw [spelled], plain, given⟩
  | cons text texts induction =>
      by_cases ended : text = "--"
      · subst ended
        cases texts with
        | nil =>
            obtain ⟨spelled, given⟩ := settle_iff.mp read
            exact ⟨pending.all, ["--"], .inr rfl, by rw [spelled], plain, given⟩
        | cons next texts => cases read
      · rw [read_words_cons ended] at read
        obtain ⟨⟨next, left⟩, word, rest⟩ := bound_ok read
        cases takes_of_read word with
        | value setting awaited told =>
            subst awaited
            refine induction (fun given member => ?_) rest
            rw [List.mem_singleton.mp member]
            exact .inr told
        | named setting between whole settled =>
            obtain ⟨all, ending, ends, same, spelled, given⟩ :=
              induction (by simp [PendingSetting.all]) rest
            obtain ⟨before, first⟩ := settle_iff.mp settled
            refine ⟨pending.all ++ all, ending, ends, ?_, ?_, ?_⟩
            · rw [before, whole, Given.spell_append, List.append_assoc, ← same]
              rfl
            · exact fun given member =>
                (List.mem_append.mp member).elim (plain given) (spelled given)
            · rw [Given.give_append, first]
              exact given
        | joined setting value between after whole settled gives =>
            obtain ⟨all, ending, ends, same, spelled, given⟩ :=
              induction (by simp [PendingSetting.all]) rest
            obtain ⟨before, first⟩ := settle_iff.mp settled
            refine ⟨pending.all ++ ⟨setting, value, true⟩ :: all, ending, ends, ?_, ?_, ?_⟩
            · rw [before, whole, Given.spell_append, Given.spell_cons, List.append_assoc,
                List.append_assoc, ← same]
              rfl
            · intro given member
              rcases List.mem_append.mp member with earlier | later
              · exact plain given earlier
              · rcases List.mem_cons.mp later with rfl | later
                · exact .inl rfl
                · exact spelled given later
            · rw [Given.give_append, first]
              simp only [Except.bind, Given.giveAll, gives]
              exact given

/-- Settings that can be given are read from their words. -/
theorem read_said (settled : settle draft pending = .ok between)
    (spelled : ∀ given ∈ all, given.IsSpelled) (given : Given.giveAll between all = .ok final)
    (ends : ending = [] ∨ ending = ["--"]) :
    form.readWords draft pending (Given.spell all ++ ending) = .ok final := by
  induction all generalizing draft pending between with
  | nil =>
      obtain rfl := Except.ok.inj given
      rcases ends with rfl | rfl <;> exact settled
  | cons first more induction =>
      obtain ⟨next, gives, rest⟩ := bound_ok given
      have later (given : Given) (member : given ∈ more) : given.IsSpelled :=
        spelled given (List.mem_cons_of_mem _ member)
      obtain ⟨setting, value, isJoined⟩ := first
      simp only at gives
      have joins := setting.word_joins
      rw [Given.spell_cons, List.append_assoc]
      cases isJoined with
      | true =>
          have word : form.readWord draft pending (.long setting.word (some value)) =
              .ok (next, .nothing) := by
            simp only [readWord, Setting.ofWord?_word, settled, bind, Except.bind, gives]
            rfl
          have words : Given.words ⟨setting, value, true⟩ =
              ["--" ++ setting.word ++ "=" ++ value] := rfl
          rw [words, List.singleton_append, read_words_cons (joined_not_end setting value),
            Word.of_text_joined value joins, word]
          exact induction rfl later rest
      | false =>
          have plain : Word.ofText value = .plain value :=
            (spelled _ List.mem_cons_self).resolve_left Bool.false_ne_true
          have word : form.readWord draft pending (.long setting.word none) =
              .ok (between, .awaiting setting) := by
            simp only [readWord, Setting.ofWord?_word, settled]
            rfl
          have other : value ≠ "--" := by
            rintro rfl
            exact absurd plain (by decide)
          have words : Given.words ⟨setting, value, false⟩ = ["--" ++ setting.word, value] := rfl
          rw [words, List.cons_append, List.singleton_append,
            read_words_cons (named_not_end setting), Word.of_text_named joins, word]
          simp only [Except.bind]
          rw [read_words_cons other, plain]
          exact induction (map_fault_ok.mpr gives) later rest

theorem read_words_iff : form.readWords draft .nothing texts = .ok final ↔
    ∃ all ending, (ending = [] ∨ ending = ["--"]) ∧ texts = Given.spell all ++ ending ∧
      (∀ given ∈ all, given.IsSpelled) ∧ Given.giveAll draft all = .ok final := by
  constructor
  · exact words_said nofun
  · rintro ⟨all, ending, ends, rfl, spelled, given⟩
    exact read_said rfl spelled given ends

end CommandForm

namespace Given

/-- The value that is given for a setting. -/
def value? (all : List Given) (setting : Setting) : Option SettingValue :=
  (all.find? (·.setting = setting)).bind fun given => (setting.read given.value).toOption

variable {all : List Given} {draft final : SettingsDraft} {setting : Setting}

theorem value_cons (first : Given) (more : List Given) (setting : Setting) :
    value? (first :: more) setting = if first.setting = setting then
      (setting.read first.value).toOption else value? more setting := by
  unfold value?
  by_cases itself : first.setting = setting <;> simp [itself]

theorem value_absent (absent : ∀ given ∈ all, given.setting ≠ setting) :
    value? all setting = none := by
  have none : all.find? (·.setting = setting) = none := by
    simpa [List.find?_eq_none] using absent
  rw [value?, none]
  rfl

theorem value_of_mem {given : Given} {value : SettingValue} (once : (all.map (·.setting)).Nodup)
    (member : given ∈ all) (read : given.setting.read given.value = .ok value) :
    value? all given.setting = some value := by
  induction all with
  | nil => cases member
  | cons first more induction =>
      rw [List.map_cons, List.nodup_cons] at once
      rw [value_cons]
      rcases List.mem_cons.mp member with rfl | behind
      · rw [if_pos rfl, read]
        rfl
      · rw [if_neg]
        · exact induction once.2 behind
        · intro same
          exact once.1 (List.mem_map.mpr ⟨given, behind, same.symm⟩)

/-- Settings that are given one after another are given once, with values that can be read. -/
theorem give_all_ok (given : giveAll draft all = .ok final) :
    (all.map (·.setting)).Nodup ∧
      (∀ given ∈ all, draft.value? given.setting = none ∧
        ∃ value, given.setting.read given.value = .ok value) ∧
      ∀ setting, final.value? setting = (draft.value? setting).or (value? all setting) := by
  induction all generalizing draft with
  | nil =>
      obtain rfl := Except.ok.inj given
      refine ⟨List.nodup_nil, by simp, fun setting => ?_⟩
      simp [value?]
  | cons first more induction =>
      obtain ⟨next, gives, rest⟩ := bound_ok given
      obtain ⟨free, value, read, values⟩ := SettingsDraft.give_iff.mp gives
      obtain ⟨once, readable, all⟩ := induction rest
      have apart (given : Given) (member : given ∈ more) : given.setting ≠ first.setting := by
        intro same
        have none := (readable given member).1
        rw [values, if_pos same] at none
        cases none
      refine ⟨?_, ?_, ?_⟩
      · rw [List.map_cons, List.nodup_cons]
        refine ⟨fun member => ?_, once⟩
        obtain ⟨given, inside, same⟩ := List.mem_map.mp member
        exact apart given inside same
      · intro given member
        rcases List.mem_cons.mp member with rfl | behind
        · exact ⟨free, value, read⟩
        · obtain ⟨none, readable⟩ := readable given behind
          rw [values, if_neg (apart given behind)] at none
          exact ⟨none, readable⟩
      · intro setting
        rw [all, values, value_cons]
        by_cases itself : setting = first.setting
        · subst itself
          simp [free, read, Except.toOption]
        · simp [itself, Ne.symm itself]

/-- Such settings can be given. -/
theorem give_all_some (once : (all.map (·.setting)).Nodup)
    (readable : ∀ given ∈ all, draft.value? given.setting = none ∧
      ∃ value, given.setting.read given.value = .ok value) :
    ∃ final, giveAll draft all = .ok final := by
  induction all generalizing draft with
  | nil => exact ⟨draft, rfl⟩
  | cons first more induction =>
      obtain ⟨free, value, read⟩ := readable first List.mem_cons_self
      obtain ⟨next, made, same⟩ := @SettingsDraft.set_ok draft _ _ _ read
      have gives : draft.give first.setting first.value = .ok next :=
        SettingsDraft.give_iff.mpr ⟨free, value, read, same⟩
      rw [List.map_cons, List.nodup_cons] at once
      rw [giveAll, gives]
      refine induction once.2 fun given member => ?_
      have apart : given.setting ≠ first.setting :=
        fun same => once.1 (List.mem_map.mpr ⟨given, member, same⟩)
      obtain ⟨none, readable⟩ := readable given (List.mem_cons_of_mem _ member)
      rw [same, if_neg apart]
      exact ⟨none, readable⟩

end Given

namespace CommandForm

variable {form : CommandForm} {texts : List String} {environment : Environment}
  {settings : Settings}

/-- A command line and an environment that ask for settings. -/
structure Asks (texts : List String) (environment : Environment) (settings : Settings)
    (all : List Given) : Prop where
  words : texts = Given.spell all ∨ texts = Given.spell all ++ ["--"]
  spelled : ∀ given ∈ all, given.IsSpelled
  once : (all.map (·.setting)).Nodup
  readable : ∀ given ∈ all, ∃ value, given.setting.read given.value = .ok value
  /-- What the environment has for a setting is read when the words do not give it. -/
  surrounded : ∀ setting text, Given.value? all setting = none →
    environment setting.environmentName = some text → ∃ value, setting.read text = .ok value
  layered : ∀ setting, settings.value? setting =
    ((Given.value? all setting).or (setting.inEnvironment? environment)).or
      (Settings.standard.value? setting)

theorem start_of_read (read : form.read texts environment = .ok (.start settings)) :
    ∃ draft filled, form.readWords .blank .nothing texts = .ok draft ∧
      draft.fill environment Setting.all = .ok filled ∧ filled.finish = settings := by
  unfold CommandForm.read at read
  split at read
  · cases read
  · cases read
  · rename_i draft words
    obtain ⟨filled, fills, same⟩ := bound_ok read
    cases same
    exact ⟨draft, filled, words, fills, rfl⟩

theorem read_of_start {draft filled : SettingsDraft}
    (words : form.readWords .blank .nothing texts = .ok draft)
    (fills : draft.fill environment Setting.all = .ok filled) :
    form.read texts environment = .ok (.start filled.finish) := by
  simp only [CommandForm.read, words, fills]
  rfl

/-- The program starts with settings when its words and its environment ask for them. -/
theorem started_iff : form.read texts environment = .ok (.start settings) ↔
    ∃ all, Asks texts environment settings all := by
  have blank (all : List Given) (setting : Setting) :
      (SettingsDraft.blank.value? setting).or (Given.value? all setting) =
        Given.value? all setting := by cases setting <;> rfl
  constructor
  · intro read
    obtain ⟨draft, filled, words, fills, rfl⟩ := start_of_read read
    obtain ⟨all, ending, ends, whole, spelled, given⟩ := read_words_iff.mp words
    obtain ⟨once, readable, values⟩ := Given.give_all_ok given
    obtain ⟨surrounded, layers⟩ := SettingsDraft.fill_ok fills
    simp only [blank] at values
    refine ⟨all, ?_, spelled, once, fun given member => (readable given member).2, ?_, ?_⟩
    · rw [whole]
      exact ends.imp (fun none => by rw [none, List.append_nil]) (fun ends => by rw [ends])
    · intro setting text ungiven
      exact surrounded setting setting.mem_all text ((values setting).trans ungiven)
    · intro setting
      rw [Settings.finish_value, layers, if_pos setting.mem_all, values]
  · rintro ⟨all, asks⟩
    obtain ⟨ending, ends, whole⟩ : ∃ ending, (ending = [] ∨ ending = ["--"]) ∧
        texts = Given.spell all ++ ending := by
      rcases asks.words with whole | whole
      · exact ⟨[], .inl rfl, by rw [whole, List.append_nil]⟩
      · exact ⟨["--"], .inr rfl, whole⟩
    have unset (setting : Setting) : SettingsDraft.blank.value? setting = none := by
      cases setting <;> rfl
    obtain ⟨draft, given⟩ := Given.give_all_some asks.once fun given member =>
      ⟨unset given.setting, asks.readable given member⟩
    have values := (Given.give_all_ok given).2.2
    simp only [blank] at values
    have words : form.readWords .blank .nothing texts = .ok draft :=
      read_words_iff.mpr ⟨all, ending, ends, whole, asks.spelled, given⟩
    cases fills : draft.fill environment Setting.all with
    | error fault =>
        obtain ⟨setting, text, free, found, unread⟩ := SettingsDraft.fill_fault fills
        obtain ⟨value, read⟩ :=
          asks.surrounded setting text ((values setting).symm.trans free) found
        exact absurd (unread.symm.trans read) nofun
    | ok filled =>
        have layers := (SettingsDraft.fill_ok fills).2
        have same : filled.finish = settings := Settings.ext_value fun setting => by
          rw [Settings.finish_value, layers, if_pos setting.mem_all, values, asks.layered]
        rw [read_of_start words fills, same]

/-- The settings that the program starts with have values that they can have. -/
theorem started_allowed (read : form.read texts environment = .ok (.start settings))
    {setting : Setting} {value : SettingValue} (found : settings.value? setting = some value) :
    setting.Allows value := by
  have allowed {text : String} (kept : (setting.read text).toOption = some value) :
      setting.Allows value := by
    cases read : setting.read text with
    | error fault =>
        rw [read] at kept
        cases kept
    | ok other =>
        rw [read] at kept
        obtain rfl := Option.some.inj kept
        exact Setting.read_allows read
  obtain ⟨all, asks⟩ := started_iff.mp read
  rw [asks.layered, Option.or_eq_some_iff, Option.or_eq_some_iff] at found
  rcases found with (given | ⟨-, surrounding⟩) | ⟨-, usual⟩
  · obtain ⟨given, -, kept⟩ := Option.bind_eq_some_iff.mp given
    exact allowed kept
  · obtain ⟨text, -, kept⟩ := Option.bind_eq_some_iff.mp surrounding
    exact allowed kept
  · exact Settings.standard_allowed usual

end CommandForm

namespace Settings

variable {form : CommandForm} {environment : Environment} {settings : Settings}

/-- All settings that have a value, each in a word of its own. -/
def all (settings : Settings) : List Given :=
  Setting.all.filterMap fun setting =>
    (settings.value? setting).map fun value => ⟨setting, value.write, true⟩

theorem mem_all {given : Given} : given ∈ settings.all ↔ ∃ value,
    settings.value? given.setting = some value ∧ given.value = value.write ∧
      given.isJoined = true := by
  obtain ⟨setting, text, isJoined⟩ := given
  simp only [all, List.mem_filterMap, Option.map_eq_some_iff, Given.mk.injEq]
  constructor
  · rintro ⟨_, -, value, found, rfl, rfl, rfl⟩
    exact ⟨value, found, rfl, rfl⟩
  · rintro ⟨value, found, rfl, rfl⟩
    exact ⟨setting, setting.mem_all, value, found, rfl, rfl, rfl⟩

theorem all_once (settings : Settings) : (settings.all.map (·.setting)).Nodup := by
  have sublist (some : List Setting) : ((some.filterMap fun setting =>
      (settings.value? setting).map fun value => (⟨setting, value.write, true⟩ : Given)).map
        (·.setting)).Sublist some := by
    induction some with
    | nil => exact .slnil
    | cons first more induction =>
        cases found : settings.value? first with
        | none =>
            simp only [List.filterMap_cons, found, Option.map_none]
            exact induction.cons first
        | some value =>
            simp only [List.filterMap_cons, found, Option.map_some, List.map_cons]
            exact induction.cons_cons first
  exact (sublist Setting.all).nodup (by decide)

/-- Settings are read back from the words that are written for them, whatever the environment
has for those that are set. -/
theorem read_back
    (allowed : ∀ setting value, settings.value? setting = some value → setting.Allows value)
    (silent : ∀ setting, settings.value? setting = none →
      environment setting.environmentName = none) :
    form.read (Given.spell settings.all) environment = .ok (.start settings) := by
  have readable (given : Given) (member : given ∈ settings.all) : ∃ value,
      settings.value? given.setting = some value ∧
        given.setting.read given.value = .ok value := by
    obtain ⟨value, found, word, -⟩ := mem_all.mp member
    exact ⟨value, found, word ▸ Setting.read_written (allowed _ value found)⟩
  have values (setting : Setting) :
      Given.value? settings.all setting = settings.value? setting := by
    cases found : settings.value? setting with
    | none =>
        refine Given.value_absent fun given member same => ?_
        obtain ⟨value, there, -⟩ := mem_all.mp member
        rw [same, found] at there
        cases there
    | some value =>
        have member : ⟨setting, value.write, true⟩ ∈ settings.all :=
          mem_all.mpr ⟨value, found, rfl, rfl⟩
        exact Given.value_of_mem settings.all_once member
          (Setting.read_written (allowed _ value found))
  refine CommandForm.started_iff.mpr ⟨settings.all, .inl rfl, ?_, settings.all_once, ?_, ?_, ?_⟩
  · intro given member
    obtain ⟨value, -, -, joined⟩ := mem_all.mp member
    exact .inl joined
  · intro given member
    obtain ⟨value, -, read⟩ := readable given member
    exact ⟨value, read⟩
  · intro setting text unset found
    rw [values] at unset
    rw [silent setting unset] at found
    cases found
  · intro setting
    rw [values]
    cases found : settings.value? setting with
    | some value => rfl
    | none => simp [Setting.inEnvironment?, silent setting found, standard_unset found]

end Settings

/-! What is reported. -/

theorem Setting.word_plain (setting : Setting) : Terminal.IsPlainText setting.word := by
  cases setting <;> decide

theorem Setting.label_plain (setting : Setting) : Terminal.IsPlainText setting.label := by
  have letters : (setting.word.toList.all fun letter =>
      decide (Terminal.IsPlain (if letter = '-' then '_' else letter.toUpper))) = true := by
    cases setting <;> decide
  have placeholder : Terminal.IsPlainText setting.placeholder := by
    intro char member
    rw [Setting.placeholder, String.toList_ofList] at member
    obtain ⟨letter, among, rfl⟩ := List.mem_map.mp member
    exact of_decide_eq_true (List.all_eq_true.mp letters letter among)
  have join {first second : String} := @Terminal.plain_append first second
  exact join (join (join (join (by decide) setting.word_plain) (by decide)) placeholder) (by decide)

theorem digits_plain (number : Nat) : Terminal.IsPlainText (toString number) := by
  intro char member
  have same : (toString number).toList = Nat.toDigits 10 number := Nat.toList_repr
  rw [same] at member
  have digit := Nat.isDigit_of_mem_toDigits (by decide) (by decide) member
  simp only [Char.isDigit, Bool.and_eq_true, decide_eq_true_eq, UInt32.le_iff_toNat_le,
    ge_iff_le] at digit
  have most : char.toNat ≤ 57 := digit.2
  exact .inl ⟨Nat.le_trans (by decide) digit.1, by omega⟩

theorem NumberFault.message_plain (fault : NumberFault) : Terminal.IsPlainText fault.message := by
  cases fault with
  | notWhole fault => cases fault <;> decide
  | outOfRange value limit =>
      have written : Terminal.IsPlainText (toString value) := by
        cases value with
        | ofNat size => exact digits_plain size
        | negSucc size =>
            exact Terminal.plain_append (by decide : Terminal.IsPlainText "-")
              (digits_plain (size + 1))
      exact Terminal.plain_append (Terminal.plain_append written (by decide)) (digits_plain limit)

namespace UsageFault

variable {fault : UsageFault} {setting : Setting}

/-- The setting that a fault is about, if it is about one. -/
def setting? : UsageFault → Option Setting
  | missingValue setting | repeated setting | badNumber setting _ _ | badChoice setting _ =>
    some setting
  | unknownWord _ | needlessValue _ _ => none

/-- A value that cannot be read is reported under its setting. -/
theorem of_read {text : String} (unread : setting.read text = .error fault) :
    fault.setting? = some setting := by
  cases setting with
  | host | authToken | issuerUrl | certificateDuration => cases unread
  | port =>
      have failed := mapped_error unread
      unfold SettingsDraft.readPort at failed
      split at failed
      · cases failed
        rfl
      · split at failed <;> cases failed
        rfl
  | stateDirectory | catalogueFile =>
      have failed := mapped_error unread
      unfold SettingsDraft.readPath at failed
      split at failed <;> cases failed
      rfl
  | logFormat =>
      have failed := mapped_error unread
      unfold SettingsDraft.readLogFormat at failed
      split at failed
      · cases failed
      · split at failed <;> cases failed <;> rfl
  | _ =>
      have failed := mapped_error unread
      unfold SettingsDraft.readMillis at failed
      cases read : Whole.natural SettingsDraft.millisLimit text <;>
        · rw [read] at failed
          cases failed <;> rfl

/-- A fault with a setting names it. -/
theorem names_setting (about : fault.setting? = some setting) :
    setting.label.toList <:+: fault.message.toList := by
  have inside (front back : String) {text : String} :
      text.toList <:+: (front ++ text ++ back).toList :=
    ⟨front.toList, back.toList, by rw [String.toList_append, String.toList_append]⟩
  have begins (front back : String) : front.toList <:+: (front ++ back).toList := by
    rw [String.toList_append]
    exact (List.prefix_append _ _).isInfix
  have value (value : String) : setting.label.toList <:+: (badValue setting value).toList :=
    inside ("invalid value '" ++ Terminal.shown value ++ "' for '") "'"
  have described : setting.label.toList <:+: fault.description.toList := by
    cases fault with
    | unknownWord word | needlessValue flag value => cases about
    | missingValue other =>
        obtain rfl := Option.some.inj about
        exact inside "a value is required for '" "' but none was supplied"
    | repeated other =>
        obtain rfl := Option.some.inj about
        exact inside "the argument '" "' cannot be used multiple times"
    | badNumber other word number =>
        obtain rfl := Option.some.inj about
        exact ((value word).trans (begins _ ": ")).trans (begins _ number.message)
    | badChoice other word =>
        obtain rfl := Option.some.inj about
        exact value word
  refine described.trans ?_
  rw [message, String.toList_append]
  exact (List.suffix_append _ _).isInfix

/-- Except for a flag that is told as it is, no control character is told. -/
theorem message_plain
    (flags : ∀ flag value, fault = .needlessValue flag value → Terminal.IsPlainText flag) :
    Terminal.IsPlainText fault.message := by
  have join {first second : String} := @Terminal.plain_append first second
  have value (setting : Setting) (value : String) : Terminal.IsPlainText (badValue setting value) :=
    join (join (join (join (by decide) (Terminal.shown_plain value)) (by decide))
      setting.label_plain) (by decide)
  refine join (by decide) ?_
  cases fault with
  | unknownWord word => exact join (join (by decide) (Terminal.shown_plain word)) (by decide)
  | needlessValue flag value =>
      exact join (join (join (join (by decide) (Terminal.shown_plain value)) (by decide))
        (flags flag value rfl)) (by decide)
  | missingValue setting => exact join (join (by decide) setting.label_plain) (by decide)
  | repeated setting => exact join (join (by decide) setting.label_plain) (by decide)
  | badNumber setting word number =>
      exact join (join (value setting word) (by decide)) number.message_plain
  | badChoice setting word => exact value setting word

end UsageFault

/-- What gives cause for a fault: words of the command line, or a value in the environment. -/
inductive Caused (texts : List String) (environment : Environment) : UsageFault → Prop
  | unknown (text word : String) (member : text ∈ texts) (begins : word.toList <+: text.toList) :
      Caused texts environment (.unknownWord word)
  | needless (flag value : String) (member : flag ++ "=" ++ value ∈ texts)
      (known : flag = "--help" ∨ flag = "--version") :
      Caused texts environment (.needlessValue flag value)
  | unvalued (setting : Setting) (member : "--" ++ setting.word ∈ texts) :
      Caused texts environment (.missingValue setting)
  | repeated (first second : Given) (before between after : List String)
      (same : first.setting = second.setting)
      (twice : texts = before ++ first.words ++ between ++ second.words ++ after) :
      Caused texts environment (.repeated second.setting)
  | unread (given : Given) (fault : UsageFault) (said : given.words <:+: texts)
      (unread : given.setting.read given.value = .error fault) : Caused texts environment fault
  | surrounding (setting : Setting) (text : String) (fault : UsageFault)
      (found : environment setting.environmentName = some text)
      (unread : setting.read text = .error fault) : Caused texts environment fault

namespace CommandForm

variable {form : CommandForm} {draft between final : SettingsDraft} {pending : PendingSetting}
  {texts rest : List String} {text : String} {environment : Environment} {fault : UsageFault}
  {front : List Given}

/-- A setting is given that cannot be given: it was given before, or its value is not read. -/
theorem given_fault (given : Given) (before : Given.giveAll .blank front = .ok draft)
    (whole : texts = Given.spell front ++ given.words ++ rest)
    (failed : draft.give given.setting given.value = .error fault) :
    Caused texts environment fault := by
  rcases SettingsDraft.give_fault failed with ⟨⟨value, there⟩, rfl⟩ | ⟨-, unread⟩
  · have values := (Given.give_all_ok before).2.2
    rw [values] at there
    have blank : SettingsDraft.blank.value? given.setting = none := by
      cases given.setting <;> rfl
    rw [blank, Option.none_or] at there
    obtain ⟨first, found, -⟩ := Option.bind_eq_some_iff.mp there
    have same : first.setting = given.setting := by simpa using List.find?_some found
    obtain ⟨earlier, later, split⟩ := List.append_of_mem (List.mem_of_find?_eq_some found)
    refine .repeated first given (Given.spell earlier) (Given.spell later) rest same ?_
    rw [whole, split, Given.spell_append, Given.spell_cons]
    simp only [List.append_assoc]
  · exact .unread given fault ⟨Given.spell front, rest, whole.symm⟩ unread

theorem pending_fault (before : Given.giveAll .blank front = .ok draft)
    (whole : texts = Given.spell front ++ pending.words ++ rest)
    (failed : settle draft pending = .error (.fault fault)) : Caused texts environment fault := by
  cases pending with
  | nothing => cases failed
  | awaiting setting =>
      cases failed
      exact .unvalued setting (by simp [whole, PendingSetting.words])
  | given setting value =>
      refine given_fault ⟨setting, value, false⟩ before whole ?_
      simp only [settle] at failed
      cases given : draft.give setting value with
      | error other =>
          rw [given] at failed
          cases failed
          rfl
      | ok next =>
          rw [given] at failed
          cases failed

/-- What was settled is given with the others. -/
theorem give_settled (before : Given.giveAll .blank front = .ok draft)
    (settled : settle draft pending = .ok between) :
    Given.giveAll .blank (front ++ pending.all) = .ok between ∧
      Given.spell (front ++ pending.all) = Given.spell front ++ pending.words := by
  obtain ⟨spelled, given⟩ := settle_iff.mp settled
  rw [Given.give_append, before, Given.spell_append, spelled]
  exact ⟨given, rfl⟩

/-- While words are read, what is wrong is among them. -/
theorem words_fault (before : Given.giveAll .blank front = .ok draft)
    (whole : texts = Given.spell front ++ pending.words ++ rest)
    (failed : form.readWords draft pending rest = .error (.fault fault)) :
    Caused texts environment fault := by
  induction rest generalizing front draft pending with
  | nil => exact pending_fault before whole failed
  | cons text rest induction =>
      have member : text ∈ texts := by simp [whole]
      by_cases ended : text = "--"
      · subst ended
        cases rest with
        | nil => exact pending_fault before whole failed
        | cons next rest =>
            cases failed
            exact .unknown next next (by simp [whole]) List.prefix_rfl
      · rw [read_words_cons ended] at failed
        rcases bound_error failed with stopped | ⟨⟨next, left⟩, word, later⟩
        · cases refuses_of_read stopped with
          | earlier _ failed => exact pending_fault before whole failed
          | unknown word begins => exact .unknown text word member begins
          | needless flag value same known => exact .needless flag value (same ▸ member) known
          | unread setting value between _ same settled failed =>
              obtain ⟨gives, spelled⟩ := give_settled before settled
              have split : texts = Given.spell (front ++ pending.all) ++
                  Given.words ⟨setting, value, true⟩ ++ rest := by
                rw [spelled, whole, same, List.append_assoc _ _ rest]
                rfl
              exact given_fault ⟨setting, value, true⟩ gives split failed
        · cases takes_of_read word with
          | value setting awaited told =>
              subst awaited
              refine induction before ?_ later
              rw [whole, List.append_assoc, List.append_assoc]
              rfl
          | named setting between same settled =>
              obtain ⟨gives, spelled⟩ := give_settled before settled
              refine induction gives ?_ later
              rw [spelled, whole, same, List.append_assoc _ _ rest]
              rfl
          | joined setting value between after same settled given =>
              obtain ⟨before, spelled⟩ := give_settled before settled
              have gives : Given.giveAll .blank
                  (front ++ pending.all ++ [⟨setting, value, true⟩]) = .ok next := by
                rw [Given.give_append, before]
                simp only [Except.bind, Given.giveAll, given]
              refine induction gives ?_ later
              rw [Given.spell_append, spelled, whole, same]
              simp [PendingSetting.words, Given.spell, Given.words]

/-- Whatever is reported has its cause in the words or in the environment. -/
theorem read_fault (failed : form.read texts environment = .error fault) :
    Caused texts environment fault := by
  unfold CommandForm.read at failed
  split at failed
  · cases failed
  · rename_i other words
    cases failed
    have none : Given.giveAll .blank [] = .ok .blank := rfl
    exact words_fault none rfl words
  · rcases bound_error failed with fills | ⟨_, _, done⟩
    · obtain ⟨setting, text, -, found, unread⟩ := SettingsDraft.fill_fault fills
      exact .surrounding setting text fault found unread
    · cases done

/-- It is told without control characters, so that nothing in it is obeyed by a terminal. -/
theorem fault_plain (failed : form.read texts environment = .error fault) :
    Terminal.IsPlainText fault.message := by
  refine UsageFault.message_plain fun flag value same => ?_
  cases read_fault failed with
  | needless flag value member known =>
      cases same
      rcases known with rfl | rfl <;> decide
  | unread given _ said unread =>
      have about := UsageFault.of_read unread
      rw [same] at about
      cases about
  | surrounding setting text _ found unread =>
      have about := UsageFault.of_read unread
      rw [same] at about
      cases about
  | _ => cases same

/-! What is told. -/

theorem answers_words {line : String}
    (told : form.readWords draft pending texts = .error (.tell line)) : form.Answers line := by
  induction texts generalizing draft pending with
  | nil => exact absurd told settle_tells_nothing
  | cons text texts induction =>
      by_cases ended : text = "--"
      · subst ended
        cases texts with
        | nil => exact absurd told settle_tells_nothing
        | cons next texts => cases told
      · rw [read_words_cons ended] at told
        rcases bound_error told with word | ⟨_, _, later⟩
        · exact answers_of_read word
        · exact induction later

/-- Nothing is told but what the form has to tell. -/
theorem told_line {line : String} (told : form.read texts environment = .ok (.tell line)) :
    form.Answers line := by
  unfold CommandForm.read at told
  split at told
  · rename_i other words
    cases told
    exact answers_words words
  · cases told
  · obtain ⟨_, _, done⟩ := bound_ok told
    cases done

end CommandForm

end CertRenewal
