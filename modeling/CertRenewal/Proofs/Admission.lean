import CertRenewal.Log.Filter
import CertRenewal.Proofs.Utf8
import Mathlib.Data.List.Induction
import Mathlib.Data.List.Lex
import Mathlib.Data.List.Nodup
import Mathlib.Data.List.Sort
import Mathlib.Data.Prod.Lex
import Mathlib.Data.String.Basic

/-!
What a filter of the log lets through. Its directives stand in the order in which they
count, and of those with the same words the last one given stands there. So an entry is
decided by the directive that counts before all others that speak of it, whatever the order
in which they were given.
-/

namespace CertRenewal

namespace LogDirective

variable {first second third : LogDirective}

def names (directive : LogDirective) : List String := directive.fields.map LogField.name

/-- What a directive counts by, the greatest before the others. -/
def rank (directive : LogDirective) : Nat ×ₗ Nat ×ₗ String ×ₗ List String :=
  toLex (directive.reach, toLex (directive.fields.length,
    toLex (directive.target.getD "", directive.names)))

/-- Directives that reach equally far both name a target or none. -/
theorem reach_target (same : first.reach = second.reach) :
    first.target = second.target ↔ first.target.getD "" = second.target.getD "" := by
  unfold reach at same
  cases one : first.target <;> cases two : second.target <;> simp only [one, two] at same
  · exact iff_of_true rfl rfl
  · exact absurd same (Nat.succ_ne_zero _).symm
  · exact absurd same (Nat.succ_ne_zero _)
  · simp

theorem precedes_iff : first.precedes second = true ↔ second.rank < first.rank := by
  simp only [precedes, rank, Prod.Lex.toLex_lt_toLex]
  by_cases reach : first.reach = second.reach
  · rw [if_neg (not_not.mpr reach)]
    by_cases count : first.fields.length = second.fields.length
    · rw [if_neg (not_not.mpr count)]
      by_cases target : first.target = second.target
      · rw [if_neg (not_not.mpr target)]
        simp [reach, count, target, names]
      · have apart := mt (reach_target reach).mpr target
        rw [if_pos target]
        simp [reach, count, Ne.symm apart]
    · rw [if_pos count]
      simp [reach, Ne.symm count]
  · rw [if_pos reach]
    simp [Ne.symm reach]

/-- Directives have the same words when they count the same. -/
theorem same_iff : first.isSame second = true ↔ first.rank = second.rank := by
  have count (same : first.names = second.names) : first.fields.length = second.fields.length := by
    simpa [names] using congrArg List.length same
  simp only [isSame, rank, Bool.and_eq_true, decide_eq_true_eq, toLex_inj, Prod.mk.injEq]
  constructor
  · rintro ⟨target, same⟩
    exact ⟨by simp [reach, target], count same, by rw [target], same⟩
  · rintro ⟨reach, -, target, same⟩
    exact ⟨(reach_target reach).mpr target, same⟩

theorem same_empty (same : first.isSame second = true) :
    first.fields.isEmpty = second.fields.isEmpty := by
  simp only [isSame, Bool.and_eq_true, decide_eq_true_eq] at same
  have count : first.fields.length = second.fields.length := by
    simpa using congrArg List.length same.2
  rw [Bool.eq_iff_iff, List.isEmpty_iff_length_eq_zero, List.isEmpty_iff_length_eq_zero, count]

/-! A target with a level is read back. -/

/-- The characters of a target are passed over up to its end. -/
theorem read_from_target {text : Bytes} {chars : List Char} (rest : List Char) (place start : Nat)
    (directive : LogDirective) (plain : ∀ char ∈ chars, char ≠ '=' ∧ char ≠ '[') :
    readFrom text (chars ++ rest) place (.levelOrTarget start) directive =
      readFrom text rest (place + (Bytes.ofChars chars).length) (.levelOrTarget start)
        directive := by
  induction chars generalizing place with
  | nil => rfl
  | cons char chars induction =>
      obtain ⟨equals, bracket⟩ := plain char List.mem_cons_self
      have stays : step text directive place char (.levelOrTarget start) =
          some (.levelOrTarget start, directive) := by
        simp only [step, if_neg equals, if_neg bracket]
      rw [List.cons_append, readFrom, stays]
      simp only [bind, Option.bind]
      rw [induction _ fun other member => plain other (List.mem_cons_of_mem _ member),
        Bytes.of_chars_cons, List.length_append, String.length_utf8EncodeChar, Nat.add_assoc]

theorem read_from_level (text : Bytes) (chars : List Char) (place start : Nat)
    (directive : LogDirective) :
    readFrom text chars place (.level start) directive = some (.level start, directive) := by
  induction chars generalizing place with
  | nil => rfl
  | cons char chars induction =>
      rw [readFrom]
      simp only [step, bind, Option.bind]
      exact induction _

theorem level_read (level : LogLevel) :
    Verbosity.ofTextOrAll? level.name = some (some level) := by
  cases level <;> decide +kernel

theorem trim_end_solid {front : List Char} {last : Char} (solid : Line.isBlank last = false) :
    Line.trimEnd (front ++ [last]) = front ++ [last] := by
  simp [Line.trimEnd, solid]

theorem level_solid (level : LogLevel) : ∃ front last,
    level.name.toList = front ++ [last] ∧ Line.isBlank last = false := by
  cases level
  · exact ⟨['E', 'R', 'R', 'O'], 'R', rfl, rfl⟩
  · exact ⟨['W', 'A', 'R'], 'N', rfl, rfl⟩
  · exact ⟨['I', 'N', 'F'], 'O', rfl, rfl⟩
  · exact ⟨['D', 'E', 'B', 'U'], 'G', rfl, rfl⟩
  · exact ⟨['T', 'R', 'A', 'C'], 'E', rfl, rfl⟩

theorem trimmed_target {first : Char} (rest : List Char) (solid : Line.isBlank first = false)
    (level : LogLevel) :
    Line.trimEnd (Line.trimStart (first :: rest ++ '=' :: level.name.toList)) =
      first :: rest ++ '=' :: level.name.toList := by
  obtain ⟨front, last, name, visible⟩ := level_solid level
  have start : Line.trimStart (first :: rest ++ '=' :: level.name.toList) =
      first :: rest ++ '=' :: level.name.toList := by
    simp [Line.trimStart, solid]
  have whole : first :: rest ++ '=' :: level.name.toList =
      (first :: rest ++ '=' :: front) ++ [last] := by simp [name]
  rw [start, whole, trim_end_solid visible]

theorem between_target (target rest : List Char) :
    between? (Bytes.ofChars (target ++ rest)) 0 (Bytes.ofChars target).length =
      some (String.ofList target) := by
  rw [between?, Bytes.of_chars_append, List.take_left, List.drop_zero, Bytes.text_encoded]

theorem behind_target (target rest : List Char) :
    behind? (Bytes.ofChars (target ++ '=' :: rest)) ((Bytes.ofChars target).length + 1) =
      some (String.ofList rest) := by
  have mark : String.utf8EncodeChar '=' = [61] := by decide
  rw [behind?, Bytes.of_chars_append, ← List.drop_drop, List.drop_left, Bytes.of_chars_cons, mark]
  exact Bytes.text_encoded rest

variable {first : Char} {rest : List Char}

theorem read_from_whole (begins : mayBegin first = true)
    (plain : ∀ char ∈ first :: rest, char ≠ '=' ∧ char ≠ '[') (level : List Char) :
    readFrom (Bytes.ofChars (first :: rest ++ '=' :: level)) (first :: rest ++ '=' :: level) 0
        .start blank =
      some (.level ((Bytes.ofChars (first :: rest)).length + 1),
        { blank with target := some (String.ofList (first :: rest)) }) := by
  obtain ⟨⟨-, bracket⟩, others⟩ := List.forall_mem_cons.mp plain
  have place : 0 + first.utf8Size + (Bytes.ofChars rest).length =
      (Bytes.ofChars (first :: rest)).length := by
    rw [Bytes.of_chars_cons, List.length_append, String.length_utf8EncodeChar, Nat.zero_add]
  generalize bytes : Bytes.ofChars (first :: rest ++ '=' :: level) = text
  have target : between? text 0 (Bytes.ofChars (first :: rest)).length =
      some (String.ofList (first :: rest)) := bytes ▸ between_target (first :: rest) _
  rw [List.cons_append, readFrom]
  simp only [step, if_neg bracket, begins, if_true, bind, Option.bind]
  rw [read_from_target _ _ _ _ others, place, readFrom]
  simp only [step, if_true, bind, Option.bind, target, read_from_level]

/-- A target that can be written before a level, and beside others. -/
structure IsTarget (target : List Char) : Prop where
  begins : ∃ first rest, target = first :: rest ∧ mayBegin first = true ∧
    Line.isBlank first = false
  plain : ∀ char ∈ target, char ≠ '=' ∧ char ≠ '[' ∧ char ≠ ','

/-- What is written as a target and a level is read as a directive of these. -/
theorem of_text_target {target : List Char} (sound : IsTarget target) (level : LogLevel) :
    ofText? (target ++ '=' :: level.name.toList) =
      some ⟨some (String.ofList target), none, [], some level⟩ := by
  obtain ⟨first, rest, rfl, begins, solid⟩ := sound.begins
  have plain (char : Char) (member : char ∈ first :: rest) : char ≠ '=' ∧ char ≠ '[' :=
    ⟨(sound.plain char member).1, (sound.plain char member).2.1⟩
  unfold ofText?
  rw [trimmed_target rest solid level, Bytes.of_text_chars]
  simp only [read_from_whole begins plain, bind, Option.bind, finish, behind_target,
    String.ofList_toList, level_read]
  rfl

end LogDirective

namespace LogFilter

variable {directive other : LogDirective} {directives given : List LogDirective}
  {entry : LogEntry}

/-- Each directive counts before those behind it. -/
def IsOrdered (directives : List LogDirective) : Prop :=
  directives.Pairwise fun first second => second.rank < first.rank

/-- A directive takes the place of the one with the same words, and the others stay. -/
theorem mem_insert (ordered : IsOrdered directives) : other ∈ insert directive directives ↔
    other = directive ∨ other ∈ directives ∧ other.rank ≠ directive.rank := by
  induction directives with
  | nil => simp [insert]
  | cons head rest induction =>
      obtain ⟨ahead, behind⟩ := List.pairwise_cons.mp ordered
      unfold insert
      split
      · rename_i same
        have same := LogDirective.same_iff.mp same
        rw [List.mem_cons, List.mem_cons]
        constructor
        · rintro (rfl | member)
          · exact .inl rfl
          · exact .inr ⟨.inr member, (same ▸ ahead other member).ne⟩
        · rintro (rfl | ⟨rfl | member, apart⟩)
          · exact .inl rfl
          · exact absurd same.symm apart
          · exact .inr member
      · rename_i apart
        have apart := mt LogDirective.same_iff.mpr apart
        split
        · rename_i before
          have before := LogDirective.precedes_iff.mp before
          rw [List.mem_cons]
          refine or_congr_right (iff_self_and.mpr fun member => ?_)
          rcases List.mem_cons.mp member with rfl | member
          · exact before.ne
          · exact ((ahead other member).trans before).ne
        · rw [List.mem_cons, induction behind, List.mem_cons]
          constructor
          · rintro (rfl | rfl | ⟨member, different⟩)
            · exact .inr ⟨.inl rfl, Ne.symm apart⟩
            · exact .inl rfl
            · exact .inr ⟨.inr member, different⟩
          · rintro (rfl | ⟨rfl | member, different⟩)
            · exact .inr (.inl rfl)
            · exact .inl rfl
            · exact .inr (.inr ⟨member, different⟩)

theorem insert_ordered (ordered : IsOrdered directives) (directive : LogDirective) :
    IsOrdered (insert directive directives) := by
  induction directives with
  | nil => exact List.pairwise_singleton _ _
  | cons head rest induction =>
      obtain ⟨ahead, behind⟩ := List.pairwise_cons.mp ordered
      unfold insert
      split
      · rename_i same
        have same := LogDirective.same_iff.mp same
        exact List.pairwise_cons.mpr ⟨fun other member => same ▸ ahead other member, behind⟩
      · rename_i apart
        have apart := mt LogDirective.same_iff.mpr apart
        split
        · rename_i before
          have before := LogDirective.precedes_iff.mp before
          refine List.pairwise_cons.mpr ⟨fun other member => ?_, ordered⟩
          rcases List.mem_cons.mp member with rfl | member
          · exact before
          · exact (ahead other member).trans before
        · rename_i after
          have after := mt LogDirective.precedes_iff.mpr after
          refine List.pairwise_cons.mpr ⟨fun other member => ?_, induction behind⟩
          rcases (mem_insert behind).mp member with rfl | ⟨member, -⟩
          · exact lt_of_le_of_ne (not_lt.mp after) apart
          · exact ahead other member

theorem fold_ordered (given : List LogDirective) :
    IsOrdered (given.foldl (fun directives directive => insert directive directives) []) := by
  induction given using List.reverseRecOn with
  | nil => exact List.Pairwise.nil
  | append_singleton given last induction =>
      rw [List.foldl_append]
      exact insert_ordered induction last

/-- Of those with the same words the last one is there. -/
theorem mem_fold (given : List LogDirective) (other : LogDirective) :
    other ∈ given.foldl (fun directives directive => insert directive directives) [] ↔
      given.reverse.find? (·.isSame other) = some other := by
  induction given using List.reverseRecOn with
  | nil => simp
  | append_singleton given last induction =>
      rw [List.foldl_append, List.foldl_cons, List.foldl_nil, mem_insert (fold_ordered given),
        induction, List.reverse_append, List.reverse_singleton, List.singleton_append,
        List.find?_cons]
      cases same : last.isSame other with
      | true =>
          have rank := LogDirective.same_iff.mp same
          simp [rank, eq_comm]
      | false =>
          have apart : last.rank ≠ other.rank := fun rank => by
            rw [LogDirective.same_iff.mpr rank] at same
            cases same
          constructor
          · rintro (rfl | ⟨found, -⟩)
            · exact absurd rfl apart
            · exact found
          · exact fun found => .inr ⟨found, Ne.symm apart⟩

/-- A directive that decides about entries, and is the last one given with its words. -/
def Stands (given : List LogDirective) (directive : LogDirective) : Prop :=
  given.reverse.find? (fun other => other.isStatic && other.isSame directive) = some directive

theorem of_directives_ordered (given : List LogDirective) :
    IsOrdered (ofDirectives given).directives := fold_ordered _

/-- What a filter keeps anyway is found without it. -/
theorem find_filter {kept sought : LogDirective → Bool}
    (implies : ∀ one, sought one = true → kept one = true) (given : List LogDirective) :
    (given.filter kept).find? sought = given.find? sought := by
  rw [List.find?_filter]
  congr 1
  funext one
  cases found : sought one with
  | true => simp [implies one found]
  | false => simp

theorem mem_of_directives : directive ∈ (ofDirectives given).directives ↔
    Stands given directive := by
  have outside {kept : LogDirective → Bool} (others : List LogDirective)
      (left : ∀ other, other.isSame directive = true → kept other = false) :
      (others.filter kept).find? (·.isSame directive) = none := by
    refine List.find?_eq_none.mpr fun other among same => ?_
    have here := (List.mem_filter.mp among).2
    rw [left other same] at here
    cases here
  unfold ofDirectives Stands
  rw [mem_fold, List.reverse_append, List.find?_append]
  simp only [← List.filter_reverse]
  have standing : given.reverse.find? (fun other => other.isStatic && other.isSame directive) =
      (given.reverse.filter LogDirective.isStatic).find? (·.isSame directive) := by
    rw [List.find?_filter]
    simp
  rw [standing]
  -- the directives with the same words stand on one side of the two
  cases empty : directive.fields.isEmpty with
  | true =>
      have static : ∀ other : LogDirective, other.isSame directive = true →
          other.fields.isEmpty = true :=
        fun other same => (LogDirective.same_empty same).trans empty
      rw [outside _ fun other same => by rw [static other same]; rfl, Option.none_or,
        find_filter static]
  | false =>
      have filled : ∀ other : LogDirective, other.isSame directive = true →
          other.fields.isEmpty = false :=
        fun other same => (LogDirective.same_empty same).trans empty
      rw [@outside (fun other => other.fields.isEmpty) _ filled, Option.or_none,
        find_filter fun other same => by rw [filled other same]; rfl]

/-- The directive that decides about an entry counts before all others that speak of it. -/
theorem decides_iff (ordered : IsOrdered directives) :
    directives.find? (·.speaksOf entry) = some directive ↔
      directive ∈ directives ∧ directive.speaksOf entry = true ∧
        ∀ other ∈ directives, other.speaksOf entry = true →
          other = directive ∨ directive.precedes other = true := by
  induction directives with
  | nil => simp
  | cons head rest induction =>
      obtain ⟨ahead, behind⟩ := List.pairwise_cons.mp ordered
      rw [List.find?_cons]
      cases speaks : head.speaksOf entry with
      | true =>
          constructor
          · intro found
            obtain rfl := Option.some.inj found
            refine ⟨List.mem_cons_self, speaks, fun other member _ => ?_⟩
            exact (List.mem_cons.mp member).imp_right fun member =>
              LogDirective.precedes_iff.mpr (ahead other member)
          · rintro ⟨member, -, first⟩
            rcases List.mem_cons.mp member with rfl | member
            · rfl
            · rcases first head List.mem_cons_self speaks with rfl | before
              · rfl
              · have before := LogDirective.precedes_iff.mp before
                exact absurd (before.trans (ahead directive member)) (lt_irrefl _)
      | false =>
          simp only
          rw [induction behind]
          have other (heard : directive.speaksOf entry = true) : directive ≠ head := by
            rintro rfl
            rw [speaks] at heard
            cases heard
          constructor
          · rintro ⟨member, heard, first⟩
            refine ⟨List.mem_cons_of_mem _ member, heard, fun next among speaks' => ?_⟩
            rcases List.mem_cons.mp among with rfl | among
            · rw [speaks] at speaks'
              cases speaks'
            · exact first next among speaks'
          · rintro ⟨member, heard, first⟩
            have inside := (List.mem_cons.mp member).resolve_left (other heard)
            exact ⟨inside, heard, fun next among => first next (List.mem_cons_of_mem _ among)⟩

/-- An entry is let through when the directive that decides about it allows its level: of
those that stand and speak of the entry, the one that counts before all others. -/
theorem admits_iff : (ofDirectives given).admits entry = true ↔
    ∃ directive, Stands given directive ∧ directive.speaksOf entry = true ∧
      (∀ other, Stands given other → other.speaksOf entry = true →
        other = directive ∨ directive.precedes other = true) ∧
      directive.verbosity.admits entry.level = true := by
  unfold admits verbosityFor
  constructor
  · intro admitted
    cases found : (ofDirectives given).directives.find? (·.speaksOf entry) with
    | none =>
        rw [found] at admitted
        cases admitted
    | some directive =>
        rw [found] at admitted
        obtain ⟨member, speaks, first⟩ := (decides_iff (of_directives_ordered given)).mp found
        exact ⟨directive, mem_of_directives.mp member, speaks,
          fun other stands => first other (mem_of_directives.mpr stands), admitted⟩
  · rintro ⟨directive, stands, speaks, first, allowed⟩
    have found := (decides_iff (of_directives_ordered given)).mpr
      ⟨mem_of_directives.mpr stands, speaks,
        fun other member => first other (mem_of_directives.mp member)⟩
    rw [found]
    exact allowed

/-- When no two count the same, all directives about entries stand. -/
theorem stands_iff (apart : (given.map LogDirective.rank).Nodup) :
    Stands given directive ↔ directive ∈ given ∧ directive.isStatic = true := by
  have alike {other : LogDirective} (found : given.reverse.find? (fun other =>
      other.isStatic && other.isSame directive) = some other) :
      other ∈ given ∧ other.isStatic = true ∧ other.rank = directive.rank := by
    obtain ⟨static, same⟩ := Bool.and_eq_true_iff.mp
      (List.find?_eq_some_iff_append.mp found).1
    exact ⟨List.mem_reverse.mp (List.mem_of_find?_eq_some found), static,
      LogDirective.same_iff.mp same⟩
  constructor
  · intro stands
    obtain ⟨member, static, -⟩ := alike stands
    exact ⟨member, static⟩
  · rintro ⟨member, static⟩
    have there : (given.reverse.find? fun other =>
        other.isStatic && other.isSame directive).isSome = true :=
      List.find?_isSome.mpr ⟨directive, List.mem_reverse.mpr member, by
        rw [static, LogDirective.same_iff.mpr rfl]
        rfl⟩
    obtain ⟨other, found⟩ := Option.isSome_iff_exists.mp there
    obtain ⟨among, -, same⟩ := alike found
    rw [Stands, found, List.inj_on_of_nodup_map apart among member same]

/-- The order in which directives are given does not count, unless two count the same. -/
theorem of_directives_perm {others : List LogDirective}
    (apart : (given.map LogDirective.rank).Nodup) (permuted : given.Perm others) :
    ofDirectives given = ofDirectives others := by
  have members (directive : LogDirective) : directive ∈ (ofDirectives given).directives ↔
      directive ∈ (ofDirectives others).directives := by
    rw [mem_of_directives, mem_of_directives, stands_iff apart,
      stands_iff ((permuted.map _).nodup_iff.mp apart), permuted.mem_iff]
  have : Std.Irrefl fun first second : LogDirective => second.rank < first.rank :=
    ⟨fun _ => lt_irrefl _⟩
  have : Std.Antisymm fun first second : LogDirective => second.rank < first.rank :=
    ⟨fun _ _ before after => absurd (before.trans after) (lt_irrefl _)⟩
  exact congrArg LogFilter.mk ((of_directives_ordered given).eq_of_mem_iff
    (of_directives_ordered others) members)

/-- What is let through is let through at each graver level as well. -/
theorem admits_graver {filter : LogFilter} {level : LogLevel}
    (admitted : filter.admits entry = true) (graver : level.rank ≤ entry.level.rank) :
    filter.admits { entry with level } = true := by
  unfold admits at admitted ⊢
  have same : filter.verbosityFor { entry with level } = filter.verbosityFor entry := rfl
  rw [same]
  cases last : filter.verbosityFor entry with
  | none =>
      rw [last] at admitted
      cases admitted
  | some last' =>
      rw [last] at admitted
      exact decide_eq_true (Nat.le_trans graver (of_decide_eq_true admitted))

/-- Unless something else is asked for, the log tells what happens and not how. -/
theorem standard_admits :
    standard.admits entry = true ↔ entry.level.rank ≤ LogLevel.info.rank := by
  simp [admits, verbosityFor, standard, LogDirective.blank, LogDirective.speaksOf,
    Verbosity.admits]

/-- Targets with their levels, written one behind the other, are read as the filter of these
directives. -/
theorem of_text_targets {wanted : List (List Char × LogLevel)} (some : wanted ≠ [])
    (sound : ∀ one ∈ wanted, LogDirective.IsTarget one.1) :
    ofText? (String.ofList ([','].intercalate
        (wanted.map fun one => one.1 ++ '=' :: one.2.name.toList))) =
      .some (ofDirectives
        (wanted.map fun one => ⟨String.ofList one.1, none, [], .some one.2⟩)) := by
  have separate : ∀ part ∈ wanted.map fun one => one.1 ++ '=' :: one.2.name.toList,
      ',' ∉ part := by
    intro part member comma
    obtain ⟨one, among, rfl⟩ := List.mem_map.mp member
    rcases List.mem_append.mp comma with inside | behind
    · exact (sound one among).plain ',' inside |>.2.2 rfl
    · have level (level : LogLevel) : ',' ∉ '=' :: level.name.toList := by cases level <;> decide
      exact level one.2 behind
  have filled : (wanted.map fun one => one.1 ++ '=' :: one.2.name.toList).filter
      (fun part => !part.isEmpty) = wanted.map fun one => one.1 ++ '=' :: one.2.name.toList := by
    refine List.filter_eq_self.mpr fun part member => ?_
    obtain ⟨one, -, rfl⟩ := List.mem_map.mp member
    simp
  have read : (wanted.map fun one => one.1 ++ '=' :: one.2.name.toList).mapM
      LogDirective.ofText? =
        .some (wanted.map fun one => ⟨String.ofList one.1, none, [], .some one.2⟩) := by
    clear some separate filled
    induction wanted with
    | nil => rfl
    | cons one others induction =>
        rw [List.map_cons, List.mapM_cons, LogDirective.of_text_target
          (sound one List.mem_cons_self),
          induction fun other member => sound other (List.mem_cons_of_mem one member)]
        rfl
  unfold ofText?
  rw [String.toList_ofList, List.splitOn_intercalate _ separate (by simpa using some)]
  simp only [filled, read]
  rfl

end LogFilter

end CertRenewal
