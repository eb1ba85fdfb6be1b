import CertRenewal.Http.Issuer
import CertRenewal.Proofs.Percent
import Mathlib.Data.List.Basic

/-!
Where a selector is exchanged for a session. Of the address nothing but the end of its path
depends on the selector. One that is added as it is becomes a segment of its own behind the
endpoint of sessions. One that has tabs or line ends in it is not told apart from what is
left without them, and one of dots becomes no segment; with a tab or a line end among two
dots it even leads to another endpoint.
-/

namespace CertRenewal

namespace Scheme

variable {scheme : List Char}

theorem special_of_common (common : isCommon scheme = true) : isSpecial scheme = true := by
  rw [isSpecial, common, Bool.true_or]

theorem no_file_of_common (common : isCommon scheme = true) : isFile scheme = false := by
  rw [isFile, decide_eq_false_iff_not]
  rintro rfl
  exact absurd common (by decide)

end Scheme

namespace Url

variable {url : Url}

theorem path_behind_authority {scheme text : List Char}
    (known : readFromAuthority scheme text = .ok url) : ∃ list, url.path = .segments list := by
  unfold readFromAuthority at known
  cases read : Authority.read scheme text with
  | error fault => rw [read] at known; cases known
  | ok found =>
      rw [read] at known
      cases known
      exact ⟨_, rfl⟩

theorem path_of_file {scheme text : List Char} (known : readFile scheme text = .ok url) :
    ∃ list, url.path = .segments list := by
  unfold readFile at known
  split at known
  next first second rest =>
      split at known
      next =>
          split at known
          next => cases known; exact ⟨_, rfl⟩
          next =>
              cases host : Authority.readFileHost rest with
              | error fault => rw [host] at known; cases known
              | ok found => rw [host] at known; cases known; exact ⟨_, rfl⟩
      next => cases known; exact ⟨_, rfl⟩
  next => cases known; exact ⟨_, rfl⟩

theorem scheme_of_local (scheme text : List Char) : (readLocal scheme text).scheme = scheme := by
  unfold readLocal
  split <;> rfl

theorem write_path_last (hasAuthority : Bool) {front : Segments} (begun : front ≠ []) :
    ∃ lead, ∀ segment, writePath hasAuthority (.segments (front ++ [segment])) =
      lead ++ '/' :: segment := by
  obtain ⟨first, rest, rfl⟩ := List.exists_cons_of_ne_nil begun
  cases first with
  | nil =>
      refine ⟨(if hasAuthority then [] else ['/', '.']) ++ Segments.write ([] :: rest),
        fun segment => ?_⟩
      cases rest <;> simp [writePath, Segments.write]
  | cons char chars =>
      refine ⟨Segments.write ((char :: chars) :: rest), fun segment => ?_⟩
      simp [writePath, Segments.write]

/-- Addresses that differ in their last segments are not written in the same way. -/
theorem last_of_written {scheme : List Char} {authority : Option Authority} {front : Segments}
    (begun : front ≠ []) {one other : List Char}
    (same : (⟨scheme, authority, .segments (front ++ [one]), none, none⟩ : Url).write =
      (⟨scheme, authority, .segments (front ++ [other]), none, none⟩ : Url).write) :
    one = other := by
  obtain ⟨lead, written⟩ := write_path_last authority.isSome begun
  simp only [write, written, writePart, List.append_nil] at same
  have chars := String.ofList_injective same
  exact (List.cons.inj (List.append_cancel_left (List.append_cancel_left chars))).2

/-- An address of a common scheme has a path of segments. -/
theorem common_path {text : String} (known : read text = .ok url)
    (common : Scheme.isCommon url.scheme = true) : ∃ list, url.path = .segments list := by
  unfold read at known
  split at known
  next => cases known
  next scheme rest found =>
      split at known
      next => exact path_behind_authority known
      next rare =>
          split at known
          next => exact path_of_file known
          next =>
              split at known
              next => exact path_behind_authority known
              next =>
                  cases known
                  exact absurd (scheme_of_local scheme rest ▸ common) rare

end Url

namespace Segments

/-- A path to which segments are added, without the empty one at its end. -/
def stem (list : Segments) : Segments :=
  if dropEmptyEnd list = [[]] then [] else dropEmptyEnd list

/-- What is left of a text that is added. -/
def kept (text : String) : List Char :=
  text.toList.filter fun char => char ≠ '\t' && char ≠ '\n' && char ≠ '\r'

/-- A segment that is decoded to a text, and that is not read as anything but a segment. -/
structure Encodes (segment text : List Char) : Prop where
  decodes : Percent.decode segment = Bytes.ofChars text
  unmarked : ∀ mark ∈ ['/', '\\', '?', '#'], mark ∉ segment
  notSingle : isSingle segment = false
  notDouble : isDouble segment = false

theorem Encodes.unique {segment first second : List Char} (one : Encodes segment first)
    (other : Encodes segment second) : first = second :=
  Bytes.of_chars_injective (one.decodes.symm.trans other.decodes)

variable {scheme : List Char} {list : Segments} {text : String}

theorem drop_empty_end (list : Segments) :
    dropEmptyEnd list = list ∨ list = dropEmptyEnd list ++ [[]] := by
  unfold dropEmptyEnd
  split
  next ended =>
      simp only [Bool.and_eq_true, decide_eq_true_eq] at ended
      obtain ⟨front, rfl⟩ := List.getLast?_eq_some_iff.mp ended.2
      rw [List.dropLast_concat]
      exact .inr rfl
  next => exact .inl rfl

theorem stem_ends (list : Segments) :
    ∃ count ≤ 2, list = stem list ++ List.replicate count [] := by
  unfold stem
  split
  next alone =>
      rcases drop_empty_end list with same | ended
      · exact ⟨1, by decide, same.symm.trans alone⟩
      · exact ⟨2, by decide, by rw [ended, alone]; rfl⟩
  next =>
      rcases drop_empty_end list with same | ended
      · exact ⟨0, by decide, by simp [same]⟩
      · exact ⟨1, by decide, ended⟩

theorem encoding_encodes {chars : List Char} (noDot : chars ≠ ['.']) (noDots : chars ≠ ['.', '.']) :
    Encodes (Percent.encode Percent.inSpecialSegment chars) chars where
  decodes := Percent.decode_encode rfl chars
  unmarked mark one := by
    simp only [List.mem_cons, List.not_mem_nil, or_false] at one
    rcases one with rfl | rfl | rfl | rfl <;>
      exact Percent.absent_from_encoded rfl rfl (by decide) chars
  notSingle := Bool.eq_false_iff.mpr fun single => noDot (encoded_single single)
  notDouble := Bool.eq_false_iff.mpr fun double => noDots (encoded_double double)

/-- How a path ends once a text was added to it. -/
inductive Added (list : Segments) (text : String) : Segments → Prop
  | nothing (dots : text = "." ∨ text = "..") : Added list text list
  | back (broken : text ≠ "..") (dots : kept text = ['.', '.']) :
      Added list text (back list ++ [[]])
  | empty (broken : text ≠ ".") (dot : kept text = ['.']) : Added list text (list ++ [[]])
  | segment {segment : List Char} (noDot : kept text ≠ ['.']) (noDots : kept text ≠ ['.', '.'])
      (encodes : Encodes segment (kept text)) : Added list text (list ++ [segment])

theorem push_common (common : Scheme.isCommon scheme = true) (notHere : text ≠ ".")
    (notBack : text ≠ "..") : push scheme list text =
      add false (if list = [[]] then [] else list)
        (Percent.encode Percent.inSpecialSegment (kept text)) true := by
  unfold push
  rw [Scheme.special_of_common common, Scheme.no_file_of_common common]
  simp [notHere, notBack, kept]

theorem push_segment (common : Scheme.isCommon scheme = true) (noDot : kept text ≠ ['.'])
    (noDots : kept text ≠ ['.', '.']) : push scheme list text =
      (if list = [[]] then [] else list) ++
        [Percent.encode Percent.inSpecialSegment (kept text)] := by
  have notHere : text ≠ "." := by
    rintro rfl
    exact noDot (by decide)
  have notBack : text ≠ ".." := by
    rintro rfl
    exact noDots (by decide)
  have encodes := encoding_encodes noDot noDots
  rw [push_common common notHere notBack]
  simp only [add, encodes.notDouble, encodes.notSingle, Bool.false_and, Bool.false_eq_true,
    if_false]

theorem push_back (common : Scheme.isCommon scheme = true) (begun : list ≠ [[]])
    (broken : text ≠ "..") (dots : kept text = ['.', '.']) :
    push scheme list text = back list ++ [[]] := by
  have notHere : text ≠ "." := by
    rintro rfl
    exact absurd dots (by decide)
  rw [push_common common notHere broken, if_neg begun, dots]
  rfl

theorem push_added (common : Scheme.isCommon scheme = true) (begun : list ≠ [[]]) (text : String) :
    Added list text (push scheme list text) := by
  by_cases notHere : text = "."
  · subst notHere
    exact .nothing (.inl rfl)
  by_cases notBack : text = ".."
  · subst notBack
    exact .nothing (.inr rfl)
  by_cases single : kept text = ['.']
  · rw [push_common common notHere notBack, if_neg begun, single]
    exact .empty notHere single
  by_cases double : kept text = ['.', '.']
  · rw [push_back common begun notBack double]
    exact .back notBack double
  rw [push_segment common single double, if_neg begun]
  exact .segment single double (encoding_encodes single double)

end Segments

namespace HttpIssuer

open Segments

/-- The segments of the endpoint of sessions. -/
def endpoint : Segments := sessionSegments.map String.toList

variable {scheme : List Char} {list : Segments}

theorem push_word (common : Scheme.isCommon scheme = true) {word : String}
    (listed : word ∈ sessionSegments) :
    push scheme list word = (if list = [[]] then [] else list) ++ [word.toList] := by
  have plain : ∀ one ∈ sessionSegments, kept one ≠ ['.'] ∧ kept one ≠ ['.', '.'] ∧
      Percent.encode Percent.inSpecialSegment (kept one) = one.toList := by decide
  obtain ⟨noDot, noDots, same⟩ := plain word listed
  rw [push_segment common noDot noDots, same]

theorem push_words (common : Scheme.isCommon scheme = true) (words : List String)
    (listed : ∀ word ∈ words, word ∈ sessionSegments) (begun : list ≠ [[]]) :
    words.foldl (push scheme) list = list ++ words.map String.toList := by
  induction words generalizing list with
  | nil => simp
  | cons word words ih =>
      have first := listed word List.mem_cons_self
      have named : ∀ one ∈ sessionSegments, one.toList ≠ [] := by decide
      have longer : list ++ [word.toList] ≠ [[]] := by
        intro single
        have last := congrArg List.getLast? single
        rw [List.getLast?_concat] at last
        exact named word first (Option.some.inj last)
      rw [List.foldl_cons, push_word common first, if_neg begun,
        ih (fun one inside => listed one (List.mem_cons_of_mem _ inside)) longer]
      simp

/-- The endpoint comes behind what the path holds, and an empty end of it is taken for its
beginning. -/
theorem endpoint_pushed (common : Scheme.isCommon scheme = true) (list : Segments) :
    sessionSegments.foldl (push scheme) (dropEmptyEnd list) = stem list ++ endpoint := by
  have begun : stem list ≠ [[]] := by
    unfold stem
    split
    next => nofun
    next other => exact other
  have same : push scheme (dropEmptyEnd list) "auth" = push scheme (stem list) "auth" := by
    rw [push_word common (by decide), push_word common (by decide), if_neg begun, stem]
  have first : sessionSegments = "auth" :: ["v4", "sessions", "forks"] := rfl
  rw [endpoint, ← push_words common sessionSegments (fun _ inside => inside) begun]
  simp only [first, List.foldl_cons, same]

theorem endpoint_begun (list : Segments) : stem list ++ endpoint ≠ [[]] := by
  intro single
  have count := congrArg List.length single
  simp [endpoint, sessionSegments] at count

theorem drop_slashes_added {text : String} (ending : text.toList.getLast? ≠ some '/')
    (slashes : Nat) :
    dropSlashes (text ++ String.ofList (List.replicate slashes '/')) = text := by
  have front : text.toList.reverse.dropWhile (· = '/') = text.toList.reverse := by
    cases reversed : text.toList.reverse with
    | nil => rfl
    | cons char rest =>
        have last : char ≠ '/' := by
          rintro rfl
          refine ending ?_
          rw [List.getLast?_eq_head?_reverse, reversed]
          rfl
        simp [last]
  simp [dropSlashes, front]

/-- A selector that is added to a path as it is. -/
structure Faithful (selector : String) : Prop where
  notHere : selector ≠ "."
  notBack : selector ≠ ".."
  unbroken : ∀ char ∈ selector.toList, char ≠ '\t' ∧ char ≠ '\n' ∧ char ≠ '\r'

variable {selector : String} {path : Segments} {segment : List Char}

theorem Faithful.kept (faithful : Faithful selector) : kept selector = selector.toList := by
  refine List.filter_eq_self.mpr fun char inside => ?_
  obtain ⟨noTab, noLine, noReturn⟩ := faithful.unbroken char inside
  simp [noTab, noLine, noReturn]

theorem own_of_faithful (faithful : Faithful selector) (added : Added list selector path) :
    ∃ segment, Encodes segment selector.toList ∧ path = list ++ [segment] := by
  cases added with
  | nothing dots => exact absurd dots (not_or.mpr ⟨faithful.notHere, faithful.notBack⟩)
  | back broken dots =>
      have back : selector = ".." := String.toList_inj.mp (faithful.kept.symm.trans dots)
      exact absurd back faithful.notBack
  | empty broken dot =>
      have here : selector = "." := String.toList_inj.mp (faithful.kept.symm.trans dot)
      exact absurd here faithful.notHere
  | segment noDot noDots encodes => exact ⟨_, faithful.kept ▸ encodes, rfl⟩

theorem back_from_endpoint (front : Segments) :
    back (front ++ endpoint) = front ++ ["auth", "v4", "sessions"].map String.toList := by
  have ended : front ++ endpoint =
      (front ++ ["auth", "v4", "sessions"].map String.toList) ++ ["forks".toList] := by
    rw [List.append_assoc]
    rfl
  have noDrive : beginsWithDrive "forks".toList = false := by decide
  rw [ended, back, List.getLast?_concat, Option.any_some, noDrive, List.dropLast_concat]
  rfl

theorem faithful_of_own (encodes : Encodes segment selector.toList)
    (added : Added (list ++ endpoint) selector (list ++ endpoint ++ [segment])) :
    Faithful selector := by
  generalize ended : list ++ endpoint ++ [segment] = path at added
  cases added with
  | nothing dots => simp at ended
  | back broken dots =>
      rw [back_from_endpoint] at ended
      have count := congrArg List.length ended
      simp [endpoint, sessionSegments] at count
  | empty broken dot =>
      have nothing : segment = [] := List.singleton_inj.mp (List.append_cancel_left ended)
      have blank : Encodes [] [] := @encoding_encodes [] nofun nofun
      rw [nothing] at encodes
      rw [kept, ← blank.unique encodes] at dot
      cases dot
  | segment noDot noDots other =>
      obtain rfl := List.singleton_inj.mp (List.append_cancel_left ended)
      have whole : kept selector = selector.toList := other.unique encodes
      refine ⟨?_, ?_, fun char inside => ?_⟩
      · rintro rfl
        exact noDot (by decide)
      · rintro rfl
        exact noDots (by decide)
      · have stays := List.filter_eq_self.mp whole char inside
        simpa [and_assoc] using stays

/-- Where selectors are exchanged at a service whose path holds the segments of a list. -/
structure Exchanges (issuer : HttpIssuer) (base : Url) (list : Segments) : Prop where
  path : base.path = .segments list
  /-- What is left out of the path of the service are empty segments at its end. -/
  ends : ∃ count ≤ 2, list = stem list ++ List.replicate count []
  /-- The origin is that of the service, and the path that of the endpoint for whatever is
  added to it. -/
  asked : ∀ selector, ∃ path, Added (stem list ++ endpoint) selector path ∧
    issuer.sessionUrl selector = .ok ⟨base.scheme, base.authority, .segments path, none, none⟩
  /-- The selectors that are added as they are have a segment that is decoded to them, and no
  others have. -/
  faithful : ∀ selector, Faithful selector ↔ ∃ segment, Encodes segment selector.toList ∧
    issuer.sessionUrl selector = .ok ⟨base.scheme, base.authority,
      .segments (stem list ++ endpoint ++ [segment]), none, none⟩
  /-- Addresses for different selectors are not written in the same way. -/
  distinct : ∀ first second one other, Faithful first → Faithful second →
    issuer.sessionUrl first = .ok one → issuer.sessionUrl second = .ok other →
      one.write = other.write → first = second
  /-- A selector with something dropped from among two dots leads back from the endpoint. -/
  elsewhere : ∀ selector, selector ≠ ".." → kept selector = ['.', '.'] →
    issuer.sessionUrl selector = .ok ⟨base.scheme, base.authority,
      .segments (stem list ++ ["auth", "v4", "sessions", ""].map String.toList), none, none⟩

theorem session_url {issuer : HttpIssuer} {base : Url} (known : Url.read issuer.base = .ok base)
    (path : base.path = .segments list) (common : Scheme.isCommon base.scheme = true)
    (query : base.query = none) (fragment : base.fragment = none) (selector : String) :
    issuer.sessionUrl selector = .ok ⟨base.scheme, base.authority,
      .segments (push base.scheme (stem list ++ endpoint) selector), none, none⟩ := by
  simp only [sessionUrl, known, Url.extend, path, query, fragment, List.foldl_append,
    endpoint_pushed common, List.foldl_cons, List.foldl_nil]

theorem exchanges_of_read {issuer : HttpIssuer} {base : Url}
    (known : Url.read issuer.base = .ok base) (path : base.path = .segments list)
    (common : Scheme.isCommon base.scheme = true) (query : base.query = none)
    (fragment : base.fragment = none) : issuer.Exchanges base list := by
  have asked := session_url known path common query fragment
  have added := push_added common (endpoint_begun list)
  refine ⟨path, stem_ends list, fun selector => ⟨_, added selector, asked selector⟩,
    fun selector => ⟨?_, ?_⟩, ?_, ?_⟩
  · intro faithful
    obtain ⟨segment, encodes, own⟩ := own_of_faithful faithful (added selector)
    exact ⟨segment, encodes, own ▸ asked selector⟩
  · rintro ⟨segment, encodes, found⟩
    have same := (asked selector).symm.trans found
    simp only [Except.ok.injEq, Url.mk.injEq, UrlPath.segments.injEq, true_and, and_true] at same
    exact faithful_of_own encodes (same ▸ added selector)
  · intro first second one other firstFaithful secondFaithful firstAsked secondAsked same
    obtain ⟨firstSegment, firstEncodes, firstOwn⟩ := own_of_faithful firstFaithful (added first)
    obtain ⟨secondSegment, secondEncodes, secondOwn⟩ :=
      own_of_faithful secondFaithful (added second)
    rw [asked, firstOwn] at firstAsked
    rw [asked, secondOwn] at secondAsked
    cases firstAsked
    cases secondAsked
    obtain rfl := Url.last_of_written (by simp [endpoint, sessionSegments]) same
    exact String.toList_inj.mp (firstEncodes.unique secondEncodes)
  · intro selector broken dots
    rw [asked, push_back common (endpoint_begun list) broken dots, back_from_endpoint,
      List.append_assoc]
    rfl

/-- Selectors are exchanged behind the path of the service, whatever slashes end its address. -/
theorem selectors_exchanged_behind_endpoint (duration machineName : Option String) {text : String}
    {base : Url} (ending : text.toList.getLast? ≠ some '/') (known : Url.read text = .ok base)
    (common : Scheme.isCommon base.scheme = true) (query : base.query = none)
    (fragment : base.fragment = none) (slashes : Nat) :
    ∃ list, (new (text ++ String.ofList (List.replicate slashes '/')) duration
      machineName).Exchanges base list := by
  obtain ⟨list, path⟩ := Url.common_path known common
  have read : Url.read (dropSlashes (text ++ String.ofList (List.replicate slashes '/'))) =
      .ok base := by
    rw [drop_slashes_added ending, known]
  exact ⟨list, exchanges_of_read read path common query fragment⟩

theorem slashes_behind_api : (new "http://127.0.0.1:9/api//" none none).Exchanges
    ⟨"http".toList, some ⟨[], none, "127.0.0.1".toList, some 9⟩, .segments ["api".toList], none,
      none⟩ ["api".toList] := by
  have known : Url.read "http://127.0.0.1:9/api" = .ok ⟨"http".toList,
      some ⟨[], none, "127.0.0.1".toList, some 9⟩, .segments ["api".toList], none, none⟩ := by
    decide +kernel
  obtain ⟨list, exchanges⟩ :=
    selectors_exchanged_behind_endpoint none none (by decide) known (by decide) rfl rfl 2
  cases exchanges.path
  exact exchanges

/-- A tab among two dots leads to another endpoint, and one among letters is not seen. -/
theorem selector_with_tab_is_no_segment :
    ((new "http://127.0.0.1:9" none none).sessionUrl ".\t.").map Url.write =
        .ok "http://127.0.0.1:9/auth/v4/sessions/" ∧
      (¬ ∃ scheme authority front segment,
        Percent.decode segment = Bytes.ofText ".\t." ∧
        (new "http://127.0.0.1:9" none none).sessionUrl ".\t." = .ok ⟨scheme, authority,
          .segments (front ++ endpoint ++ [segment]), none, none⟩) ∧
      (new "http://127.0.0.1:9" none none).sessionUrl "a\tb" =
        (new "http://127.0.0.1:9" none none).sessionUrl "ab" := by
  have away : (new "http://127.0.0.1:9" none none).sessionUrl ".\t." = .ok ⟨"http".toList,
      some ⟨[], none, "127.0.0.1".toList, some 9⟩,
      .segments (["auth", "v4", "sessions", ""].map String.toList), none, none⟩ := by
    decide +kernel
  refine ⟨by decide +kernel, ?_, by decide +kernel⟩
  rintro ⟨scheme, authority, front, segment, -, behind⟩
  have path := away.symm.trans behind
  simp only [Except.ok.injEq, Url.mk.injEq, UrlPath.segments.injEq] at path
  have count := congrArg List.length path.2.2.1
  simp [endpoint, sessionSegments] at count

end HttpIssuer

end CertRenewal
