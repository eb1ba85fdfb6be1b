import CertRenewal.Program
import CertRenewal.Proofs.Admission
import CertRenewal.Proofs.Files
import CertRenewal.Proofs.LogLines
import CertRenewal.Proofs.Usage

/-!
How a run of the program begins, on a machine that keeps a tree of files. A daemon starts
with settings that were asked for and that serve, in a directory that is there; otherwise
the first thing that is wrong is told, and nothing that was in the tree is lost. The code of
a run that ended tells how far it came.
-/

namespace CertRenewal

namespace FileTree

variable {tree way grown : FileTree} {path : Path}

/-- All that is in a tree is in the other one. -/
def Grows (tree grown : FileTree) : Prop :=
  ∀ path entry, tree.get? path = some entry → grown.get? path = some entry

theorem Grows.refl (tree : FileTree) : Grows tree tree := fun _ _ found => found

theorem Grows.trans (first : Grows tree way) (second : Grows way grown) : Grows tree grown :=
  fun path entry found => second path entry (first path entry found)

theorem ensure_directory_grows (ensured : tree.ensureDirectory path = .ok grown) :
    Grows tree grown := by
  unfold ensureDirectory at ensured
  split at ensured
  · obtain rfl := Except.ok.inj ensured
    exact .refl tree
  · unfold makeDirectory at ensured
    split at ensured
    · cases ensured
    split at ensured
    · cases ensured
    rename_i free
    obtain rfl := Except.ok.inj ensured
    intro other entry found
    cases other with
    | nil => exact found
    | cons name names =>
        rw [get_put _ (List.cons_ne_nil name names), if_neg]
        · exact found
        · rintro rfl
          cases free.symm.trans found

theorem ensure_from_grows {before : Path} {names : List String}
    (ensured : tree.ensureFrom before names = .ok grown) : Grows tree grown := by
  induction names generalizing tree before with
  | nil =>
      obtain rfl := Except.ok.inj ensured
      exact .refl tree
  | cons name rest induction =>
      obtain ⟨way, made, further⟩ := bound_ok ensured
      exact (ensure_directory_grows made).trans (induction further)

theorem make_directories_grows (made : tree.makeDirectories path = .ok grown) :
    Grows tree grown := by
  cases path with
  | nil =>
      obtain rfl := Except.ok.inj made
      exact .refl tree
  | cons name names =>
      cases ensured : tree.ensureFrom [] (name :: names).dropLast with
      | error fault =>
          simp only [makeDirectories, ensured] at made
          cases fault <;> cases made
      | ok way =>
          rw [make_directories_grown (List.cons_ne_nil name names) ensured] at made
          exact (ensure_from_grows ensured).trans (ensure_directory_grows made)

theorem obstacle_from_grown (grows : Grows tree grown) {before : Path} {names : List String}
    (free : tree.obstacleFrom before names = none) : grown.obstacleFrom before names = none := by
  induction names generalizing before with
  | nil => rfl
  | cons name rest induction =>
      cases rest with
      | nil => rfl
      | cons next names =>
          cases there : tree.get? (before ++ [name]) with
          | none => simp [obstacleFrom, there] at free
          | some entry =>
              cases entry with
              | file content => simp [obstacleFrom, there] at free
              | directory =>
                  simp only [obstacleFrom, there] at free
                  simp only [obstacleFrom, grows _ _ there]
                  exact induction free

/-- A file is read as before when a tree has grown. -/
theorem Grows.read (grows : Grows tree grown) {content : Bytes}
    (found : tree.read path = .ok content) : grown.read path = .ok content := by
  unfold FileTree.read at found ⊢
  split at found
  · cases found
  rename_i clear
  rw [obstacle, obstacle_from_grown grows clear]
  split at found
  · cases found
  · cases found
  · rename_i there
    rw [grows _ _ there]
    exact found

end FileTree

namespace Daemon

variable {home : Path} {listen : String → UInt16 → Except ListenFault Unit}
  {settings : Settings} {environment : Environment} {tree next : FileTree}
  {catalogue : Catalogue} {daemon : Daemon} {fault : StartFault}

/-- The tree with the directory for keys and certificate. -/
def furnished (home : Path) (settings : Settings) (environment : Environment)
    (tree : FileTree) : Except FileFault FileTree :=
  (tree.locate home (settings.stateDirectoryIn environment)).bind tree.makeDirectories

/-- The catalogue with what a tree holds in the file that is named for it. -/
def catalogueIn (home : Path) (settings : Settings) (tree : FileTree) :
    Except CatalogueFault Catalogue :=
  match settings.catalogueFile with
  | none => .ok .builtIn
  | some file => Catalogue.load ((tree.locate home file).bind tree.read)

variable (home listen settings environment tree)

theorem load_catalogue_in : loadCatalogue (.ofTree home listen) settings tree =
    (catalogueIn home settings tree, tree) := by
  unfold loadCatalogue catalogueIn
  cases settings.catalogueFile with
  | none => rfl
  | some file =>
      cases found : tree.locate home file with
      | error fault =>
          simp only [Machine.ofTree, found, bind, StateT.bind, Except.bind]
          rfl
      | ok path =>
          simp only [Machine.ofTree, found, bind, StateT.bind, Except.bind]
          rfl

theorem make_furnished :
    (Machine.ofTree home listen).makeDirectories (settings.stateDirectoryIn environment) tree =
      match furnished home settings environment tree with
      | .error fault => (.error fault, tree)
      | .ok grown => (.ok (), grown) := by
  unfold furnished
  cases found : tree.locate home (settings.stateDirectoryIn environment) with
  | error fault => simp [Machine.ofTree, found, Except.bind]
  | ok path =>
      cases made : tree.makeDirectories path <;> simp [Machine.ofTree, found, made, Except.bind]

/-- A daemon that starts. -/
structure Starts (daemon : Daemon) (next : FileTree) : Prop where
  asked : daemon.settings = settings
  place : daemon.stateDirectory = settings.stateDirectoryIn environment
  issuer : daemon.issuer = issuerOf settings environment
  valid : settings.validate = .ok ()
  made : furnished home settings environment tree = .ok next
  loaded : catalogueIn home settings next = .ok daemon.catalogue
  listens : listen settings.host settings.port = .ok ()

/-- Why a daemon does not start. What is looked at before is as it should be. -/
inductive Fails : StartFault → FileTree → Prop
  | settings (fault : SettingsFault) (invalid : settings.validate = .error fault) :
      Fails (.settings fault) tree
  | directory (fault : FileFault) (valid : settings.validate = .ok ())
      (barred : furnished home settings environment tree = .error fault) :
      Fails (.directory fault) tree
  | catalogue (fault : CatalogueFault) (next : FileTree) (valid : settings.validate = .ok ())
      (made : furnished home settings environment tree = .ok next)
      (unread : catalogueIn home settings next = .error fault) : Fails (.catalogue fault) next
  | listening (fault : ListenFault) (next : FileTree) (catalogue : Catalogue)
      (valid : settings.validate = .ok ())
      (made : furnished home settings environment tree = .ok next)
      (loaded : catalogueIn home settings next = .ok catalogue)
      (refused : listen settings.host settings.port = .error fault) :
      Fails (.listening fault) next

variable {home listen settings environment tree}

theorem starts_of (valid : settings.validate = .ok ())
    (made : furnished home settings environment tree = .ok next)
    (loaded : catalogueIn home settings next = .ok catalogue)
    (listens : listen settings.host settings.port = .ok ()) :
    Starts home listen settings environment tree ⟨settings, settings.stateDirectoryIn environment,
      catalogue, issuerOf settings environment⟩ next :=
  ⟨rfl, rfl, rfl, valid, made, loaded, listens⟩

variable (home listen settings environment tree) in
theorem starts_or_fails :
    (∃ daemon next, Starts home listen settings environment tree daemon next) ∨
      ∃ fault next, Fails home listen settings environment tree fault next := by
  cases valid : settings.validate with
  | error fault => exact .inr ⟨_, _, .settings fault valid⟩
  | ok =>
      cases made : furnished home settings environment tree with
      | error fault => exact .inr ⟨_, _, .directory fault valid made⟩
      | ok next =>
          cases loaded : catalogueIn home settings next with
          | error fault => exact .inr ⟨_, _, .catalogue fault next valid made loaded⟩
          | ok catalogue =>
              cases listens : listen settings.host settings.port with
              | error fault =>
                  exact .inr ⟨_, _, .listening fault next catalogue valid made loaded listens⟩
              | ok =>
                  exact .inl ⟨_, next, starts_of valid made loaded listens⟩

theorem start_of_starts (starts : Starts home listen settings environment tree daemon next) :
    start (.ofTree home listen) settings environment tree = (.ok daemon, next) := by
  have make := make_furnished home listen settings environment tree
  have load := load_catalogue_in home listen settings next
  rw [starts.made] at make
  rw [starts.loaded] at load
  have same : daemon = ⟨settings, settings.stateDirectoryIn environment, daemon.catalogue,
      issuerOf settings environment⟩ := by
    rw [← starts.place, ← starts.issuer, ← starts.asked]
  simp only [start, starts.valid, bind, StateT.bind, make, load]
  simp only [Machine.ofTree, starts.listens]
  rw [same]
  rfl

theorem start_of_fails (fails : Fails home listen settings environment tree fault next) :
    start (.ofTree home listen) settings environment tree = (.error fault, next) := by
  have make := make_furnished home listen settings environment tree
  cases fails with
  | settings fault invalid =>
      simp only [start, invalid]
      rfl
  | directory fault valid barred =>
      rw [barred] at make
      simp only [start, valid, bind, StateT.bind, make]
      rfl
  | catalogue fault next valid made unread =>
      have load := load_catalogue_in home listen settings next
      rw [made] at make
      rw [unread] at load
      simp only [start, valid, bind, StateT.bind, make, load]
      rfl
  | listening fault next catalogue valid made loaded refused =>
      have load := load_catalogue_in home listen settings next
      rw [made] at make
      rw [loaded] at load
      simp only [start, valid, bind, StateT.bind, make, load]
      simp only [Machine.ofTree, refused]
      rfl

theorem starts_iff : start (.ofTree home listen) settings environment tree = (.ok daemon, next) ↔
    Starts home listen settings environment tree daemon next := by
  refine ⟨fun started => ?_, start_of_starts⟩
  rcases starts_or_fails home listen settings environment tree with
    ⟨other, after, starts⟩ | ⟨fault, after, fails⟩
  · cases (start_of_starts starts).symm.trans started
    exact starts
  · cases (start_of_fails fails).symm.trans started

theorem fails_iff : start (.ofTree home listen) settings environment tree = (.error fault, next) ↔
    Fails home listen settings environment tree fault next := by
  refine ⟨fun failed => ?_, start_of_fails⟩
  rcases starts_or_fails home listen settings environment tree with
    ⟨daemon, after, starts⟩ | ⟨other, after, fails⟩
  · cases (start_of_starts starts).symm.trans failed
  · cases (start_of_fails fails).symm.trans failed
    exact fails

theorem furnished_reaches (made : furnished home settings environment tree = .ok next) :
    FileTree.Grows tree next ∧ ∃ path,
      tree.locate home (settings.stateDirectoryIn environment) = .ok path ∧ next.Reaches path := by
  obtain ⟨path, found, made⟩ := bound_ok made
  exact ⟨FileTree.make_directories_grows made, path, found,
    (FileTree.make_directories_reached made).1⟩

/-- A daemon that starts finds its directory, and all that was there before. -/
theorem Starts.reaches (starts : Starts home listen settings environment tree daemon next) :
    FileTree.Grows tree next ∧ ∃ path,
      tree.locate home daemon.stateDirectory = .ok path ∧ next.Reaches path := by
  rw [starts.place]
  exact furnished_reaches starts.made

theorem Fails.grows (fails : Fails home listen settings environment tree fault next) :
    FileTree.Grows tree next := by
  cases fails with
  | settings | directory => exact .refl tree
  | catalogue _ _ _ made | listening _ _ _ _ made => exact (furnished_reaches made).1

end Daemon

namespace Program

variable {home : Path} {listen : String → UInt16 → Except ListenFault Unit}
  {words : List String} {environment : Environment} {settings : Settings}
  {tree next : FileTree} {result : ProgramResult} {stage : ProgramStage}

/-- How a run of the program goes. -/
inductive Goes (home : Path) (listen : String → UInt16 → Except ListenFault Unit)
    (words : List String) (environment : Environment) (tree : FileTree) :
    ProgramStage → FileTree → Prop
  | told (line : String) (asked : form.read words environment = .ok (.tell line)) :
      Goes home listen words environment tree (.ended (tell line)) tree
  | misused (fault : UsageFault) (unread : form.read words environment = .error fault) :
      Goes home listen words environment tree (.ended (complain fault)) tree
  | failed (settings : Settings) (fault : StartFault) (next : FileTree)
      (asked : form.read words environment = .ok (.start settings))
      (fails : Daemon.Fails home listen settings environment tree fault next) :
      Goes home listen words environment tree
        (.ended (fail (.ofEnvironment environment) settings fault.message)) next
  | started (settings : Settings) (daemon : Daemon) (next : FileTree)
      (asked : form.read words environment = .ok (.start settings))
      (starts : Daemon.Starts home listen settings environment tree daemon next) :
      Goes home listen words environment tree
        (.started ((notices settings).filter (LogFilter.ofEnvironment environment).admits) daemon)
        next

theorem run_goes (home : Path) (listen : String → UInt16 → Except ListenFault Unit)
    (words : List String) (environment : Environment) (tree : FileTree) :
    Goes home listen words environment tree
      (run (.ofTree home listen) words environment tree).1
      (run (.ofTree home listen) words environment tree).2 := by
  unfold run
  cases read : form.read words environment with
  | error fault => exact .misused fault read
  | ok request =>
      cases request with
      | tell line => exact .told line read
      | start settings =>
          rcases Daemon.starts_or_fails home listen settings environment tree with
            ⟨daemon, next, starts⟩ | ⟨fault, next, fails⟩
          · have start := Daemon.start_of_starts starts
            simp only [bind, StateT.bind, start]
            exact .started settings daemon next read starts
          · have start := Daemon.start_of_fails fails
            simp only [bind, StateT.bind, start]
            exact .failed settings fault next read fails

theorem goes_of_run (ran : run (.ofTree home listen) words environment tree = (stage, next)) :
    Goes home listen words environment tree stage next := by
  have goes := run_goes home listen words environment tree
  rwa [ran] at goes

/-- Nothing is changed in a tree but that settings that serve have their directory made. -/
theorem run_touches (ran : run (.ofTree home listen) words environment tree = (stage, next)) :
    next = tree ∨ ∃ settings, form.read words environment = .ok (.start settings) ∧
      settings.validate = .ok () ∧
      Daemon.furnished home settings environment tree = .ok next := by
  cases goes_of_run ran with
  | told | misused => exact .inl rfl
  | failed settings fault next asked fails =>
      cases fails with
      | settings | directory => exact .inl rfl
      | catalogue _ _ valid made | listening _ _ _ valid made =>
          exact .inr ⟨settings, asked, valid, made⟩
  | started settings daemon next asked starts =>
      exact .inr ⟨settings, asked, starts.valid, starts.made⟩

/-- Every file is kept as it was. -/
theorem run_keeps_files {path : Path} {content : Bytes}
    (ran : run (.ofTree home listen) words environment tree = (stage, next))
    (found : tree.read path = .ok content) : next.read path = .ok content := by
  rcases run_touches ran with rfl | ⟨settings, -, -, made⟩
  · exact found
  · exact (Daemon.furnished_reaches made).1.read found

/-- A run ends with 0 when it told what was asked, with 1 when its daemon did not start and
with 2 when it was not used as it is to be used. -/
theorem exit_code_iff
    (ran : run (.ofTree home listen) words environment tree = (.ended result, next)) :
    (result.exitCode = 0 ↔ ∃ line, form.read words environment = .ok (.tell line)) ∧
      (result.exitCode = 1 ↔ ∃ settings fault,
        form.read words environment = .ok (.start settings) ∧
          Daemon.Fails home listen settings environment tree fault next) ∧
      (result.exitCode = 2 ↔ ∃ fault, form.read words environment = .error fault) := by
  cases goes_of_run ran with
  | told line asked => simp [tell, asked]
  | misused fault unread => simp [complain, unread]
  | failed settings fault next asked fails =>
      refine ⟨by simp [fail, asked], ⟨fun _ => ⟨settings, fault, asked, fails⟩, fun _ => rfl⟩,
        by simp [fail, asked]⟩

/-- A complaint is one line that a terminal only shows. -/
theorem complaint_plain {line : String}
    (ran : run (.ofTree home listen) words environment tree = (.ended result, next))
    (complained : result.complaint = some line) :
    Terminal.IsPlainText line ∧ '\n' ∉ line.toList := by
  cases goes_of_run ran with
  | told | failed => cases complained
  | misused fault unread =>
      obtain rfl := Option.some.inj complained
      exact ⟨fun char member => CommandForm.fault_plain unread char (Line.mem_first member),
        Line.first_unbroken fault.message⟩

/-- What is noted about settings that serve is that a check may miss the window. -/
theorem notices_iff {entry : LogEntry} : entry ∈ notices settings ↔
    settings.validate = .ok () ∧
      settings.intervals.refreshEarlierBy < settings.intervals.checkInterval ∧
      entry = shortMargin settings.intervals := by
  unfold notices
  cases valid : settings.validate with
  | error fault => simp
  | ok => simp [Settings.hasShortMargin]

/-- Unless the log is asked for something else, a daemon that does not start leaves what is
noted about its settings and, last of all, the reason. -/
theorem failure_told (unset : environment "RUST_LOG" = none)
    (ran : run (.ofTree home listen) words environment tree = (.ended result, next))
    (failed : result.exitCode = 1) : ∃ settings fault,
      form.read words environment = .ok (.start settings) ∧
        Daemon.Fails home listen settings environment tree fault next ∧
        result.entries = notices settings ++ [fatal fault.message] := by
  cases goes_of_run ran with
  | told | misused => cases failed
  | failed settings fault next asked fails =>
      refine ⟨settings, fault, asked, fails, ?_⟩
      have filter : LogFilter.ofEnvironment environment = .standard := by
        rw [LogFilter.ofEnvironment, unset]
        rfl
      show (notices settings ++ [fatal fault.message]).filter _ = _
      rw [filter, List.filter_eq_self]
      intro entry member
      rw [LogFilter.standard_admits]
      rcases List.mem_append.mp member with noted | reason
      · obtain ⟨-, -, rfl⟩ := notices_iff.mp noted
        exact Nat.le_of_ble_eq_true rfl
      · obtain rfl := List.mem_singleton.mp reason
        exact Nat.le_of_ble_eq_true rfl

theorem fatal_harmless (message : String) : (fatal message).IsHarmless := by
  have target : LogEntry.IsUnobeyed "certkeeper".toList := by decide
  exact ⟨target, nofun⟩

theorem notices_harmless {entry : LogEntry} (noted : entry ∈ notices settings) :
    entry.IsHarmless := by
  obtain ⟨-, -, rfl⟩ := notices_iff.mp noted
  have target : LogEntry.IsUnobeyed "certkeeper::config".toList := by decide
  have margin : LogEntry.IsUnobeyed "refresh_earlier_by_ms".toList := by decide
  have interval : LogEntry.IsUnobeyed "check_interval_ms".toList := by decide
  exact ⟨target, List.forall_mem_cons.mpr ⟨margin, List.forall_mem_singleton.mpr interval⟩⟩

/-- In text nothing is put out that a terminal would obey, whatever a reason quotes. -/
theorem output_unobeyed {line : String}
    (ran : run (.ofTree home listen) words environment tree = (.ended result, next))
    (text : result.logFormat = .text) (written : line ∈ result.outputLines) :
    LogEntry.IsUnobeyed line.toList := by
  cases goes_of_run ran with
  | told answer asked =>
      obtain rfl : line = answer := List.mem_singleton.mp written
      rcases CommandForm.told_line asked with rfl | version
      · decide
      · obtain rfl := Option.some.inj version
        decide
  | misused => cases written
  | failed settings fault next asked fails =>
      obtain ⟨entry, among, inside⟩ := List.mem_flatMap.mp written
      have harmless : entry.IsHarmless := by
        rcases List.mem_append.mp (List.mem_filter.mp among).1 with noted | reason
        · exact notices_harmless noted
        · exact List.mem_singleton.mp reason ▸ fatal_harmless _
      rw [text] at inside
      exact fun char member => LogEntry.text_unobeyed harmless char (Line.mem_split inside member)

theorem run_of_starts {daemon : Daemon}
    (asked : form.read words environment = .ok (.start settings))
    (starts : Daemon.Starts home listen settings environment tree daemon next) :
    run (.ofTree home listen) words environment tree =
      (.started ((notices settings).filter (LogFilter.ofEnvironment environment).admits) daemon,
        next) := by
  have start := Daemon.start_of_starts starts
  simp only [run, asked, bind, StateT.bind, start]
  rfl

/-- A daemon goes on when its settings were asked for, and it starts with them. -/
theorem started_iff {daemon : Daemon} :
    (∃ entries,
        run (.ofTree home listen) words environment tree = (.started entries daemon, next)) ↔
      (∃ all, CommandForm.Asks words environment daemon.settings all) ∧
        Daemon.Starts home listen daemon.settings environment tree daemon next := by
  rw [← @CommandForm.started_iff form]
  constructor
  · rintro ⟨entries, ran⟩
    cases goes_of_run ran with
    | started settings daemon next asked starts =>
        rw [starts.asked]
        exact ⟨asked, starts⟩
  · rintro ⟨asked, starts⟩
    exact ⟨_, run_of_starts asked starts⟩

/-- Its settings have values that are allowed and that serve. -/
theorem started_serves {entries : List LogEntry} {daemon : Daemon} {setting : Setting}
    {value : SettingValue}
    (ran : run (.ofTree home listen) words environment tree = (.started entries daemon, next))
    (found : daemon.settings.value? setting = some value) :
    setting.Allows value ∧ setting.Serves value := by
  obtain ⟨asks, starts⟩ := started_iff.mp ⟨entries, ran⟩
  have asked : form.read words environment = .ok (.start daemon.settings) :=
    CommandForm.started_iff.mpr asks
  exact ⟨CommandForm.started_allowed asked found,
    Settings.validate_iff.mp starts.valid setting value found⟩

/-- Whatever settings are wanted, a daemon starts with them when they are written out, if
they are allowed and serve and the machine has what they name. -/
theorem written_starts {catalogue : Catalogue}
    (serves : ∀ setting value, settings.value? setting = some value →
      setting.Allows value ∧ setting.Serves value)
    (silent : ∀ setting, settings.value? setting = none →
      environment setting.environmentName = none)
    (made : Daemon.furnished home settings environment tree = .ok next)
    (loaded : Daemon.catalogueIn home settings next = .ok catalogue)
    (listens : listen settings.host settings.port = .ok ()) :
    ∃ entries daemon, run (.ofTree home listen) (Given.spell settings.all) environment tree =
      (.started entries daemon, next) ∧ daemon.settings = settings := by
  have asked : form.read (Given.spell settings.all) environment = .ok (.start settings) :=
    Settings.read_back (fun setting value found => (serves setting value found).1) silent
  have valid : settings.validate = .ok () :=
    Settings.validate_iff.mpr fun setting value found => (serves setting value found).2
  exact ⟨_, _, run_of_starts asked (Daemon.starts_of valid made loaded listens), rfl⟩

/-- With no words and nothing in the environment it starts with the standard settings, in a
directory below the one it is started from. -/
theorem standard_starts (barren : ∀ name, environment name = none)
    (free : tree.Passable (home ++ [".certkeeper"])) (listens : listen "127.0.0.1" 9810 = .ok ()) :
    ∃ daemon next, run (.ofTree home listen) [] environment tree = (.started [] daemon, next) ∧
      daemon.settings = .standard ∧ next.Reaches (home ++ [".certkeeper"]) := by
  have nowhere : environment = fun _ => none := funext barren
  subst nowhere
  have asked : form.read [] (fun _ => none) = .ok (.start .standard) := rfl
  have place : tree.locate home (Settings.standard.stateDirectoryIn fun _ => none) =
      .ok (home ++ [".certkeeper"]) := by
    have split : FileTree.splitPath ".certkeeper" = (false, [".certkeeper"]) := by decide
    simp only [Settings.stateDirectoryIn, Settings.standard, FileTree.locate, split]
    simp [FileTree.follow]
  obtain ⟨next, made, reaches, -⟩ := FileTree.make_directories_passable free
  have furnished : Daemon.furnished home .standard (fun _ => none) tree = .ok next := by
    rw [Daemon.furnished, place]
    exact made
  have starts := Daemon.starts_of Settings.standard_valid furnished rfl listens
  exact ⟨_, next, run_of_starts asked starts, rfl, reaches⟩

end Program

end CertRenewal
