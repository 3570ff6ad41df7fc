import DmgCore.Dump.CommandLine
import DmgCore.Proofs.Dump.Jobs

/-!
What an invocation of the dump tool does, whatever its arguments are.

* `View.named`: the views by name;
* `CommandLine.Asks`, `CommandLine.IsMalformed`: arguments that ask for a job, and arguments
  that do not; `CommandLine.parse_eq_ok_iff` says that the former are those that are parsed;
* `CommandLine.run_of_parse_error`: of other arguments there is a complaint, without any effect
  on files;
* `CommandLine.runOn`: the tool run on a collection of files;
* `CommandLine.Ends`: the three ways in which a run can end, and `CommandLine.ends_runOn`: there
  is no other;
* `CommandLine.runOn_ends_with_code`: the exit codes, and what each of them says of the two
  streams and of the files.

All this is so whatever the environment asks to be shown of the log. A run that succeeds sends
one record, so standard error stays empty where records of its level are not shown.
-/

namespace DmgCore

namespace View

/-- The views by name. -/
def named : List (String × View) :=
  [("tiles", tiles), ("atlas", tiles), ("bg", background), ("background", background),
    ("frame", frame), ("screen", frame)]

lemma ofName?_eq_some_iff {name : String} {view : View} :
    ofName? name = some view ↔ (name, view) ∈ named := by
  constructor
  · intro h
    unfold ofName? at h
    split at h
    all_goals simp_all [named]
  · intro h
    simp only [named, List.mem_cons, List.not_mem_nil, or_false, Prod.mk.injEq] at h
    rcases h with ⟨rfl, rfl⟩ | ⟨rfl, rfl⟩ | ⟨rfl, rfl⟩ | ⟨rfl, rfl⟩ | ⟨rfl, rfl⟩ | ⟨rfl, rfl⟩
    all_goals rfl

end View

namespace CommandLine

/-- Arguments that ask for a job: the name of its view, its snapshot and its output, and
anything behind them. -/
inductive Asks : List String → DumpJob → Prop
  | intro {name image output : String} {view : View} (hname : (name, view) ∈ View.named)
      (rest : List String) : Asks (name :: image :: output :: rest) { image, output, view }

/-- Arguments that are too few, or of which the first is not the name of a view. -/
def IsMalformed (args : List String) : Prop :=
  args.length < 3 ∨ ∀ name view, args.head? = some name → (name, view) ∉ View.named

/-! ### Arguments -/

/-- The name of the view is looked at before the paths are. -/
lemma parse_cons (name : String) (paths : List String) :
    parse (name :: paths) =
      match View.ofName? name, paths with
      | none, _ => .error (.unknownView name)
      | some view, image :: output :: _ => .ok { image, output, view }
      | some _, _ => .error .missing := rfl

/-- What is parsed is the job that is asked for. -/
lemma parse_eq_ok_iff {args : List String} {job : DumpJob} :
    parse args = .ok job ↔ Asks args job := by
  constructor
  · intro h
    cases args with
    | nil => exact absurd h nofun
    | cons name paths =>
        rw [parse_cons] at h
        split at h
        next => exact absurd h nofun
        next view image output rest hname =>
          obtain rfl := Except.ok.inj h
          exact .intro (View.ofName?_eq_some_iff.mp hname) rest
        next => exact absurd h nofun
  · rintro ⟨hname, rest⟩
    rw [parse_cons, View.ofName?_eq_some_iff.mpr hname]

/-- Arguments ask for one job at most. -/
lemma Asks.unique {args : List String} {job other : DumpJob} (h : Asks args job)
    (hother : Asks args other) : job = other :=
  Except.ok.inj ((parse_eq_ok_iff.mpr h).symm.trans (parse_eq_ok_iff.mpr hother))

/-- Arguments are malformed just when they ask for no job. -/
lemma isMalformed_iff {args : List String} : IsMalformed args ↔ ∀ job, ¬ Asks args job := by
  constructor
  · rintro hmalformed job ⟨hname, rest⟩
    rcases hmalformed with hshort | hunknown
    · simp only [List.length_cons] at hshort
      omega
    · exact hunknown _ _ rfl hname
  · intro hnone
    match args with
    | [] => exact Or.inl (by decide)
    | [_] => exact Or.inl (by simp)
    | [_, _] => exact Or.inl (by simp)
    | name :: image :: output :: rest =>
        refine Or.inr fun first view hfirst hname => ?_
        obtain rfl := Option.some.inj hfirst
        exact hnone _ (.intro hname rest)

/-- Arguments behind the third are not looked at. -/
lemma parse_take_three (args : List String) : parse (args.take 3) = parse args := by
  match args with
  | [] => rfl
  | [_] => rfl
  | [_, _] => rfl
  | name :: image :: output :: rest =>
      change parse [name, image, output] = _
      rw [parse_cons, parse_cons]
      cases View.ofName? name <;> rfl

/-- Something is said about arguments that are at fault. -/
lemma ArgumentFault.lines_ne_nil (fault : ArgumentFault) : fault.lines ≠ [] := by
  cases fault <;> exact List.cons_ne_nil _ _

/-! ### Runs -/

section Effects

variable {m : Type → Type} [Monad m] [FileAccess m]

/-- Where arguments are malformed, the complaint is all there is: no file is read or written,
whatever reading and writing mean. -/
lemma run_of_parse_error (log : LogSettings) {args : List String} {fault : ArgumentFault}
    (h : parse args = .error fault) :
    (run log args : m Outcome) = pure { code := 2, err := fault.lines } := by
  rw [run, h]

/-- Arguments behind the third have no effect. -/
lemma run_take_three (log : LogSettings) (args : List String) :
    (run log (args.take 3) : m Outcome) = run log args := by
  rw [run, run, parse_take_three]

end Effects

/-- A job that fails with a message and has sent no record leaves this message alone. -/
lemma outcome_of_message (log : LogSettings) (job : DumpJob) {fault : DumpFault} {text : String}
    (h : fault.message? = some text) :
    outcome log job (pure (.error fault)) = { code := 1, err := [s!"vram_dump: {text}"] } := by
  rw [outcome, Logged.value_pure, Logged.records_pure, LogSettings.lines_nil]
  dsimp only
  rw [h]
  rfl

variable {φ : Type} [FileStore φ]

/-- The tool run on a collection of files: what it leaves behind, and the collection
afterwards. -/
def runOn (log : LogSettings) (args : List String) (store : φ) : Outcome × φ :=
  (run log args : StateM φ Outcome).run store

/-- The ways in which a run of the tool ends: with a complaint about its arguments, with a job
that has failed, or with one that has written its picture. -/
inductive Ends (log : LogSettings) (args : List String) (store : φ) : Outcome × φ → Prop
  | malformed (fault : ArgumentFault) (hmalformed : IsMalformed args)
      (hparse : parse args = .error fault) :
      Ends log args store ({ code := 2, err := fault.lines }, store)
  | failed (job : DumpJob) (fault : DumpFault) (text : String) (hasks : Asks args job)
      (htext : fault.message? = some text)
      (hjob : job.runOn store = (pure (.error fault), store)) :
      Ends log args store ({ code := 1, err := [s!"vram_dump: {text}"] }, store)
  | written (job : DumpJob) (rendering : Rendering) (next : φ) (hasks : Asks args job)
      (hwrite : FileStore.write store job.output rendering.bytes.toList = .ok next)
      (hjob : job.runOn store = (job.success rendering, next)) :
      Ends log args store ({
        code := 0
        out := [successLine job (.ofRendering rendering)]
        err := log.lines [job.record rendering] }, next)

/-- Arguments that ask for a job have it done, and its answer told. -/
lemma runOn_of_parse_ok (log : LogSettings) {args : List String} {job : DumpJob}
    (h : parse args = .ok job) (store : φ) :
    runOn log args store = (outcome log job (job.runOn store).1, (job.runOn store).2) := by
  rw [runOn, run, h]
  rfl

/-- Every run ends in one of the three ways. -/
lemma ends_runOn (log : LogSettings) (args : List String) (store : φ) :
    Ends log args store (runOn log args store) := by
  cases hparse : parse args with
  | error fault =>
      have hnone : ∀ job, ¬ Asks args job := by
        intro job hasks
        rw [parse_eq_ok_iff.mpr hasks] at hparse
        exact absurd hparse nofun
      rw [runOn, run_of_parse_error log hparse]
      exact .malformed fault (isMalformed_iff.mpr hnone) hparse
  | ok job =>
      have hasks := parse_eq_ok_iff.mp hparse
      rw [runOn_of_parse_ok log hparse]
      rcases job.runOn_cases store with ⟨fault, text, htext, hjob⟩ | ⟨rendering, next, hwrite, hjob⟩
      · rw [hjob, outcome_of_message log job htext]
        exact .failed job fault text hasks htext hjob
      · rw [hjob]
        exact .written job rendering next hasks hwrite hjob

/-- **The exit code tells what the tool has done.**  It is `2` just when the arguments are
malformed, and then no file is read or written.  Otherwise they ask for a job, which is done;
the code is `0` if it succeeds, and `1` if it fails.  Arguments behind the third make no
difference.  A run with another code than `0` writes nothing to standard output, complains on
standard error and leaves all files alone.  One with `0` does not complain, and changes no file
but the one that the third argument leads to: on standard error there is only what the
environment asks to be shown of the one record that the job sends, and so nothing where it
silences records of this level. -/
theorem runOn_ends_with_code [LawfulFileStore φ] (log : LogSettings) (args : List String)
    (store : φ) :
    ((runOn log args store).1.code = 2 ↔ IsMalformed args) ∧
    (IsMalformed args → ∃ lines, ∀ (m : Type → Type) [Monad m] [FileAccess m],
      (run log args : m Outcome) = pure { code := 2, err := lines }) ∧
    (¬ IsMalformed args → ∃ job, Asks args job) ∧
    (∀ job, Asks args job → (runOn log args store).2 = (job.runOn store).2 ∧
      ((runOn log args store).1.code = 0 ↔
        ∃ summary, (job.runOn store).1.value = .ok summary) ∧
      ((runOn log args store).1.code = 1 ↔
        ∃ fault, (job.runOn store).1.value = .error fault)) ∧
    (∀ (m : Type → Type) [Monad m] [FileAccess m],
      (run log (args.take 3) : m Outcome) = run log args) ∧
    ((runOn log args store).1.code ≠ 0 → (runOn log args store).1.out = [] ∧
      (runOn log args store).1.err ≠ [] ∧ (runOn log args store).2 = store) ∧
    ((runOn log args store).1.code = 0 →
      (∃ job record, Asks args job ∧ (job.runOn store).1.records = [record] ∧
        record.level = .info ∧ (runOn log args store).1.err = log.lines [record]) ∧
      (log.Silences .info → (runOn log args store).1.err = []) ∧
      ∃ path file, args[2]? = some path ∧ LawfulFileStore.locate? store path = some file ∧
        ∀ other, other ≠ file → LawfulFileStore.contents? (runOn log args store).2 other =
          LawfulFileStore.contents? store other) := by
  have hends := ends_runOn log args store
  generalize runOn log args store = result at hends
  cases hends with
  | malformed fault hmalformed hparse =>
      exact ⟨iff_of_true rfl hmalformed,
        fun _ => ⟨fault.lines, fun m _ _ => run_of_parse_error log hparse⟩,
        fun hformed => absurd hmalformed hformed,
        fun job hasks => absurd hasks (isMalformed_iff.mp hmalformed job),
        fun m _ _ => run_take_three log args, fun _ => ⟨rfl, fault.lines_ne_nil, rfl⟩,
        fun hcode => absurd hcode (show (2 : UInt32) ≠ 0 by decide)⟩
  | failed job fault text hasks htext hjob =>
      have hformed : ¬ IsMalformed args := fun h => isMalformed_iff.mp h job hasks
      refine ⟨iff_of_false (show (1 : UInt32) ≠ 2 by decide) hformed, fun h => absurd h hformed,
        fun _ => ⟨job, hasks⟩, fun other hother => ?_, fun m _ _ => run_take_three log args,
        fun _ => ⟨rfl, List.cons_ne_nil _ _, rfl⟩,
        fun hcode => absurd hcode (show (1 : UInt32) ≠ 0 by decide)⟩
      obtain rfl := hasks.unique hother
      rw [hjob]
      refine ⟨rfl, iff_of_false (show (1 : UInt32) ≠ 0 by decide) ?_, iff_of_true rfl ⟨fault, rfl⟩⟩
      rintro ⟨summary, hsummary⟩
      exact absurd hsummary nofun
  | written job rendering next hasks hwrite hjob =>
      have hformed : ¬ IsMalformed args := fun h => isMalformed_iff.mp h job hasks
      refine ⟨iff_of_false (show (0 : UInt32) ≠ 2 by decide) hformed, fun h => absurd h hformed,
        fun _ => ⟨job, hasks⟩, fun other hother => ?_, fun m _ _ => run_take_three log args,
        fun hcode => absurd rfl hcode,
        fun _ => ⟨⟨job, job.record rendering, hasks, by rw [hjob]; rfl, rfl, rfl⟩,
          fun hquiet => hquiet.lines_singleton, ?_⟩⟩
      · obtain rfl := hasks.unique hother
        rw [hjob]
        refine ⟨rfl, iff_of_true rfl ⟨_, rfl⟩, iff_of_false (show (0 : UInt32) ≠ 1 by decide) ?_⟩
        rintro ⟨fault, hfault⟩
        exact absurd hfault nofun
      · obtain ⟨file, hfile, -, hothers⟩ := LawfulFileStore.write_ok hwrite
        obtain ⟨hname, rest⟩ := hasks
        exact ⟨_, file, rfl, hfile, hothers⟩

/-- A snapshot that is shown with an argument too many, one that is not there, and a view whose
name is not written exactly, where the environment asks for errors and nothing else. -/
theorem runOn_ends_with_code_three_ways :
    let log := LogSettings.errorsOnly LogRecord.text
    let store : FileTree := ⟨[], [(["m"], [0x12]), (["n"], [0x34])], []⟩
    let shown := runOn log ["screen", "m", "out", "more"] store
    let missing := runOn log ["screen", "x", "out"] store
    let unknown := runOn log ["Screen", "m", "out"] store
    log.Silences .info ∧
    (shown.1.code = 0 ∧ shown.1.err = [] ∧ shown.2.contents? ["n"] = some [0x34]) ∧
    (missing.1.code = 1 ∧ missing.1.out = [] ∧ missing.1.err ≠ [] ∧ missing.2 = store) ∧
    unknown.1.code = 2 ∧ unknown.1.out = [] ∧ unknown.1.err ≠ [] ∧ unknown.2 = store := by
  intro log store shown missing unknown
  have hfound : store.resolve "m" = .ok ["m"] :=
    FileTree.resolve_of_isFileName ⟨by decide, by simp, by decide⟩ rfl
  have hlost : store.resolve "x" = .ok ["x"] :=
    FileTree.resolve_of_isFileName ⟨by decide, by simp, by decide⟩ rfl
  have hplace : store.resolve "out" = .ok ["out"] :=
    FileTree.resolve_of_isFileName ⟨by decide, by simp, by decide⟩ rfl
  have hasks : ∀ image rest, Asks ("screen" :: image :: "out" :: rest)
      { image, output := "out", view := .frame } := fun image rest => .intro (by decide) rest
  have hquiet : log.Silences .info := LogSettings.errorsOnly_silences (by decide)
  refine ⟨hquiet, ?_, ?_, ?_⟩
  · obtain ⟨-, -, -, hjob, -, -, hzero⟩ :=
      runOn_ends_with_code log ["screen", "m", "out", "more"] store
    have hread : FileStore.read store "m" = .ok [0x12] := by
      change (store.read "m").mapError FileFault.message = _
      rw [FileTree.read_of_resolve hfound]
      rfl
    have hwrite : ∀ bytes, FileStore.write store "out" bytes = .ok (store.put ["out"] bytes) := by
      intro bytes
      change (store.write "out" bytes).mapError FileFault.message = _
      rw [FileTree.write_of_resolve hplace]
      rfl
    obtain ⟨-, hok, -⟩ := hjob _ (hasks "m" ["more"])
    have hcode : shown.1.code = 0 := by
      obtain ⟨rendering, next, hrun⟩ := DumpJob.exists_runOn_ok
        { image := "m", output := "out", view := .frame } hread (by decide)
        fun bytes => ⟨_, hwrite bytes⟩
      exact hok.mpr ⟨_, by rw [hrun, DumpJob.success]⟩
    obtain ⟨-, herr, path, file, hpath, hfile, hothers⟩ := hzero hcode
    obtain rfl : "out" = path := Option.some.inj hpath
    obtain rfl : ["out"] = file := by
      change (store.resolve "out").toOption = some file at hfile
      rw [hplace] at hfile
      exact Option.some.inj hfile
    have hother : (["n"] : Location) ≠ ["out"] := by decide
    exact ⟨hcode, herr hquiet, hothers ["n"] hother⟩
  · obtain ⟨-, -, -, hjob, -, hother, -⟩ := runOn_ends_with_code log ["screen", "x", "out"] store
    have hread : FileStore.read store "x" = .error FileFault.notFound.message := by
      change (store.read "x").mapError FileFault.message = _
      rw [FileTree.read_of_resolve hlost]
      rfl
    obtain ⟨-, -, hfailed⟩ := hjob _ (hasks "x" [])
    have hcode : missing.1.code = 1 := hfailed.mpr
      ⟨_, by rw [DumpJob.runOn_of_unreadable hread, Logged.value_pure]⟩
    exact ⟨hcode, hother (by rw [hcode]; decide)⟩
  · obtain ⟨hcode, -, -, -, -, hother, -⟩ := runOn_ends_with_code log ["Screen", "m", "out"] store
    have hmalformed : IsMalformed ["Screen", "m", "out"] := by
      refine Or.inr fun name view hname => ?_
      obtain rfl := Option.some.inj hname
      cases view <;> decide
    have hunknown : unknown.1.code = 2 := hcode.mpr hmalformed
    exact ⟨hunknown, hother (by rw [hunknown]; decide)⟩

end CommandLine

end DmgCore
