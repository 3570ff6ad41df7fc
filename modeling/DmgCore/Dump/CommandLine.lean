import DmgCore.Dump.Job

/-!
The command line of the dump tool.

Three arguments are needed: the view, the snapshot and the output; more are
ignored. The exit code is `0` when the picture was written, `1` when the job
failed, and `2` when the arguments do not make a job. A defect ends the tool with
`101` and without a message of its own.

The records that a job sends are shown on standard error, as far as the environment
asks for them.
-/

namespace DmgCore

namespace CommandLine

/-- How the tool is called. -/
def usage : String := "Usage: vram_dump <tiles|bg|frame> <memory_image> <out_rgb24_path>"

/-- Why arguments do not make a job. -/
inductive ArgumentFault where
  /-- There are fewer than three. -/
  | missing
  /-- The first is not the name of a view. -/
  | unknownView (name : String)
  deriving DecidableEq, Repr

/-- What the tool says about its arguments, line by line. -/
def ArgumentFault.lines : ArgumentFault → List String
  | missing => [usage]
  | unknownView name => [View.unknownMessage name, usage]

/-- The job that arguments ask for. The view is looked at first. -/
def parse : List String → Except ArgumentFault DumpJob
  | [] => .error .missing
  | name :: paths =>
    match View.ofName? name, paths with
    | none, _ => .error (.unknownView name)
    | some view, image :: output :: _ => .ok { image, output, view }
    | some _, _ => .error .missing

/-- What a run of the tool leaves behind, files apart. -/
structure Outcome where
  code : UInt32
  /-- The lines written to standard output. -/
  out : List String := []
  /-- The lines written to standard error. -/
  err : List String := []
  deriving DecidableEq, Repr

/-- The line that tells what was written. -/
def successLine (job : DumpJob) (summary : DumpSummary) : String :=
  s!"Wrote {summary.bytes} bytes ({summary.width}x{summary.height} rgb24) to '{job.output}'"

/-- What a job leaves behind, with what is shown of the log before it ends. -/
def outcome (log : LogSettings) (job : DumpJob)
    (answer : Logged (Except DumpFault DumpSummary)) : Outcome :=
  let shown := log.lines answer.records
  match answer.value with
  | .ok summary => { code := 0, out := [successLine job summary], err := shown }
  | .error fault =>
    match fault.message? with
    | some text => { code := 1, err := shown ++ [s!"vram_dump: {text}"] }
    | none => { code := 101, err := shown }

/-- Runs the tool with its arguments, where the environment asks for some of the log. -/
def run {m : Type → Type} [Monad m] [FileAccess m] (log : LogSettings) (args : List String) :
    m Outcome := do
  match parse args with
  | .error fault => return { code := 2, err := fault.lines }
  | .ok job => return outcome log job (← job.run)

end CommandLine

end DmgCore
