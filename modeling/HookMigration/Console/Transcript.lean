import HookMigration.Console.Log

/-!
# Transcripts

What a run prints, before it is decided how it is shown.  The error output has messages and log events
in one order; which events are logged, at what times, in which order those of workers come, and
whether styles are used, is a matter of the environment of the run.
-/

namespace HookMigration

/-- A part of the error output. -/
inductive Notice
  | message (line : Line)
  /-- What workers log that run side by side. -/
  | log (workers : List (List LogEvent))
  deriving DecidableEq, Repr

/-- What a run prints on its standard output and on its error output. -/
structure Transcript where
  out : List Line
  err : List Notice
  deriving DecidableEq, Repr

namespace Transcript

/-- Nothing printed. -/
def empty : Transcript := ⟨[], []⟩

/-- Lines of the standard output. -/
def ofOut (lines : List Line) : Transcript := ⟨lines, []⟩

/-- Messages of the error output. -/
def ofErr (lines : List Line) : Transcript := ⟨[], lines.map .message⟩

/-- Events of one worker. -/
def ofLog (events : List LogEvent) : Transcript := ⟨[], [.log [events]]⟩

/-- Events of workers that run side by side. -/
def ofWorkers (workers : List (List LogEvent)) : Transcript := ⟨[], [.log workers]⟩

instance : Append Transcript := ⟨fun a b => ⟨a.out ++ b.out, a.err ++ b.err⟩⟩

end Transcript

/-- What decides how a transcript is shown. -/
structure Environment where
  /-- The value of the variable `NO_COLOR`, if it is set. -/
  noColor : Option String
  /-- Whether an event is logged. -/
  logs : LogEvent → Bool
  /-- The time of a log line, given how many there were before it. -/
  clock : Nat → String
  schedule : Schedule

namespace Environment

/-- An environment in which warnings are logged, and where the time is not known. -/
def usual (noColor : Option String) : Environment where
  noColor := noColor
  logs e := e.level = .warn
  clock _ := "<unknown time>"
  schedule := .inTurn

/-- The same environment without a log. -/
def silent (env : Environment) : Environment :=
  { env with logs := fun _ => false }

/-- Messages have styles unless `NO_COLOR` is set, be it to the empty text. -/
def stylesMessages (env : Environment) : Bool :=
  env.noColor.isNone

/-- Log lines have styles unless `NO_COLOR` is set to a text that is not empty. -/
def stylesLog (env : Environment) : Bool :=
  env.noColor.getD "" = ""

/-- What is shown of a part of the error output. -/
def shown (env : Environment) : Notice → List (Line ⊕ LogEvent)
  | .message line => [.inl line]
  | .log workers => ((env.schedule.merge workers).filter env.logs).map .inr

/-- The lines of the error output, each with whether it is styled, where `logged` log lines have been
written before. -/
def errorLines (env : Environment) (logged : Nat) : List (Line ⊕ LogEvent) → List (Bool × Line)
  | [] => []
  | .inl line :: rest => (env.stylesMessages, line) :: env.errorLines logged rest
  | .inr e :: rest =>
    (env.stylesLog, e.line (env.clock logged)) :: env.errorLines (logged + 1) rest

/-- The text of the standard output. -/
def stdout (env : Environment) (printed : Transcript) : String :=
  renderLines (printed.out.map fun line => (env.stylesMessages, line))

/-- The text of the error output. -/
def stderr (env : Environment) (printed : Transcript) : String :=
  renderLines (env.errorLines 0 (printed.err.flatMap env.shown))

end Environment

end HookMigration
