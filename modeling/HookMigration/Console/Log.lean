import HookMigration.Console.Styled

/-!
# Log lines

Beside its messages a run logs what it does.  A log line shows the time, a level, the part of the
program that logs, a message, and values with names.

Files are read by workers that run side by side, so the events of different workers come in an order
that is not known, while each worker's own stay in theirs.  A `Schedule` is one such order.
-/

namespace HookMigration

/-- The levels that are in use. -/
inductive LogLevel
  | warn
  | debug
  deriving DecidableEq, Repr

namespace LogLevel

/-- A level as it is shown, always five characters wide. -/
def text : LogLevel → String
  | .warn => " WARN"
  | .debug => "DEBUG"

/-- The colour of a level. -/
def color : LogLevel → Color
  | .warn => .yellow
  | .debug => .blue

end LogLevel

/-- Something that is logged. -/
structure LogEvent where
  level : LogLevel
  /-- The part of the program that logs it. -/
  target : String
  message : String
  /-- Values with their names. -/
  fields : List (String × String)
  deriving DecidableEq, Repr

namespace Line

/-- A text behind the sequence with a number, which is undone as a whole. -/
def decorated (code : Nat) (text : String) : Line :=
  ⟨controlSequence code ++ text ++ controlSequence 0, text⟩

/-- A faint text. -/
def faint (text : String) : Line := decorated 2 text

/-- A text in italics. -/
def italic (text : String) : Line := decorated 3 text

/-- A line with one more value. -/
def withField (line : Line) (field : String × String) : Line :=
  line ++ plain " " ++ italic field.1 ++ faint "=" ++ plain field.2

end Line

/-- The line for an event that is logged at a time. -/
def LogEvent.line (e : LogEvent) (time : String) : Line :=
  e.fields.foldl Line.withField
    (Line.faint time ++ Line.plain " " ++ Line.decorated e.level.color.code e.level.text ++
      Line.plain " " ++ Line.faint e.target ++ Line.faint ":" ++ Line.plain (" " ++ e.message))

/-- An order in which the events of workers come: all of them, and those of each worker in the order
in which it logs them. -/
structure Schedule where
  merge : List (List LogEvent) → List LogEvent
  perm : ∀ workers, (merge workers).Perm workers.flatten
  sublist : ∀ (workers : List (List LogEvent)) (events : List LogEvent),
    events ∈ workers → events.Sublist (merge workers)

/-- One worker after the other. -/
def Schedule.inTurn : Schedule where
  merge := List.flatten
  perm _ := .refl _
  sublist _ _ := List.sublist_flatten_of_mem

end HookMigration
