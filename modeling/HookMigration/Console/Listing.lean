import HookMigration.Console.Documents
import HookMigration.Console.Transcript
import HookMigration.Json.Printer

/-!
# Listings

What each command prints for a reader, and the choice between that and its JSON form.  Messages
about the run itself, which begin with a tag such as `error:`, go to the error output.
-/

namespace HookMigration

/-- The colour that stands for a severity. -/
def Severity.color : Severity → Color
  | .error => .red
  | .warning => .yellow
  | .info => .blue

/-- The tag for a severity. -/
def Severity.tag : Severity → Line
  | .error => .strong .red "⟦error⟧"
  | .warning => .strong .yellow "⟦warn⟧"
  | .info => .strong .blue "⟦info⟧"

/-- The sign for a severity. -/
def Severity.sign : Severity → Line
  | .error => .colored .red "✖"
  | .warning => .colored .yellow "▲"
  | .info => .colored .blue "◆"

namespace Line

/-- A message about a failure. -/
def failure (text : String) : Line :=
  ⟨embolden (Color.red.paint "error:"), "error:"⟩ ++ plain (" " ++ text)

/-- A message about something that was passed over. -/
def caution (text : String) : Line :=
  ⟨embolden (Color.yellow.paint "warning:"), "warning:"⟩ ++ plain (" " ++ text)

/-- A remark. -/
def remark (text : String) : Line :=
  ⟨embolden (Color.cyan.paint "note:"), "note:"⟩ ++ plain (" " ++ text)

end Line

/-- A message with what lies behind it. -/
def withCause (message : String) : Option String → String
  | some cause => message ++ ": " ++ cause
  | none => message

/-- Whether the JSON form is asked for. -/
def asksForJson (output : String) : Bool :=
  output == "json"

/-- A document as it is printed. -/
def Json.transcript (document : Json) : Transcript :=
  .ofOut [.plain document.text]

namespace Issue

/-- The file and the place of an issue, counted from one. -/
def place (i : Issue) : String :=
  i.file ++ ":" ++ toString (Word.next i.line) ++ ":" ++ toString (Word.next i.column)

/-- What was found and what it should become, where both are known; an empty replacement is not
shown. -/
def changeLines (i : Issue) : List Line :=
  match i.matched, i.replacement with
  | some matched, some replacement =>
    .plain ("    - " ++ matched) ::
      (if replacement = "" then [] else [.plain ("    + " ++ replacement)])
  | _, _ => []

/-- An issue. -/
def lines (i : Issue) : List Line :=
  (i.severity.sign ++ Line.plain " " ++ i.severity.tag ++ Line.plain " " ++ Line.bold i.place ++
      Line.plain (" ❲" ++ i.rule ++ "❳ — " ++ i.message)) ::
    i.changeLines

end Issue

/-- A summary in one line. -/
def Summary.line (s : Summary) : Line :=
  .bold ("— Summary — errors=" ++ toString s.errors ++ " warnings=" ++ toString s.warnings ++
    " infos=" ++ toString s.infos ++ " files=" ++ toString s.files)

/-- What a scan prints. -/
def ScanResult.transcript (s : ScanResult) (output : String) : Transcript :=
  if asksForJson output then s.json.transcript
  else .ofOut (s.issues.flatMap Issue.lines ++ [s.summary.line])

namespace FixResult

/-- What is shown of a change that is not written: the diff where it is asked for and can be made,
or else the new text. -/
def body? (r : FixResult) (diff : Bool) : Option String :=
  if diff then (LineDiff.ofTexts? r.before r.preview).or r.preview else r.preview

/-- The line for a file that stays as it is. -/
def unchangedLine (r : FixResult) : Line where
  styled := Color.brightBlack.paint "no changes:" ++ " " ++ r.file
  bare := "no changes: " ++ r.file

/-- The line for a file that was written. -/
def fixedLine (r : FixResult) : Line where
  styled := embolden (Color.green.paint "✏️  fixed:") ++ " " ++ embolden r.file ++ " (" ++
    toString r.replacements ++ " replacements)"
  bare := "✏️  fixed: " ++ r.file ++ " (" ++ toString r.replacements ++ " replacements)"

/-- What is shown of a change, behind the name of its file. -/
def bodyLine (r : FixResult) (body : String) : Line where
  styled := embolden (Color.cyan.paint "---") ++ " " ++ embolden r.file ++ "\n" ++ body
  bare := "--- " ++ r.file ++ "\n" ++ body

/-- What is printed about one file. -/
def transcript (r : FixResult) (write diff : Bool) : Transcript :=
  if !r.changed then .ofOut [r.unchangedLine]
  else match r.error with
    | some e => .ofErr [.failure ("failed to write " ++ r.file ++ ": " ++ e)]
    | none =>
      if write then .ofOut [r.fixedLine]
      else match r.body? diff with
        | some body => .ofOut [r.bodyLine body]
        | none => .empty

end FixResult

/-- What a fix prints. -/
def fixTranscript (results : List FixResult) (output : String) (write diff : Bool) : Transcript :=
  if asksForJson output then (fixJson results write diff).transcript
  else results.foldl (fun t r => t ++ r.transcript write diff) .empty

/-- A reported error in one line. -/
def ReportedError.listed (e : ReportedError) : Line :=
  Line.bold e.location.display ++ Line.plain (" — " ++ e.text)

/-- What a report prints. -/
def reportTranscript (errors : List ReportedError) (output : String) : Transcript :=
  if asksForJson output then (reportJson errors).transcript
  else .ofOut (errors.map ReportedError.listed ++
    [Line.bold ("— " ++ toString errors.length ++ " error(s) —")])

/-- The word for the kind of a rule in a listing. -/
def Change.listedKind : Change → String
  | .migration _ => "Migration"
  | .removal => "Removal"

/-- A rule with its pattern and its replacement. -/
def Rule.lines (r : Rule) : List Line :=
  [r.severity.tag ++ Line.plain " " ++ Line.bold r.id ++
      Line.plain (" [" ++ r.change.listedKind ++ "] " ++ r.title),
    .plain ("    pattern:  " ++ r.pattern.text),
    .plain ("    replace:  " ++ if r.template.isEmpty then "(remove)" else r.template.display)]

/-- A warning about an entry that makes no rule. -/
def SkippedEntry.line (e : SkippedEntry) : Line :=
  .caution ("skipped " ++ withCause e.message e.cause?)

/-- The warnings about entries that make no rule. -/
def skippedTranscript (skipped : List SkippedEntry) : Transcript :=
  .ofErr (skipped.map SkippedEntry.line)

/-- What the listing of rules prints. -/
def rulesTranscript (rules : RuleSet) (skipped : List SkippedEntry) (output : String) :
    Transcript :=
  if asksForJson output then (rulesJson rules skipped).transcript
  else .ofOut (rules.rules.flatMap Rule.lines) ++ skippedTranscript skipped

end HookMigration
