import HookMigration.PlainDecoders
import HookMigration.Proofs.Console.ControlSequences
import HookMigration.Proofs.Program.Stages

/-!
# Styles are presentation

A run writes its messages and its log lines in styles or without, as the variable `NO_COLOR` says.
Neither the exit code nor the files depend on that, and what is printed is the same once control
sequences are deleted.  In JSON the standard output is the same as it stands.

The empty text is a case of its own: messages have no styles then, while log lines keep them.  So the
lines of the error output are compared one by one, each shown in either form
(`dropSequences_renderLines`), and it is only used that the lines themselves do not depend on the
variable (`Environment.map_snd_errorLines`).

Most lines are put together from styled parts, but some have two forms that are worded apart: the
messages with a tag and those about fixed files.  These are first told in parts as well
(`FixResult.fixedLine_eq` and its like).  Every line is then `Alike`, for each part ends or begins
with a character that no control sequence goes over.

What a run prints is followed through its stages by one condition on transcripts, `Fits`: all lines
are alike in both forms, and in JSON the standard output has one form alone.
-/

namespace HookMigration

variable {output : String} {lines : List Line} {a b : Transcript}

/-! ## The lines of a listing -/

namespace Line

theorem alike_failure (text : String) : (failure text).Alike :=
  (alike_strong .red "error:").append_plain (by simp [goesOn])

theorem alike_caution (text : String) : (caution text).Alike :=
  (alike_strong .yellow "warning:").append_plain (by simp [goesOn])

theorem alike_remark (text : String) : (remark text).Alike :=
  (alike_strong .cyan "note:").append_plain (by simp [goesOn])

/-- A line without styles. -/
def Unstyled (line : Line) : Prop :=
  line.styled = line.bare

theorem unstyled_plain (text : String) : (plain text).Unstyled := rfl

theorem Unstyled.alike {line : Line} (h : line.Unstyled) : line.Alike := by
  rw [Line.Alike, h]

end Line

/-- Behind its name comes the end of a sequence, or a sign alone; so a value stands on its own. -/
theorem Line.Alike.withField {line : Line} (h : line.Alike) (field : String × String) :
    (line.withField field).Alike := by
  have hname : (line ++ plain " " ++ italic field.1 ++ faint "=").Alike :=
    (h.spaced (alike_decorated 3 field.1)).append_decorated 2 "=" (by simp [goesOn])
  have hend : (controlSequence 0).toList.getLast? = some 'm' := by decide
  refine hname.append (alike_plain field.2) (.inl ?_) (.inl ?_)
  · simp [faint, decorated, List.getLast?_cons, hend, leadsOn]
  · simp [faint, decorated, leadsOn]

theorem Line.Alike.withFields {line : Line} (h : line.Alike) (fields : List (String × String)) :
    (fields.foldl Line.withField line).Alike := by
  induction fields generalizing line with
  | nil => exact h
  | cons field rest ih => exact ih (h.withField field)

theorem LogEvent.alike_line (e : LogEvent) (time : String) : (e.line time).Alike := by
  have hlevel := (Line.alike_decorated 2 time).spaced
    (Line.alike_decorated e.level.color.code e.level.text)
  have htarget := (hlevel.spaced (Line.alike_decorated 2 e.target)).append_decorated 2 ":"
    (by simp [goesOn])
  exact (htarget.append_plain (by simp [goesOn])).withFields e.fields

theorem Severity.alike_tag (s : Severity) : s.tag.Alike := by
  cases s <;> exact Line.alike_strong _ _

theorem Severity.alike_sign (s : Severity) : s.sign.Alike := by
  cases s <;> exact Line.alike_colored _ _

theorem Issue.alike_lines (i : Issue) : ∀ line ∈ i.lines, line.Alike := by
  intro line hline
  rcases List.mem_cons.1 hline with rfl | hline
  · refine Line.Alike.append_plain ?_ (by simp [goesOn])
    exact (i.severity.alike_sign.spaced i.severity.alike_tag).spaced (Line.alike_bold _)
  · unfold Issue.changeLines at hline
    split at hline
    · rcases List.mem_cons.1 hline with rfl | hline
      · exact Line.alike_plain _
      · split_ifs at hline
        · cases hline
        · rw [List.mem_singleton.1 hline]
          exact Line.alike_plain _
    · cases hline

theorem Summary.alike_line (s : Summary) : s.line.Alike :=
  Line.alike_bold _

theorem ReportedError.alike_listed (r : ReportedError) : r.listed.Alike :=
  (Line.alike_bold _).append_plain (by simp [goesOn])

theorem Rule.alike_lines (r : Rule) : ∀ line ∈ r.lines, line.Alike := by
  intro line hline
  simp only [Rule.lines, List.mem_cons, List.not_mem_nil, or_false] at hline
  rcases hline with rfl | rfl | rfl
  · refine Line.Alike.append_plain ?_ (by simp [goesOn])
    exact r.severity.alike_tag.spaced (Line.alike_bold _)
  · exact Line.alike_plain _
  · exact Line.alike_plain _

theorem SkippedEntry.alike_line (s : SkippedEntry) : s.line.Alike :=
  Line.alike_caution _

namespace FixResult

open Line

theorem unchangedLine_eq (r : FixResult) :
    r.unchangedLine = colored .brightBlack "no changes:" ++ plain (" " ++ r.file) := by
  ext1 <;> simp [unchangedLine, colored, plain, ← String.append_assoc]

theorem fixedLine_eq (r : FixResult) :
    r.fixedLine = strong .green "✏️  fixed:" ++ plain " " ++ bold r.file ++
      plain (" (" ++ toString r.replacements ++ " replacements)") := by
  ext1 <;> simp [fixedLine, strong, bold, plain, ← String.append_assoc]

theorem bodyLine_eq (r : FixResult) (body : String) :
    r.bodyLine body =
      strong .cyan "---" ++ plain " " ++ bold r.file ++ plain ("\n" ++ body) := by
  ext1 <;> simp [bodyLine, strong, bold, plain, ← String.append_assoc]

theorem alike_unchangedLine (r : FixResult) : r.unchangedLine.Alike := by
  rw [unchangedLine_eq]
  exact (alike_colored _ _).append_plain (by simp [goesOn])

theorem alike_fixedLine (r : FixResult) : r.fixedLine.Alike := by
  rw [fixedLine_eq]
  exact ((alike_strong _ _).spaced (alike_bold _)).append_plain (by simp [goesOn])

theorem alike_bodyLine (r : FixResult) (body : String) : (r.bodyLine body).Alike := by
  rw [bodyLine_eq]
  exact ((alike_strong _ _).spaced (alike_bold _)).append_plain (by simp [goesOn])

end FixResult

/-! ## Transcripts -/

namespace Transcript

/-- Each line has two forms that are alike. -/
structure Alike (printed : Transcript) : Prop where
  out : ∀ line ∈ printed.out, line.Alike
  err : ∀ line, .message line ∈ printed.err → line.Alike

theorem alike_empty : empty.Alike :=
  ⟨List.forall_mem_nil _, fun _ h => absurd h List.not_mem_nil⟩

theorem alike_ofOut (h : ∀ line ∈ lines, line.Alike) : (ofOut lines).Alike :=
  ⟨h, fun _ h => absurd h List.not_mem_nil⟩

theorem alike_ofErr (h : ∀ line ∈ lines, line.Alike) : (ofErr lines).Alike := by
  refine ⟨List.forall_mem_nil _, fun line hline => ?_⟩
  obtain ⟨line', hmem, heq⟩ := List.mem_map.1 hline
  exact Notice.message.inj heq ▸ h line' hmem

/-- What workers log has no messages in it. -/
theorem alike_ofWorkers (workers : List (List LogEvent)) : (ofWorkers workers).Alike := by
  refine ⟨List.forall_mem_nil _, fun line hline => ?_⟩
  cases List.mem_singleton.1 hline

theorem Alike.append (ha : a.Alike) (hb : b.Alike) : (a ++ b).Alike where
  out := List.forall_mem_append.2 ⟨ha.out, hb.out⟩
  err := fun line hline => (List.mem_append.1 hline).elim (ha.err line) (hb.err line)

/-- What is printed may be styled, but not in JSON on the standard output. -/
structure Fits (output : String) (printed : Transcript) : Prop where
  alike : printed.Alike
  unstyled : asksForJson output = true → ∀ line ∈ printed.out, line.Unstyled

theorem fits_empty (output : String) : empty.Fits output :=
  ⟨alike_empty, fun _ => List.forall_mem_nil _⟩

theorem fits_ofErr (output : String) (h : ∀ line ∈ lines, line.Alike) :
    (ofErr lines).Fits output :=
  ⟨alike_ofErr h, fun _ => List.forall_mem_nil _⟩

theorem fits_ofWorkers (output : String) (workers : List (List LogEvent)) :
    (ofWorkers workers).Fits output :=
  ⟨alike_ofWorkers workers, fun _ => List.forall_mem_nil _⟩

theorem fits_ofLog (output : String) (events : List LogEvent) : (ofLog events).Fits output :=
  fits_ofWorkers output [events]

theorem fits_ofOut (output : String) (h : ∀ line ∈ lines, line.Unstyled) :
    (ofOut lines).Fits output :=
  ⟨alike_ofOut fun line hline => (h line hline).alike, fun _ => h⟩

theorem Fits.append (ha : a.Fits output) (hb : b.Fits output) : (a ++ b).Fits output :=
  ⟨ha.alike.append hb.alike,
    fun hjson => List.forall_mem_append.2 ⟨ha.unstyled hjson, hb.unstyled hjson⟩⟩

/-- A document in JSON, and a listing for a reader otherwise. -/
theorem fits_listing (output : String) (document : Json) (h : a.Alike) :
    (if asksForJson output then document.transcript else a).Fits output := by
  split_ifs with hjson
  · exact fits_ofOut _ (List.forall_mem_singleton.2 (Line.unstyled_plain _))
  · exact ⟨h, fun hjson' => absurd hjson' hjson⟩

end Transcript

open Transcript

theorem ScanResult.fits_transcript (s : ScanResult) (output : String) :
    (s.transcript output).Fits output := by
  refine fits_listing _ _ (alike_ofOut ?_)
  refine List.forall_mem_append.2 ⟨?_, List.forall_mem_singleton.2 s.summary.alike_line⟩
  exact List.forall_mem_flatMap.2 fun i _ => i.alike_lines

theorem FixResult.alike_transcript (r : FixResult) (write diff : Bool) :
    (r.transcript write diff).Alike := by
  unfold FixResult.transcript
  split
  · exact alike_ofOut (List.forall_mem_singleton.2 r.alike_unchangedLine)
  · split
    · exact alike_ofErr (List.forall_mem_singleton.2 (Line.alike_failure _))
    · split
      · exact alike_ofOut (List.forall_mem_singleton.2 r.alike_fixedLine)
      · split
        · exact alike_ofOut (List.forall_mem_singleton.2 (r.alike_bodyLine _))
        · exact alike_empty

theorem alike_foldl_transcript (results : List FixResult) (write diff : Bool) (h : a.Alike) :
    (results.foldl (fun printed r => printed ++ r.transcript write diff) a).Alike := by
  induction results generalizing a with
  | nil => exact h
  | cons r rest ih => exact ih (h.append (r.alike_transcript write diff))

theorem fits_fixTranscript (results : List FixResult) (output : String) (write diff : Bool) :
    (fixTranscript results output write diff).Fits output :=
  fits_listing _ _ (alike_foldl_transcript results write diff alike_empty)

theorem fits_reportTranscript (errors : List ReportedError) (output : String) :
    (reportTranscript errors output).Fits output := by
  refine fits_listing _ _ (alike_ofOut ?_)
  refine List.forall_mem_append.2 ⟨?_, List.forall_mem_singleton.2 (Line.alike_bold _)⟩
  exact List.forall_mem_map.2 fun r _ => r.alike_listed

theorem fits_skippedTranscript (skipped : List SkippedEntry) (output : String) :
    (skippedTranscript skipped).Fits output :=
  fits_ofErr _ (List.forall_mem_map.2 fun s _ => s.alike_line)

theorem FileTree.fits_scanLog [PatternEngine] (t : FileTree) (root : String) (rules : RuleSet)
    (patterns : List String) (output : String) : (t.scanLog root rules patterns).Fits output := by
  unfold scanLog
  split
  · exact (fits_ofLog _ _).append ((fits_ofWorkers _ _).append (fits_ofLog _ _))
  · exact fits_empty _

theorem FileTree.fits_fixLog (t : FileTree) (root : String) (rules : RuleSet)
    (patterns : List String) (strip : Bool) (output : String) :
    (t.fixLog root rules patterns strip).Fits output := by
  unfold fixLog
  split
  · exact fits_ofWorkers _ _
  · exact fits_empty _

theorem fits_rulesTranscript (rules : RuleSet) (skipped : List SkippedEntry) (output : String) :
    (rulesTranscript rules skipped output).Fits output := by
  refine fits_listing _ _ (Alike.append (alike_ofOut ?_) (fits_skippedTranscript _ output).alike)
  exact List.forall_mem_flatMap.2 fun r _ => r.alike_lines

theorem unstyled_helpLines : ∀ line ∈ helpLines, line.Unstyled := by
  simp [helpLines, Line.Unstyled, Line.plain]

theorem UsageStop.fits_transcript (stop : UsageStop) (output : String) :
    stop.transcript.Fits output := by
  have hhelp : ∀ line ∈ helpLines, line.Alike := fun line hline =>
    (unstyled_helpLines line hline).alike
  unfold UsageStop.transcript
  split
  · exact fits_ofOut _ unstyled_helpLines
  · exact fits_ofOut _ (List.forall_mem_singleton.2 (Line.unstyled_plain _))
  · exact fits_ofErr _ hhelp
  · exact fits_ofErr _ (List.forall_mem_singleton.2 (Line.alike_plain _))

/-! ## Runs -/

namespace Effective

variable [Decoders]

theorem fits_remarks (e : Effective) (t : FileTree) (output : String) :
    (e.remarks t).Fits output := by
  refine (fits_ofLog _ _).append ?_
  split_ifs
  · exact fits_ofErr _ (List.forall_mem_singleton.2 (Line.alike_remark _))
  · exact fits_empty _

/-- What is printed before the work fits any form of output. -/
theorem carried_fits (e : Effective) (t : FileTree) (output : String) :
    e.Carried t fun o => o.printed.Fits output where
  failed _ := fits_ofErr _ (List.forall_mem_singleton.2 (Line.alike_failure _))
  logged events _ h := (fits_ofLog output events).append h
  remarks _ h := (e.fits_remarks t output).append h
  skipped entries _ h := (fits_skippedTranscript entries output).append h

variable [PatternEngine]

theorem fits_scan (e : Effective) (t : FileTree) : (e.scan t).printed.Fits e.output :=
  (e.carried_fits t e.output).warningOfSkipped fun _ _ =>
    Outcome.of_bind (fun o => o.printed.Fits e.output) fun found =>
      (t.fits_scanLog ..).append ((found.result e.minSeverity).fits_transcript e.output)

theorem fits_fix (e : Effective) (t : FileTree) : (e.fix t).printed.Fits e.output :=
  (e.carried_fits t e.output).warningOfSkipped fun _ _ =>
    Outcome.of_bind (fun o => o.printed.Fits e.output) fun fixed =>
      (t.fits_fixLog ..).append (fits_fixTranscript fixed.1 e.output e.writes e.diff)

theorem fits_report (e : Effective) (t : FileTree) (diagnostics : String) :
    (e.report t diagnostics).printed.Fits e.output :=
  (e.carried_fits t e.output).warningOfSkipped fun _ _ =>
    Outcome.of_bind (fun o => o.printed.Fits e.output) fun _ =>
      fits_reportTranscript _ e.output

theorem fits_listRules (e : Effective) (t : FileTree) :
    (e.listRules t).printed.Fits e.output := by
  refine (e.carried_fits t e.output).withRules fun loaded o ho => ?_
  rw [← Except.ok.inj ho]
  exact fits_rulesTranscript _ _ _

end Effective

theorem Command.fits_run [PatternEngine] [Decoders] (c : Command) (t : FileTree) :
    (c.run t).printed.Fits (Config.resolve t c.overrides).output := by
  cases c with
  | version => exact fits_ofOut _ (List.forall_mem_singleton.2 (Line.unstyled_plain _))
  | scan => exact (fits_ofLog _ _).append (Effective.fits_scan _ t)
  | fix => exact (fits_ofLog _ _).append (Effective.fits_fix _ t)
  | report => exact (fits_ofLog _ _).append (Effective.fits_report _ t _)
  | rules => exact (fits_ofLog _ _).append (Effective.fits_listRules _ t)

/-! ## What is seen of a run -/

namespace Environment

variable {env : Environment} {printed : Transcript}

/-- Which lines there are on the error output does not depend on styles. -/
theorem map_snd_errorLines (env : Environment) (noColor : Option String) (logged : Nat)
    (items : List (Line ⊕ LogEvent)) :
    ({ env with noColor := noColor }.errorLines logged items).map Prod.snd =
      (env.errorLines logged items).map Prod.snd := by
  induction items generalizing logged with
  | nil => rfl
  | cons item rest ih =>
      cases item with
      | inl line => exact congrArg (line :: ·) (ih logged)
      | inr e => exact congrArg (e.line (env.clock logged) :: ·) (ih (logged + 1))

theorem alike_errorLines {items : List (Line ⊕ LogEvent)} (logged : Nat)
    (h : ∀ line, .inl line ∈ items → line.Alike) :
    ∀ l ∈ env.errorLines logged items, l.2.Alike := by
  induction items generalizing logged with
  | nil => exact List.forall_mem_nil _
  | cons item rest ih =>
      have hrest : ∀ line, .inl line ∈ rest → line.Alike := fun line hline =>
        h line (List.mem_cons_of_mem item hline)
      cases item with
      | inl line =>
          exact List.forall_mem_cons.2 ⟨h line List.mem_cons_self, ih logged hrest⟩
      | inr e =>
          exact List.forall_mem_cons.2 ⟨e.alike_line _, ih (logged + 1) hrest⟩

theorem message_of_mem_shown {line : Line}
    (h : .inl line ∈ printed.err.flatMap env.shown) : .message line ∈ printed.err := by
  obtain ⟨notice, hnotice, hline⟩ := List.mem_flatMap.1 h
  cases notice with
  | message line' => rwa [Sum.inl.inj (List.mem_singleton.1 hline)]
  | log workers => simp [shown] at hline

/-- Control sequences apart, the error output has the same lines in every environment that differs in
styles alone. -/
theorem dropSequences_stderr (env : Environment) (noColor : Option String) (h : printed.Alike) :
    dropSequences ({ env with noColor := noColor }.stderr printed).toList =
      dropSequences (env.stderr printed).toList := by
  have hlines (env : Environment) :
      ∀ l ∈ env.errorLines 0 (printed.err.flatMap env.shown), l.2.Alike :=
    alike_errorLines 0 fun line hline => h.err line (message_of_mem_shown hline)
  have hsame : ({ env with noColor := noColor }.errorLines 0
      (printed.err.flatMap env.shown)).map Prod.snd =
        (env.errorLines 0 (printed.err.flatMap env.shown)).map Prod.snd :=
    map_snd_errorLines ..
  unfold stderr
  rw [dropSequences_renderLines (hlines _), dropSequences_renderLines (hlines _)]
  exact congrArg (List.flatMap _) hsame

theorem dropSequences_stdout (env : Environment) (noColor : Option String) (h : printed.Alike) :
    dropSequences ({ env with noColor := noColor }.stdout printed).toList =
      dropSequences (env.stdout printed).toList := by
  have hlines (styled : Bool) : ∀ l ∈ printed.out.map fun line => (styled, line), l.2.Alike :=
    List.forall_mem_map.2 h.out
  unfold stdout
  rw [dropSequences_renderLines (hlines _), dropSequences_renderLines (hlines _)]
  simp only [List.map_map, Function.comp_def]

theorem stdout_of_unstyled (env : Environment) (noColor : Option String)
    (h : ∀ line ∈ printed.out, line.Unstyled) :
    { env with noColor := noColor }.stdout printed = env.stdout printed := by
  have hrender (styled styled' : Bool) : ∀ line ∈ printed.out,
      line.render styled = line.render styled' := by
    intro line hline
    have hforms : line.styled = line.bare := h line hline
    cases styled <;> cases styled' <;> simp [Line.render, hforms]
  unfold stdout renderLines
  rw [List.map_map, List.map_map]
  refine congrArg Text.concat (List.map_congr_left fun line hline => ?_)
  exact congrArg (· ++ "\n") (hrender _ _ line hline)

end Environment

/-- Two runs that differ at most in the control sequences that they print. -/
structure Effects.Alike (styled bare : Effects) : Prop where
  exitCode : styled.exitCode = bare.exitCode
  tree : styled.tree = bare.tree
  stdout : dropSequences styled.stdout.toList = dropSequences bare.stdout.toList
  stderr : dropSequences styled.stderr.toList = dropSequences bare.stderr.toList
  /-- If the texts themselves have no escape character, nothing but the styles is deleted. -/
  stdout_eq : '\x1b' ∉ bare.stdout.toList →
    dropSequences styled.stdout.toList = bare.stdout.toList
  stderr_eq : '\x1b' ∉ bare.stderr.toList →
    dropSequences styled.stderr.toList = bare.stderr.toList

theorem Outcome.alike_effects {o : Outcome} (h : o.printed.Alike) (env : Environment)
    (value : String) : (o.effects { env with noColor := none }).Alike
      (o.effects { env with noColor := some value }) := by
  have hstdout := Environment.dropSequences_stdout { env with noColor := some value } none h
  have hstderr := Environment.dropSequences_stderr { env with noColor := some value } none h
  exact {
    exitCode := rfl
    tree := rfl
    stdout := hstdout
    stderr := hstderr
    stdout_eq := fun hescape => hstdout.trans (dropSequences_eq_self hescape)
    stderr_eq := fun hescape => hstderr.trans (dropSequences_eq_self hescape) }

namespace CommandLine

theorem alike_run [PatternEngine] [Decoders] (t : FileTree) (arguments : List String) :
    (run t arguments).printed.Alike := by
  unfold run
  split
  · exact (Command.fits_run _ t).alike
  · exact (UsageStop.fits_transcript _ "").alike

/-- Whether the variable `NO_COLOR` is set, and to what, changes neither the exit code nor the files,
and no more than control sequences in what is printed and logged.  In JSON it does not change the
standard output at all. -/
theorem styles_are_presentation [PatternEngine] [Decoders] (env : Environment) (t : FileTree)
    (arguments : List String) (value : String) :
    (execute { env with noColor := none } t arguments).Alike
      (execute { env with noColor := some value } t arguments) ∧
    ∀ c, read arguments = .ok c → asksForJson (Config.resolve t c.overrides).output = true →
      (execute { env with noColor := none } t arguments).stdout =
        (execute { env with noColor := some value } t arguments).stdout := by
  refine ⟨Outcome.alike_effects (alike_run t arguments) env value, fun c hc hjson => ?_⟩
  have hrun : run t arguments = c.run t := by
    unfold run
    rw [hc]
  unfold execute
  rw [hrun]
  exact Environment.stdout_of_unstyled { env with noColor := some value } none
    ((c.fits_run t).unstyled hjson)

end CommandLine

/-- A folder with a hook file that names one removed hook, and has an item without a name. -/
def hookTree : FileTree where
  files := [(["hooks.json"], "[\x7b\"old\": \"Bar\"\x7d, \x7b\x7d]".toUTF8)]
  folders := []
  home := []

section Plain

attribute [local instance] PatternEngine.usual Decoders.plain

/-- The rule of that folder is listed in styles, and without them where `NO_COLOR` is set; the warning
in the log keeps them where it is set to the empty text.  In JSON nothing changes. -/
theorem CommandLine.styles_are_presentation_rules :
    let shown := fun noColor =>
      execute (.usual noColor) hookTree ["rules", "--rules", "hooks.json"]
    let document := fun noColor =>
      execute (.usual noColor) hookTree ["rules", "--rules", "hooks.json", "--output", "json"]
    (shown none).stdout ≠ (shown (some "1")).stdout ∧
      dropSequences (shown none).stdout.toList = (shown (some "1")).stdout.toList ∧
      (shown (some "")).stderr ≠ (shown (some "1")).stderr ∧
      dropSequences (shown none).stderr.toList = dropSequences (shown (some "1")).stderr.toList ∧
      (document none).stdout = (document (some "")).stdout := by
  intro shown document
  have hjson : asksForJson (Config.resolve hookTree
      (Command.rules ⟨none, some "hooks.json", some "json"⟩).overrides).output = true := by
    decide +kernel
  have hstyles := (styles_are_presentation (.usual none) hookTree
    ["rules", "--rules", "hooks.json"] "1").1
  refine ⟨by decide +kernel, hstyles.stdout_eq (by decide +kernel), by decide +kernel,
    hstyles.stderr, ?_⟩
  exact (styles_are_presentation (.usual none) hookTree _ "").2 _ (by rfl) hjson

end Plain

end HookMigration
