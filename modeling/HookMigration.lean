import HookMigration.Main
import HookMigration.Proofs.Text.Classes
import HookMigration.Proofs.Text.Runs
import HookMigration.Proofs.Regex.Basic
import HookMigration.Proofs.Signature.Parsed
import HookMigration.Proofs.Signature.Splitting
import HookMigration.Proofs.Signature.Tokens
import HookMigration.Proofs.Pattern.Notation
import HookMigration.Proofs.Pattern.Matcher
import HookMigration.Proofs.Migration.Occurrence
import HookMigration.Proofs.Migration.Meaning
import HookMigration.Proofs.Migration.Reading
import HookMigration.Proofs.Migration.Rendering
import HookMigration.Proofs.Calls.Basic
import HookMigration.Proofs.Calls.Stretches
import HookMigration.Proofs.RuleSet.Compiled
import HookMigration.Proofs.Calls.Migrations
import HookMigration.Proofs.RuleSet.FixedPoint
import HookMigration.Proofs.Text.Edits
import HookMigration.Proofs.Calls.Edits
import HookMigration.Proofs.RuleSet.Suggestions
import HookMigration.Proofs.RuleSet.OwnSignature
import HookMigration.Proofs.Signature.Grammar
import HookMigration.Proofs.RuleSet.Ids
import HookMigration.Proofs.Pattern.Scanning
import HookMigration.Proofs.Removal.Spacing
import HookMigration.Proofs.Removal.OwnText
import HookMigration.Proofs.Files.Writing
import HookMigration.Proofs.Files.Fixing
import HookMigration.Proofs.Program.FixModes
import HookMigration.Proofs.Records.Edits
import HookMigration.Proofs.Records.Compiled
import HookMigration.Proofs.Records.Occurrences
import HookMigration.Proofs.RuleSet.Supplied
import HookMigration.Proofs.RuleSet.KeptNames
import HookMigration.Proofs.RuleSet.Conforming
import HookMigration.Proofs.Files.ScanAndFix
import HookMigration.Proofs.RuleSet.Merging
import HookMigration.Proofs.Hooks.Items
import HookMigration.Proofs.Hooks.Outcomes
import HookMigration.Proofs.Program.Thresholds
import HookMigration.Proofs.RuleSet.Diagnostics
import HookMigration.Proofs.RuleSet.AddedNames
import HookMigration.Proofs.RuleSet.Respacing
import HookMigration.Proofs.Text.Substitution
import HookMigration.Proofs.Removal.Expression
import HookMigration.Proofs.Removal.Meaning
import HookMigration.Proofs.Signature.Display
import HookMigration.Text.LineIndex
import HookMigration.Proofs.Files.Trails
import HookMigration.Proofs.Records.LineIndex
import HookMigration.Proofs.Files.Targets
import HookMigration.Proofs.Files.Ancestors
import HookMigration.Proofs.Config.Resolution
import HookMigration.Proofs.Signature.SplitPoints
import HookMigration.Proofs.Template.Reading
import HookMigration.Proofs.Console.ControlSequences
import HookMigration.Proofs.Text.LineDiff
import HookMigration.Proofs.Program.Styles
import HookMigration.Proofs.Program.Warnings
