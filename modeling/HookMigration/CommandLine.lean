import HookMigration.Severity

/-!
# Command lines

A command line is a verb with options behind it.  Options are long names; one that takes a value
takes it behind an equals sign or as the next argument, which must not begin with a dash unless it
is the dash alone.  Every option but `--pattern` may be given once.  Nothing stands beside options;
`--` ends them and adds nothing.

An option that takes the next argument is settled only when the next option comes or the arguments
end: only then is its value judged, so that an argument that nobody knows is reported before it.
-/

namespace HookMigration

/-- The options that every verb but `version` knows. -/
structure CommonOptions where
  repoRoot : Option String
  rules : Option String
  output : Option String
  deriving DecidableEq, Repr

/-- What a command line asks for. -/
inductive Command
  | version
  | scan (common : CommonOptions) (patterns : List String) (minSeverity : Option Severity)
  | fix (common : CommonOptions) (patterns : List String) (write diff check strip : Bool)
  | report (common : CommonOptions) (diagnostics : String) (minSeverity : Option Severity)
  | rules (common : CommonOptions)
  deriving DecidableEq, Repr

/-- Why a command line does not run a command. -/
inductive UsageStop
  /-- Help is asked for. -/
  | help
  /-- The version is asked for. -/
  | version
  /-- There is no verb. -/
  | noVerb
  /-- The verb is unknown. -/
  | unknownVerb (word : String)
  /-- The argument is no option of the verb. -/
  | unknownArgument (argument : String)
  /-- The option lacks its value. -/
  | missingValue (option : String)
  /-- The option is given twice. -/
  | repeated (option : String)
  /-- The option takes no value. -/
  | unneededValue (option : String)
  /-- The value is no severity. -/
  | unknownSeverity (word : String)
  /-- The option is required. -/
  | missingOption (option : String)
  deriving DecidableEq, Repr

namespace UsageStop

/-- Whether the user asked for what is printed. -/
def isAnswer : UsageStop → Bool
  | .help | .version => true
  | _ => false

/-- The wording of what is wrong with a command line. -/
def message : UsageStop → String
  | .help | .version | .noVerb => ""
  | .unknownVerb word => "unrecognized subcommand '" ++ word ++ "'"
  | .unknownArgument argument => "unexpected argument '" ++ argument ++ "' found"
  | .missingValue option => "a value is required for '" ++ option ++ "' but none was supplied"
  | .repeated option => "the argument '" ++ option ++ "' cannot be used multiple times"
  | .unneededValue option => "unexpected value for '" ++ option ++ "' found"
  | .unknownSeverity word => Severity.unknownMessage word
  | .missingOption option => "the required argument '" ++ option ++ "' was not provided"

end UsageStop

namespace CommandLine

/-- The options. -/
inductive Flag
  | repoRoot
  | rules
  | output
  | pattern
  | minSeverity
  | write
  | diff
  | check
  | strip
  | diagnostics
  | help
  deriving DecidableEq, Repr

namespace Flag

/-- The name of an option, without its dashes. -/
def name : Flag → String
  | .repoRoot => "repo-root"
  | .rules => "rules"
  | .output => "output"
  | .pattern => "pattern"
  | .minSeverity => "min-severity"
  | .write => "write"
  | .diff => "diff"
  | .check => "check"
  | .strip => "strip"
  | .diagnostics => "diagnostics"
  | .help => "help"

/-- An option as it is written. -/
def written (f : Flag) : String :=
  "--" ++ f.name

/-- Whether an option takes a value. -/
def takesValue : Flag → Bool
  | .write | .diff | .check | .strip | .help => false
  | _ => true

/-- Whether an option may be given more than once. -/
def repeats : Flag → Bool
  | .pattern => true
  | _ => false

/-- The options that every verb but `version` knows. -/
def common : List Flag :=
  [.repoRoot, .rules, .output]

end Flag

/-- The verbs. -/
inductive Verb
  | version
  | scan
  | fix
  | report
  | rules
  deriving DecidableEq, Repr

namespace Verb

/-- The verb for a word. -/
def ofWord? : String → Option Verb
  | "version" => some .version
  | "scan" => some .scan
  | "fix" => some .fix
  | "report" => some .report
  | "rules" => some .rules
  | _ => none

/-- The options of a verb. -/
def flags : Verb → List Flag
  | .version => [.help]
  | .scan => .help :: .pattern :: .minSeverity :: Flag.common
  | .fix => .help :: .pattern :: .write :: .diff :: .check :: .strip :: Flag.common
  | .report => .help :: .diagnostics :: .minSeverity :: Flag.common
  | .rules => .help :: Flag.common

/-- The option of a verb that has a name. -/
def flag? (v : Verb) (name : String) : Option Flag :=
  v.flags.find? (·.name == name)

end Verb

/-- The kinds of arguments by their form. -/
inductive Shape
  /-- The argument `--`. -/
  | dashes
  /-- An argument that begins with two dashes: a name, and a value behind an equals sign. -/
  | long (name : String) (value : Option String)
  /-- An argument that begins with one dash, and what follows the dash. -/
  | short (letters : List Char)
  /-- Any other argument. -/
  | word
  deriving DecidableEq, Repr

/-- The form of an argument. -/
def shapeOf (argument : String) : Shape :=
  match argument.toList with
  | ['-', '-'] => .dashes
  | '-' :: '-' :: rest =>
    let name := String.ofList (rest.takeWhile (· ≠ '='))
    match rest.dropWhile (· ≠ '=') with
    | [] => .long name none
    | _ :: value => .long name (some (String.ofList value))
  | '-' :: c :: rest => .short (c :: rest)
  | _ => .word

/-- The options read so far. -/
structure Progress where
  /-- The options that are settled, in order, with their values. -/
  settled : List (Flag × String)
  /-- The option that the last arguments belong to, with the value that it has by now. -/
  underWay : Option (Flag × Option String)
  deriving DecidableEq, Repr

namespace Progress

/-- Nothing read. -/
def empty : Progress := ⟨[], none⟩

/-- Whether an option is settled. -/
def has (p : Progress) (f : Flag) : Bool :=
  p.settled.any (·.1 == f)

/-- The values of an option in order. -/
def values (p : Progress) (f : Flag) : List String :=
  (p.settled.filter (·.1 == f)).map (·.2)

/-- The value of an option. -/
def value? (p : Progress) (f : Flag) : Option String :=
  (p.values f).head?

/-- The options that every verb but `version` knows. -/
def common (p : Progress) : CommonOptions :=
  ⟨p.value? .repoRoot, p.value? .rules, p.value? .output⟩

/-- The severity asked for. -/
def minSeverity? (p : Progress) : Option Severity :=
  (p.value? .minSeverity).bind fun text => (Severity.ofText text).toOption

/-- Whether the next argument is the value of an option. -/
def awaits (p : Progress) : Bool :=
  match p.underWay with
  | some (_, none) => true
  | _ => false

/-- Judges the value of an option. -/
def judge (f : Flag) (value : String) : Except UsageStop Unit :=
  if f = .minSeverity then
    match Severity.ofText value with
    | .ok _ => .ok ()
    | .error word => .error (.unknownSeverity word)
  else .ok ()

/-- The progress with an option settled. -/
def give (p : Progress) (f : Flag) (value : String) : Except UsageStop Progress :=
  if p.has f ∧ !f.repeats then .error (.repeated f.written)
  else do
    judge f value
    return { p with settled := p.settled ++ [(f, value)] }

/-- Settles the option under way. -/
def settle (p : Progress) : Except UsageStop Progress :=
  match p.underWay with
  | none => .ok p
  | some (f, none) => .error (.missingValue f.written)
  | some (f, some value) => { p with underWay := none }.give f value

/-- The progress with one more option. -/
def option (p : Progress) (f : Flag) (value : Option String) : Except UsageStop Progress :=
  match value, f.takesValue with
  | some _, false => .error (.unneededValue f.written)
  | some value, true => do (← p.settle).give f value
  | none, true => do return { ← p.settle with underWay := some (f, none) }
  | none, false => do
    let p ← p.settle
    if f = .help then throw .help
    p.give f ""

/-- The progress with a value for the option under way. -/
def fill (p : Progress) (value : String) : Progress :=
  { p with underWay := p.underWay.map fun (f, _) => (f, some value) }

end Progress

/-- Reads the arguments behind a verb.  Help is also asked for by `-h`. -/
def readOptions (verb : Verb) (p : Progress) : List String → Except UsageStop Progress
  | [] => p.settle
  | argument :: rest =>
    match shapeOf argument with
    | .dashes =>
      match rest with
      | [] => p.settle
      | extra :: _ => .error (.unknownArgument extra)
    | .long name value =>
      match verb.flag? name with
      | some f => do readOptions verb (← p.option f value) rest
      | none => .error (.unknownArgument argument)
    | .short ('h' :: _) => do readOptions verb (← p.option .help none) rest
    | .short _ => .error (.unknownArgument argument)
    | .word =>
      if p.awaits then readOptions verb (p.fill argument) rest
      else .error (.unknownArgument argument)

/-- The command of a verb and its options. -/
def command (verb : Verb) (p : Progress) : Except UsageStop Command :=
  match verb with
  | .version => .ok .version
  | .scan => .ok (.scan p.common (p.values .pattern) p.minSeverity?)
  | .fix =>
    .ok (.fix p.common (p.values .pattern) (p.has .write) (p.has .diff) (p.has .check)
      (p.has .strip))
  | .report =>
    match p.value? .diagnostics with
    | some path => .ok (.report p.common path p.minSeverity?)
    | none => .error (.missingOption Flag.diagnostics.written)
  | .rules => .ok (.rules p.common)

/-- Whether a word is a verb or asks for help. -/
def isVerb (word : String) : Bool :=
  word == "help" || (Verb.ofWord? word).isSome

/-- What asking for help by the word `help` leads to.  A verb may follow, and nothing behind it. -/
def helpFor : List String → UsageStop
  | [] => .help
  | word :: rest =>
    if isVerb word then
      match rest with
      | [] => .help
      | next :: _ => .unknownVerb next
    else .unknownVerb word

/-- Why an argument in the place of the verb is none. -/
def badVerb (argument : String) (rest : List String) : UsageStop :=
  match shapeOf argument with
  | .dashes =>
    match rest with
    | [] => .noVerb
    | word :: _ =>
      if isVerb word then .unknownArgument word else .unknownVerb word
  | .long "help" none => .help
  | .long "version" none => .version
  | .long "help" (some _) => .unneededValue "--help"
  | .long "version" (some _) => .unneededValue "--version"
  | .short ('h' :: _) => .help
  | .short ('V' :: _) => .version
  | .long _ _ | .short _ => .unknownArgument argument
  | .word => .unknownVerb argument

/-- Reads a command line, without the name of the program. -/
def read : List String → Except UsageStop Command
  | [] => .error .noVerb
  | "help" :: rest => .error (helpFor rest)
  | word :: rest =>
    match Verb.ofWord? word with
    | some verb => do command verb (← readOptions verb .empty rest)
    | none => .error (badVerb word rest)

end CommandLine

end HookMigration
