import HookMigration.Rule.Compile

/-!
# Rule sets

The rules of all configured entries, in their order.  A rule whose id is taken gets the first free
one of `id_2`, `id_3` and so on, so the ids of a rule set are distinct; a hook belongs to the first
rule that was configured for it.

Rules are looked up in two tables, which give the position of a rule for its id and for its hook.
Each new rule is entered in both; for a hook the older entry stays.
-/

namespace HookMigration

/-- A table of positions by name, the newest entry first. -/
abbrev Positions := List (String × Nat)

namespace Positions

/-- Whether a name has an entry. -/
def has (p : Positions) (name : String) : Bool :=
  (p.lookup name).isSome

/-- The table with an entry for a name, in place of an older one. -/
def enter (p : Positions) (name : String) (position : Nat) : Positions :=
  (name, position) :: p

/-- The table with an entry for a name, unless it has one. -/
def enterNew (p : Positions) (name : String) (position : Nat) : Positions :=
  if p.has name then p else p.enter name position

end Positions

/-- Compiled rules in the order of their configuration, with the tables that lead to them. -/
structure RuleSet where
  rules : List Rule
  byId : Positions
  byHook : Positions
  deriving DecidableEq, Repr

namespace RuleSet

/-- The rule set without rules. -/
def empty : RuleSet := ⟨[], [], []⟩

/-- The rule with an id. -/
def get? (s : RuleSet) (id : String) : Option Rule :=
  (s.byId.lookup id).bind (s.rules[·]?)

/-- The first rule that was configured for a hook. -/
def byHook? (s : RuleSet) (hook : String) : Option Rule :=
  (s.byHook.lookup hook).bind (s.rules[·]?)

/-- Whether an id is in use. -/
def hasId (s : RuleSet) (id : String) : Bool :=
  s.byId.has id

/-- An id with a number behind it. -/
def numberedId (base : String) (n : Nat) : String :=
  base ++ "_" ++ toString n

/-- The first of the numbered ids from `n` on that is free, among the next `tries`. -/
def firstFree (s : RuleSet) (base : String) (n : Nat) : Nat → String
  | 0 => numberedId base n
  | tries + 1 =>
    if s.hasId (numberedId base n) then firstFree s base (n + 1) tries else numberedId base n

/-- The id for a new rule: the one asked for, or else the first free numbered one.  As many tries
as there are rules are enough. -/
def freeId (s : RuleSet) (base : String) : String :=
  if s.hasId base then s.firstFree base 2 s.rules.length else base

/-- The rule set with one more rule, under a free id and entered in both tables. -/
def push (s : RuleSet) (rule : Rule) : RuleSet :=
  let id := s.freeId rule.id
  let position := s.rules.length
  { rules := s.rules ++ [{ rule with id := id }]
    byId := s.byId.enter id position
    byHook := s.byHook.enterNew rule.hook position }

variable [PatternEngine]

/-- The rule set with the rules of entries behind it, and the errors of those that make none. -/
def pushEntries (s : RuleSet) : List HookEntry → RuleSet × List CompileError
  | [] => (s, [])
  | entry :: rest =>
    match Rule.compileEntry entry with
    | .ok rule => (s.push rule).pushEntries rest
    | .error e =>
      let (s, errors) := s.pushEntries rest
      (s, e :: errors)

/-- The rules of entries, and the errors of those that make none, both in order. -/
def compile (entries : List HookEntry) : RuleSet × List CompileError :=
  empty.pushEntries entries

end RuleSet

end HookMigration
