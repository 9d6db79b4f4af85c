import HookMigration.PlainDecoders
import HookMigration.Proofs.Hooks.Items
import HookMigration.Proofs.RuleSet.Ids

/-!
# What becomes of an item

Every item of a hook file that is accepted becomes a rule or is reported as skipped, with a reason:
either it is no entry, or its entry makes no rule.  What becomes of it is seen from the item alone
(`HookItem.outcome`), except that an item without a name is named by its position, and that a rule
gets the next number of its hook for its id.

Loading splits the items in two, compiling splits the entries again, and the skipped ones are put
together from both.  Still every item is found in exactly one place, and in the order of the file
(`HookListing.Accounted`).  Items that make no rule leave no trace in the rules
(`HookListing.compile_of_items_eq_filter`).
-/

namespace HookMigration

/-- What becomes of an item: a rule, under the id that it asks for, or an error. -/
inductive ItemOutcome
  | rule (r : Rule)
  | invalid (e : InvalidEntry)
  | uncompiled (e : CompileError)
  deriving DecidableEq, Repr

namespace ItemOutcome

/-- The rule that an item becomes. -/
def rule? : ItemOutcome → Option Rule
  | .rule r => some r
  | _ => none

/-- The error of an item that is no entry. -/
def invalid? : ItemOutcome → Option InvalidEntry
  | .invalid e => some e
  | _ => none

/-- The error of an item whose entry makes no rule. -/
def uncompiled? : ItemOutcome → Option CompileError
  | .uncompiled e => some e
  | _ => none

/-- Every outcome is of one kind. -/
theorem length_filterMaps (outcomes : List ItemOutcome) :
    (outcomes.filterMap rule?).length +
      ((outcomes.filterMap invalid?).length + (outcomes.filterMap uncompiled?).length) =
        outcomes.length := by
  induction outcomes with
  | nil => rfl
  | cons first rest ih =>
      cases first <;> simp only [List.filterMap_cons, rule?, invalid?, uncompiled?,
        List.length_cons] <;> omega

end ItemOutcome

namespace HookItem

variable [PatternEngine] [Decoders]

/-- What becomes of an item that stands at a position, counted from one, in the file at a path. -/
def outcome (path : String) (position : Nat) (item : HookItem) : ItemOutcome :=
  match item.read with
  | (name, .error reason) => .invalid ⟨name.getD ("#" ++ toString position), path, reason⟩
  | (_, .ok entry) =>
    match Rule.compileEntry entry with
    | .ok r => .rule r
    | .error e => .uncompiled e

/-- Whether an item makes a rule. -/
def makesRule (item : HookItem) : Bool :=
  item.read.2.toOption.any Rule.compiles

/-- What becomes of items that stand from a position on. -/
def outcomesFrom (path : String) (position : Nat) (items : List HookItem) : List ItemOutcome :=
  items.mapIdx fun i item => item.outcome path (position + i)

theorem outcomesFrom_cons (path : String) (position : Nat) (item : HookItem)
    (rest : List HookItem) : outcomesFrom path position (item :: rest) =
      item.outcome path position :: outcomesFrom path (position + 1) rest := by
  unfold outcomesFrom
  rw [List.mapIdx_cons]
  simp only [Nat.add_zero, Nat.add_assoc, Nat.add_comm 1]

/-- The position of an item matters only for the name of one that has no other, and is no entry. -/
theorem outcome_eq_or (path : String) (item : HookItem) :
    (∀ position position', item.outcome path position = item.outcome path position') ∨
      item.read.1 = none ∧ ∃ reason, item.read.2 = .error reason ∧ ∀ position,
        item.outcome path position = .invalid ⟨"#" ++ toString position, path, reason⟩ := by
  unfold outcome
  rcases item.read with ⟨_ | name, reason | entry⟩
  · exact .inr ⟨rfl, reason, rfl, fun _ => rfl⟩
  · exact .inl fun _ _ => rfl
  · exact .inl fun _ _ => rfl
  · exact .inl fun _ _ => rfl

theorem makesRule_iff {item : HookItem} {path : String} {position : Nat} :
    item.makesRule = true ↔ ∃ r, item.outcome path position = .rule r := by
  unfold makesRule outcome Rule.compiles
  rcases item.read with ⟨name, reason | entry⟩
  · simp [Except.toOption]
  · cases hentry : Rule.compileEntry entry <;>
      simp [Except.toOption, Except.isOk, Except.toBool, hentry]

end HookItem

/-! ## Loading and compiling -/

namespace RuleSet

variable [PatternEngine]

/-- The errors of entries that make no rule. -/
def compileErrors (entries : List HookEntry) : List CompileError :=
  entries.filterMap fun entry =>
    match Rule.compileEntry entry with
    | .ok _ => none
    | .error e => some e

theorem errors_pushEntries_eq (s : RuleSet) (entries : List HookEntry) :
    (s.pushEntries entries).2 = compileErrors entries := by
  induction entries generalizing s with
  | nil => rfl
  | cons entry rest ih =>
      rw [pushEntries, compileErrors, List.filterMap_cons]
      cases hentry : Rule.compileEntry entry with
      | ok rule => exact ih (s.push rule)
      | error e => exact congrArg (e :: ·) (ih s)

/-- Entries that make no rule leave no trace in the rules. -/
theorem pushEntries_filter (s : RuleSet) (entries : List HookEntry) :
    s.pushEntries (entries.filter Rule.compiles) = ((s.pushEntries entries).1, []) := by
  induction entries generalizing s with
  | nil => rfl
  | cons entry rest ih =>
      rw [List.filter_cons, Rule.compiles]
      cases hentry : Rule.compileEntry entry with
      | ok rule =>
          show s.pushEntries (entry :: rest.filter Rule.compiles) = _
          unfold pushEntries
          rw [hentry]
          exact ih (s.push rule)
      | error e =>
          rw [pushEntries_of_error hentry]
          exact ih s

end RuleSet

namespace HookFile

theorem entries_ofItems (path : String) (position : Nat)
    (items : List (Option String × Except String HookEntry)) :
    (ofItems path position items).entries = items.filterMap fun item => item.2.toOption := by
  induction items generalizing position with
  | nil => rfl
  | cons item rest ih =>
      obtain ⟨name, _ | entry⟩ := item
      · exact ih (position + 1)
      · exact congrArg (entry :: ·) (ih (position + 1))

/-- The parts of a hook file are the outcomes of its items, sorted by their kinds. -/
theorem parts_ofItems [PatternEngine] [Decoders] (path : String) (position : Nat)
    (items : List HookItem) :
    let file := ofItems path position (items.map HookItem.read)
    let outcomes := HookItem.outcomesFrom path position items
    file.invalid = outcomes.filterMap ItemOutcome.invalid? ∧
      RuleSet.compiledRules file.entries = outcomes.filterMap ItemOutcome.rule? ∧
      RuleSet.compileErrors file.entries = outcomes.filterMap ItemOutcome.uncompiled? := by
  induction items generalizing position with
  | nil => exact ⟨rfl, rfl, rfl⟩
  | cons item rest ih =>
      obtain ⟨hinvalid, hrules, herrors⟩ := ih (position + 1)
      intro file outcomes
      have houtcomes : outcomes = item.outcome path position ::
          HookItem.outcomesFrom path (position + 1) rest := HookItem.outcomesFrom_cons ..
      have hfile : file = consItem path position item.read.1 item.read.2
          (ofItems path (position + 1) (rest.map HookItem.read)) := rfl
      rw [houtcomes, hfile]
      unfold HookItem.outcome
      -- the item is no entry, or its entry makes a rule, or it makes an error
      rcases item.read with ⟨name, reason | entry⟩
      · exact ⟨congrArg (_ :: ·) hinvalid, hrules, herrors⟩
      · cases hentry : Rule.compileEntry entry with
        | ok r =>
            simp only [consItem, RuleSet.compiledRules, RuleSet.compileErrors, List.filterMap_cons,
              hentry]
            exact ⟨hinvalid, congrArg (r :: ·) hrules, herrors⟩
        | error e =>
            simp only [consItem, RuleSet.compiledRules, RuleSet.compileErrors, List.filterMap_cons,
              hentry]
            exact ⟨hinvalid, hrules, congrArg (e :: ·) herrors⟩

end HookFile

/-! ## All items of a file -/

namespace HookListing

variable [Decoders] {t t' : FileTree} {path path' : String}

theorem items_eq_of_object {l : HookListing t path} {members : List (String × Json)}
    (h : l.document = .json (.object members)) :
    l.items = (members.map Prod.fst).eraseDups.map fun name =>
      .member name ((members.reverse.lookup name).getD .null) := by
  have hitems := l.items_eq
  rw [h] at hitems
  simp only [HookDocument.items?, Option.ite_none_right_eq_some, Json.hookValues?,
    Option.some.injEq] at hitems
  rw [← hitems.2, Json.mergeMembers_eq, List.map_map]
  rfl

variable [PatternEngine]

/-- The rules of the file. -/
def rules (l : HookListing t path) : RuleSet :=
  l.file.compile.1

/-- The items of the file that make no rule, as they are reported. -/
def skipped (l : HookListing t path) : List SkippedEntry :=
  l.file.compile.2

/-- What becomes of the items. -/
def outcomes (l : HookListing t path) : List ItemOutcome :=
  HookItem.outcomesFrom path 1 l.items

/-- Every item is found in one place: among the rules, where only its id depends on the items before
it, or among the skipped ones.  Both are in the order of the file, but items that are no entries
come before those whose entries make no rule. -/
structure Accounted (l : HookListing t path) : Prop where
  outcome : ∀ i : Nat, l.outcomes[i]? = l.items[i]?.map (HookItem.outcome path (i + 1))
  rules : l.rules.rules.map Rule.nameless =
    (l.outcomes.filterMap ItemOutcome.rule?).map Rule.nameless
  ids : ∀ hook k r, (l.rules.ofHook hook)[k]? = some r → r.id = RuleSet.ordinalId hook (k + 1)
  skipped : l.skipped = (l.outcomes.filterMap ItemOutcome.invalid?).map .invalid ++
    (l.outcomes.filterMap ItemOutcome.uncompiled?).map .uncompiled
  count : l.rules.rules.length + l.skipped.length = l.items.length

theorem nameless_rules (l : HookListing t path) :
    l.rules.rules.map Rule.nameless =
      (l.outcomes.filterMap ItemOutcome.rule?).map Rule.nameless := by
  obtain ⟨-, hrules, -⟩ := HookFile.parts_ofItems path 1 l.items
  show (RuleSet.compile l.file.entries).1.rules.map Rule.nameless = _
  rw [RuleSet.nameless_compile]
  exact congrArg (List.map Rule.nameless) hrules

theorem skipped_eq (l : HookListing t path) :
    l.skipped = (l.outcomes.filterMap ItemOutcome.invalid?).map .invalid ++
      (l.outcomes.filterMap ItemOutcome.uncompiled?).map .uncompiled := by
  obtain ⟨hinvalid, -, herrors⟩ := HookFile.parts_ofItems path 1 l.items
  show l.file.invalid.map SkippedEntry.invalid ++
    (RuleSet.compile l.file.entries).2.map SkippedEntry.uncompiled = _
  rw [RuleSet.compile, RuleSet.errors_pushEntries_eq]
  exact congrArg₂ (fun invalid errors =>
    invalid.map SkippedEntry.invalid ++ errors.map SkippedEntry.uncompiled) hinvalid herrors

theorem accounted (l : HookListing t path) : l.Accounted where
  outcome := by
    intro i
    unfold outcomes HookItem.outcomesFrom
    rw [List.getElem?_mapIdx, Nat.add_comm]
  rules := l.nameless_rules
  ids := RuleSet.numbered_empty.pushEntries RuleSet.indexed_empty l.file.entries
  skipped := l.skipped_eq
  count := by
    have hrules : l.rules.rules.length = (l.outcomes.filterMap ItemOutcome.rule?).length := by
      simpa only [List.length_map] using congrArg List.length l.nameless_rules
    have hlength : l.outcomes.length = l.items.length := List.length_mapIdx
    rw [hrules, l.skipped_eq, List.length_append, List.length_map, List.length_map,
      ItemOutcome.length_filterMaps, hlength]

/-! ### Items that make no rule -/

theorem filter_entries (l : HookListing t path) :
    l.file.entries.filter Rule.compiles =
      (l.items.filter HookItem.makesRule).filterMap fun item => item.read.2.toOption := by
  unfold file
  rw [HookFile.entries_ofItems, List.filterMap_map, List.filter_filterMap, List.filterMap_filter]
  refine List.filterMap_congr fun item _ => ?_
  unfold HookItem.makesRule
  simp only [Function.comp]
  cases item.read.2.toOption with
  | none => rfl
  | some entry => simp [Option.filter_some]

/-- The rules depend only on the items that make them. -/
theorem rules_eq_of_filter_eq {l : HookListing t path} {l' : HookListing t' path'}
    (h : l'.items.filter HookItem.makesRule = l.items.filter HookItem.makesRule) :
    l'.rules = l.rules := by
  have hentries : ∀ entries, (RuleSet.compile entries).1 =
      (RuleSet.compile (entries.filter Rule.compiles)).1 := by
    intro entries
    rw [RuleSet.compile, RuleSet.compile, RuleSet.pushEntries_filter]
  show (RuleSet.compile l'.file.entries).1 = (RuleSet.compile l.file.entries).1
  rw [hentries l'.file.entries, filter_entries, h, ← filter_entries, ← hentries l.file.entries]

theorem skipped_eq_nil {l : HookListing t path} (h : ∀ item ∈ l.items, item.makesRule = true) :
    l.skipped = [] := by
  have hall : ∀ o ∈ l.outcomes, ∃ r, o = .rule r := by
    intro o ho
    obtain ⟨i, hi, rfl⟩ := List.mem_mapIdx.1 ho
    exact HookItem.makesRule_iff.1 (h _ (List.getElem_mem hi))
  have hnone : ∀ {α : Type} (kind? : ItemOutcome → Option α), (∀ r, kind? (.rule r) = none) →
      l.outcomes.filterMap kind? = [] := by
    intro α kind? hkind
    rw [List.filterMap_eq_nil_iff]
    intro o ho
    obtain ⟨r, rfl⟩ := hall o ho
    exact hkind r
  rw [skipped_eq, hnone ItemOutcome.invalid? fun _ => rfl,
    hnone ItemOutcome.uncompiled? fun _ => rfl]
  rfl

/-- A file with only the items of another one that make rules has the same rules. -/
theorem compile_of_items_eq_filter {l : HookListing t path} {l' : HookListing t' path'}
    (h : l'.items = l.items.filter HookItem.makesRule) : l'.rules = l.rules ∧ l'.skipped = [] := by
  constructor
  · apply rules_eq_of_filter_eq
    rw [h, List.filter_filter]
    simp only [Bool.and_self]
  · apply skipped_eq_nil
    intro item hitem
    rw [h] at hitem
    exact (List.mem_filter.1 hitem).2

end HookListing

/-- No item of a hook file disappears.

* The files that load are those that have a listing of their items, and every item of a listing is
  accounted for.
* What becomes of an item depends on the item alone; its position matters only for the name of one
  that has no other.
* Items that make no rule have no influence on the rules and their ids: if they are all taken out,
  the file has the same rules, and nothing is skipped.  They can be taken out of every document.
* The items of a JSON object are its members, a repeated name at its first place and with its last
  value. -/
theorem items_accounted [PatternEngine] [Decoders] (t : FileTree) (path : String) :
    (∀ file, HookFile.load t path = .ok file ↔ ∃ l : HookListing t path, l.file = file) ∧
    (∀ l : HookListing t path, l.Accounted) ∧
    (∀ item : HookItem,
      ((∀ position position', item.outcome path position = item.outcome path position') ∨
        item.read.1 = none ∧ ∃ reason, item.read.2 = .error reason ∧ ∀ position,
          item.outcome path position = .invalid ⟨"#" ++ toString position, path, reason⟩) ∧
      ∀ position, item.makesRule = true ↔ ∃ r, item.outcome path position = .rule r) ∧
    (∀ (l : HookListing t path) t' path' (l' : HookListing t' path'),
      (l'.items.filter HookItem.makesRule = l.items.filter HookItem.makesRule →
        l'.rules = l.rules) ∧
      (l'.items = l.items.filter HookItem.makesRule → l'.rules = l.rules ∧ l'.skipped = [])) ∧
    (∀ l : HookListing t path, (l.document.keeping HookItem.makesRule).items? =
      some (l.items.filter HookItem.makesRule)) ∧
    ∀ (l : HookListing t path) members, l.document = .json (.object members) →
      l.items = (members.map Prod.fst).eraseDups.map fun name =>
        .member name ((members.reverse.lookup name).getD .null) := by
  refine ⟨fun file => HookFile.load_eq_ok_iff, HookListing.accounted, ?_, ?_, ?_, ?_⟩
  · intro item
    exact ⟨item.outcome_eq_or path, fun position => HookItem.makesRule_iff⟩
  · intro l t' path' l'
    exact ⟨HookListing.rules_eq_of_filter_eq, HookListing.compile_of_items_eq_filter⟩
  · intro l
    exact HookDocument.items?_keeping l.items_eq HookItem.makesRule
  · intro l members h
    exact HookListing.items_eq_of_object h

/-- An item of a JSON array with an old and perhaps a new signature. -/
def signatureItem (old : String) (new : Option String) : Json :=
  .object (("old", .string old) :: Json.member? "new" .string new)

/-- A hook file in which two of four items make no rule. -/
def mixedText : String :=
  "[\x7b\"old\": \"Foo(int a)\", \"new\": \"Foo(long a)\"\x7d, \x7b\x7d, " ++
    "\x7b\"old\": \"Bar(int\", \"new\": \"Bar()\"\x7d, \x7b\"old\": \"Foo()\"\x7d]"

/-- The hook file without these two. -/
def cleanText : String :=
  "[\x7b\"old\": \"Foo(int a)\", \"new\": \"Foo(long a)\"\x7d, \x7b\"old\": \"Foo()\"\x7d]"

/-- A folder with both files. -/
def mixedTree : FileTree where
  files := [(["mixed.json"], mixedText.toUTF8), (["clean.json"], cleanText.toUTF8)]
  folders := []
  home := []

section Plain

attribute [local instance] PatternEngine.usual Decoders.plain

/-- The file with all four items. -/
def mixedListing : HookListing mixedTree "mixed.json" where
  text := mixedText
  format := .json
  document := .json (.array [signatureItem "Foo(int a)" (some "Foo(long a)"), .object [],
    signatureItem "Bar(int" (some "Bar()"), signatureItem "Foo()" none])
  items := [.json (signatureItem "Foo(int a)" (some "Foo(long a)")), .json (.object []),
    .json (signatureItem "Bar(int" (some "Bar()")), .json (signatureItem "Foo()" none)]
  text_eq := by decide +kernel
  format_eq := by decide +kernel
  document_eq := by cbv
  items_eq := by cbv

/-- The file with the two items that make rules. -/
def cleanListing : HookListing mixedTree "clean.json" where
  text := cleanText
  format := .json
  document := .json (.array [signatureItem "Foo(int a)" (some "Foo(long a)"),
    signatureItem "Foo()" none])
  items := [.json (signatureItem "Foo(int a)" (some "Foo(long a)")),
    .json (signatureItem "Foo()" none)]
  text_eq := by decide +kernel
  format_eq := by decide +kernel
  document_eq := by cbv
  items_eq := by cbv

/-- The two overloads have the same ids in both files.  The item without a name is known by its
position, and it is reported first. -/
theorem items_accounted_mixed :
    HookFile.load mixedTree "mixed.json" = .ok mixedListing.file ∧
      cleanListing.rules = mixedListing.rules ∧ cleanListing.skipped = [] ∧
      mixedListing.rules.rules.length + mixedListing.skipped.length = 4 ∧
      mixedListing.rules.rules.map Rule.id = ["FooError", "FooError_2"] ∧
      mixedListing.skipped.map SkippedEntry.entry = ["#2", "Bar(int"] := by
  obtain ⟨hload, haccounted, -, hisolated, -⟩ := items_accounted mixedTree "mixed.json"
  have hclean : cleanListing.items = mixedListing.items.filter HookItem.makesRule := by
    have hfirst : (HookItem.json (signatureItem "Foo(int a)" (some "Foo(long a)"))).makesRule =
        true := by decide +kernel
    have hsecond : (HookItem.json (.object [])).makesRule = false := by decide +kernel
    have hthird : (HookItem.json (signatureItem "Bar(int" (some "Bar()"))).makesRule = false := by
      decide +kernel
    have hfourth : (HookItem.json (signatureItem "Foo()" none)).makesRule = true := by
      decide +kernel
    simp [cleanListing, mixedListing, hfirst, hsecond, hthird, hfourth]
  obtain ⟨hrules, hskipped⟩ := (hisolated mixedListing mixedTree "clean.json" cleanListing).2 hclean
  exact ⟨(hload mixedListing.file).2 ⟨mixedListing, rfl⟩, hrules, hskipped,
    (haccounted mixedListing).count, by decide +kernel, by decide +kernel⟩

end Plain

end HookMigration
