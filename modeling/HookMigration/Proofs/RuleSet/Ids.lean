import HookMigration.Proofs.RuleSet.Compiled
import HookMigration.Proofs.RuleSet.Lookups
import HookMigration.Proofs.Signature.Grammar

/-!
# Ids and lookups of a rule set

A rule set gives its rules ids by a search: a rule asks for the id of its hook, and if that is taken
the set tries it with a number behind it, until no rule has the id.  What the search finds depends on
all rules that came before, of any hook, and the hook of a removal may be any text without a
parenthesis, such as one that ends as a numbered id does.

Still the ids are known in closed form: the `k`-th rule of a hook has the `k`-th id of the hook
(`Numbered`).  An id tells the hook and the number that it was made of (`eq_of_ordinalId_eq`), since
the digits at its end can be cut off and what is left ends in the underscore or not.  So only
rules of the same hook can be in the way, and those have the numbers before.

Everything else that is expected of ids and lookups follows, since the tables of the set are in step
with its rules: distinct ids, the first rule of a hook, no influence of entries that make no rule, and
none of later entries on earlier ones (`compile_identity`).
-/

namespace HookMigration

open Text

/-! ## What an entry asks for -/

/-- Whether an entry makes a rule. -/
def Rule.compiles [PatternEngine] (entry : HookEntry) : Bool :=
  (Rule.compileEntry entry).isOk

namespace Signature

variable {name gap list text : List Char}

theorem open_ne_of_all {p : Char → Bool} (h : text.all p = true) (hopen : p '(' = false) :
    text.all (· ≠ '(') = true := by
  rw [List.all_eq_true] at h ⊢
  intro c hc
  have hne : c ≠ '(' := by
    rintro rfl
    rw [h _ hc] at hopen
    exact absurd hopen (by simp)
  simpa using hne

/-- The hook that a text names does not depend on the blanks around the text. -/
theorem hookName_trimmed (text : String) : hookName (trimmed text) = hookName text := by
  obtain ⟨lead, trail, hlead, htrail, heq⟩ := exists_trim_eq text.toList
  have hskip := open_ne_of_all hlead (by decide)
  have hrest := open_ne_of_all htrail (by decide)
  rw [hookName, hookName, toList_trimmed]
  congr 1
  conv_rhs => rw [heq]
  rw [List.takeWhile_append_of_pos (List.all_eq_true.1 hskip), trim_append_left hlead,
    List.takeWhile_append]
  split_ifs with hall
  · -- without a parenthesis the blanks at the end are part of the name
    rw [List.takeWhile_eq_self_iff.2 (List.all_eq_true.1 hrest), trim_append_right htrail,
      (List.takeWhile_prefix _).eq_of_length hall]
  · rfl

theorem Frame.hookName_eq {text : String} (h : Frame name gap list text.toList) :
    hookName text = String.ofList name := by
  have hname := open_ne_of_all h.name_word (by simp)
  have hgap := open_ne_of_all h.gap_blank (by decide)
  have hfront : text.toList.takeWhile (· ≠ '(') = name ++ gap := by
    rw [h.text_eq]
    exact takeWhile_run_append (by rw [List.all_append, hname, hgap, Bool.and_self]) (by simp)
  rw [hookName, hfront, trim_append_right h.gap_blank]
  congr 1
  refine trim_eq_self ?_ ?_
  · exact Migration.head?_any_of_all h.name_word fun c => isBlank_eq_false_of_isWordChar
  · exact Migration.getLast?_any_of_mem (List.all_eq_true.1 h.name_word) fun c =>
      isBlank_eq_false_of_isWordChar

theorem hookName_of_parse {text : String} {s : Signature} (h : parse text = .ok s) :
    hookName text = s.name := by
  obtain ⟨l, hlayout, rfl⟩ := parse_eq_ok_iff.1 h
  rw [← hookName_trimmed]
  exact Frame.hookName_eq (by rw [toList_trimmed]; exact hlayout.toFrame)

end Signature

namespace Rule

/-- The rule of an entry belongs to the hook that the entry names, and asks for its id. -/
theorem hook_of_compileEntry [PatternEngine] {entry : HookEntry} {r : Rule}
    (h : compileEntry entry = .ok r) :
    r.hook = Signature.hookName entry.old ∧ r.id = baseId r.hook := by
  cases hcompile : compile entry.old entry.new with
  | error e => simp [compileEntry, hcompile, bind, Except.bind] at h
  | ok r' =>
      simp only [compileEntry, hcompile, bind, Except.bind, pure, Except.pure] at h
      obtain rfl := Except.ok.inj h
      unfold compile at hcompile
      split at hcompile
      · obtain ⟨-, -, rfl⟩ := compileRemoval_eq_ok_iff.1 hcompile
        exact ⟨Signature.hookName_trimmed _, rfl⟩
      · obtain ⟨o, n, hold, -, -, rfl⟩ := compileMigration_eq_ok_iff.1 hcompile
        exact ⟨(Signature.hookName_of_parse hold).symm, rfl⟩

end Rule

namespace RuleSet

/-- The id of the `k`-th rule of a hook, counted from one. -/
def ordinalId (hook : String) (k : Nat) : String :=
  if k = 1 then Rule.baseId hook else numberedId (Rule.baseId hook) k

/-- The rules of a hook, in their order. -/
def ofHook (s : RuleSet) (hook : String) : List Rule :=
  s.rules.filter (·.hook == hook)

/-- Every rule has the id that its place among the rules of its hook gives it. -/
def Numbered (s : RuleSet) : Prop :=
  ∀ hook k r, (s.ofHook hook)[k]? = some r → r.id = ordinalId hook (k + 1)

/-- A rule is the rule of an entry, but for its id. -/
structure RuleOf [PatternEngine] (entry : HookEntry) (r : Rule) : Prop where
  compiled : Rule.compileEntry entry = .ok { r with id := Rule.baseId r.hook }
  hook : r.hook = Signature.hookName entry.old

/-- A rule set goes on with more rules, and nothing that is found in it is found otherwise. -/
structure Extends (s' s : RuleSet) : Prop where
  rules : s.rules <+: s'.rules
  get? : ∀ id r, s.get? id = some r → s'.get? id = some r
  byHook? : ∀ hook r, s.byHook? hook = some r → s'.byHook? hook = some r

variable {s s' : RuleSet} {hook hook' : String} {rule : Rule} {k k' n m tries : Nat}

/-! ## Ids tell their hooks -/

theorem toList_baseId (hook : String) :
    (Rule.baseId hook).toList = hook.toList ++ ['E', 'r', 'r', 'o', 'r'] := by
  simp [Rule.baseId]

theorem toList_numberedId (base : String) (n : Nat) :
    (numberedId base n).toList = base.toList ++ ['_'] ++ Nat.toDigits 10 n := by
  simp [numberedId]

theorem baseId_injective : Function.Injective Rule.baseId := by
  intro hook hook' h
  have htext := congrArg String.toList h
  rw [toList_baseId, toList_baseId] at htext
  exact String.toList_inj.1 (List.append_cancel_right htext)

/-- The underscore of a numbered id can be found from behind, since digits follow it. -/
theorem base_eq_of_numberedId_eq {base base' : String}
    (h : numberedId base k = numberedId base' k') : base = base' := by
  have htext := congrArg String.toList h
  rw [toList_numberedId, toList_numberedId] at htext
  obtain ⟨hbases, -⟩ := run_unique_right (all_isDigit_toDigits k) (all_isDigit_toDigits k')
    (by simp) (by simp) htext
  exact String.toList_inj.1 (List.append_cancel_right hbases)

theorem baseId_ne_numberedId (hook hook' : String) (k : Nat) :
    Rule.baseId hook ≠ numberedId (Rule.baseId hook') k := by
  intro h
  have htext := congrArg String.toList h
  rw [toList_numberedId, toList_baseId, ← List.append_nil (hook.toList ++ _)] at htext
  obtain ⟨hfronts, -⟩ :=
    run_unique_right rfl (all_isDigit_toDigits k) (by simp) (by simp) htext
  have hlast := congrArg List.getLast? hfronts
  simp at hlast

/-- An id tells the hook and the place of its rule. -/
theorem eq_of_ordinalId_eq (h : ordinalId hook k = ordinalId hook' k') :
    hook = hook' ∧ k = k' := by
  unfold ordinalId at h
  split_ifs at h with hfirst hfirst' hfirst'
  · exact ⟨baseId_injective h, hfirst.trans hfirst'.symm⟩
  · exact absurd h (baseId_ne_numberedId _ _ _)
  · exact absurd h.symm (baseId_ne_numberedId _ _ _)
  · have hbase := base_eq_of_numberedId_eq h
    rw [hbase] at h
    exact ⟨baseId_injective hbase, numberedId_injective _ h⟩

/-! ## The search for a free id -/

theorem mem_ofHook {r : Rule} : r ∈ s.ofHook hook ↔ r ∈ s.rules ∧ r.hook = hook := by
  simp [ofHook]

/-- In a numbered set the ids of a hook are in use up to the number of its rules. -/
theorem Numbered.hasId_iff (h : s.Numbered) (hindexed : s.Indexed) :
    s.hasId (ordinalId hook k) = true ↔ 1 ≤ k ∧ k ≤ (s.ofHook hook).length := by
  rw [hindexed.hasId_iff, List.mem_map]
  constructor
  · rintro ⟨r, hr, hid⟩
    -- the rule in the way has the id of its own place, which tells that it is of the same hook
    obtain ⟨i, hi⟩ := List.getElem?_of_mem (mem_ofHook.2 ⟨hr, rfl⟩)
    obtain ⟨rfl, rfl⟩ := eq_of_ordinalId_eq ((h _ i r hi).symm.trans hid)
    have hlt := (List.getElem?_eq_some_iff.1 hi).1
    omega
  · rintro ⟨hpos, hle⟩
    have hlt : k - 1 < (s.ofHook hook).length := by omega
    refine ⟨(s.ofHook hook)[k - 1], (mem_ofHook.1 (List.getElem_mem hlt)).1, ?_⟩
    rw [h hook (k - 1) _ (List.getElem?_eq_getElem hlt), Nat.sub_add_cancel hpos]

/-- The search ends at the first number that is free. -/
theorem firstFree_eq {base : String}
    (hused : ∀ k, n ≤ k → k ≤ m → s.hasId (numberedId base k) = true)
    (hfree : s.hasId (numberedId base (m + 1)) = false) (hle : n ≤ m + 1)
    (htries : m + 1 ≤ n + tries) : s.firstFree base n tries = numberedId base (m + 1) := by
  induction tries generalizing n with
  | zero =>
      obtain rfl : n = m + 1 := by omega
      rfl
  | succ tries ih =>
      unfold firstFree
      by_cases hlast : n = m + 1
      · rw [hlast, hfree]
        rfl
      · rw [if_pos (hused n le_rfl (by omega))]
        exact ih (fun k hk hkm => hused k (by omega) hkm) (by omega) (by omega)

theorem Numbered.freeId_eq (h : s.Numbered) (hindexed : s.Indexed) (hook : String) :
    s.freeId (Rule.baseId hook) = ordinalId hook ((s.ofHook hook).length + 1) := by
  have hfirst : s.hasId (Rule.baseId hook) = true ↔ 1 ≤ (s.ofHook hook).length := by
    have hiff : s.hasId (ordinalId hook 1) = true ↔ 1 ≤ 1 ∧ 1 ≤ (s.ofHook hook).length :=
      h.hasId_iff hindexed
    rw [ordinalId, if_pos rfl] at hiff
    simpa using hiff
  have hnumbered : ∀ k, 2 ≤ k → numberedId (Rule.baseId hook) k = ordinalId hook k := by
    intro k hk
    rw [ordinalId, if_neg (by omega)]
  unfold freeId
  split_ifs with hused
  · -- the search tries as many numbers as there are rules, and those of the hook are not more
    have hpos := hfirst.1 hused
    have hrules : (s.ofHook hook).length ≤ s.rules.length := List.length_filter_le _ _
    rw [← hnumbered _ (by omega)]
    refine firstFree_eq ?_ ?_ (by omega) (by omega)
    · intro k hk hkm
      rw [hnumbered k hk, h.hasId_iff hindexed]
      omega
    · rw [hnumbered _ (by omega), Bool.eq_false_iff, Ne, h.hasId_iff hindexed]
      omega
  · have hnone : (s.ofHook hook).length = 0 := by
      rw [hfirst] at hused
      omega
    rw [hnone]
    rfl

/-! ## One rule more -/

theorem ofHook_push (s : RuleSet) (rule : Rule) (hook : String) :
    (s.push rule).ofHook hook =
      s.ofHook hook ++ if rule.hook = hook then [{ rule with id := s.freeId rule.id }] else [] := by
  unfold push ofHook
  rw [List.filter_append, List.filter_singleton]
  simp

theorem Numbered.push (h : s.Numbered) (hindexed : s.Indexed)
    (hid : rule.id = Rule.baseId rule.hook) : (s.push rule).Numbered := by
  intro hook k r hr
  rw [ofHook_push] at hr
  by_cases hlt : k < (s.ofHook hook).length
  · rw [List.getElem?_append_left hlt] at hr
    exact h hook k r hr
  · rw [List.getElem?_append_right (by omega)] at hr
    split_ifs at hr with hhook
    · obtain ⟨hk, hrule⟩ := List.getElem?_eq_some_iff.1 hr
      rw [List.length_singleton] at hk
      obtain rfl : k = (s.ofHook hook).length := by omega
      rw [← hrule, List.getElem_singleton, hid, h.freeId_eq hindexed, hhook]
    · simp at hr

theorem Extends.refl (s : RuleSet) : s.Extends s :=
  ⟨List.prefix_rfl, fun _ _ h => h, fun _ _ h => h⟩

theorem Extends.trans {s'' : RuleSet} (h : s''.Extends s') (h' : s'.Extends s) :
    s''.Extends s where
  rules := h'.rules.trans h.rules
  get? id r hr := h.get? id r (h'.get? id r hr)
  byHook? hook r hr := h.byHook? hook r (h'.byHook? hook r hr)

theorem Indexed.extends_push (h : s.Indexed) (rule : Rule) : (s.push rule).Extends s where
  rules := List.prefix_append _ _
  get? id r hr := by
    rw [(h.push rule).get?_eq, rules_push, List.find?_append]
    rw [h.get?_eq] at hr
    rw [hr, Option.some_or]
  byHook? hook r hr := by
    rw [(h.push rule).byHook?_eq, rules_push, List.find?_append]
    rw [h.byHook?_eq] at hr
    rw [hr, Option.some_or]

/-! ## All entries -/

theorem numbered_empty : empty.Numbered := by
  intro hook k r hr
  simp [empty, ofHook] at hr

theorem Indexed.byHook?_eq_head? (h : s.Indexed) (hook : String) :
    s.byHook? hook = (s.ofHook hook).head? := by
  rw [h.byHook?_eq, ofHook, List.head?_filter]

section Entries

variable [PatternEngine]

theorem Numbered.pushEntries (h : s.Numbered) (hindexed : s.Indexed) (entries : List HookEntry) :
    (s.pushEntries entries).1.Numbered := by
  induction entries generalizing s with
  | nil => exact h
  | cons entry rest ih =>
      unfold RuleSet.pushEntries
      cases hentry : Rule.compileEntry entry with
      | ok rule =>
          exact ih (h.push hindexed (Rule.hook_of_compileEntry hentry).2) (hindexed.push rule)
      | error e => exact ih h hindexed

theorem Indexed.extends_pushEntries (h : s.Indexed) (entries : List HookEntry) :
    (s.pushEntries entries).1.Extends s := by
  induction entries generalizing s with
  | nil => exact .refl s
  | cons entry rest ih =>
      unfold RuleSet.pushEntries
      cases hentry : Rule.compileEntry entry with
      | ok rule => exact (ih (h.push rule)).trans (h.extends_push rule)
      | error e => exact ih h

theorem exists_rules_pushEntries (s : RuleSet) (entries : List HookEntry) :
    ∃ added, (s.pushEntries entries).1.rules = s.rules ++ added ∧
      List.Forall₂ RuleOf (entries.filter Rule.compiles) added := by
  induction entries generalizing s with
  | nil => exact ⟨[], by simp [pushEntries], .nil⟩
  | cons entry rest ih =>
      unfold pushEntries
      rw [List.filter_cons, Rule.compiles]
      cases hentry : Rule.compileEntry entry with
      | ok rule =>
          obtain ⟨hhook, hid⟩ := Rule.hook_of_compileEntry hentry
          obtain ⟨added, hrules, hadded⟩ := ih (s.push rule)
          refine ⟨{ rule with id := s.freeId rule.id } :: added, ?_, ?_⟩
          · calc ((s.push rule).pushEntries rest).1.rules
                _ = (s.push rule).rules ++ added := hrules
                _ = s.rules ++ { rule with id := s.freeId rule.id } :: added := by simp [push]
          · refine .cons ⟨?_, hhook⟩ hadded
            rw [hentry, ← hid]
      | error e => exact ih s

theorem errors_pushEntries (s : RuleSet) (entries : List HookEntry) :
    List.Forall₂ (fun entry e => Rule.compileEntry entry = .error e)
      (entries.filter fun entry => !Rule.compiles entry) (s.pushEntries entries).2 := by
  induction entries generalizing s with
  | nil => exact .nil
  | cons entry rest ih =>
      unfold pushEntries
      rw [List.filter_cons, Rule.compiles]
      cases hentry : Rule.compileEntry entry with
      | ok rule => exact ih (s.push rule)
      | error e => exact .cons hentry (ih s)

theorem pushEntries_append (s : RuleSet) (entries more : List HookEntry) :
    (s.pushEntries (entries ++ more)).1 = ((s.pushEntries entries).1.pushEntries more).1 := by
  induction entries generalizing s with
  | nil => rfl
  | cons entry rest ih =>
      simp only [List.cons_append, pushEntries]
      cases hentry : Rule.compileEntry entry with
      | ok rule => exact ih (s.push rule)
      | error e => exact ih s

theorem pushEntries_of_error {entry : HookEntry} {error : CompileError}
    (h : Rule.compileEntry entry = .error error) (s : RuleSet) (rest : List HookEntry) :
    (s.pushEntries (entry :: rest)).1 = (s.pushEntries rest).1 := by
  rw [pushEntries, h]

/-- Entries make rules and errors in order.  The `k`-th rule of a hook has the `k`-th id of the
hook, so ids are distinct.  The tables give the positions of the first rule with an id and of the
first rule of a hook, and lookups find the rule with an id and the first rule of a hook.
Entries that make no rule have no influence on rules, and later ones none on earlier ones. -/
theorem compile_identity (entries : List HookEntry) :
    List.Forall₂ RuleOf (entries.filter Rule.compiles) (compile entries).1.rules ∧
    List.Forall₂ (fun entry e => Rule.compileEntry entry = .error e)
      (entries.filter fun entry => !Rule.compiles entry) (compile entries).2 ∧
    (∀ hook k r, ((compile entries).1.ofHook hook)[k]? = some r → r.id = ordinalId hook (k + 1)) ∧
    ((compile entries).1.rules.map Rule.id).Nodup ∧
    (compile entries).1.Indexed ∧
    (∀ id r, (compile entries).1.get? id = some r ↔ r ∈ (compile entries).1.rules ∧ r.id = id) ∧
    (∀ hook, (compile entries).1.byHook? hook = ((compile entries).1.ofHook hook).head?) ∧
    (∀ hook r, (compile entries).1.byHook? hook = some r → r.id = Rule.baseId hook) ∧
    (∀ before entry after error, entries = before ++ entry :: after →
      Rule.compileEntry entry = .error error →
      (compile (before ++ after)).1 = (compile entries).1) ∧
    ∀ more, (compile (entries ++ more)).1.Extends (compile entries).1 := by
  have hindexed : (compile entries).1.Indexed := indexed_compile entries
  have hnumbered : (compile entries).1.Numbered :=
    numbered_empty.pushEntries indexed_empty entries
  refine ⟨?_, errors_pushEntries empty entries, hnumbered, hindexed.ids_nodup, hindexed,
    fun id r => hindexed.get?_eq_some_iff, hindexed.byHook?_eq_head?, ?_, ?_, ?_⟩
  · obtain ⟨added, hrules, hadded⟩ := exists_rules_pushEntries empty entries
    obtain hrules : (compile entries).1.rules = added := hrules
    rwa [hrules]
  · intro hook r hr
    rw [hindexed.byHook?_eq_head?, List.head?_eq_getElem?] at hr
    exact hnumbered hook 0 r hr
  · rintro before entry after error rfl herror
    rw [compile, compile, pushEntries_append, pushEntries_append, pushEntries_of_error herror]
  · intro more
    rw [compile, pushEntries_append]
    exact hindexed.extends_pushEntries more

end Entries

section Usual

attribute [local instance] PatternEngine.usual

/-- Overloads around an entry that makes no rule, and a hook that ends as a numbered id does. -/
theorem compile_identity_overloads :
    ∃ error r,
      Rule.compileEntry (.ofSignatures "Broken(int" (some "Broken(int a)")) = .error error ∧
      (compile [.ofSignatures "Foo(int a)" (some "Foo(int b)"), .ofSignatures "Foo()" none,
          .ofSignatures "FooError_2()" none]).1 =
        (compile [.ofSignatures "Foo(int a)" (some "Foo(int b)"),
          .ofSignatures "Broken(int" (some "Broken(int a)"), .ofSignatures "Foo()" none,
          .ofSignatures "FooError_2()" none]).1 ∧
      ((compile [.ofSignatures "Foo(int a)" (some "Foo(int b)"),
          .ofSignatures "Broken(int" (some "Broken(int a)"), .ofSignatures "Foo()" none,
          .ofSignatures "FooError_2()" none]).1.ofHook "Foo")[1]? = some r ∧
      r.id = "FooError_2" := by
  have herror : Rule.compileEntry (.ofSignatures "Broken(int" (some "Broken(int a)")) =
      .error (.unreadable "Broken(int" ⟨.invalidSignature, "Broken(int"⟩) := by
    decide +kernel
  obtain ⟨r, hr⟩ : ∃ r, ((compile [.ofSignatures "Foo(int a)" (some "Foo(int b)"),
      .ofSignatures "Broken(int" (some "Broken(int a)"), .ofSignatures "Foo()" none,
      .ofSignatures "FooError_2()" none]).1.ofHook "Foo")[1]? = some r :=
    Option.isSome_iff_exists.1 (by decide +kernel)
  obtain ⟨-, -, hids, -, -, -, -, -, hdelete, -⟩ :=
    compile_identity [.ofSignatures "Foo(int a)" (some "Foo(int b)"),
      .ofSignatures "Broken(int" (some "Broken(int a)"), .ofSignatures "Foo()" none,
      .ofSignatures "FooError_2()" none]
  exact ⟨_, r, herror, hdelete [_] _ _ _ rfl herror, hr, (hids "Foo" 1 r hr).trans (by decide)⟩

end Usual

end RuleSet

end HookMigration
