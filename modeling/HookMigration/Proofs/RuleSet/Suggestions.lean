import HookMigration.Proofs.Calls.Edits
import HookMigration.Proofs.Calls.Migrations
import HookMigration.Proofs.RuleSet.Turns

/-!
# A scan suggests what a fix does

A scan looks for every rule in the text as it is; a fix applies rule after rule, each to what the one
before it made.  Where the migrations of a rule set are independent, both come to the same
(`fix_eq_applyEdits`): the edits that the scan suggests lie apart, applying them at once gives the
fixed text, and their number is the number of replacements.  So the order of the entries makes no
difference to a fix (`fix_perm`).

Independent migrations are separate.  A call is matched only by migrations of the hook that it names,
so at most one of them matches it; and the call that it makes names a hook that no other one has.
-/

namespace HookMigration

open Calls Pattern Text

namespace RuleSet

/-- Migrations that do not get into each other's way: their hooks differ and begin with a name
character, and none renames its hook to the hook of another one. -/
structure Independent (s : RuleSet) : Prop where
  hook_name : ∀ r ∈ s.eligible false, r.hook.toList.head?.any isNameChar = true
  hooks_differ : (s.eligible false).Pairwise fun a b => a.hook ≠ b.hook
  new_names : ∀ a ∈ s.eligible false, ∀ b ∈ s.eligible false, a.hook ≠ b.hook →
    ∀ new ∈ a.newRead?, new.name ≠ b.hook

/-- Whether a record was made by a rule that is no removal. -/
def isMigrationRecord (s : RuleSet) (record : Record) : Bool :=
  (s.get? record.ruleId).any fun r => !r.isRemoval

/-- The records of migrations are those of the rules that take part in a fix without removals. -/
theorem isEligibleRecord_false (s : RuleSet) : s.isEligibleRecord false = s.isMigrationRecord := rfl

/-! ## Independent migrations are separate -/

variable {entries : List HookEntry}

theorem callRule_of_independent [PatternEngine] (h : (compile entries).1.Independent) {r : Rule}
    (hr : r ∈ (compile entries).1.eligible false) : CallRule r :=
  callRule_of_eligible hr (h.hook_name r hr)

theorem separate_of_hook_ne [PatternEngine] (h : (compile entries).1.Independent) {a b : Rule}
    (ha : a ∈ (compile entries).1.eligible false) (hb : b ∈ (compile entries).1.eligible false)
    (hne : a.hook ≠ b.hook) : Separate a b := by
  intro m m' hm hm'
  obtain ⟨old, new, hmigrates⟩ := exists_migrates ha
  obtain ⟨old', new', hmigrates'⟩ := exists_migrates hb
  have hhook := h.hook_name a ha
  have hhook' := h.hook_name b hb
  constructor
  · -- a call that both match has the hook of both
    by_contra hsome
    exact hne (hook_eq_of_replaced? hmigrates hhook hmigrates' hhook' hm (by rw [hm']; rfl)
      (Option.isSome_iff_ne_none.2 hsome))
  · -- a call of the new name is matched only by migrations of that hook
    by_contra hsome
    exact h.new_names a ha b hb hne new hmigrates.newRead?_eq
      (eq_of_replaced? hmigrates hhook hmigrates' hhook' hm hm'
        (Option.isSome_iff_ne_none.2 hsome)).1

theorem pairwise_separate [PatternEngine] (h : (compile entries).1.Independent) :
    ((compile entries).1.eligible false).Pairwise fun a b => Separate a b ∧ Separate b a := by
  refine h.hooks_differ.imp_of_mem fun ha hb hne => ?_
  exact ⟨separate_of_hook_ne h ha hb hne, separate_of_hook_ne h hb ha hne.symm⟩

/-! ## Scan and fix -/

theorem exists_map_some_of_perm {α : Type} {l : List (Option α)} {k : List α}
    (h : l.Perm (k.map some)) : ∃ k' : List α, l = k'.map some ∧ k'.Perm k := by
  refine ⟨l.filterMap id, ?_, by simpa using h.filterMap id⟩
  have hsome : ∀ o ∈ l, o.isSome = true := by
    intro o ho
    obtain ⟨a, -, rfl⟩ := List.mem_map.1 (h.mem_iff.1 ho)
    rfl
  clear h
  induction l with
  | nil => rfl
  | cons o rest ih =>
      obtain ⟨a, rfl⟩ := Option.isSome_iff_exists.1 (hsome o List.mem_cons_self)
      simpa using ih fun o ho => hsome o (List.mem_cons_of_mem _ ho)

/-- The edits of the scan are the edits of the calls of the text. -/
theorem exists_edits_scan [PatternEngine] (h : (compile entries).1.Independent)
    {chunks : List Chunk} (hcut : Cut none chunks) (file : Option String) :
    ∃ edits : List Edit,
      (((compile entries).1.scan (String.ofList (textOf chunks)) file).filter
        (compile entries).1.isMigrationRecord).map Record.edit? = edits.map some ∧
      edits.Perm (editsFrom ((compile entries).1.eligible false) 0 chunks) := by
  refine exists_map_some_of_perm ?_
  have hrecords : ∀ r ∈ (compile entries).1.eligible false,
      (r.records file (String.ofList (textOf chunks))).map Record.edit? =
        (editsFrom [r] 0 chunks).map some := by
    intro r hr
    have hcall := callRule_of_independent h hr
    have hstretches : r.stretches (String.ofList (textOf chunks)) =
        chunks.flatMap (Chunk.stretches r.pattern) := by
      rw [Rule.stretches, Pattern.stretches, String.toList_ofList,
        hcall.pattern.stretchesFrom_textOf hcut]
    rw [r.map_edit?_records, Rule.edits, hstretches,
      editsFrom_stretches hcall (fun m hm => hcut.isCall hm)]
  -- The records in the order of the scan, of the rules, and of the text.
  have hscan := (perm_filter_scan (indexed_compile entries) false (String.ofList (textOf chunks))
    file).map Record.edit?
  rw [isEligibleRecord_false] at hscan
  have hedits := (perm_editsFrom ((compile entries).1.eligible false) 0 chunks).map some
  refine hscan.trans (.trans (.of_eq ?_) hedits)
  rw [List.map_flatMap, List.map_flatMap]
  exact List.flatMap_congr hrecords

/-- A fix does at once what the scan suggests. -/
theorem fix_eq_edits [PatternEngine] (h : (compile entries).1.Independent) (text : String)
    (file : Option String) :
    ∃ edits : List Edit,
      (((compile entries).1.scan text file).filter
        (compile entries).1.isMigrationRecord).map Record.edit? = edits.map some ∧
      edits.Pairwise Edit.Apart ∧
      (compile entries).1.fix text false = ⟨applyEdits edits text, edits.length⟩ := by
  obtain ⟨chunks, hcut, htext⟩ := exists_cut none text.toList
  obtain rfl : text = String.ofList (textOf chunks) := by rw [htext, String.ofList_toList]
  have hcalls : ∀ m, .call m ∈ chunks → IsCall m := fun m hm => hcut.isCall hm
  have hseparate : ((compile entries).1.eligible false).Pairwise Separate :=
    (pairwise_separate h).imp And.left
  obtain ⟨edits, hscan, hperm⟩ := exists_edits_scan h hcut file
  have hapart' := pairwise_apart_editsFrom hseparate hcalls 0
  have hapart : edits.Pairwise Edit.Apart := hperm.symm.pairwise hapart' Or.symm
  refine ⟨edits, hscan, hapart, ?_⟩
  have hrules : ∀ r ∈ (compile entries).1.eligible false, CallRule r :=
    fun r hr => callRule_of_independent h hr
  rw [fix, foldl_apply_eq_applyEdits hseparate hrules hcut, applyEdits_perm hperm hapart,
    hperm.length_eq]

/-! ## The order of the entries -/

theorem fix_eq_foldl_nameless (s : RuleSet) (text : String) :
    s.fix text false = ((s.eligible false).map Rule.nameless).foldl Fixed.apply ⟨text, 0⟩ := by
  rw [fix, List.foldl_map]
  rfl

/-- Separate rules fix a text in any order. -/
theorem foldl_apply_perm {rules rules' : List Rule} (hperm : rules.Perm rules')
    (hrules : ∀ r ∈ rules, CallRule r)
    (hseparate : rules.Pairwise fun a b => Separate a b ∧ Separate b a) (text : String) :
    rules.foldl Fixed.apply ⟨text, 0⟩ = rules'.foldl Fixed.apply ⟨text, 0⟩ := by
  obtain ⟨chunks, hcut, htext⟩ := exists_cut none text.toList
  obtain rfl : text = String.ofList (textOf chunks) := by rw [htext, String.ofList_toList]
  have hrules' : ∀ r ∈ rules', CallRule r := fun r hr => hrules r (hperm.mem_iff.2 hr)
  have hseparate' : rules'.Pairwise Separate := (hperm.pairwise hseparate And.symm).imp And.left
  refine foldl_apply_congr hrules hrules' hcut (fun m hm => ?_) 0
  exact replacedBy_perm hperm (hseparate.imp And.left) hseparate' (hcut.isCall hm)

/-- A fix does not depend on the order of the entries. -/
theorem fix_perm [PatternEngine] {entries' : List HookEntry} (h : (compile entries).1.Independent)
    (hperm : entries.Perm entries') (text : String) :
    (compile entries').1.fix text false = (compile entries).1.fix text false := by
  rw [fix_eq_foldl_nameless, fix_eq_foldl_nameless]
  refine (foldl_apply_perm (perm_eligible hperm) ?_ ?_ text).symm
  · intro q hq
    obtain ⟨r, hr, rfl⟩ := List.mem_map.1 hq
    have hcall := callRule_of_independent h hr
    exact ⟨hcall.pattern, hcall.isCall⟩
  · rw [List.pairwise_map]
    exact pairwise_separate h

/-- Where the migrations of a rule set are independent, the edits that a scan suggests lie apart,
they make the fixed text when they are applied at once, and their number is the number of
replacements; a fix does not depend on the order of the entries. -/
theorem fix_eq_applyEdits [PatternEngine] (entries : List HookEntry)
    (h : (compile entries).1.Independent) (text : String) (file : Option String) :
    (∃ edits : List Edit,
      (((compile entries).1.scan text file).filter
        (compile entries).1.isMigrationRecord).map Record.edit? = edits.map some ∧
      edits.Pairwise Edit.Apart ∧
      (compile entries).1.fix text false = ⟨applyEdits edits text, edits.length⟩) ∧
    ∀ entries' : List HookEntry, entries.Perm entries' →
      (compile entries').1.fix text false = (compile entries).1.fix text false :=
  ⟨fix_eq_edits h text file, fun _ hperm => fix_perm h hperm text⟩

section Usual

attribute [local instance] PatternEngine.usual

/-- Two hooks, of which one gets a new name, beside a hook that is gone. -/
theorem fix_eq_applyEdits_two_hooks :
    let s := (compile [.ofSignatures "Foo(int a)" (some "Bar(int a, List<A> b)"),
      .ofSignatures "Old(int a)" none,
      .ofSignatures "Baz(List<A> x)" (some "Baz(List<A> x, int y)")]).1
    ∃ edits : List Edit,
      ((s.scan "Baz(List<A> p) Old(int q) Foo ( int r )" none).filter s.isMigrationRecord).map
        Record.edit? = edits.map some ∧
      edits.Pairwise Edit.Apart ∧ edits.length = 2 ∧
      applyEdits edits "Baz(List<A> p) Old(int q) Foo ( int r )" =
        (s.fix "Baz(List<A> p) Old(int q) Foo ( int r )" false).text := by
  intro s
  have hindependent : s.Independent :=
    ⟨by decide +kernel, by decide +kernel, by decide +kernel⟩
  obtain ⟨⟨edits, hscan, hapart, hfix⟩, -⟩ :=
    fix_eq_applyEdits _ hindependent "Baz(List<A> p) Old(int q) Foo ( int r )" none
  have hcount : (s.fix "Baz(List<A> p) Old(int q) Foo ( int r )" false).replacements = 2 := by
    decide +kernel
  rw [hfix] at hcount
  exact ⟨edits, hscan, hapart, hcount, by rw [hfix]⟩

end Usual

end RuleSet

end HookMigration
