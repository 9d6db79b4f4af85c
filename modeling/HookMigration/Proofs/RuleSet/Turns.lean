import HookMigration.Fix
import HookMigration.Proofs.Pattern.Scanning
import HookMigration.Proofs.RuleSet.Compiled
import HookMigration.Proofs.RuleSet.Lookups
import Mathlib.Algebra.GroupWithZero.Nat

/-!
# Rules in turn

A fix lets the rules that take part work one after the other, each on the text that the rules before
it have left, and it passes over a rule that finds nothing there.  A rule that finds nothing would
leave the text as it is, so passing over it makes no difference: a fix rewrites with every rule, and
counts the records that each one finds when its turn comes (`RuleSet.fix_eq`).

A scan looks for every rule in the text as it was given.  A rule may find something there that is
gone when its turn comes, or the other way round.  But as long as no rule has found anything, the
text is still the given one; so a fix replaces nothing exactly if a scan finds nothing of the rules
that take part in it (`RuleSet.fix_replacements_eq_zero_iff`).
-/

namespace HookMigration

open Pattern Text

/-! ## One rule -/

theorem Pattern.replaceHits_eq_scanned {replacement : Match → List Char} {stretches : List Stretch}
    (h : hitCount stretches = 0) : replaceHits replacement stretches = scanned stretches := by
  rw [hitCount, List.countP_eq_zero] at h
  refine List.flatMap_congr fun stretch hstretch => ?_
  cases stretch with
  | plain c => rfl
  | hit m => exact absurd rfl (h _ hstretch)

namespace Rule

variable {r : Rule} {file : Option String} {text : String} {record : Record}

theorem length_recordsFrom (r : Rule) (file : Option String) (cursor : Cursor)
    (stretches : List Stretch) :
    (r.recordsFrom file cursor stretches).length = hitCount stretches := by
  induction stretches generalizing cursor with
  | nil => rfl
  | cons stretch rest ih =>
      rw [hitCount, List.countP_cons, ← hitCount]
      cases stretch with
      | plain c => exact ih _
      | hit m => exact congrArg (· + 1) (ih _)

/-- A rule has a record for each of its matches. -/
theorem length_records (r : Rule) (file : Option String) (text : String) :
    (r.records file text).length = hitCount (r.stretches text) :=
  r.length_recordsFrom file .start (r.stretches text)

/-- Whether there are records does not depend on the name of the file. -/
theorem records_eq_nil_iff (file file' : Option String) :
    r.records file text = [] ↔ r.records file' text = [] := by
  rw [← List.length_eq_zero_iff, ← List.length_eq_zero_iff, length_records, length_records]

/-- A rule without records leaves a text as it is. -/
theorem replaceAll_eq_self (h : r.records file text = []) : r.replaceAll text = text := by
  have hcount : hitCount (r.stretches text) = 0 := by
    rw [← r.length_records file, h]
    rfl
  rw [replaceAll, replaceHits_eq_scanned hcount, scanned_stretches, String.ofList_toList]

theorem ruleId_of_mem_records (h : record ∈ r.records file text) : record.ruleId = r.id := by
  obtain ⟨before, m, rest, -, rfl⟩ := mem_records_iff.1 h
  rfl

theorem file_of_mem_records (h : record ∈ r.records file text) : record.location.file = file := by
  obtain ⟨before, m, rest, -, rfl⟩ := mem_records_iff.1 h
  rfl

end Rule

/-! ## The turns of a fix -/

/-- The number of records that each rule finds on the text that the rules before it have left. -/
def foundInTurn : List Rule → String → List Nat
  | [], _ => []
  | r :: rest, text => (r.records none text).length :: foundInTurn rest (r.replaceAll text)

/-- A text rewritten by rules, one after the other. -/
def rewriteInTurn (rules : List Rule) (text : String) : String :=
  rules.foldl (fun text r => r.replaceAll text) text

/-- To pass over a rule that finds nothing is to rewrite with it. -/
theorem Fixed.apply_eq (f : Fixed) (r : Rule) :
    f.apply r = ⟨r.replaceAll f.text, f.replacements + (r.records none f.text).length⟩ := by
  unfold apply
  split
  next hzero =>
    have hnone : r.records none f.text = [] := by
      rw [← List.length_eq_zero_iff, Rule.length_records, hzero]
    rw [Rule.replaceAll_eq_self hnone, hnone]
    rfl
  next hits hsucc => rw [Rule.length_records, hsucc]

theorem Fixed.foldl_apply_eq (rules : List Rule) (f : Fixed) :
    rules.foldl Fixed.apply f =
      ⟨rewriteInTurn rules f.text, f.replacements + (foundInTurn rules f.text).sum⟩ := by
  induction rules generalizing f with
  | nil => rfl
  | cons r rest ih =>
      rw [List.foldl_cons, ih, f.apply_eq, foundInTurn, List.sum_cons, ← Nat.add_assoc]
      rfl

/-- As long as no rule finds anything, every rule is asked about the same text. -/
theorem sum_foundInTurn_eq_zero_iff {rules : List Rule} {text : String} :
    (foundInTurn rules text).sum = 0 ↔ ∀ r ∈ rules, r.records none text = [] := by
  induction rules with
  | nil => simp [foundInTurn]
  | cons r rest ih =>
      rw [foundInTurn, List.sum_cons, Nat.add_eq_zero_iff, List.length_eq_zero_iff,
        List.forall_mem_cons]
      refine and_congr_right fun hnone => ?_
      rw [Rule.replaceAll_eq_self hnone, ih]

theorem rewriteInTurn_eq_self {rules : List Rule} {text : String}
    (h : ∀ r ∈ rules, r.records none text = []) : rewriteInTurn rules text = text := by
  induction rules with
  | nil => rfl
  | cons r rest ih =>
      obtain ⟨hnone, hrest⟩ := List.forall_mem_cons.1 h
      rw [rewriteInTurn, List.foldl_cons, Rule.replaceAll_eq_self hnone, ← rewriteInTurn, ih hrest]

namespace RuleSet

variable {s : RuleSet} {text : String} {file : Option String} {strip : Bool} {record : Record}

/-- A fix rewrites with every rule that takes part, and counts what each one finds in its turn. -/
theorem fix_eq (s : RuleSet) (text : String) (strip : Bool) :
    s.fix text strip = ⟨rewriteInTurn (s.eligible strip) text,
      (foundInTurn (s.eligible strip) text).sum⟩ := by
  rw [fix, Fixed.foldl_apply_eq, Nat.zero_add]

/-- Without a replacement a text stays as it is. -/
theorem fix_text_of_no_replacements (h : (s.fix text strip).replacements = 0) :
    (s.fix text strip).text = text := by
  rw [fix_eq] at h ⊢
  exact rewriteInTurn_eq_self (sum_foundInTurn_eq_zero_iff.1 h)

/-! ## The records of the rules that take part -/

/-- Whether a record was made by a rule that takes part in a fix. -/
def isEligibleRecord (s : RuleSet) (strip : Bool) (record : Record) : Bool :=
  (s.get? record.ruleId).any fun r => strip || !r.isRemoval

theorem flatMap_filter {α β : Type} (q : α → Bool) (f : α → List β) (l : List α) :
    (l.filter q).flatMap f = l.flatMap fun a => if q a then f a else [] := by
  induction l with
  | nil => rfl
  | cons a rest ih =>
      rw [List.filter_cons, List.flatMap_cons, ← ih]
      split_ifs <;> rfl

/-- The records of one rule all take part, or none of them does. -/
theorem filter_records (hs : s.Indexed) {r : Rule} (hr : r ∈ s.rules)
    (strip : Bool) (file : Option String) (text : String) :
    (r.records file text).filter (s.isEligibleRecord strip) =
      if strip || !r.isRemoval then r.records file text else [] := by
  have hrule : ∀ record ∈ r.records file text,
      s.isEligibleRecord strip record = (strip || !r.isRemoval) := by
    intro record hrecord
    rw [isEligibleRecord, Rule.ruleId_of_mem_records hrecord, hs.get?_eq_some_iff.2 ⟨hr, rfl⟩,
      Option.any_some]
  rw [List.filter_congr hrule]
  cases strip || !r.isRemoval <;> simp

/-- Among the records of all rules, those of the rules that take part in a fix are the records of
these rules. -/
theorem perm_filter_scan (hs : s.Indexed) (strip : Bool) (text : String)
    (file : Option String) :
    ((s.scan text file).filter (s.isEligibleRecord strip)).Perm
      ((s.eligible strip).flatMap fun r => r.records file text) := by
  have hsorted : ((s.scan text file).filter (s.isEligibleRecord strip)).Perm
      ((s.rules.flatMap fun r => r.records file text).filter (s.isEligibleRecord strip)) :=
    (List.mergeSort_perm _ _).filter _
  refine hsorted.trans (List.Perm.of_eq ?_)
  rw [List.filter_flatMap, eligible, flatMap_filter]
  exact List.flatMap_congr fun r hr => filter_records hs hr strip file text

/-- A scan has a record of a rule that takes part, or none of these rules finds anything. -/
theorem no_eligible_record_iff (hs : s.Indexed) :
    (∀ record ∈ s.scan text file, s.isEligibleRecord strip record = false) ↔
      ∀ r ∈ s.eligible strip, r.records file text = [] := by
  have hperm := perm_filter_scan hs strip text file
  have hempty : (s.scan text file).filter (s.isEligibleRecord strip) = [] ↔
      ((s.eligible strip).flatMap fun r => r.records file text) = [] := by
    rw [← List.length_eq_zero_iff, hperm.length_eq, List.length_eq_zero_iff]
  rw [List.filter_eq_nil_iff, List.flatMap_eq_nil_iff] at hempty
  simpa using hempty

/-- A fix replaces nothing exactly if a scan finds nothing of the rules that take part in it. -/
theorem fix_replacements_eq_zero_iff (hs : s.Indexed) (text : String)
    (file : Option String) (strip : Bool) :
    (s.fix text strip).replacements = 0 ↔
      ∀ record ∈ s.scan text file, s.isEligibleRecord strip record = false := by
  have hzero : (s.fix text strip).replacements = 0 ↔
      ∀ r ∈ s.eligible strip, r.records none text = [] := by
    rw [fix_eq]
    exact sum_foundInTurn_eq_zero_iff
  rw [hzero, no_eligible_record_iff hs]
  exact forall₂_congr fun r _ => Rule.records_eq_nil_iff none file

theorem file_of_mem_scan (h : record ∈ s.scan text file) : record.location.file = file := by
  obtain ⟨r, -, hrecord⟩ := List.mem_flatMap.1 (List.mem_mergeSort.1 h)
  exact Rule.file_of_mem_records hrecord

end RuleSet

end HookMigration
