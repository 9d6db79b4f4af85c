import HookMigration.Proofs.Records.Occurrences
import HookMigration.Proofs.RuleSet.Turns

/-!
# Merging the records of all rules

A scan asks every rule for its records and sorts them by the bytes at which they begin.  Nothing is
lost on the way: the records with the id of a rule are those of the rule, in their order
(`filter_scan`).  Two records that begin at the same byte are of different rules, since the records
of one rule begin further and further on; the sort is stable, so the rule that was configured first
comes first (`pairwise_scan`).

## Strategy

The stability of a sort is used in two forms.  A sublist that is in order already stays a sublist, so
the records of one rule keep their order among the others.  And of two elements with equal keys the
earlier one stays in front (`pairwise_mergeSort`), so what holds of all pairs of records as they are
collected holds of the pairs of a scan that begin together.
-/

namespace HookMigration

open Pattern Text

/-! ## Stable sorting -/

/-- Sorting keeps what is known of two elements in their order if it puts neither before the other. -/
theorem pairwise_mergeSort {α : Type} {le : α → α → Bool} {rel : α → α → Prop}
    (trans : ∀ a b c, le a b = true → le b c = true → le a c = true)
    (total : ∀ a b, (le a b || le b a) = true) {l : List α}
    (h : l.Pairwise fun a b => le b a = true → rel a b) :
    (l.mergeSort le).Pairwise fun a b => le b a = true → rel a b := by
  induction l with
  | nil => simp
  | cons a rest ih =>
      rw [List.pairwise_cons] at h
      obtain ⟨hfirst, hrest⟩ := h
      obtain ⟨before, after, hsorted, hothers, hless⟩ := List.mergeSort_cons trans total a rest
      have hih := ih hrest
      rw [hothers, List.pairwise_append] at hih
      obtain ⟨hbefore, hafter, hacross⟩ := hih
      have hmem : ∀ b ∈ after, b ∈ rest := by
        intro b hb
        apply (List.mergeSort_perm rest le).mem_iff.1
        rw [hothers]
        exact List.mem_append_right _ hb
      rw [hsorted, List.pairwise_append, List.pairwise_cons]
      refine ⟨hbefore, ⟨fun b hb => hfirst b (hmem b hb), hafter⟩, ?_⟩
      intro b hb c hc
      rcases List.mem_cons.1 hc with rfl | hc
      · -- what is sorted in front of the new element has a smaller key
        intro hle
        have hlt := hless b hb
        rw [hle] at hlt
        exact absurd hlt (by simp)
      · exact hacross b hb c hc

/-! ## The records of one rule -/

theorem Record.Shows.offset_eq {record : Record} {file : Option String} {front matched : List Char}
    (h : record.Shows file front matched) : record.offset = byteLength front := by
  unfold offset
  rw [h.span]
  rfl

/-- The same record in a file. -/
def Record.inFile (file : Option String) (record : Record) : Record :=
  { record with location := { record.location with file := file } }

namespace Rule

theorem recordsFrom_eq_map_inFile (r : Rule) (file : Option String) (cursor : Cursor)
    (stretches : List Stretch) :
    r.recordsFrom file cursor stretches =
      (r.recordsFrom none cursor stretches).map (Record.inFile file) := by
  induction stretches generalizing cursor with
  | nil => rfl
  | cons s rest ih =>
      cases s with
      | plain c => exact ih (cursor.advance c)
      | hit m => exact congrArg (_ :: ·) (ih (cursor.advanceOver m.matched))

/-- The records of a rule in a file are its records in the text, with the name of the file. -/
theorem records_eq_map_inFile (r : Rule) (file : Option String) (text : String) :
    r.records file text = (r.records none text).map (Record.inFile file) :=
  r.recordsFrom_eq_map_inFile file .start (r.stretches text)

/-- The records of a rule begin further and further on. -/
theorem pairwise_offset_records (r : Rule) (file : Option String) (text : String) :
    (r.records file text).Pairwise fun a b => a.offset < b.offset := by
  have hoffsets : (r.records file text).map Record.offset =
      ((r.edits text).map Edit.span).map Span.start := by
    calc (r.records file text).map Record.offset
        = ((r.records file text).map Record.span).map fun span =>
            (span.map Span.start).getD 0 := by
          rw [List.map_map]
          rfl
      _ = ((r.edits text).map Edit.span).map Span.start := by
          rw [map_span_records, List.map_map]
          rfl
  have hstarts := r.pairwise_start_lt text
  rw [← List.pairwise_map (f := Span.start) (R := (· < ·)), ← hoffsets] at hstarts
  exact List.pairwise_map.1 hstarts

end Rule

namespace RuleSet

variable {s : RuleSet} {text : String} {file : Option String} {record a b : Record}

/-! ## The records of all rules -/

theorem mem_scan_iff : record ∈ s.scan text file ↔ ∃ r ∈ s.rules, record ∈ r.records file text := by
  rw [scan, List.mem_mergeSort, List.mem_flatMap]

/-- Every record of a scan shows a stretch of the text. -/
theorem exists_shows_of_mem_scan (h : record ∈ s.scan text file) :
    ∃ front matched, front ++ matched <+: text.toList ∧ record.Shows file front matched := by
  obtain ⟨r, -, hrecord⟩ := mem_scan_iff.1 h
  obtain ⟨before, m, rest, hstretches, rfl⟩ := Rule.mem_records_iff.1 hrecord
  obtain ⟨-, htext, -⟩ := Rule.matchAhead?_of_stretches hstretches
  refine ⟨scanned before, m.matched, ⟨scanned rest, ?_⟩, r.shows_record file (scanned before) m⟩
  rw [htext, List.append_assoc]

theorem perm_scan (s : RuleSet) (text : String) (file : Option String) :
    (s.scan text file).Perm (s.rules.flatMap fun r => r.records file text) :=
  List.mergeSort_perm _ _

theorem offset_le_trans (a b c : Record) (hab : decide (a.offset ≤ b.offset) = true)
    (hbc : decide (b.offset ≤ c.offset) = true) : decide (a.offset ≤ c.offset) = true := by
  rw [decide_eq_true_eq] at hab hbc ⊢
  exact Nat.le_trans hab hbc

theorem offset_le_total (a b : Record) :
    (decide (a.offset ≤ b.offset) || decide (b.offset ≤ a.offset)) = true := by
  rw [Bool.or_eq_true, decide_eq_true_eq, decide_eq_true_eq]
  exact Nat.le_total _ _

/-- The records of a rule keep their order among those of the others. -/
theorem records_sublist_scan {r : Rule} (hr : r ∈ s.rules) :
    (r.records file text).Sublist (s.scan text file) := by
  apply List.sublist_mergeSort offset_le_trans offset_le_total
  · apply (r.pairwise_offset_records file text).imp
    intro a b hlt
    rw [decide_eq_true_eq]
    exact Nat.le_of_lt hlt
  · obtain ⟨before, after, hrules⟩ := List.append_of_mem hr
    rw [hrules, List.flatMap_append, List.flatMap_cons]
    exact (List.sublist_append_left _ _).trans (List.sublist_append_right _ _)

theorem filter_records_id (r : Rule) (file : Option String) (text : String) :
    (r.records file text).filter (·.ruleId == r.id) = r.records file text := by
  rw [List.filter_eq_self]
  intro record hrecord
  rw [Rule.ruleId_of_mem_records hrecord, beq_self_eq_true]

/-- Where ids are distinct, only the records of a rule have its id. -/
theorem filter_flatMap_records (hids : (s.rules.map Rule.id).Nodup) {r : Rule} (hr : r ∈ s.rules) :
    (s.rules.flatMap fun r => r.records file text).filter (·.ruleId == r.id) =
      r.records file text := by
  have hothers : ∀ others : List Rule, r.id ∉ others.map Rule.id →
      (others.flatMap fun r => r.records file text).filter (·.ruleId == r.id) = [] := by
    intro others hne
    rw [List.filter_eq_nil_iff]
    intro record hrecord hid
    obtain ⟨r', hr', hrecord⟩ := List.mem_flatMap.1 hrecord
    rw [Rule.ruleId_of_mem_records hrecord, beq_iff_eq] at hid
    exact hne (hid ▸ List.mem_map_of_mem hr')
  obtain ⟨before, after, hrules⟩ := List.append_of_mem hr
  rw [hrules, List.map_append, List.map_cons, List.nodup_append, List.nodup_cons] at hids
  obtain ⟨-, ⟨hafter, -⟩, hapart⟩ := hids
  have hbefore : r.id ∉ before.map Rule.id := by
    intro hid
    exact hapart _ hid _ List.mem_cons_self rfl
  rw [hrules, List.flatMap_append, List.flatMap_cons, List.filter_append, List.filter_append,
    hothers before hbefore, hothers after hafter, filter_records_id, List.nil_append,
    List.append_nil]

/-- The records with the id of a rule are those of the rule, in their order. -/
theorem filter_scan (hids : (s.rules.map Rule.id).Nodup) {r : Rule} (hr : r ∈ s.rules) :
    (s.scan text file).filter (·.ruleId == r.id) = r.records file text := by
  have hperm : ((s.scan text file).filter (·.ruleId == r.id)).Perm (r.records file text) := by
    rw [← filter_flatMap_records hids hr]
    exact (perm_scan s text file).filter _
  have hsublist : (r.records file text).Sublist
      ((s.scan text file).filter (·.ruleId == r.id)) := by
    rw [← filter_records_id]
    exact (records_sublist_scan hr).filter _
  exact (hsublist.eq_of_length hperm.length_eq.symm).symm

/-! ## The order of a scan -/

/-- The records as they are collected: of two records that the sort might exchange, the first is of
a rule that was configured before the rule of the second. -/
theorem pairwise_flatMap_records (s : RuleSet) (text : String) (file : Option String) :
    (s.rules.flatMap fun r => r.records file text).Pairwise fun a b =>
      decide (b.offset ≤ a.offset) = true → [a.ruleId, b.ruleId].Sublist (s.rules.map Rule.id) := by
  rw [List.pairwise_flatMap]
  constructor
  · intro r _
    apply (r.pairwise_offset_records file text).imp
    intro a b hlt hle
    rw [decide_eq_true_eq] at hle
    omega
  · rw [List.pairwise_iff_forall_sublist]
    intro r r' hrules a ha b hb _
    rw [Rule.ruleId_of_mem_records ha, Rule.ruleId_of_mem_records hb]
    exact hrules.map Rule.id

/-- The records of a scan are in the order of their places; where two begin together, they are of
different rules, in the order of their configuration. -/
theorem pairwise_scan (hids : (s.rules.map Rule.id).Nodup) (text : String) (file : Option String) :
    (s.scan text file).Pairwise fun a b => a.offset < b.offset ∨
      a.offset = b.offset ∧ a.ruleId ≠ b.ruleId ∧
        [a.ruleId, b.ruleId].Sublist (s.rules.map Rule.id) := by
  have hsorted : (s.scan text file).Pairwise fun a b => decide (a.offset ≤ b.offset) = true :=
    List.pairwise_mergeSort offset_le_trans offset_le_total _
  have hstable := pairwise_mergeSort offset_le_trans offset_le_total
    (pairwise_flatMap_records s text file)
  apply (hsorted.and hstable).imp
  rintro a b ⟨hle, hties⟩
  rw [decide_eq_true_eq] at hle
  rcases Nat.lt_or_eq_of_le hle with hlt | heq
  · exact .inl hlt
  · have hrules := hties (by rw [decide_eq_true_eq, heq])
    have hne : a.ruleId ≠ b.ruleId := by simpa using hids.sublist hrules
    exact .inr ⟨heq, hne, hrules⟩

/-- The records of a scan are in the order of lines and columns. -/
theorem pairwise_place_scan (s : RuleSet) (text : String) (file : Option String) :
    (s.scan text file).Pairwise fun a b => a.location.line < b.location.line ∨
      a.location.line = b.location.line ∧ a.location.column ≤ b.location.column := by
  have hsorted : (s.scan text file).Pairwise fun a b => decide (a.offset ≤ b.offset) = true :=
    List.pairwise_mergeSort offset_le_trans offset_le_total _
  apply hsorted.imp_of_mem
  intro a b ha hb hle
  obtain ⟨front, matched, hfront, hshows⟩ := exists_shows_of_mem_scan ha
  obtain ⟨front', matched', hfront', hshows'⟩ := exists_shows_of_mem_scan hb
  have hprefix := (List.prefix_append front matched).trans hfront
  have hprefix' := (List.prefix_append front' matched').trans hfront'
  rw [decide_eq_true_eq, hshows.offset_eq, hshows'.offset_eq] at hle
  rw [hshows.location, hshows'.location]
  rcases Nat.lt_or_eq_of_le hle with hlt | heq
  · rcases place_lt_of_byteLength_lt hprefix hprefix' hlt with hline | ⟨hline, hcolumn⟩
    · exact .inl hline
    · exact .inr ⟨hline, Nat.le_of_lt hcolumn⟩
  · rw [eq_of_byteLength_eq hprefix hprefix' heq]
    exact .inr ⟨rfl, Nat.le_refl _⟩

/-- A scan merges the records of all rules, and loses nothing.

* In a text, the records are those of the rules, with the name of the file, and each shows a
  stretch of the text.  The records with the id of a rule are the records of this rule, in their
  order.  They are in the order of the bytes at which they begin, and so of lines and columns; two
  that begin together are of different rules, in the order of their configuration.
* The records of a source stand behind those of the sources before it and in front of those of the
  sources after it, and carry its name. -/
theorem scan_merges [PatternEngine] (entries : List HookEntry) :
    let s := (compile entries).1
    (∀ text file,
      (s.scan text file).Perm
        (s.rules.flatMap fun r => (r.records none text).map (Record.inFile file)) ∧
      (∀ record ∈ s.scan text file, ∃ front matched, front ++ matched <+: text.toList ∧
        record.Shows file front matched) ∧
      (∀ r ∈ s.rules, (s.scan text file).filter (·.ruleId == r.id) =
        (r.records none text).map (Record.inFile file)) ∧
      ((s.scan text file).Pairwise fun a b => a.offset < b.offset ∨
        a.offset = b.offset ∧ a.ruleId ≠ b.ruleId ∧
          [a.ruleId, b.ruleId].Sublist (s.rules.map Rule.id)) ∧
      (s.scan text file).Pairwise fun a b => a.location.line < b.location.line ∨
        a.location.line = b.location.line ∧ a.location.column ≤ b.location.column) ∧
    ∀ before source after,
      s.scanSources (before ++ source :: after) =
        s.scanSources before ++ (s.scan source.text (some source.name) ++ s.scanSources after) ∧
      ∀ record ∈ s.scan source.text (some source.name),
        record.location.file = some source.name := by
  intro s
  have hids : (s.rules.map Rule.id).Nodup := (indexed_compile entries).ids_nodup
  refine ⟨fun text file => ⟨?_, fun record => exists_shows_of_mem_scan, ?_,
    pairwise_scan hids text file, pairwise_place_scan s text file⟩, ?_⟩
  · have hperm := perm_scan s text file
    simp only [Rule.records_eq_map_inFile _ file] at hperm
    exact hperm
  · intro r hr
    rw [filter_scan hids hr, Rule.records_eq_map_inFile]
  · intro before source after
    constructor
    · unfold scanSources
      rw [List.flatMap_append, List.flatMap_cons]
    · intro record hrecord
      exact file_of_mem_scan hrecord

section Usual

attribute [local instance] PatternEngine.usual

/-- A migration and a removal begin together, and another removal is found inside of their match. -/
theorem scan_merges_overlapping :
    let s := (compile [.ofSignatures "Foo(int a)" (some "Bar(int a)"),
      .ofSignatures "Foo(int a)" none, .ofSignatures "int a" none]).1
    ∃ r ∈ s.rules, r.id = "FooError_2" ∧
      ((s.scan "é\nFoo(int a) Foo(int b)" (some "a.cs")).filter (·.ruleId == r.id)).map
          (fun record => (record.span, record.location)) =
        [(some ⟨3, 13⟩, ⟨some "a.cs", 1, 0⟩)] ∧
      ∀ source : Source, ∀ record ∈ s.scan source.text (some source.name),
        record.location.file = some source.name := by
  intro s
  obtain ⟨htexts, hsources⟩ := scan_merges [.ofSignatures "Foo(int a)" (some "Bar(int a)"),
    .ofSignatures "Foo(int a)" none, .ofSignatures "int a" none]
  obtain ⟨r, hr, hid, hrecords⟩ : ∃ r ∈ s.rules, r.id = "FooError_2" ∧
      (((r.records none "é\nFoo(int a) Foo(int b)").map (Record.inFile (some "a.cs"))).map
          fun record => (record.span, record.location)) =
        [(some ⟨3, 13⟩, ⟨some "a.cs", 1, 0⟩)] := by
    decide +kernel
  obtain ⟨-, -, hfilter, -⟩ := htexts "é\nFoo(int a) Foo(int b)" (some "a.cs")
  refine ⟨r, hr, hid, ?_, fun source => (hsources [] source []).2⟩
  rw [hfilter r hr, hrecords]

end Usual

end RuleSet

end HookMigration
