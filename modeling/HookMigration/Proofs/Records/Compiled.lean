import HookMigration.Proofs.Migration.Meaning
import HookMigration.Proofs.Records.Edits
import HookMigration.Proofs.Removal.OwnText

/-!
# The records of a compiled rule

A match of a migration is an occurrence of its old signature, and a match of a removal is a spacing
of its text; neither is empty.  So a compiled rule passes over no match for want of characters, and
its records tell all that it does to a text (`Rule.records_agree`).

A record of a migration can be acted on without the text around it.  An occurrence stays one when it
is taken out of the text: what the pattern asks for in front of it holds at the beginning of a text,
and it captures the same there.
-/

namespace HookMigration

open Pattern Text

namespace Rule

variable {r : Rule} {old new : Signature} {before : Option Char} {ahead : List Char} {m : Match}

/-! ## No match is empty -/

/-- What a migration matches is an occurrence of its old signature. -/
theorem Migrates.exists_occurrence (h : r.Migrates old new)
    (hm : r.pattern.matchAhead? before ahead = some m) :
    ∃ es, Migration.Occurrence old es m.matched ∧ m.captures = Migration.entryCaptures 1 es := by
  have hs := Signature.wellFormed_of_parse h.old_read
  rw [h.pattern, ← getLast?_toList before] at hm
  obtain ⟨after, rfl, -⟩ := matchAhead?_sound hm
  exact ((Migration.matchAhead?_pattern hs).1 hm).2

theorem Migrates.matched_ne_nil (h : r.Migrates old new)
    (hm : r.pattern.matchAhead? before ahead = some m) : m.matched ≠ [] := by
  obtain ⟨es, ⟨-, gap, inner, -, -, hmatched⟩, -⟩ := h.exists_occurrence hm
  simp [hmatched]

theorem matched_ne_nil_of_removal {removed : String}
    (hpattern : r.pattern = Removal.pattern removed) (hne : trim removed.toList ≠ [])
    (hm : r.pattern.matchAhead? before ahead = some m) : m.matched ≠ [] := by
  rw [hpattern, ← getLast?_toList before] at hm
  obtain ⟨after, rfl, hmatches⟩ := matchAhead?_sound hm
  obtain ⟨-, hloosened, -⟩ := (Removal.matches_pattern _).1 hmatches
  exact hloosened.ne_nil (Removal.compact_ne_nil hne)

theorem IsCompiled.matched_ne_nil [PatternEngine] (h : r.IsCompiled)
    (hm : r.pattern.matchAhead? before ahead = some m) : m.matched ≠ [] := by
  cases hremoval : r.isRemoval with
  | false =>
      obtain ⟨old, new, hmigrates⟩ := h.exists_migrates hremoval
      exact hmigrates.matched_ne_nil hm
  | true =>
      obtain ⟨source, hpattern, hne⟩ := h.exists_removal hremoval
      exact matched_ne_nil_of_removal hpattern (by rwa [toList_trimmed, trim_trim]) hm

/-! ## A match of a migration stands alone -/

theorem Migrates.replaceAll_matched (h : r.Migrates old new)
    (hm : r.pattern.matchAhead? before ahead = some m) :
    r.replaceAll (String.ofList m.matched) = r.replacementFor m := by
  have hs := Signature.wellFormed_of_parse h.old_read
  have halone : r.pattern.matchAhead? none (m.matched ++ []) = some m := by
    obtain ⟨es, hes, hcaptures⟩ := h.exists_occurrence hm
    rw [List.append_nil, h.pattern]
    exact (Migration.matchAhead?_whole hs).2 ⟨es, hes, hcaptures⟩
  have hstretches := stretchesFrom_some (h.matched_ne_nil hm) halone
  rw [List.append_nil, stretchesFrom] at hstretches
  rw [replaceAll, stretches, Pattern.stretches, String.toList_ofList, hstretches]
  simp [replaceHits]

/-! ## Records and replacements -/

/-- The records of a compiled rule tell what the rule does to a text.

* No match of the rule is empty.
* Each record shows a stretch of the text, with its bytes and with the line and the column where it
  begins.  The replacement that a migration suggests is what it makes of the stretch alone.
* The spans hold at least one character, lie one behind the other, and cover every place where the
  pattern matches.  Putting the suggested replacements in their places, and nothing else, gives the
  text that the rule makes. -/
theorem records_agree [PatternEngine] (h : r.IsCompiled) (text : String) (file : Option String) :
    (∀ before ahead m, r.pattern.matchAhead? before ahead = some m → m.matched ≠ []) ∧
    (∀ record ∈ r.records file text, ∃ front matched back,
      text.toList = front ++ (matched ++ back) ∧ matched ≠ [] ∧ record.Shows file front matched ∧
      lineColumn? text (byteLength front) = some (record.location.line, record.location.column) ∧
      (r.isRemoval = false →
        record.suggestedReplacement = some (r.replaceAll (String.ofList matched)))) ∧
    ∃ edits, (r.records file text).map Record.edit? = edits.map some ∧
      (∀ e ∈ edits, e.span.start < e.span.stop) ∧
      edits.Pairwise (fun a b => a.span.stop ≤ b.span.start) ∧
      (∀ front back m, text.toList = front ++ back →
        r.pattern.matchAhead? front.getLast? back = some m →
          ∃ e ∈ edits, e.span.start ≤ byteLength front ∧ byteLength front < e.span.stop) ∧
      applyEdits edits text = r.replaceAll text := by
  refine ⟨fun before ahead m hm => h.matched_ne_nil hm, ?_, r.edits text,
    r.map_edit?_records file text, fun e he => start_lt_stop_of_mem_edits he,
    r.pairwise_edits text, ?_, r.applyEdits_edits text⟩
  · intro record hrecord
    obtain ⟨front, m, rest, hstretches, rfl⟩ := mem_records_iff.1 hrecord
    obtain ⟨hne, htext, hm⟩ := matchAhead?_of_stretches hstretches
    have hshows := r.shows_record file (scanned front) m
    refine ⟨scanned front, m.matched, scanned rest, htext, hne, hshows, ?_, ?_⟩
    · rw [lineColumn?_eq_some htext, hshows.location]
    · intro hremoval
      obtain ⟨old, new, hmigrates⟩ := h.exists_migrates hremoval
      rw [hmigrates.replaceAll_matched hm]
      rfl
  · intro front back m htext hm
    exact exists_edit_of_match htext hm (h.matched_ne_nil hm)

section Usual

attribute [local instance] PatternEngine.usual

/-- Behind a character of two bytes and a line end, one call directly follows another. -/
theorem records_agree_two_lines :
    ∃ r, compile "Foo(int x)" (some "Bar(int x)") = .ok r ∧ r.IsCompiled ∧
      (r.records none "é\nFoo( int n)Foo(int m)").map Record.edit? =
        [some ⟨⟨3, 14⟩, "Bar(int n)"⟩, some ⟨⟨14, 24⟩, "Bar(int m)"⟩] ∧
      applyEdits [⟨⟨3, 14⟩, "Bar(int n)"⟩, ⟨⟨14, 24⟩, "Bar(int m)"⟩] "é\nFoo( int n)Foo(int m)" =
        r.replaceAll "é\nFoo( int n)Foo(int m)" := by
  obtain ⟨r, hr, hcheck⟩ : ∃ r, compile "Foo(int x)" (some "Bar(int x)") = .ok r ∧
      decide ((r.records none "é\nFoo( int n)Foo(int m)").map Record.edit? =
        [some ⟨⟨3, 14⟩, "Bar(int n)"⟩, some ⟨⟨14, 24⟩, "Bar(int m)"⟩]) = true :=
    exists_ok_of_any (by decide +kernel)
  have hedits := of_decide_eq_true hcheck
  have hcompiled := isCompiled_of_compile hr
  obtain ⟨-, -, edits, hsome, -, -, -, happlied⟩ :=
    records_agree hcompiled "é\nFoo( int n)Foo(int m)" none
  obtain rfl : edits = [⟨⟨3, 14⟩, "Bar(int n)"⟩, ⟨⟨14, 24⟩, "Bar(int m)"⟩] :=
    (List.map_inj_right fun _ _ => Option.some.inj).1 (hsome.symm.trans hedits)
  exact ⟨r, hr, hcompiled, hedits, happlied⟩

end Usual

end Rule

end HookMigration
