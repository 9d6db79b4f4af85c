import HookMigration.Proofs.Calls.Migrations
import HookMigration.Proofs.Records.Compiled

/-!
# Every occurrence has its record

A scan continues behind each match that it finds.  In general it may so pass over other matches,
those that begin inside of a match found before.  A migration has no such matches: its matches are
calls of one name, and these do not overlap.  So the spans of its records are the places of the text
that its pattern matches, one after the other, and no place is left out (`Rule.records_complete`).

The argument does without the word boundary in front of the name.  Where the pattern asks for none,
a match may begin inside of a word, but still not inside of another match: of two calls with the
same parentheses only one has the name.
-/

namespace HookMigration

open Pattern Regex Text

/-- An expression matches the stretch `matched` of a text, which begins behind `front`. -/
def Regex.MatchesIn (regex : Regex) (text front matched : List Char) : Prop :=
  ∃ after captures, text = front ++ (matched ++ after) ∧ regex.Matches front matched after captures

namespace Rule

variable {r : Rule} {old new : Signature} {text : String} {m : Match} {span : Span}
  {front front' matched matched' : List Char}

/-! ## Matches of a migration -/

/-- Two matches at different places do not overlap. -/
theorem Migrates.matches_apart (h : r.Migrates old new)
    (hm : r.pattern.regex.MatchesIn text.toList front matched)
    (hm' : r.pattern.regex.MatchesIn text.toList front' matched')
    (hlt : front.length < front'.length) : (front ++ matched).length ≤ front'.length := by
  have hs := Signature.wellFormed_of_parse h.old_read
  rw [h.pattern] at hm hm'
  obtain ⟨after, captures, htext, hmatches⟩ := hm
  obtain ⟨after', captures', htext', hmatches'⟩ := hm'
  obtain ⟨-, es, hes, -⟩ := (Migration.matches_regex hs).1 hmatches
  obtain ⟨-, es', hes', -⟩ := (Migration.matches_regex hs).1 hmatches'
  exact Calls.occurrences_apart hs hes hes' (htext.symm.trans htext') hlt

/-- The matcher finds a match as a whole. -/
theorem Migrates.exists_matchAhead? (h : r.Migrates old new) {after : List Char}
    {captures : Regex.Captures} (hm : r.pattern.regex.Matches front matched after captures) :
    ∃ m, r.pattern.matchAhead? front.getLast? (matched ++ after) = some m ∧
      m.matched = matched := by
  have hs := Signature.wellFormed_of_parse h.old_read
  rw [h.pattern] at hm ⊢
  obtain ⟨hfree, es, hes, -⟩ := (Migration.matches_regex hs).1 hm
  exact ⟨_, (Migration.matchAhead?_pattern hs).2 ⟨hfree, es, hes, rfl⟩, rfl⟩

theorem matchesIn_of_stretches {before rest : List Stretch}
    (hstretches : r.stretches text = before ++ .hit m :: rest) :
    r.pattern.regex.MatchesIn text.toList (scanned before) m.matched := by
  obtain ⟨-, htext, hfound⟩ := matchAhead?_of_stretches hstretches
  obtain ⟨after, hback, hmatches⟩ := matchAhead?_sound hfound
  obtain rfl := List.append_cancel_left hback
  exact ⟨_, _, htext, hmatches⟩

/-- Every match is found. -/
theorem Migrates.exists_stretch (h : r.Migrates old new)
    (hm : r.pattern.regex.MatchesIn text.toList front matched) :
    ∃ before m rest, r.stretches text = before ++ .hit m :: rest ∧ scanned before = front ∧
      m.matched = matched := by
  have hplace := hm
  obtain ⟨after, captures, htext, hmatches⟩ := hplace
  obtain ⟨m, hfound, rfl⟩ := h.exists_matchAhead? hmatches
  have hcovered := covered_stretches hfound (h.matched_ne_nil hfound)
  rw [← htext] at hcovered
  obtain ⟨before, x, rest, hstretches, hle, hlt⟩ := hcovered
  obtain ⟨-, hwhole, hx⟩ := matchAhead?_of_stretches hstretches
  -- A match that covers the place and begins before it would overlap.
  have hsame : (scanned before).length = front.length := by
    refine Nat.le_antisymm hle (Nat.le_of_not_lt fun hbefore => ?_)
    have hapart := h.matches_apart (matchesIn_of_stretches hstretches) hm hbefore
    rw [List.length_append] at hapart
    omega
  obtain ⟨hfront, hback⟩ := List.append_inj (hwhole.symm.trans htext) hsame
  rw [hfront, hback, hfound] at hx
  obtain rfl := Option.some.inj hx
  exact ⟨before, m, rest, hstretches, hfront, rfl⟩

/-! ## Spans -/

theorem map_span_records (r : Rule) (file : Option String) (text : String) :
    (r.records file text).map Record.span = ((r.edits text).map Edit.span).map some := by
  have hspan : ∀ record ∈ r.records file text,
      record.span = record.edit?.map Edit.span := by
    intro record hrecord
    obtain ⟨before, x, rest, -, rfl⟩ := mem_records_iff.1 hrecord
    rfl
  calc (r.records file text).map Record.span
      = ((r.records file text).map Record.edit?).map (Option.map Edit.span) := by
        rw [List.map_map]
        exact List.map_congr_left hspan
    _ = ((r.edits text).map some).map (Option.map Edit.span) := by rw [map_edit?_records]
    _ = ((r.edits text).map Edit.span).map some := by simp

theorem mem_spans_iff : span ∈ (r.edits text).map Edit.span ↔
    ∃ before m rest, r.stretches text = before ++ .hit m :: rest ∧
      span = ⟨byteLength (scanned before), byteLength (scanned before ++ m.matched)⟩ := by
  rw [List.mem_map]
  constructor
  · rintro ⟨e, he, rfl⟩
    obtain ⟨before, x, rest, hstretches, rfl⟩ := mem_edits_iff.1 he
    exact ⟨before, x, rest, hstretches, rfl⟩
  · rintro ⟨before, x, rest, hstretches, rfl⟩
    exact ⟨_, mem_edits_iff.2 ⟨before, x, rest, hstretches, rfl⟩, rfl⟩

theorem pairwise_start_lt (r : Rule) (text : String) :
    ((r.edits text).map Edit.span).Pairwise fun a b => a.start < b.start := by
  rw [List.pairwise_map]
  exact (r.pairwise_edits text).imp_of_mem fun ha _ hle =>
    Nat.lt_of_lt_of_le (start_lt_stop_of_mem_edits ha) hle

/-! ## Records -/

/-- The records of a migration are the places that its pattern matches.  Read as a regular
expression, the text of the pattern has no two matches that begin at different places of a text and
overlap; the spans of the records are those of its matches, all of them, in increasing order. -/
theorem records_complete [PatternEngine] (h : r.IsCompiled) (hmigration : r.isRemoval = false)
    (text : String) (file : Option String) :
    ∃ regex, read? r.pattern.text = some regex ∧
      (∀ front matched front' matched', regex.MatchesIn text.toList front matched →
        regex.MatchesIn text.toList front' matched' → front.length < front'.length →
          (front ++ matched).length ≤ front'.length) ∧
      ∃ spans : List Span, (r.records file text).map Record.span = spans.map some ∧
        spans.Pairwise (fun a b => a.start < b.start) ∧
        ∀ span, span ∈ spans ↔ ∃ front matched, regex.MatchesIn text.toList front matched ∧
          span = ⟨byteLength front, byteLength (front ++ matched)⟩ := by
  obtain ⟨old, new, hmigrates⟩ := h.exists_migrates hmigration
  have hread : read? r.pattern.text = some r.pattern.regex := by
    rw [hmigrates.pattern]
    exact read?_text (Migration.slots_nodup old)
  refine ⟨r.pattern.regex, hread, fun front matched front' matched' hm hm' hlt =>
    hmigrates.matches_apart hm hm' hlt, _, r.map_span_records file text,
    r.pairwise_start_lt text, fun span => ?_⟩
  rw [mem_spans_iff]
  constructor
  · rintro ⟨before, m, rest, hstretches, rfl⟩
    exact ⟨_, _, matchesIn_of_stretches hstretches, rfl⟩
  · rintro ⟨front, matched, hm, rfl⟩
    obtain ⟨before, m, rest, hstretches, rfl, rfl⟩ := hmigrates.exists_stretch hm
    exact ⟨before, m, rest, hstretches, rfl⟩

section Usual

attribute [local instance] PatternEngine.usual

/-- The name begins with a word character that is no name character, so the pattern asks for no word
boundary and matches behind a word. -/
theorem records_complete_no_boundary :
    ∃ r regex, compile "‿F(int x)" (some "G(int x)") = .ok r ∧ r.isRemoval = false ∧
      read? r.pattern.text = some regex ∧
      (r.records none "a‿F(int b)‿F(int c)").map Record.span = [some ⟨1, 12⟩, some ⟨12, 23⟩] ∧
      regex.MatchesIn "a‿F(int b)‿F(int c)".toList "a".toList "‿F(int b)".toList := by
  obtain ⟨r, hr, hcheck⟩ : ∃ r, compile "‿F(int x)" (some "G(int x)") = .ok r ∧
      (!r.isRemoval && decide ((r.records none "a‿F(int b)‿F(int c)").map Record.span =
        [some ⟨1, 12⟩, some ⟨12, 23⟩])) = true :=
    exists_ok_of_any (by decide +kernel)
  simp only [Bool.and_eq_true, Bool.not_eq_true', decide_eq_true_eq] at hcheck
  obtain ⟨hmigration, hrecords⟩ := hcheck
  obtain ⟨regex, hread, -, spans, hspans, -, hmem⟩ :=
    records_complete (isCompiled_of_compile hr) hmigration "a‿F(int b)‿F(int c)" none
  obtain rfl : spans = [⟨1, 12⟩, ⟨12, 23⟩] :=
    (List.map_inj_right fun _ _ => Option.some.inj).1 (hspans.symm.trans hrecords)
  obtain ⟨front, matched, hm, hspan⟩ := (hmem ⟨1, 12⟩).1 List.mem_cons_self
  -- A beginning of the text is told by its number of bytes.
  obtain ⟨hstart, hstop⟩ := Span.mk.inj hspan
  have htext := hm
  obtain ⟨after, captures, htext, -⟩ := htext
  have hfront : front = "a".toList :=
    eq_of_byteLength_eq ⟨_, htext.symm⟩ (by decide +kernel) hstart.symm
  have hboth : front ++ matched = "a".toList ++ "‿F(int b)".toList :=
    eq_of_byteLength_eq ⟨after, (List.append_assoc front matched after).trans htext.symm⟩
      (by decide +kernel) hstop.symm
  rw [hfront, List.append_cancel_left_eq] at hboth
  rw [hfront, hboth] at hm
  exact ⟨r, regex, hr, hmigration, hread, hrecords, hm⟩

end Usual

end Rule

end HookMigration
