import HookMigration.Proofs.Migration.Rendering
import HookMigration.Proofs.RuleSet.Compiled

/-!
# A rule that keeps its signature

A rule whose new signature is the old one is expected to recognise the signature as it is displayed,
and to replace it by itself.  It does so exactly if every parameter is recognisable
(`recognises_itself_iff`):

* the blanks inside of its type stand next to brackets and commas, since the pattern leaves out all
  blanks of a type and allows some only there;
* its name consists of word characters, since the pattern looks for a word, while a signature admits
  other name characters as well.

A displayed signature is a call with an entry for each parameter, and the entries can be read in one
way only; so an occurrence in it has just these entries.
-/

namespace HookMigration

open Pattern Regex Text

/-- A parameter that the pattern of its own signature finds. -/
structure Parameter.Recognisable (p : Parameter) : Prop where
  type_spaced : Migration.Spaced (Migration.solid p.type.toList) p.type.toList
  name_word : p.name.toList.all isWordChar = true

namespace Migration

/-- The entries of a displayed list of parameters from a position on. -/
def displayed (position : Nat) : List Parameter → List Entry
  | [] => []
  | p :: rest =>
    { lead := if position > 1 then [' '] else []
      type := p.type.toList
      gap := [' ']
      name := p.name.toList
      trail := [] } :: displayed (position + 1) rest

variable {s : Signature} {ps : List Parameter} {position : Nat} {matched : List Char}

/-! ## Displayed signatures -/

theorem tailText_displayed (hposition : 1 < position) (ps : List Parameter) :
    tailText (displayed position ps) = ps.flatMap fun p => [',', ' '] ++ p.display.toList := by
  induction ps generalizing position with
  | nil => rfl
  | cons p rest ih =>
      have hrest := ih (Nat.lt_succ_of_lt hposition)
      rw [List.flatMap_cons, ← hrest]
      simp [displayed, tailText, Entry.text, hposition, Parameter.display]

theorem listOf_displayed (ps : List Parameter) :
    listOf (displayed 1 ps) = [',', ' '].intercalate (ps.map fun p => p.display.toList) := by
  cases ps with
  | nil => rfl
  | cons p rest =>
      rw [List.map_cons, intercalate_cons_flatMap, List.flatMap_map, displayed, listOf_cons,
        tailText_displayed (Nat.lt_succ_self 1)]
      simp [Entry.text, Parameter.display]

/-- A displayed signature is a call with the displayed entries. -/
theorem toList_display (s : Signature) :
    s.display.toList =
      s.name.toList ++ '(' :: (listOf (displayed 1 s.parameters) ++ [')']) := by
  rw [listOf_displayed]
  simp [Signature.display, Text.joinWith, Function.comp_def]

theorem tidy_displayed (htype : ∀ p ∈ ps, Signature.isTypeToken p.type.toList = true)
    (hne : ∀ p ∈ ps, p.name.toList ≠ []) (hname : ∀ p ∈ ps, p.name.toList.all isNameChar = true) :
    ∀ e ∈ displayed position ps, e.Tidy := by
  induction ps generalizing position with
  | nil => simp [displayed]
  | cons p rest ih =>
      intro e he
      rcases List.mem_cons.1 he with rfl | he
      · exact {
          lead_blank := by split_ifs <;> rfl
          type_text := isTypeText_of_token (htype p List.mem_cons_self)
          gap_blank := rfl
          gap_ne_nil := List.cons_ne_nil _ _
          name_inert := fun c hc => isInert_of_isNameChar
            (List.all_eq_true.1 (hname p List.mem_cons_self) c hc)
          name_ne_nil := hne p List.mem_cons_self
          trail_blank := rfl }
      · exact ih (fun q hq => htype q (List.mem_cons_of_mem _ hq))
          (fun q hq => hne q (List.mem_cons_of_mem _ hq))
          (fun q hq => hname q (List.mem_cons_of_mem _ hq)) e he

/-- Displayed entries write parameters whose types they space. -/
theorem forall₂_writes_displayed {qs : List Parameter} :
    List.Forall₂ Entry.Writes (displayed position qs) ps ↔
      List.Forall₂ (fun q p => Spaced (solid p.type.toList) q.type.toList ∧
        q.name.toList.all isWordChar = true ∧ q.name.toList ≠ []) qs ps := by
  induction qs generalizing position ps with
  | nil => cases ps <;> simp [displayed]
  | cons q others ih =>
      cases ps with
      | nil => simp [displayed]
      | cons p rest =>
          rw [displayed, List.forall₂_cons, List.forall₂_cons, ih]
          refine and_congr_left fun _ => ⟨fun h => ⟨h.type_spaced, h.name_word, h.name_ne_nil⟩, ?_⟩
          rintro ⟨htype, hword, hne⟩
          exact {
            lead_blank := by split_ifs <;> rfl
            type_spaced := htype
            gap_blank := rfl
            gap_ne_nil := List.cons_ne_nil _ _
            name_word := hword
            name_ne_nil := hne
            trail_blank := rfl }

/-- The displayed entries write the parameters if these are recognisable. -/
theorem writes_displayed_iff (hne : ∀ p ∈ ps, p.name.toList ≠ []) :
    List.Forall₂ Entry.Writes (displayed position ps) ps ↔ ∀ p ∈ ps, p.Recognisable := by
  rw [forall₂_writes_displayed, List.forall₂_same]
  exact forall₂_congr fun p hp =>
    ⟨fun h => ⟨h.1, h.2.1⟩, fun h => ⟨h.type_spaced, h.name_word, hne p hp⟩⟩

/-! ## Occurrences in a displayed signature -/

/-- An occurrence in a displayed signature has the displayed entries. -/
theorem eq_displayed_of_occurrence (hs : s.WellFormed) {es : List Entry}
    (h : Occurrence s es s.display.toList) : es = displayed 1 s.parameters := by
  rw [toList_display] at h
  obtain ⟨-, hinner, hwrites⟩ := h.of_call hs hs.name_word
  exact listText_unique (tidy_of_writes hs.type_token hwrites)
    (tidy_displayed hs.type_token hs.parameter_ne_nil hs.parameter_name) hinner
    (listText_listOf _)

theorem occurrence_displayed_iff (hs : s.WellFormed) :
    Occurrence s (displayed 1 s.parameters) s.display.toList ↔
      ∀ p ∈ s.parameters, p.Recognisable := by
  constructor
  · intro h
    exact (writes_displayed_iff hs.parameter_ne_nil).1 h.1
  · intro h
    exact ⟨(writes_displayed_iff hs.parameter_ne_nil).2 h, [], _, rfl, listText_listOf _,
      by rw [toList_display, List.append_nil]⟩

theorem exists_displayed (position : Nat) {i : Nat} {p : Parameter} (h : ps[i]? = some p) :
    ∃ e, (displayed position ps)[i]? = some e ∧ e.type = p.type.toList ∧
      e.name = p.name.toList := by
  induction ps generalizing position i with
  | nil => simp at h
  | cons q rest ih =>
      cases i with
      | zero =>
          obtain rfl : q = p := by simpa using h
          exact ⟨_, rfl, rfl, rfl⟩
      | succ i => exact ih (position + 1) (by simpa using h)

theorem length_displayed (position : Nat) (ps : List Parameter) :
    (displayed position ps).length = ps.length := by
  induction ps generalizing position with
  | nil => rfl
  | cons p rest ih => rw [displayed, List.length_cons, List.length_cons, ih]

/-! ## The template that keeps a signature -/

variable {all : List Parameter} {p : Parameter}

theorem sameAs_self (p : Parameter) : p.sameAs p = true :=
  Parameter.sameAs_iff.2 ⟨rfl, rfl⟩

theorem findIdx_sameAs_lt (hp : p ∈ all) : all.findIdx (·.sameAs p) < all.length :=
  List.findIdx_lt_length_of_exists ⟨p, hp, sameAs_self p⟩

/-- A parameter of the old signature gets what the first one with its type and its name captured. -/
theorem exists_madeParts {es : List Entry} (hp : p ∈ all) (hlength : es.length = all.length)
    (matched : List Char) (position : Nat) :
    ∃ e, es[all.findIdx (·.sameAs p)]? = some e ∧
      madeParts all (Match.captured ⟨matched, entryCaptures 1 es⟩) p position =
        (e.type, e.name) := by
  have hlt := findIdx_sameAs_lt hp
  have hindex : all.findIdx? (·.sameAs p) = some (all.findIdx (·.sameAs p)) := by
    rw [List.findIdx?_eq_some_iff_findIdx_eq]
    exact ⟨hlt, rfl⟩
  rw [← hlength] at hlt
  have he := List.getElem?_eq_getElem hlt
  refine ⟨_, he, ?_⟩
  simp only [madeParts, hindex, captured_type he, captured_name he]

/-- Of the displayed entries it makes the displayed entries. -/
theorem made_displayed (hps : ∀ p ∈ ps, p ∈ all) :
    made all (Match.captured ⟨matched, entryCaptures 1 (displayed 1 all)⟩) position ps =
      displayed position ps := by
  induction ps generalizing position with
  | nil => rfl
  | cons p rest ih =>
      have hp := hps p List.mem_cons_self
      have hlt := findIdx_sameAs_lt hp
      obtain ⟨e, he, hparts⟩ := exists_madeParts hp (length_displayed 1 all) matched position
      obtain ⟨e', he', htype, hname⟩ := exists_displayed 1 (List.getElem?_eq_getElem hlt)
      obtain rfl : e = e' := Option.some.inj (he.symm.trans he')
      have hfirst := Parameter.sameAs_iff.1 (List.findIdx_getElem (w := hlt))
      rw [made, hparts, htype, hname, hfirst.1, hfirst.2,
        ih fun q hq => hps q (List.mem_cons_of_mem _ hq)]
      rfl

end Migration

/-! ## Rules -/

open Migration

variable {r : Rule} {s : Signature}

/-- A rule that keeps its signature finds it in its display if all parameters are recognisable. -/
theorem Rule.Migrates.matches_display_iff (h : r.Migrates s s) :
    (∃ m, r.pattern.matchAhead? none s.display.toList = some m ∧ m.matched = s.display.toList) ↔
      ∀ p ∈ s.parameters, p.Recognisable := by
  have hs := Signature.wellFormed_of_parse h.old_read
  rw [← occurrence_displayed_iff hs, h.pattern]
  constructor
  · -- the occurrence that was found has the displayed entries
    rintro ⟨⟨matched, captures⟩, hfound, rfl⟩
    obtain ⟨es, hes, -⟩ := (matchAhead?_whole hs).1 hfound
    exact eq_displayed_of_occurrence hs hes ▸ hes
  · intro hoccurs
    exact ⟨_, (matchAhead?_whole hs).2 ⟨_, hoccurs, rfl⟩, rfl⟩

/-- Where it finds its signature in its display, it replaces the display by itself. -/
theorem Rule.Migrates.replacementFor_display (h : r.Migrates s s) {m : Match}
    (hfound : r.pattern.matchAhead? none s.display.toList = some m)
    (hmatched : m.matched = s.display.toList) : r.replacementFor m = s.display := by
  have hs := Signature.wellFormed_of_parse h.old_read
  obtain ⟨matched, captures⟩ := m
  obtain rfl : matched = s.display.toList := hmatched
  rw [h.pattern] at hfound
  obtain ⟨es, hes, rfl⟩ := (matchAhead?_whole hs).1 hfound
  obtain rfl := eq_displayed_of_occurrence hs hes
  rw [← String.toList_inj, Rule.replacementFor, h.template, toList_render_template,
    made_displayed fun p hp => hp, toList_display]

/-- A rule that keeps its signature matches its display as a whole, and gives back the same up to
blanks, exactly if all parameters are recognisable; then it gives back the very same text. -/
theorem recognises_itself_iff [PatternEngine] {source : String} (h : Signature.parse source = .ok s)
    (hr : Rule.compile source (some source) = .ok r) :
    ((∃ m, r.pattern.matchAhead? none s.display.toList = some m ∧ m.matched = s.display.toList ∧
        solid (r.replacementFor m).toList = solid s.display.toList) ↔
      ∀ p ∈ s.parameters, p.Recognisable) ∧
    ∀ m, r.pattern.matchAhead? none s.display.toList = some m → m.matched = s.display.toList →
      r.replacementFor m = s.display := by
  have hself := Rule.migrates_of_compile h h hr
  refine ⟨?_, fun m hfound hmatched => hself.replacementFor_display hfound hmatched⟩
  rw [← hself.matches_display_iff]
  constructor
  · rintro ⟨m, hfound, hmatched, -⟩
    exact ⟨m, hfound, hmatched⟩
  · rintro ⟨m, hfound, hmatched⟩
    exact ⟨m, hfound, hmatched, by rw [hself.replacementFor_display hfound hmatched]⟩

section Usual

attribute [local instance] PatternEngine.usual

/-- Blanks next to brackets and commas, and a parameter without a name. -/
theorem recognises_itself_iff_spacing :
    ∃ (s : Signature) (r : Rule) (m : Match),
      Signature.parse "Foo(List< A, B[ ] > x, int?)" = .ok s ∧
      Rule.compile "Foo(List< A, B[ ] > x, int?)" (some "Foo(List< A, B[ ] > x, int?)") = .ok r ∧
      r.pattern.matchAhead? none s.display.toList = some m ∧ r.replacementFor m = s.display ∧
      ∀ p ∈ s.parameters, p.Recognisable := by
  obtain ⟨s, hs, hfinds⟩ : ∃ s, Signature.parse "Foo(List< A, B[ ] > x, int?)" = .ok s ∧
      ((Rule.compile "Foo(List< A, B[ ] > x, int?)"
        (some "Foo(List< A, B[ ] > x, int?)")).toOption.any fun r =>
          (r.pattern.matchAhead? none s.display.toList).any fun m =>
            m.matched == s.display.toList) = true :=
    exists_ok_of_any (by decide +kernel)
  obtain ⟨r, hr, hfound⟩ := exists_ok_of_any hfinds
  obtain ⟨m, hm, hwhole⟩ := (Option.any_eq_true _ _).1 hfound
  have hmatched : m.matched = s.display.toList := by simpa using hwhole
  have hself := recognises_itself_iff hs hr
  have hsame : r.replacementFor m = s.display := hself.2 m hm hmatched
  exact ⟨s, r, m, hs, hr, hm, hsame, hself.1.1 ⟨m, hm, hmatched, by rw [hsame]⟩⟩

/-- A blank between two words of a type is left out of the pattern, so the rule does not find the
signature that it was made of. -/
theorem not_found_inner_blank :
    ∃ (s : Signature) (r : Rule), Signature.parse "Foo(List<A B> x)" = .ok s ∧
      Rule.compile "Foo(List<A B> x)" (some "Foo(List<A B> x)") = .ok r ∧
      r.pattern.matchAhead? none s.display.toList = none := by
  obtain ⟨s, hs, hmisses⟩ : ∃ s, Signature.parse "Foo(List<A B> x)" = .ok s ∧
      ((Rule.compile "Foo(List<A B> x)" (some "Foo(List<A B> x)")).toOption.any fun r =>
        (r.pattern.matchAhead? none s.display.toList).isNone) = true :=
    exists_ok_of_any (by decide +kernel)
  obtain ⟨r, hr, hnone⟩ := exists_ok_of_any hmisses
  exact ⟨s, r, hs, hr, by simpa using hnone⟩

end Usual

end HookMigration
