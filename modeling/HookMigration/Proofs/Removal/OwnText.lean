import HookMigration.Proofs.Pattern.Scanning
import HookMigration.Proofs.Removal.Spacing
import HookMigration.Proofs.RuleSet.Compiled

/-!
# A removal and its own text

A removed signature is expected to be found where it stands in a source as it is configured.  Its rule
finds it exactly if two things hold (`Rule.finds_itself_iff`):

* if the text begins with a name character, the pattern asks for a word boundary, which is there if
  this is a word character and none stands before it; but some name characters are no word
  characters;
* the text closes tightly: the pattern has lost the blanks between a closing parenthesis and a
  character that is no mark.

A match may take more blanks behind the text, where the text ends in a mark that allows them, but
never less than the text: what it takes has the same characters other than blanks.
-/

namespace HookMigration

open Pattern Regex Text

namespace Removal

open Migration (solid)

/-- Whether a text may begin behind another: if it begins with a name character, exactly one of this
character and the one before it is a word character. -/
def StandsFree (text before : List Char) : Prop :=
  ∀ c, text.head? = some c → isNameChar c = true → before.getLast?.any isWordChar ≠ isWordChar c

variable {before after t ks : List Char} {captures : Regex.Captures} {text : String}

/-! ## The meaning of the pattern -/

theorem matches_items {atoms : List Atom} :
    Matches (atoms.map fun a => .item a.item) before t after captures ↔
      ItemsTake before (atoms.map Atom.item) t after ∧ captures = [] := by
  induction atoms generalizing before t with
  | nil => rfl
  | cons a rest ih =>
      simp only [List.map_cons, Matches, ItemsTake, ih]
      constructor
      · rintro ⟨first, others, rfl, hfirst, hothers, rfl⟩
        exact ⟨⟨first, others, rfl, hfirst, hothers⟩, rfl⟩
      · rintro ⟨⟨first, others, rfl, hfirst, hothers⟩, rfl⟩
        exact ⟨first, others, rfl, hfirst, hothers, rfl⟩

/-- A character that is no mark has no blanks in front of it. -/
theorem Loosened.head?_eq {c : Char} (h : Loosened (c :: ks) t) (hc : isMark c = false) :
    t.head? = some c := by
  obtain _ | ⟨hlead, htrail, hfront, hbehind, hrest⟩ := h
  obtain ⟨rfl, rfl⟩ := gaps_eq_nil hc hfront hbehind
  rfl

theorem isMark_of_isNameChar {c : Char} (h : isNameChar c = true) : isMark c = false := by
  by_contra hmark
  have hmarks : (['(', ')', ','].any isNameChar) = false := by decide +kernel
  rw [List.any_eq_false] at hmarks
  refine hmarks c ?_ h
  rw [Bool.not_eq_false, isMark, Bool.or_eq_true, Bool.or_eq_true] at hmark
  simpa [or_assoc] using hmark

/-- The pattern of a removed signature matches the loosened forms of its compact text. -/
theorem matches_pattern (text : String) :
    (pattern text).regex.Matches before t after captures ↔
      StandsFree (compact text.toList) before ∧ Loosened (compact text.toList) t ∧
        captures = [] := by
  have hregex : (pattern text).regex =
      ((if (compact text.toList).head?.any isNameChar then [Atom.boundary] else []) ++
        atoms (compact text.toList)).map fun a => .item a.item := by
    rw [pattern_eq_atoms, Pattern.regex, List.map_map]
    rfl
  rw [hregex, matches_items, StandsFree]
  cases compact text.toList with
  | nil => simp [itemsTake_atoms]
  | cons c rest =>
      have hhead : (c :: rest).head?.any isNameChar = isNameChar c := rfl
      rw [hhead]
      simp only [List.head?_cons, Option.some.injEq, forall_eq']
      split_ifs with hname
      · -- The boundary takes nothing, and what follows begins with the name character.
        have hword : ∀ {t : List Char}, Loosened (c :: rest) t →
            (t ++ after).head?.any isWordChar = isWordChar c := by
          intro t ht
          rw [List.head?_append, ht.head?_eq (isMark_of_isNameChar hname)]
          rfl
        constructor
        · rintro ⟨⟨-, others, rfl, ⟨rfl, hboundary⟩, hrest⟩, hcaptures⟩
          have hloosened := itemsTake_atoms.1 hrest
          rw [hword hloosened] at hboundary
          exact ⟨fun _ => hboundary, hloosened, hcaptures⟩
        · rintro ⟨hfree, hloosened, hcaptures⟩
          refine ⟨⟨[], t, rfl, ⟨rfl, ?_⟩, itemsTake_atoms.2 hloosened⟩, hcaptures⟩
          rw [hword hloosened]
          exact hfree hname
      · rw [List.nil_append, itemsTake_atoms]
        exact ⟨fun h => ⟨fun hc => absurd hc hname, h⟩, fun h => h.2⟩

/-! ## The own text -/

variable (hhead : t.head?.any isBlank = false) (hlast : t.getLast?.any isBlank = false)

include hhead in
theorem head?_compactFrom : (compactFrom false t).head? = t.head? := by
  cases t with
  | nil => rfl
  | cons c rest => rw [compactFrom_solid (by simpa using hhead)]; rfl

omit hhead in
theorem compact_ne_nil (hne : trim t ≠ []) : compact t ≠ [] := by
  intro hempty
  have hhead := head?_compactFrom (head?_trim t)
  rw [← compact, hempty] at hhead
  exact hne (List.head?_eq_none_iff.1 hhead.symm)

include hhead hlast

theorem matches_own_iff :
    (pattern (String.ofList t)).regex.Matches before t after captures ↔
      StandsFree t before ∧ ClosesTightly t ∧ captures = [] := by
  rw [matches_pattern, String.toList_ofList, compact, trim_eq_self hhead hlast,
    loosened_compact_iff hhead hlast, StandsFree, head?_compactFrom hhead]
  rfl

/-- What is found at the own text covers it. -/
theorem prefix_of_matchAhead? {m : Match} (htight : ClosesTightly t)
    (hm : (pattern (String.ofList t)).matchAhead? before.getLast? (t ++ after) = some m) :
    t <+: m.matched := by
  obtain ⟨rest, htext, hmatches⟩ := matchAhead?_sound hm
  obtain ⟨-, hloosened, -⟩ := (matches_pattern _).1 hmatches
  rw [String.toList_ofList, compact, trim_eq_self hhead hlast] at hloosened
  rcases List.prefix_or_prefix_of_prefix ⟨after, htext⟩ (List.prefix_append m.matched rest) with
    hle | ⟨x, hx⟩
  · exact hle
  · -- Nothing but blanks could be missing, and the text does not end in blanks.
    have hsolid : solid t = solid m.matched := by
      rw [((loosened_compact_iff hhead hlast).2 htight).solid_eq, hloosened.solid_eq]
    rw [← hx, Migration.solid_append, List.append_right_eq_self] at hsolid
    have hblank : isBlankText x = true := by
      rw [isBlankText, List.all_eq_true]
      intro c hc
      simpa using List.filter_eq_nil_iff.1 hsolid c hc
    have hnil : x = [] := by
      by_contra hne
      rw [← hx, List.getLast?_append_of_ne_nil _ hne] at hlast
      exact hne (eq_nil_of_isBlankText hblank hlast)
    rw [hnil, List.append_nil] at hx
    exact hx ▸ List.prefix_rfl

theorem exists_matchAhead? (hfree : StandsFree t before) (htight : ClosesTightly t)
    (after : List Char) :
    ∃ m, (pattern (String.ofList t)).matchAhead? before.getLast? (t ++ after) = some m ∧
      t <+: m.matched := by
  have hmatches : (pattern (String.ofList t)).regex.Matches before t after [] :=
    (matches_own_iff hhead hlast).2 ⟨hfree, htight, rfl⟩
  obtain ⟨m, hm⟩ := matchAhead?_complete hmatches
  exact ⟨m, hm, prefix_of_matchAhead? hhead hlast htight hm⟩

/-- The pattern takes its own text as a whole. -/
theorem matches_whole_iff :
    (∃ m, (pattern (String.ofList t)).matchAhead? none t = some m ∧ m.matched = t) ↔
      StandsFree t [] ∧ ClosesTightly t := by
  have hsound : ∀ m, (pattern (String.ofList t)).matchAhead? none t = some m → ∃ after,
      t = m.matched ++ after ∧
        (pattern (String.ofList t)).regex.Matches [] m.matched after (labelled m.captures) := by
    intro m hm
    exact matchAhead?_sound hm
  constructor
  · rintro ⟨m, hm, hwhole⟩
    obtain ⟨rest, -, hmatches⟩ := hsound m hm
    rw [hwhole] at hmatches
    obtain ⟨hfree, htight, -⟩ := (matches_own_iff hhead hlast).1 hmatches
    exact ⟨hfree, htight⟩
  · rintro ⟨hfree, htight⟩
    obtain ⟨m, hm, hcovers⟩ := exists_matchAhead? hhead hlast hfree htight []
    rw [List.append_nil] at hm
    obtain ⟨rest, htext, -⟩ := hsound m hm
    refine ⟨m, hm, (hcovers.eq_of_length_le ?_).symm⟩
    rw [htext]
    simp

end Removal

/-! ## Rules -/

open Removal

theorem Rule.removes_of_compile [PatternEngine] {old : String} {r : Rule}
    (h : Rule.compile old none = .ok r) :
    r.pattern = Removal.pattern (trimmed old) ∧ trim old.toList ≠ [] :=
  pattern_of_compileRemoval h

/-- The rule of a removal finds its own text as a whole exactly if the text may stand alone and
closes tightly.  Then it reports the text wherever it may begin in a source, alone or as part of a
match around it. -/
theorem Rule.finds_itself_iff [PatternEngine] {old : String} {r : Rule}
    (h : Rule.compile old none = .ok r) :
    ((∃ m, r.pattern.matchAhead? none (trim old.toList) = some m ∧
        m.matched = trim old.toList) ↔
      StandsFree (trim old.toList) [] ∧ ClosesTightly (trim old.toList)) ∧
    ∀ front back file, StandsFree (trim old.toList) front → ClosesTightly (trim old.toList) →
      ∃ before m, before ++ m.matched <+: front ++ (trim old.toList ++ back) ∧
        before.length ≤ front.length ∧ front.length < before.length + m.matched.length ∧
        r.record file (Cursor.start.advanceOver before) m ∈
          r.records file (String.ofList (front ++ (trim old.toList ++ back))) := by
  obtain ⟨hpattern, hne⟩ := removes_of_compile h
  have hhead := head?_trim old.toList
  have hlast := getLast?_trim old.toList
  have hown : r.pattern = Removal.pattern (String.ofList (trim old.toList)) := hpattern
  rw [hown]
  refine ⟨matches_whole_iff hhead hlast, ?_⟩
  intro front back file hfree htight
  obtain ⟨m, hm, hcovers⟩ := exists_matchAhead? hhead hlast hfree htight back
  have hmatched : m.matched ≠ [] := by
    intro hempty
    rw [hempty] at hcovers
    exact hne (List.prefix_nil.1 hcovers)
  have hcovered := covered_stretches hm hmatched
  rw [← hown] at hcovered
  have hstretches : Covered
      (r.stretches (String.ofList (front ++ (trim old.toList ++ back)))) front.length := by
    rw [Rule.stretches, String.toList_ofList]
    exact hcovered
  have hrecord := exists_record_of_covered hstretches file
  rwa [String.toList_ofList] at hrecord

section Usual

attribute [local instance] PatternEngine.usual

/-- Blanks next to marks, an inner parenthesis, and blanks between words. -/
theorem Rule.finds_itself_iff_spacing :
    ∃ r m, Rule.compile " Foo ( (int , int), ref  Bar x ) " none = .ok r ∧
      r.pattern.matchAhead? none (trim " Foo ( (int , int), ref  Bar x ) ".toList) = some m ∧
      StandsFree (trim " Foo ( (int , int), ref  Bar x ) ".toList) [] ∧
      ClosesTightly (trim " Foo ( (int , int), ref  Bar x ) ".toList) := by
  obtain ⟨r, hr, hfound⟩ : ∃ r, Rule.compile " Foo ( (int , int), ref  Bar x ) " none = .ok r ∧
      ((r.pattern.matchAhead? none (trim " Foo ( (int , int), ref  Bar x ) ".toList)).any fun m =>
        m.matched == trim " Foo ( (int , int), ref  Bar x ) ".toList) = true :=
    exists_ok_of_any (by decide +kernel)
  obtain ⟨m, hm, hwhole⟩ := (Option.any_eq_true _ _).1 hfound
  obtain ⟨hfree, htight⟩ := (finds_itself_iff hr).1.1 ⟨m, hm, by simpa using hwhole⟩
  exact ⟨r, m, hr, hm, hfree, htight⟩

/-- The blank behind an inner parenthesis is left out of the pattern and not allowed again, so the
rule does not find the text that it was made of. -/
theorem Rule.not_found_behind_close :
    ∃ r, Rule.compile "Foo((int, int) pair)" none = .ok r ∧
      r.pattern.matchAhead? none "Foo((int, int) pair)".toList = none := by
  obtain ⟨r, hr, hnone⟩ : ∃ r, Rule.compile "Foo((int, int) pair)" none = .ok r ∧
      (r.pattern.matchAhead? none "Foo((int, int) pair)".toList).isNone = true :=
    exists_ok_of_any (by decide +kernel)
  exact ⟨r, hr, by simpa using hnone⟩

end Usual

end HookMigration
