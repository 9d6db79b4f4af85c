import HookMigration.Proofs.Migration.Spacing
import HookMigration.Rule.Removal

/-!
# The spacing of removed signatures

The pattern of a removed signature is made of its text in two steps.  Blanks next to a mark are left
out of the text, and then the atoms of each mark allow any number of blanks around it, but for a
closing parenthesis, behind which they allow none.  `Loosened` says what the atoms take
(`itemsTake_atoms`).

So the second step does not quite undo the first: a text is taken by its own atoms exactly if no
blanks were lost behind a closing parenthesis, that is, if a mark follows them which allows them in
front of it (`loosened_compact_iff`).  The text is followed from one character that is no blank to
the next one, with the blanks between the two.
-/

namespace HookMigration.Removal

open Pattern Regex Text
open Migration (solid itemsTake_literal)

/-- Whether the atoms of a character allow blanks behind it. -/
def loosensBehind (c : Char) : Bool :=
  c == '(' || c == ','

/-- Characters in order, with blanks in front of marks, and behind opening parentheses and commas. -/
inductive Loosened : (characters written : List Char) → Prop
  | nil : Loosened [] []
  | cons {c : Char} {lead trail ks written : List Char} (hlead : lead.all isBlank = true)
      (htrail : trail.all isBlank = true) (hfront : lead ≠ [] → isMark c = true)
      (hbehind : trail ≠ [] → loosensBehind c = true) (hrest : Loosened ks written) :
      Loosened (c :: ks) (lead ++ c :: (trail ++ written))

/-- Blanks behind a closing parenthesis are followed by a mark. -/
def ClosesTightly (text : List Char) : Prop :=
  ∀ before after, text = before ++ ')' :: after → after.head?.any isBlank = true →
    markAhead after = true

variable {c d : Char} {gap ks rest text x : List Char}

theorem isMark_of_isBlank (h : isBlank c = true) : isMark c = false := by
  by_contra hmark
  have hmarks : (['(', ')', ','].any isBlank) = false := by decide
  rw [List.any_eq_false] at hmarks
  refine hmarks c ?_ h
  rw [Bool.not_eq_false, isMark, Bool.or_eq_true, Bool.or_eq_true] at hmark
  simpa [or_assoc] using hmark

theorem isMark_eq (c : Char) : isMark c = (loosensBehind c || c == ')') := by
  rw [isMark, loosensBehind, Bool.or_right_comm]

theorem loosensBehind_close : loosensBehind ')' = false := by decide

/-- A character that is no mark has no blanks around it. -/
theorem gaps_eq_nil {lead trail : List Char} (hc : isMark c = false)
    (hfront : lead ≠ [] → isMark c = true) (hbehind : trail ≠ [] → loosensBehind c = true) :
    lead = [] ∧ trail = [] := by
  have hloose : loosensBehind c = false := by
    rw [isMark_eq, Bool.or_eq_false_iff] at hc
    exact hc.1
  constructor
  · by_contra hne
    simpa [hc] using hfront hne
  · by_contra hne
    simpa [hloose] using hbehind hne

/-! ## What the atoms take -/

section Items

variable {before after t : List Char}

theorem itemsTake_blanks {items : List Item} :
    ItemsTake before (.run .blank .any :: items) t after ↔
      ∃ gap others, t = gap ++ others ∧ gap.all isBlank = true ∧
        ItemsTake (before ++ gap) items others after := by
  constructor
  · rintro ⟨gap, others, rfl, ⟨hgap, -⟩, hrest⟩
    exact ⟨gap, others, rfl, hgap, hrest⟩
  · rintro ⟨gap, others, rfl, hgap, hrest⟩
    exact ⟨gap, others, rfl, ⟨hgap, trivial⟩, hrest⟩

/-- Optional blanks twice are optional blanks. -/
theorem itemsTake_consAtom (a : Atom) (atoms : List Atom) :
    ItemsTake before ((consAtom a atoms).map Atom.item) t after ↔
      ItemsTake before ((a :: atoms).map Atom.item) t after := by
  unfold consAtom
  split
  · next others =>
      simp only [List.map_cons, Atom.item, itemsTake_blanks]
      constructor
      · rintro ⟨gap, others, rfl, hgap, hrest⟩
        exact ⟨gap, others, rfl, hgap, [], others, rfl, rfl, by simpa using hrest⟩
      · rintro ⟨gap, -, rfl, hgap, gap', others, rfl, hgap', hrest⟩
        exact ⟨gap ++ gap', others, by simp, by rw [List.all_append, hgap, hgap', Bool.and_self],
          by simpa using hrest⟩
  · rfl

theorem itemsTake_collapse (atoms : List Atom) :
    ItemsTake before ((collapse atoms).map Atom.item) t after ↔
      ItemsTake before (atoms.map Atom.item) t after := by
  induction atoms generalizing before t with
  | nil => rfl
  | cons a rest ih =>
      have hcollapse : collapse (a :: rest) = consAtom a (collapse rest) := rfl
      rw [hcollapse, itemsTake_consAtom, List.map_cons, List.map_cons]
      constructor
      · rintro ⟨first, others, rfl, hfirst, hothers⟩
        exact ⟨first, others, rfl, hfirst, ih.1 hothers⟩
      · rintro ⟨first, others, rfl, hfirst, hothers⟩
        exact ⟨first, others, rfl, hfirst, ih.2 hothers⟩

/-- The atoms of one character take it with the blanks that it allows around it. -/
theorem itemsTake_charAtoms {items : List Item} :
    ItemsTake before ((charAtoms c).map Atom.item ++ items) t after ↔
      ∃ lead trail others, t = lead ++ c :: (trail ++ others) ∧ lead.all isBlank = true ∧
        trail.all isBlank = true ∧ (lead ≠ [] → isMark c = true) ∧
        (trail ≠ [] → loosensBehind c = true) ∧
        ItemsTake (before ++ (lead ++ c :: trail)) items others after := by
  unfold charAtoms
  split_ifs with hloose hclose <;>
    simp only [List.map_cons, List.map_nil, List.cons_append, List.nil_append, Atom.item,
      itemsTake_blanks, itemsTake_literal]
  · -- an opening parenthesis or a comma
    have hmark : isMark c = true ∧ loosensBehind c = true := by
      rcases hloose with rfl | rfl <;> decide
    constructor
    · rintro ⟨lead, -, rfl, hlead, -, rfl, trail, others, rfl, htrail, hothers⟩
      exact ⟨lead, trail, others, rfl, hlead, htrail, fun _ => hmark.1, fun _ => hmark.2,
        by simpa using hothers⟩
    · rintro ⟨lead, trail, others, rfl, hlead, htrail, -, -, hothers⟩
      exact ⟨lead, _, rfl, hlead, _, rfl, trail, others, rfl, htrail, by simpa using hothers⟩
  · -- a closing parenthesis
    subst hclose
    constructor
    · rintro ⟨lead, -, rfl, hlead, others, rfl, hothers⟩
      exact ⟨lead, [], others, rfl, hlead, rfl, fun _ => rfl, by simp, by simpa using hothers⟩
    · rintro ⟨lead, trail, others, rfl, hlead, -, -, hbehind, hothers⟩
      obtain rfl : trail = [] := by
        by_contra hne
        simpa [loosensBehind_close] using hbehind hne
      exact ⟨lead, _, rfl, hlead, others, rfl, by simpa using hothers⟩
  · -- any other character
    have hplain : isMark c = false := by simp [isMark, hclose, not_or.1 hloose]
    constructor
    · rintro ⟨others, rfl, hothers⟩
      exact ⟨[], [], others, rfl, rfl, rfl, by simp, by simp, by simpa using hothers⟩
    · rintro ⟨lead, trail, others, rfl, -, -, hfront, hbehind, hothers⟩
      obtain ⟨rfl, rfl⟩ := gaps_eq_nil hplain hfront hbehind
      exact ⟨others, rfl, by simpa using hothers⟩

/-- The atoms of a compact text take its loosened forms. -/
theorem itemsTake_atoms : ItemsTake before ((atoms ks).map Atom.item) t after ↔ Loosened ks t := by
  rw [atoms, itemsTake_collapse]
  induction ks generalizing before t with
  | nil =>
      constructor
      · rintro rfl
        exact .nil
      · rintro ⟨⟩
        rfl
  | cons c ks ih =>
      rw [List.flatMap_cons, List.map_append, itemsTake_charAtoms]
      constructor
      · rintro ⟨lead, trail, others, rfl, hlead, htrail, hfront, hbehind, hothers⟩
        exact .cons hlead htrail hfront hbehind (ih.1 hothers)
      · rintro ⟨⟩
        rename_i lead trail written hlead htrail hfront hbehind hwritten
        exact ⟨lead, trail, written, rfl, hlead, htrail, hfront, hbehind, ih.2 hwritten⟩

end Items

/-! ## The pattern -/

/-- The pattern asks for a word boundary where its text begins with a name character. -/
theorem pattern_eq_atoms (text : String) :
    pattern text = ⟨((if (compact text.toList).head?.any isNameChar then [Atom.boundary] else []) ++
      atoms (compact text.toList)).map .atom⟩ := by
  rw [pattern]
  cases compact text.toList with
  | nil => rfl
  | cons c rest =>
      have hhead : (c :: rest).head?.any isNameChar = isNameChar c := rfl
      rw [hhead, List.head?_cons, bounded]
      split_ifs <;> rfl

/-! ## Loosened texts -/

theorem Loosened.solid_eq {t : List Char} (h : Loosened ks t) : solid t = solid ks := by
  induction h with
  | nil => rfl
  | @cons c lead trail ks written hlead htrail hfront hbehind hrest ih =>
      have hwritten : lead ++ c :: (trail ++ written) = lead ++ ([c] ++ (trail ++ written)) := by
        simp
      have hks : c :: ks = [c] ++ ks := rfl
      rw [hwritten, hks]
      simp only [Migration.solid_append, Migration.solid_eq_nil hlead,
        Migration.solid_eq_nil htrail, ih, List.nil_append]

theorem Loosened.ne_nil {t : List Char} (h : Loosened ks t) (hne : ks ≠ []) : t ≠ [] := by
  cases h with
  | nil => exact absurd rfl hne
  | cons => simp

/-- One character more, with blanks behind it. -/
theorem Loosened.behind {trail written : List Char} (htrail : trail.all isBlank = true)
    (hbehind : trail ≠ [] → loosensBehind c = true) (h : Loosened ks written) :
    Loosened (c :: ks) (c :: (trail ++ written)) := by
  have hcons : Loosened (c :: ks) ([] ++ c :: (trail ++ written)) :=
    .cons rfl htrail (by simp) hbehind h
  exact hcons

/-- One character more, without blanks around it. -/
theorem Loosened.tight {written : List Char} (h : Loosened ks written) :
    Loosened (c :: ks) (c :: written) := by
  have hbehind : Loosened (c :: ks) (c :: ([] ++ written)) := .behind rfl (by simp) h
  exact hbehind

/-- A character that is no mark stands in a loosened text without blanks around it. -/
theorem loosened_plain_iff (hc : isMark c = false) :
    Loosened (c :: ks) (c :: x) ↔ Loosened ks x := by
  constructor
  · intro h
    generalize htext : c :: x = t at h
    obtain _ | ⟨hlead, htrail, hfront, hback, hrest⟩ := h
    rename_i lead trail written
    obtain ⟨rfl, rfl⟩ := gaps_eq_nil hc hfront hback
    obtain rfl : x = written := by simpa using htext
    exact hrest
  · exact fun h => h.tight

theorem loosened_plain_append (hgap : ∀ c ∈ gap, isMark c = false) :
    Loosened (gap ++ ks) (gap ++ x) ↔ Loosened ks x := by
  induction gap with
  | nil => rfl
  | cons c others ih =>
      rw [List.forall_mem_cons] at hgap
      rw [List.cons_append, List.cons_append, loosened_plain_iff hgap.1, ih hgap.2]

/-- Blanks between two neighbours are allowed behind the first or in front of the second. -/
theorem loosened_gap_iff (hc : isBlank c = false) (hd : isBlank d = false)
    (hgap : gap.all isBlank = true) :
    Loosened (c :: d :: ks) (c :: (gap ++ d :: x)) ↔
      (gap ≠ [] → loosensBehind c = true ∨ isMark d = true) ∧ Loosened (d :: ks) (d :: x) := by
  have hhead : ∀ {e : Char}, isBlank e = false → ∀ y : List Char,
      (e :: y).head?.any isBlank = false := by
    intro e he y
    simpa using he
  constructor
  · intro h
    generalize htext : c :: (gap ++ d :: x) = t at h
    obtain _ | ⟨hlead, htrail, hfront, hbehind, hrest⟩ := h
    rename_i lead trail written
    -- Each neighbour is found where the blanks before it end.
    obtain ⟨rfl, hback⟩ := run_unique (u := []) rfl hlead (hhead hc _) (hhead hc _) htext
    obtain _ | ⟨hlead', htrail', hfront', hbehind', hrest'⟩ := hrest
    rename_i lead' trail' written'
    have hback : gap ++ d :: x = (trail ++ lead') ++ d :: (trail' ++ written') := by
      simpa using hback
    have hblanks : (trail ++ lead').all isBlank = true := by
      rw [List.all_append, htrail, hlead', Bool.and_self]
    obtain ⟨rfl, hx⟩ := run_unique hgap hblanks (hhead hd _) (hhead hd _) hback
    obtain rfl : x = trail' ++ written' := by simpa using hx
    refine ⟨fun hne => ?_, .behind htrail' hbehind' hrest'⟩
    by_cases hnil : trail = []
    · exact .inr (hfront' (by simpa [hnil] using hne))
    · exact .inl (hbehind hnil)
  · rintro ⟨hallowed, h⟩
    by_cases hbehind : loosensBehind c = true
    · exact .behind hgap (fun _ => hbehind) h
    · generalize htext : d :: x = t at h
      obtain _ | ⟨hlead, htrail, hfront, hback, hrest⟩ := h
      rename_i lead trail written
      obtain ⟨rfl, hx⟩ := run_unique (u := []) rfl hlead (hhead hd _) (hhead hd _) htext
      have hmark : gap ≠ [] → isMark d = true := by
        intro hne
        exact (hallowed hne).resolve_left hbehind
      have hsecond : Loosened (d :: ks) (gap ++ d :: (trail ++ written)) :=
        .cons hgap htrail hmark hback hrest
      exact hsecond.tight

/-! ## Compact texts -/

/-- A text without a blank at its beginning, from one character that is no blank to the next. -/
theorem solid_induction {P : List Char → Prop} (nil : P [])
    (cons : ∀ c gap rest, isBlank c = false → gap.all isBlank = true →
      rest.head?.any isBlank = false → P rest → P (c :: (gap ++ rest)))
    (text : List Char) (hhead : text.head?.any isBlank = false) : P text := by
  induction hlength : text.length using Nat.strong_induction_on generalizing text with
  | _ n ih =>
      cases text with
      | nil => exact nil
      | cons c others =>
          have hothers : others.takeWhile isBlank ++ trimStart others = others :=
            List.takeWhile_append_dropWhile
          have hshorter : (trimStart others).length < n := by
            have hle := (List.dropWhile_suffix (l := others) isBlank).length_le
            rw [← hlength, List.length_cons]
            exact Nat.lt_succ_of_le hle
          have hrest := ih _ hshorter (trimStart others) (head?_trimStart others) rfl
          rw [← hothers]
          exact cons c _ _ (by simpa using hhead) List.all_takeWhile (head?_trimStart others) hrest

theorem markAhead_gap (hgap : gap.all isBlank = true) (hrest : rest.head?.any isBlank = false) :
    markAhead (gap ++ rest) = rest.head?.any isMark := by
  rw [markAhead, trimStart_append hgap, trimStart_eq_self hrest]

theorem compactFrom_solid (hc : isBlank c = false) (behindMark : Bool) :
    compactFrom behindMark (c :: rest) = c :: compactFrom (isMark c) rest := by
  rw [compactFrom, if_neg (by simp [hc])]

/-- A run of blanks is left out or kept as a whole. -/
theorem compactFrom_gap (hgap : gap.all isBlank = true) (hrest : rest.head?.any isBlank = false)
    (behindMark : Bool) :
    compactFrom behindMark (gap ++ rest) =
      (if behindMark || rest.head?.any isMark then [] else gap) ++ compactFrom false rest := by
  induction gap generalizing behindMark with
  | nil =>
      cases rest with
      | nil => simp [compactFrom]
      | cons c others =>
          have hc : isBlank c = false := by simpa using hrest
          simp [compactFrom_solid hc]
  | cons g others ih =>
      rw [List.all_cons, Bool.and_eq_true] at hgap
      rw [List.cons_append, compactFrom, if_pos hgap.1, markAhead_gap hgap.2 hrest, ih hgap.2,
        ih hgap.2, Bool.false_or]
      split_ifs with hdrop hmark
      · rfl
      · simp [hmark] at hdrop
      · rfl

theorem closesTightly_nil : ClosesTightly [] := by
  intro before after h
  simp at h

theorem closesTightly_cons (hgap : gap.all isBlank = true)
    (hrest : rest.head?.any isBlank = false) :
    ClosesTightly (c :: (gap ++ rest)) ↔
      (c = ')' → gap ≠ [] → rest.head?.any isMark = true) ∧ ClosesTightly rest := by
  have hhead : (gap ++ rest).head?.any isBlank = true ↔ gap ≠ [] := by
    cases gap with
    | nil => simp [hrest]
    | cons g others =>
        rw [List.all_cons, Bool.and_eq_true] at hgap
        simp [hgap.1]
  constructor
  · intro h
    constructor
    · rintro rfl hne
      rw [← markAhead_gap hgap hrest]
      exact h [] _ rfl (hhead.2 hne)
    · rintro before after rfl hblank
      exact h (c :: (gap ++ before)) after (by simp) hblank
  · rintro ⟨hfirst, h⟩ before after heq hblank
    cases before with
    | nil =>
        obtain ⟨rfl, rfl⟩ : c = ')' ∧ gap ++ rest = after := by simpa using heq
        rw [markAhead_gap hgap hrest]
        exact hfirst rfl (hhead.1 hblank)
    | cons e others =>
        obtain ⟨rfl, hothers⟩ : c = e ∧ gap ++ rest = others ++ ')' :: after := by simpa using heq
        -- No closing parenthesis is among the blanks.
        rcases List.append_eq_append_iff.1 hothers with ⟨between, rfl, hbetween⟩ | ⟨between, hx, hy⟩
        · exact h between after hbetween hblank
        · cases between with
          | nil => exact h [] after (by simpa using hy.symm) hblank
          | cons e' others' =>
              obtain ⟨rfl, -⟩ : ')' = e' ∧ after = others' ++ rest := by simpa using hy
              rw [hx, List.all_append, List.all_cons] at hgap
              simp at hgap

/-- A text is a loosened form of its compact form exactly if it closes tightly. -/
theorem loosened_compact_iff (hhead : text.head?.any isBlank = false)
    (hlast : text.getLast?.any isBlank = false) :
    Loosened (compactFrom false text) text ↔ ClosesTightly text := by
  revert hlast
  refine solid_induction (P := fun text => text.getLast?.any isBlank = false →
    (Loosened (compactFrom false text) text ↔ ClosesTightly text)) ?_ ?_ text hhead
  · exact fun _ => ⟨fun _ => closesTightly_nil, fun _ => .nil⟩
  · intro c gap rest hc hgap hrest ih hlast
    rw [compactFrom_solid hc, compactFrom_gap hgap hrest, closesTightly_cons hgap hrest]
    cases rest with
    | nil =>
        -- there are no blanks at the end
        obtain rfl : gap = [] := by
          by_contra hne
          rw [List.append_nil, List.getLast?_cons_of_ne_nil hne, List.getLast?_eq_some_getLast hne,
            Option.any_some, List.all_eq_true.1 hgap _ (List.getLast_mem hne)] at hlast
          exact absurd hlast (by simp)
        have hone : Loosened [c] [c] := Loosened.nil.tight
        simpa [compactFrom, closesTightly_nil] using hone
    | cons d others =>
        have hd : isBlank d = false := by simpa using hrest
        have hrest_iff := ih (by
          rw [← List.cons_append, List.getLast?_append_of_ne_nil _ (List.cons_ne_nil d others)]
            at hlast
          exact hlast)
        rw [List.head?_cons, Option.any_some]
        rw [compactFrom_solid hd] at hrest_iff ⊢
        by_cases hmarks : isMark c || isMark d
        · -- the blanks were left out
          rw [if_pos hmarks, List.nil_append, loosened_gap_iff hc hd hgap, hrest_iff]
          refine and_congr_left fun _ => ?_
          rw [isMark_eq c] at hmarks
          constructor
          · rintro h rfl hne
            simpa [loosensBehind_close] using h hne
          · intro h hne
            by_cases hclose : c = ')'
            · exact .inr (h hclose hne)
            · simpa [hclose] using hmarks
        · -- the blanks were kept
          rw [Bool.not_eq_true, Bool.or_eq_false_iff] at hmarks
          have hplain : ∀ e ∈ c :: gap, isMark e = false := by
            intro e he
            rcases List.mem_cons.1 he with rfl | he
            · exact hmarks.1
            · exact isMark_of_isBlank (List.all_eq_true.1 hgap e he)
          have hopen : c ≠ ')' := by
            rintro rfl
            exact absurd hmarks.1 (by decide)
          rw [if_neg (by simp [hmarks]), ← List.cons_append, ← List.cons_append,
            loosened_plain_append hplain, hrest_iff]
          simp [hopen]

end HookMigration.Removal
