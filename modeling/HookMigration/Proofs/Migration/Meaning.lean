import HookMigration.Proofs.Migration.Occurrence

/-!
# What the pattern of a migration means

The pattern of an old signature matches exactly the occurrences of that signature, and its groups
capture the types and the names of the entries.  Read as a regular expression, its text says the
same (`pattern_meaning`): no character of the signature is an operator in it, and since a text begins
with an occurrence in one way only, it makes no difference in which order the ways to match are
tried.

The expression is followed from left to right.  Each lemma below says what one piece of it takes and
leaves the rest of the expression as it is; `matches_tail` is the induction along the parameters.
-/

namespace HookMigration.Migration

open Pattern Regex Text

variable {before matched after : List Char} {captures : Regex.Captures} {r : Regex}

/-! ## Single pieces -/

theorem matches_literal {c : Char} :
    Matches (.item (.run (.exactly c) .one) :: r) before matched after captures ↔
      ∃ others, matched = c :: others ∧ Matches r (before ++ [c]) others after captures := by
  constructor
  · rintro ⟨first, others, rfl, ⟨hall, hlength⟩, hrest⟩
    obtain ⟨d, rfl⟩ := List.length_eq_one_iff.1 hlength
    obtain rfl : d = c := by simpa [CharClass.holds] using hall
    exact ⟨others, rfl, hrest⟩
  · rintro ⟨others, rfl, hrest⟩
    exact ⟨[c], others, rfl, ⟨by simp [CharClass.holds], rfl⟩, hrest⟩

theorem matches_literals {cs : List Char} :
    Matches ((literals cs).map (fun a => .item a.item) ++ r) before matched after captures ↔
      ∃ others, matched = cs ++ others ∧ Matches r (before ++ cs) others after captures := by
  induction cs generalizing before matched with
  | nil => simp [literals]
  | cons c rest ih =>
      simp only [literals, List.map_cons, List.cons_append, Atom.item, matches_literal]
      constructor
      · rintro ⟨others, rfl, hothers⟩
        obtain ⟨others', rfl, hrest⟩ := ih.1 hothers
        exact ⟨others', rfl, by simpa using hrest⟩
      · rintro ⟨others, rfl, hothers⟩
        exact ⟨rest ++ others, rfl, ih.2 ⟨others, rfl, by simpa using hothers⟩⟩

theorem matches_blanks :
    Matches (.item (.run .blank .any) :: r) before matched after captures ↔
      ∃ gap others, matched = gap ++ others ∧ gap.all isBlank = true ∧
        Matches r (before ++ gap) others after captures := by
  constructor
  · rintro ⟨gap, others, rfl, ⟨hgap, -⟩, hrest⟩
    exact ⟨gap, others, rfl, hgap, hrest⟩
  · rintro ⟨gap, others, rfl, hgap, hrest⟩
    exact ⟨gap, others, rfl, ⟨hgap, trivial⟩, hrest⟩

theorem matches_someBlanks :
    Matches (.item (.run .blank .some) :: r) before matched after captures ↔
      ∃ gap others, matched = gap ++ others ∧ gap.all isBlank = true ∧ gap ≠ [] ∧
        Matches r (before ++ gap) others after captures := by
  constructor
  · rintro ⟨gap, others, rfl, ⟨hgap, hlength⟩, hrest⟩
    exact ⟨gap, others, rfl, hgap, List.length_pos_iff.1 hlength, hrest⟩
  · rintro ⟨gap, others, rfl, hgap, hne, hrest⟩
    exact ⟨gap, others, rfl, ⟨hgap, List.length_pos_iff.2 hne⟩, hrest⟩

theorem matches_typeGroup {label : String} {type : List Char} :
    Matches (.group label ((typeAtoms type).map Atom.item) :: r) before matched after captures ↔
      ∃ written others captures', matched = written ++ others ∧
        captures = (label, written) :: captures' ∧ Spaced (solid type) written ∧
        Matches r (before ++ written) others after captures' := by
  constructor
  · rintro ⟨written, others, captures', rfl, rfl, htake, hrest⟩
    exact ⟨written, others, captures', rfl, rfl, itemsTake_typeAtoms.1 htake, hrest⟩
  · rintro ⟨written, others, captures', rfl, rfl, hspaced, hrest⟩
    exact ⟨written, others, captures', rfl, rfl, itemsTake_typeAtoms.2 hspaced, hrest⟩

theorem matches_wordGroup {label : String} :
    Matches (.group label [.run .word .some] :: r) before matched after captures ↔
      ∃ name others captures', matched = name ++ others ∧ captures = (label, name) :: captures' ∧
        name.all isWordChar = true ∧ name ≠ [] ∧
        Matches r (before ++ name) others after captures' := by
  constructor
  · rintro ⟨name, others, captures', rfl, rfl, ⟨first, rest, rfl, ⟨hall, hlength⟩, rfl⟩, hrest⟩
    rw [List.append_nil] at hrest ⊢
    exact ⟨first, others, captures', rfl, rfl, hall, List.length_pos_iff.1 hlength, hrest⟩
  · rintro ⟨name, others, captures', rfl, rfl, hall, hne, hrest⟩
    exact ⟨name, others, captures', rfl, rfl,
      ⟨name, [], by simp, ⟨hall, List.length_pos_iff.2 hne⟩, rfl⟩, hrest⟩

/-! ## Parameters -/

/-- The pieces for the parameter at a position, without the comma before it. -/
def parameterPieces (p : Parameter) (position : Nat) : Regex :=
  [.item (.run .blank .any),
    .group (Slot.type position).label ((typeAtoms p.type.toList).map Atom.item),
    .item (.run .blank .some), .group (Slot.name position).label [.run .word .some]]

/-- What the groups of the parameters from a position on capture of entries. -/
def entryCaptures (position : Nat) : List Entry → Pattern.Captures
  | [] => []
  | e :: rest =>
    (.type position, e.type) :: (.name position, e.name) :: entryCaptures (position + 1) rest

/-- The pieces of a parameter take an entry up to the blanks behind its name. -/
theorem matches_parameterPieces {p : Parameter} {position : Nat} :
    Matches (parameterPieces p position ++ r) before matched after captures ↔
      ∃ e : Entry, ∃ others captures', e.trail = [] ∧ e.Writes p ∧ matched = e.text ++ others ∧
        captures = ((Slot.type position).label, e.type) ::
          ((Slot.name position).label, e.name) :: captures' ∧
        Matches r (before ++ e.text) others after captures' := by
  simp only [parameterPieces, List.cons_append, List.nil_append, matches_blanks,
    matches_typeGroup, matches_someBlanks, matches_wordGroup]
  constructor
  · rintro ⟨lead, -, rfl, hlead, type, -, -, rfl, rfl, hspaced, gap, -, rfl, hgap, hgapne, name,
      others, captures', rfl, rfl, hname, hnamene, hrest⟩
    refine ⟨⟨lead, type, gap, name, []⟩, others, captures', rfl,
      ⟨hlead, hspaced, hgap, hgapne, hname, hnamene, rfl⟩, ?_, rfl, ?_⟩
    · simp [Entry.text]
    · simpa [Entry.text] using hrest
  · rintro ⟨⟨lead, type, gap, name, trail⟩, others, captures', rfl, hwrites, rfl, rfl, hrest⟩
    obtain ⟨hlead, hspaced, hgap, hgapne, hname, hnamene, -⟩ := hwrites
    refine ⟨lead, type ++ gap ++ name ++ others, by simp [Entry.text], hlead, type,
      gap ++ name ++ others, _, by simp, rfl, hspaced, gap, name ++ others, by simp, hgap, hgapne,
      name, others, captures', rfl, rfl, hname, hnamene, ?_⟩
    simpa [Entry.text] using hrest

/-! ## The list of parameters -/

/-- The pieces of a comma with optional blanks in front. -/
def commaPieces : Regex :=
  [.item (.run .blank .any), .item (.run (.exactly ',') .one)]

/-- The pieces of the closing parenthesis with optional blanks in front. -/
def closingPieces : Regex :=
  [.item (.run .blank .any), .item (.run (.exactly ')') .one)]

theorem map_piece_parameterParts (p : Parameter) (position : Nat) :
    (parameterParts p position).map Part.piece =
      (if position > 1 then commaPieces else []) ++ parameterPieces p position := by
  unfold parameterParts parameterPieces commaPieces
  split_ifs <;> simp [Part.piece, Atom.item]

theorem matches_closingPieces :
    Matches closingPieces before matched after captures ↔
      ∃ gap, gap.all isBlank = true ∧ matched = gap ++ [')'] ∧ captures = [] := by
  rw [closingPieces, matches_blanks]
  simp only [matches_literal]
  constructor
  · rintro ⟨gap, -, rfl, hgap, -, rfl, rfl, rfl⟩
    exact ⟨gap, hgap, rfl, rfl⟩
  · rintro ⟨gap, hgap, rfl, rfl⟩
    exact ⟨gap, _, rfl, hgap, [], rfl, rfl, rfl⟩

/-- An entry with other blanks behind its name. -/
def Entry.withTrail (e : Entry) (trail : List Char) : Entry :=
  { e with trail := trail }

theorem Entry.Writes.withTrail {e : Entry} {p : Parameter} (h : e.Writes p) {trail : List Char}
    (htrail : trail.all isBlank = true) : (e.withTrail trail).Writes p :=
  { h with trail_blank := htrail }

theorem Entry.text_withTrail {e : Entry} (h : e.trail = []) (trail : List Char) :
    (e.withTrail trail).text = e.text ++ trail := by
  simp [Entry.text, Entry.withTrail, h]

theorem Entry.text_eq_append (e : Entry) : e.text = (e.withTrail []).text ++ e.trail := by
  simp [Entry.text, Entry.withTrail]

/-- The pieces from the second parameter on take the blanks behind the entry before, and then the
other entries up to the closing parenthesis. -/
theorem matches_tail {ps : List Parameter} {position : Nat} (hposition : 1 < position) :
    Matches ((parametersParts position ps).map Part.piece ++ closingPieces) before matched after
        captures ↔
      ∃ trail es, trail.all isBlank = true ∧ List.Forall₂ Entry.Writes es ps ∧
        matched = trail ++ (tailText es ++ [')']) ∧
        captures = labelled (entryCaptures position es) := by
  induction ps generalizing position before matched captures with
  | nil =>
      simp only [parametersParts, List.map_nil, List.nil_append, matches_closingPieces]
      constructor
      · rintro ⟨gap, hgap, rfl, rfl⟩
        exact ⟨gap, [], hgap, .nil, rfl, rfl⟩
      · rintro ⟨trail, es, htrail, hes, rfl, rfl⟩
        cases hes
        exact ⟨trail, htrail, rfl, rfl⟩
  | cons p ps ih =>
      simp only [parametersParts, List.map_append, map_piece_parameterParts, if_pos hposition,
        commaPieces, List.append_assoc, List.cons_append, List.nil_append, matches_blanks,
        matches_literal, matches_parameterPieces, ih (Nat.lt_succ_of_lt hposition)]
      constructor
      · rintro ⟨gap, -, rfl, hgap, -, rfl, e, -, -, hnil, hfirst, rfl, rfl, trail, es, htrail, hes,
          rfl, rfl⟩
        refine ⟨gap, e.withTrail trail :: es, hgap, .cons (hfirst.withTrail htrail) hes,
          ?_, rfl⟩
        simp [tailText, e.text_withTrail hnil]
      · -- The blanks behind an entry are taken by the pieces that come after it.
        rintro ⟨gap, es, hgap, hes, rfl, rfl⟩
        obtain ⟨e, es, hfirst, hrest, rfl⟩ := List.forall₂_cons_right_iff.1 hes
        refine ⟨gap, _, rfl, hgap, e.text ++ (tailText es ++ [')']), by simp [tailText],
          e.withTrail [], e.trail ++ (tailText es ++ [')']), _, rfl, hfirst.withTrail rfl,
          ?_, rfl, e.trail, es, hfirst.trail_blank, hrest, rfl, rfl⟩
        rw [e.text_eq_append, List.append_assoc]

/-- The pieces of all parameters take a list of entries and the closing parenthesis. -/
theorem matches_list {ps : List Parameter} :
    Matches ((parametersParts 1 ps).map Part.piece ++ closingPieces) before matched after
        captures ↔
      ∃ es inner, List.Forall₂ Entry.Writes es ps ∧ ListText es inner ∧ matched = inner ++ [')'] ∧
        captures = labelled (entryCaptures 1 es) := by
  cases ps with
  | nil =>
      simp only [parametersParts, List.map_nil, List.nil_append, matches_closingPieces]
      constructor
      · rintro ⟨gap, hgap, rfl, rfl⟩
        exact ⟨[], gap, .nil, hgap, rfl, rfl⟩
      · rintro ⟨es, inner, hes, hinner, rfl, rfl⟩
        cases hes
        exact ⟨inner, hinner, rfl, rfl⟩
  | cons p ps =>
      simp only [parametersParts, List.map_append, map_piece_parameterParts, gt_iff_lt,
        lt_irrefl, if_false, List.nil_append, List.append_assoc, matches_parameterPieces,
        matches_tail (Nat.lt_succ_self 1)]
      constructor
      · rintro ⟨e, -, -, hnil, hfirst, rfl, rfl, trail, es, htrail, hes, rfl, rfl⟩
        refine ⟨e.withTrail trail :: es, _, .cons (hfirst.withTrail htrail) hes,
          listText_cons.2 rfl, ?_, rfl⟩
        simp [e.text_withTrail hnil]
      · rintro ⟨es, inner, hes, hinner, rfl, rfl⟩
        obtain ⟨e, es, hfirst, hrest, rfl⟩ := List.forall₂_cons_right_iff.1 hes
        rw [listText_cons] at hinner
        subst hinner
        refine ⟨e.withTrail [], e.trail ++ (tailText es ++ [')']), _, rfl,
          hfirst.withTrail rfl, ?_, rfl, e.trail, es, hfirst.trail_blank, hrest, rfl, rfl⟩
        rw [e.text_eq_append, List.append_assoc, List.append_assoc]

/-! ## The whole pattern -/

variable {s : Signature}

/-- Whether a signature may begin behind a text: where its name begins with a name character, the
text does not end in the middle of a word. -/
def StandsFree (s : Signature) (before : List Char) : Prop :=
  s.name.toList.head?.any isNameChar = true → before.getLast?.any isWordChar = false

/-- The parts of a pattern without the word boundary in front. -/
def callParts (s : Signature) : List Part :=
  (literals s.name.toList).map .atom ++ [.atom .blanks, .atom (.literal '(')] ++
    parametersParts 1 s.parameters ++ [.atom .blanks, .atom (.literal ')')]

theorem pattern_eq (s : Signature) : pattern s = bounded s.name.toList.head? (callParts s) := rfl

theorem matches_callParts :
    Matches ((callParts s).map Part.piece) before matched after captures ↔
      ∃ es, Occurrence s es matched ∧ captures = labelled (entryCaptures 1 es) := by
  have hpieces : (callParts s).map Part.piece =
      (literals s.name.toList).map (fun a => .item a.item) ++
        .item (.run .blank .any) :: .item (.run (.exactly '(') .one) ::
          ((parametersParts 1 s.parameters).map Part.piece ++ closingPieces) := by
    simp [callParts, closingPieces, Part.piece, Atom.item, Function.comp_def]
  simp only [hpieces, matches_literals, matches_blanks, matches_literal, matches_list]
  constructor
  · rintro ⟨-, rfl, gap, -, rfl, hgap, -, rfl, es, inner, hes, hinner, rfl, rfl⟩
    exact ⟨es, ⟨hes, gap, inner, hgap, hinner, by simp⟩, rfl⟩
  · rintro ⟨es, ⟨hes, gap, inner, hgap, hinner, rfl⟩, rfl⟩
    exact ⟨gap ++ '(' :: (inner ++ [')']), by simp, gap, '(' :: (inner ++ [')']), rfl, hgap,
      inner ++ [')'], rfl, es, inner, hes, hinner, rfl, rfl⟩

/-- An occurrence begins with the first character of the name. -/
theorem Occurrence.head?_eq (hs : s.WellFormed) {es : List Entry}
    (h : Occurrence s es matched) (x : List Char) : (matched ++ x).head? = s.name.toList.head? := by
  obtain ⟨-, gap, inner, -, -, rfl⟩ := h
  rw [List.append_assoc, List.append_assoc, List.head?_append_of_ne_nil _ hs.name_ne_nil]

/-- What the expression of a pattern matches, and what its groups capture. -/
theorem matches_regex (hs : s.WellFormed) :
    Matches (pattern s).regex before matched after captures ↔
      StandsFree s before ∧
        ∃ es, Occurrence s es matched ∧ captures = labelled (entryCaptures 1 es) := by
  obtain ⟨c, rest, hname⟩ := List.exists_cons_of_ne_nil hs.name_ne_nil
  have hword : isWordChar c = true := by
    have hall := hs.name_word
    rw [hname, List.all_cons, Bool.and_eq_true] at hall
    exact hall.1
  rw [pattern_eq, StandsFree, hname, List.head?_cons, Option.any_some, bounded]
  split_ifs with hfirst
  · -- The boundary takes nothing, and what follows begins with a word character.
    have hregex : (Pattern.mk (.atom .boundary :: callParts s)).regex =
        .item .boundary :: (callParts s).map Part.piece := rfl
    rw [hregex]
    constructor
    · rintro ⟨-, others, rfl, ⟨rfl, hboundary⟩, hrest⟩
      obtain ⟨es, hes, rfl⟩ := matches_callParts.1 hrest
      refine ⟨fun _ => ?_, es, hes, rfl⟩
      rw [hes.head?_eq hs, hname, List.head?_cons, Option.any_some, hword] at hboundary
      simpa using hboundary
    · rintro ⟨hfree, es, hes, rfl⟩
      refine ⟨[], matched, rfl, ⟨rfl, ?_⟩, matches_callParts.2 ⟨es, hes, rfl⟩⟩
      rw [hes.head?_eq hs, hname, List.head?_cons, Option.any_some, hword, hfree hfirst]
      exact Bool.false_ne_true
  · simp only [Pattern.regex, matches_callParts, hfirst, Bool.false_eq_true, false_implies,
      true_and]

/-! ## No slot twice -/

theorem slots_parametersParts (position : Nat) (ps : List Parameter) :
    ((parametersParts position ps).filterMap Part.slot?) =
      (List.range' position ps.length).flatMap fun i => [.type i, .name i] := by
  induction ps generalizing position with
  | nil => rfl
  | cons p ps ih =>
      have hfirst : (parameterParts p position).filterMap Part.slot? =
          [.type position, .name position] := by
        unfold parameterParts
        split_ifs <;> rfl
      rw [parametersParts, List.filterMap_append, hfirst, ih, List.length_cons, List.range'_succ,
        List.flatMap_cons]

theorem slots_nodup (s : Signature) : ((pattern s).parts.filterMap Part.slot?).Nodup := by
  have hcall : (callParts s).filterMap Part.slot? =
      (List.range' 1 s.parameters.length).flatMap fun i => [.type i, .name i] := by
    have hliterals : ((literals s.name.toList).map Part.atom).filterMap Part.slot? = [] := by
      simp [literals, Part.slot?]
    simp [callParts, hliterals, slots_parametersParts, Part.slot?, List.filterMap_cons]
  have hslots : (pattern s).parts.filterMap Part.slot? = (callParts s).filterMap Part.slot? := by
    rw [pattern_eq]
    unfold bounded
    split
    · split_ifs <;> rfl
    · rfl
  rw [hslots, hcall, List.nodup_flatMap]
  refine ⟨fun i _ => by simp [Slot.type, Slot.name], ?_⟩
  refine (List.nodup_range' 1).imp fun {i j} hij => ?_
  simp [List.disjoint_left, Slot.type, Slot.name, hij]

/-! ## The meaning of a pattern -/

theorem labelled_injective : Function.Injective labelled := by
  refine List.map_injective_iff.2 ?_
  rintro ⟨slot, cs⟩ ⟨slot', cs'⟩ h
  simp only [Prod.mk.injEq] at h
  obtain ⟨hlabel, rfl⟩ := h
  rw [Slot.label_injective hlabel]

/-- The matcher finds an occurrence where there is one, and nothing else. -/
theorem matchAhead?_pattern (hs : s.WellFormed) {captures : Pattern.Captures} :
    (pattern s).matchAhead? before.getLast? (matched ++ after) = some ⟨matched, captures⟩ ↔
      StandsFree s before ∧ ∃ es, Occurrence s es matched ∧ captures = entryCaptures 1 es := by
  constructor
  · intro h
    obtain ⟨after', -, hmatches⟩ := matchAhead?_sound h
    obtain ⟨hfree, es, hes, hcaptures⟩ := (matches_regex hs).1 hmatches
    exact ⟨hfree, es, hes, labelled_injective hcaptures⟩
  · rintro ⟨hfree, es, hes, rfl⟩
    have hfound : ∃ m, (pattern s).matchAhead? before.getLast? (matched ++ after) = some m :=
      matchAhead?_complete ((matches_regex hs).2 ⟨hfree, es, hes, rfl⟩)
    obtain ⟨m, hm⟩ := hfound
    obtain ⟨after', htext, hmatches⟩ := matchAhead?_sound hm
    obtain ⟨-, es', hes', hcaptures⟩ := (matches_regex hs).1 hmatches
    -- Both are occurrences that the same text begins with.
    obtain ⟨rfl, rfl, -⟩ := occurrence_unique hs hes hes' htext
    obtain ⟨m, captures⟩ := m
    obtain rfl := labelled_injective hcaptures
    exact hm

/-- The matcher takes a text as a whole if it is an occurrence. -/
theorem matchAhead?_whole (hs : s.WellFormed) {captures : Pattern.Captures} :
    (pattern s).matchAhead? none matched = some ⟨matched, captures⟩ ↔
      ∃ es, Occurrence s es matched ∧ captures = entryCaptures 1 es := by
  have hplace : (pattern s).matchAhead? [].getLast? (matched ++ []) = some ⟨matched, captures⟩ ↔
      StandsFree s [] ∧ ∃ es, Occurrence s es matched ∧ captures = entryCaptures 1 es :=
    matchAhead?_pattern hs
  rw [List.append_nil] at hplace
  exact hplace.trans ⟨And.right, fun h => ⟨fun _ => rfl, h⟩⟩

/-- The pattern of a signature that was read, taken as the regular expression that its text
denotes, matches the occurrences of the signature that stand free, and captures the types and the
names of the entries.  A text begins with one occurrence at most, in one reading, and the matcher
finds exactly that one. -/
theorem pattern_meaning {source : String} (h : Signature.parse source = .ok s) :
    (∃ r, read? (pattern s).text = some r ∧
      ∀ before matched after captures, Matches r before matched after captures ↔
        StandsFree s before ∧
          ∃ es, Occurrence s es matched ∧ captures = labelled (entryCaptures 1 es)) ∧
    (∀ matched matched' after after' es es', Occurrence s es matched →
      Occurrence s es' matched' → matched ++ after = matched' ++ after' →
        matched = matched' ∧ es = es') ∧
    (∀ before matched after captures,
      (pattern s).matchAhead? before.getLast? (matched ++ after) = some ⟨matched, captures⟩ ↔
        StandsFree s before ∧ ∃ es, Occurrence s es matched ∧ captures = entryCaptures 1 es) := by
  have hs := Signature.wellFormed_of_parse h
  refine ⟨⟨(pattern s).regex, read?_text (slots_nodup s), ?_⟩, ?_, ?_⟩
  · intro before matched after captures
    exact matches_regex hs
  · intro matched matched' after after' es es' hes hes' htext
    obtain ⟨hmatched, hentries, -⟩ := occurrence_unique hs hes hes' htext
    exact ⟨hmatched, hentries⟩
  · intro before matched after captures
    exact matchAhead?_pattern hs

/-- A spacing inside of a type, in front of the parenthesis and around the entries. -/
theorem pattern_meaning_spacing :
    ∃ r,
      read? (pattern ⟨"Foo", [⟨"List< A >", "x", false⟩, ⟨"int", "param2", true⟩]⟩).text = some r ∧
      Matches r "if ".toList "Foo (List<A\n> u, int v )".toList ";".toList
        [("type1", "List<A\n>".toList), ("name1", "u".toList), ("type2", "int".toList),
          ("name2", "v".toList)] := by
  have hparse : Signature.parse "Foo(List< A > x, int)" =
      .ok ⟨"Foo", [⟨"List< A >", "x", false⟩, ⟨"int", "param2", true⟩]⟩ := by decide +kernel
  obtain ⟨⟨r, hread, hmeaning⟩, -, hfound⟩ := pattern_meaning hparse
  have hfree_occurs := (hfound "if ".toList "Foo (List<A\n> u, int v )".toList ";".toList
    [(.type 1, "List<A\n>".toList), (.name 1, "u".toList), (.type 2, "int".toList),
      (.name 2, "v".toList)]).1 (by decide +kernel)
  obtain ⟨hfree, es, hes, hcaptures⟩ := hfree_occurs
  refine ⟨r, hread, (hmeaning _ _ _ _).2 ⟨hfree, es, hes, ?_⟩⟩
  rw [← hcaptures]
  decide +kernel

end HookMigration.Migration
