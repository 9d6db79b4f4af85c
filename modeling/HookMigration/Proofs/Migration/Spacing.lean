import HookMigration.Proofs.Pattern.Matcher
import HookMigration.Proofs.Signature.Parsed
import HookMigration.Rule.Migration

/-!
# The spacing of types

A type of an old signature is looked for with loose spacing: its characters in order, its own blanks
left out, and blanks of any number allowed between two neighbours of which one is a bracket or a
comma.  `Spaced` says this of a text; `itemsTake_typeAtoms` says that the atoms which are made of a
type take exactly such texts.

The atoms are made by surrounding every bracket and comma with optional blanks, collapsing and
cutting off the ends.  `typeAtoms_eq` brings them into the form that `Spaced` has: one gap between
two neighbours.  A blank is none of the characters of the type that are looked for, so a text can be
read as a spacing of a type in one way only (`spaced_unique`).
-/

namespace HookMigration.Migration

open Pattern Regex Text

/-- A text without its blanks. -/
def solid (cs : List Char) : List Char :=
  cs.filter fun c => !isBlank c

/-- Characters in order, with blanks between neighbours of which one is a bracket or a comma. -/
inductive Spaced : (characters written : List Char) → Prop
  | nil : Spaced [] []
  | single (c : Char) : Spaced [c] [c]
  | cons {c d : Char} {gap rest written : List Char} (hgap : gap.all isBlank = true)
      (hmark : gap = [] ∨ isTypeMark c = true ∨ isTypeMark d = true)
      (hrest : Spaced (d :: rest) written) : Spaced (c :: d :: rest) (c :: (gap ++ written))

variable {ks t t' x x' : List Char}

/-! ## Blanks left out -/

@[simp] theorem solid_nil : solid [] = [] := rfl

@[simp] theorem solid_append (cs ds : List Char) : solid (cs ++ ds) = solid cs ++ solid ds :=
  List.filter_append ..

theorem solid_eq_nil (h : t.all isBlank = true) : solid t = [] := by
  rw [solid, List.filter_eq_nil_iff]
  intro c hc
  simpa using List.all_eq_true.1 h c hc

theorem solid_eq_self (h : ∀ c ∈ t, isBlank c = false) : solid t = t := by
  rw [solid, List.filter_eq_self]
  intro c hc
  simp [h c hc]

theorem isBlank_of_mem_solid {c : Char} (h : c ∈ solid t) : isBlank c = false := by
  simpa using (List.mem_filter.1 h).2

/-! ## Spaced texts -/

theorem Spaced.head?_eq (h : Spaced ks t) : t.head? = ks.head? := by
  cases h <;> rfl

theorem Spaced.ne_nil (h : Spaced ks t) (hne : ks ≠ []) : t ≠ [] := by
  cases h <;> simp_all

theorem Spaced.getLast?_eq (h : Spaced ks t) : t.getLast? = ks.getLast? := by
  induction h with
  | nil => rfl
  | single c => rfl
  | @cons c d gap rest written hgap hmark hrest ih =>
      have hne := hrest.ne_nil (by simp)
      rw [List.getLast?_cons_cons, ← ih, ← List.cons_append, List.getLast?_append_of_ne_nil _ hne]

theorem Spaced.solid_eq (h : Spaced ks t) (hks : ∀ c ∈ ks, isBlank c = false) : solid t = ks := by
  induction h with
  | nil => rfl
  | single c => exact solid_eq_self hks
  | @cons c d gap rest written hgap hmark hrest ih =>
      have hc : isBlank c = false := hks c List.mem_cons_self
      have htail := ih fun e he => hks e (List.mem_cons_of_mem _ he)
      calc
        solid (c :: (gap ++ written)) = c :: solid (gap ++ written) := by simp [solid, hc]
        _ = c :: d :: rest := by rw [solid_append, solid_eq_nil hgap, htail, List.nil_append]

theorem spaced_self (ks : List Char) : Spaced ks ks := by
  induction ks with
  | nil => exact .nil
  | cons c rest ih =>
      cases rest with
      | nil => exact .single c
      | cons d rest =>
          have htight : Spaced (c :: d :: rest) (c :: ([] ++ d :: rest)) := .cons rfl (.inl rfl) ih
          exact htight

/-- A text begins with a spacing of given characters in one way only. -/
theorem spaced_unique (hks : ∀ c ∈ ks, isBlank c = false) (h : Spaced ks t) (h' : Spaced ks t')
    (heq : t ++ x = t' ++ x') : t = t' ∧ x = x' := by
  induction h generalizing t' with
  | nil =>
      cases h'
      exact ⟨rfl, heq⟩
  | single c =>
      cases h'
      exact ⟨rfl, by simpa using heq⟩
  | @cons c d gap rest written hgap hmark hrest ih =>
      cases h' with
      | @cons _ _ gap' _ written' hgap' hmark' hrest' =>
          -- The gap ends at the next character, which is no blank.
          have hd : isBlank d = false := hks d (by simp)
          have hhead : ∀ {w y : List Char}, Spaced (d :: rest) w →
              (w ++ y).head?.any isBlank = false := by
            intro w y hw
            rw [List.head?_append_of_ne_nil _ (hw.ne_nil (by simp)), hw.head?_eq]
            simpa using hd
          have htail : gap ++ (written ++ x) = gap' ++ (written' ++ x') := by simpa using heq
          obtain ⟨rfl, hrests⟩ := run_unique hgap hgap' (hhead hrest) (hhead hrest') htail
          obtain ⟨rfl, rfl⟩ := ih (fun e he => hks e (List.mem_cons_of_mem _ he)) hrest' hrests
          exact ⟨rfl, rfl⟩

/-! ## The atoms of a type -/

/-- Optional blanks next to a bracket or a comma. -/
def markGap (c : Char) : List Atom :=
  if isTypeMark c then [.blanks] else []

/-- Characters with optional blanks between neighbours of which one is a bracket or a comma. -/
def spacedAtoms : List Char → List Atom
  | [] => []
  | [c] => [.literal c]
  | c :: d :: rest =>
    .literal c :: ((if isTypeMark c || isTypeMark d then [.blanks] else []) ++
      spacedAtoms (d :: rest))

theorem spacedAtoms_head (c : Char) (rest : List Char) :
    ∃ others, spacedAtoms (c :: rest) = .literal c :: others := by
  cases rest <;> exact ⟨_, rfl⟩

theorem spacedAtoms_getLast? (c : Char) (rest : List Char) :
    (spacedAtoms (c :: rest)).getLast? = ((c :: rest).getLast?).map Atom.literal := by
  induction rest generalizing c with
  | nil => rfl
  | cons d rest ih =>
      obtain ⟨others, hothers⟩ := spacedAtoms_head d rest
      have hne : spacedAtoms (d :: rest) ≠ [] := by simp [hothers]
      rw [spacedAtoms, ← List.cons_append, List.getLast?_append_of_ne_nil _ hne, ih,
        List.getLast?_cons_cons]

theorem flatMap_typeCharAtoms_solid (cs : List Char) :
    cs.flatMap typeCharAtoms = (solid cs).flatMap typeCharAtoms := by
  induction cs with
  | nil => rfl
  | cons c rest ih =>
      by_cases hc : isBlank c = true
      · simp [solid, typeCharAtoms, hc, ih]
      · simp [solid, hc, ih]

theorem consAtom_literal (c : Char) (atoms : List Atom) :
    consAtom (.literal c) atoms = .literal c :: atoms := by
  cases atoms <;> rfl

theorem consAtom_blanks_literal (c : Char) (atoms : List Atom) :
    consAtom .blanks (.literal c :: atoms) = .blanks :: .literal c :: atoms := rfl

theorem consAtom_blanks_blanks (atoms : List Atom) :
    consAtom .blanks (.blanks :: atoms) = .blanks :: atoms := rfl

/-- One character in front of collapsed atoms that begin with a literal, or with the blanks that
the literal allows before it. -/
theorem foldr_typeCharAtoms {c d : Char} (hc : isBlank c = false) (others : List Atom) :
    (typeCharAtoms c).foldr consAtom (markGap d ++ .literal d :: others) =
      markGap c ++ .literal c :: ((if isTypeMark c || isTypeMark d then [.blanks] else []) ++
        .literal d :: others) := by
  unfold typeCharAtoms markGap
  cases isTypeMark c <;> cases isTypeMark d <;>
    simp [hc, consAtom_literal, consAtom_blanks_literal, consAtom_blanks_blanks]

theorem collapse_typeCharAtoms (c : Char) (rest : List Char)
    (hsolid : ∀ d ∈ c :: rest, isBlank d = false) :
    collapse ((c :: rest).flatMap typeCharAtoms) =
      markGap c ++ spacedAtoms (c :: rest) ++ ((c :: rest).getLast?.elim [] markGap) := by
  induction rest generalizing c with
  | nil =>
      have hc : isBlank c = false := hsolid c List.mem_cons_self
      unfold collapse typeCharAtoms markGap
      cases hmark : isTypeMark c <;>
        simp [hc, hmark, spacedAtoms, consAtom]
  | cons d rest ih =>
      have hc : isBlank c = false := hsolid c List.mem_cons_self
      have htail := ih d fun e he => hsolid e (List.mem_cons_of_mem _ he)
      obtain ⟨others, hothers⟩ := spacedAtoms_head d rest
      have hfold : collapse ((c :: d :: rest).flatMap typeCharAtoms) =
          (typeCharAtoms c).foldr consAtom (collapse ((d :: rest).flatMap typeCharAtoms)) := by
        rw [List.flatMap_cons, collapse, List.foldr_append]
        rfl
      rw [hfold, htail, hothers, List.append_assoc, List.cons_append, foldr_typeCharAtoms hc,
        spacedAtoms, hothers, List.getLast?_cons_cons]
      simp

/-- The atoms of a type have one gap between two neighbours. -/
theorem typeAtoms_eq (type : List Char) : typeAtoms type = spacedAtoms (solid type) := by
  unfold typeAtoms
  rw [flatMap_typeCharAtoms_solid]
  cases hks : solid type with
  | nil => rfl
  | cons c rest =>
      have hsolid : ∀ d ∈ c :: rest, isBlank d = false := by
        intro d hd
        rw [← hks] at hd
        exact isBlank_of_mem_solid hd
      obtain ⟨others, hothers⟩ := spacedAtoms_head c rest
      have hlast := spacedAtoms_getLast? c rest
      -- The gap that a bracket or a comma allows before the first character is dropped.
      have hfirst : ∀ end', dropFirstBlanks (markGap c ++ spacedAtoms (c :: rest) ++ end') =
          spacedAtoms (c :: rest) ++ end' := by
        intro end'
        rw [hothers]
        unfold markGap
        cases isTypeMark c <;> rfl
      rw [collapse_typeCharAtoms c rest hsolid, hfirst]
      rw [List.getLast?_eq_some_getLast (List.cons_ne_nil c rest)] at hlast ⊢
      simp only [Option.elim_some, Option.map_some] at hlast ⊢
      -- So is the one behind the last character; without a gap there, a literal comes last.
      unfold dropLastBlanks markGap
      split_ifs with hmark hblanks hblanks
      · simp
      · simp at hblanks
      · simp [hlast] at hblanks
      · simp

/-! ## What the atoms of a type take -/

variable {before after : List Char}

theorem itemsTake_literal {c : Char} {rest : List Item} :
    ItemsTake before (.run (.exactly c) .one :: rest) t after ↔
      ∃ others, t = c :: others ∧ ItemsTake (before ++ [c]) rest others after := by
  constructor
  · rintro ⟨first, others, rfl, ⟨hall, hlength⟩, hrest⟩
    obtain ⟨d, rfl⟩ := List.length_eq_one_iff.1 hlength
    obtain rfl : d = c := by simpa [CharClass.holds] using hall
    exact ⟨others, rfl, hrest⟩
  · rintro ⟨others, rfl, hrest⟩
    exact ⟨[c], others, rfl, ⟨by simp [CharClass.holds], rfl⟩, hrest⟩

theorem itemsTake_spacedAtoms :
    ItemsTake before ((spacedAtoms ks).map Atom.item) t after ↔ Spaced ks t := by
  induction ks generalizing before t with
  | nil =>
      constructor
      · rintro rfl
        exact .nil
      · rintro ⟨⟩
        rfl
  | cons c rest ih =>
      cases rest with
      | nil =>
          simp only [spacedAtoms, List.map_cons, List.map_nil, Atom.item, itemsTake_literal]
          constructor
          · rintro ⟨others, rfl, rfl⟩
            exact .single c
          · rintro ⟨⟩
            exact ⟨[], rfl, rfl⟩
      | cons d rest =>
          simp only [spacedAtoms, List.map_cons, Atom.item, itemsTake_literal]
          constructor
          · rintro ⟨others, rfl, hothers⟩
            split_ifs at hothers with hmark
            · -- blanks are allowed between the two characters
              obtain ⟨gap, written, rfl, ⟨hgap, -⟩, hwritten⟩ := hothers
              exact .cons hgap (.inr (by simpa using hmark)) (ih.1 hwritten)
            · -- the two characters are neighbours
              have hspaced : Spaced (c :: d :: rest) (c :: ([] ++ others)) :=
                .cons rfl (.inl rfl) (ih.1 hothers)
              exact hspaced
          · rintro ⟨⟩
            rename_i gap written hgap hmark hrest
            refine ⟨gap ++ written, rfl, ?_⟩
            split_ifs with hset
            · exact ⟨gap, written, rfl, ⟨hgap, trivial⟩, ih.2 hrest⟩
            · obtain rfl : gap = [] := by
                rcases hmark with hnil | hmark
                · exact hnil
                · simp [hmark] at hset
              exact ih.2 hrest

/-- The atoms of a type take its characters other than blanks, spaced loosely. -/
theorem itemsTake_typeAtoms {type : List Char} :
    ItemsTake before ((typeAtoms type).map Atom.item) t after ↔ Spaced (solid type) t := by
  rw [typeAtoms_eq, itemsTake_spacedAtoms]

end HookMigration.Migration
