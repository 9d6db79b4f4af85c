import HookMigration.Proofs.Removal.Spacing
import HookMigration.Proofs.Text.Substitution

/-!
# The regular expression of a removed signature

The expression of a removed signature is written by substitution: its compact text is escaped,
optional blanks are put around the escaped parentheses and the commas, and pairs of optional blanks
are made one until there is none (`expression`).  All of this happens in text, which also holds the
backslashes, stars and letters of the signature.

The pattern is made of atoms, and its text is that expression (`toList_text_pattern`).  For the
texts of atoms are words that the substitutions leave whole: as signs they tell which atom comes
first (`prefix_of_chars`), and a match from the middle of a word on would begin with an escaped
backslash and go on with a character that no word begins with.
-/

namespace HookMigration

open Regex Text

namespace Pattern

/-! ## The texts of atoms as words -/

/-- The characters of the text of an atom. -/
def Atom.chars (a : Atom) : List Char :=
  a.text.toList

variable {a : Atom} {old atoms : List Atom} {c : Char}

theorem chars_literal (c : Char) :
    (Atom.literal c).chars = if c ∈ metacharacters then ['\\', c] else [c] := by
  rw [Atom.chars, Atom.text, escape]
  split_ifs <;> simp

theorem chars_ne_nil (a : Atom) : a.chars ≠ [] := by
  cases a with
  | literal c =>
      rw [chars_literal]
      split_ifs <;> simp
  | boundary | blanks | someBlanks | word => decide

theorem charSign_injective : Function.Injective charSign := by
  intro c d h
  unfold charSign at h
  split_ifs at h <;> simpa using h

theorem charSign_ne_escaped {d : Char} (hd : d ∉ metacharacters) (c : Char) :
    charSign c ≠ .escaped d := by
  unfold charSign
  split_ifs with hc
  · rintro ⟨⟩
    exact hd hc
  · simp

/-- The signs of atoms tell which atom comes first. -/
theorem exists_cons_of_signs {rest : List Sign}
    (h : atoms.flatMap Atom.signs = a.signs ++ rest) : ∃ others, atoms = a :: others := by
  have hletters : ∀ d ∈ ['b', 's', 'w'], ∀ c, charSign c ≠ .escaped d := by
    intro d hd
    apply charSign_ne_escaped
    simp only [List.mem_cons, List.not_mem_nil, or_false] at hd
    rcases hd with rfl | rfl | rfl <;> simp [metacharacters_eq]
  cases atoms with
  | nil => cases a <;> simp [Atom.signs] at h
  | cons b others =>
      refine ⟨others, ?_⟩
      rw [List.flatMap_cons] at h
      cases a with
      | literal c =>
          cases b with
          | literal d =>
              have hsign := congrArg List.head? h
              rw [charSign_injective (by simpa [Atom.signs] using hsign : charSign d = charSign c)]
          | boundary | blanks | someBlanks | word =>
              have hsign := congrArg List.head? h
              simp [Atom.signs, eq_comm, hletters] at hsign
      | boundary | blanks | someBlanks | word =>
          cases b with
          | literal d =>
              have hsign := congrArg List.head? h
              simp [Atom.signs, hletters] at hsign
          | boundary | blanks | someBlanks | word =>
              simp [Atom.signs] at h ⊢

/-- Texts of atoms begin with each other only if the atoms do. -/
theorem prefix_of_chars (h : old.flatMap Atom.chars <+: atoms.flatMap Atom.chars) :
    old <+: atoms := by
  induction old generalizing atoms with
  | nil => exact List.nil_prefix
  | cons a others ih =>
      obtain ⟨rest, hrest⟩ := h
      rw [List.flatMap_cons, List.append_assoc] at hrest
      have hsigns : signs? (atoms.flatMap Atom.chars) = some (atoms.flatMap Atom.signs) := by
        have hatoms := signs?_atoms atoms []
        rw [List.append_nil] at hatoms
        exact hatoms.trans (by simp [signs?])
      rw [← hrest] at hsigns
      have hfirst := signs?_atom a (others.flatMap Atom.chars ++ rest)
      rw [← Atom.chars, hsigns, eq_comm, Option.map_eq_some_iff] at hfirst
      obtain ⟨signs, -, hcons⟩ := hfirst
      obtain ⟨atoms', rfl⟩ := exists_cons_of_signs hcons.symm
      rw [List.flatMap_cons] at hrest
      have hothers := ih ⟨rest, List.append_cancel_left hrest⟩
      exact List.cons_prefix_cons.2 ⟨rfl, hothers⟩

/-- No text of an atom begins with a metacharacter other than the backslash. -/
theorem eq_backslash_or_not_mem (h : (atoms.flatMap Atom.chars).head? = some c) :
    c = '\\' ∨ c ∉ metacharacters := by
  cases atoms with
  | nil => simp at h
  | cons a others =>
      rw [List.flatMap_cons, List.head?_append_of_ne_nil _ (chars_ne_nil a)] at h
      cases a with
      | literal d =>
          rw [chars_literal] at h
          split_ifs at h with hd
          · exact .inl (Option.some.inj h).symm
          · exact .inr (Option.some.inj h ▸ hd)
      | boundary | blanks | someBlanks | word => exact .inl (Option.some.inj h).symm

/-- Behind its first character, the text of an atom has a backslash only at its end, and no
comma. -/
theorem inside_chars {x y : List Char} (h : a.chars = x ++ y) (hx : x ≠ []) (hy : y ≠ []) :
    y = ['\\'] ∨ ∃ c rest, y = c :: rest ∧ c ≠ '\\' ∧ c ≠ ',' := by
  obtain ⟨first, x, rfl⟩ := List.exists_cons_of_ne_nil hx
  obtain ⟨c, rest, rfl⟩ := List.exists_cons_of_ne_nil hy
  have htail : a.chars.tail = x ++ c :: rest := by rw [h]; rfl
  have hmem : c ∈ a.chars.tail := by simp [htail]
  cases a with
  | literal d =>
      rw [chars_literal] at htail
      split_ifs at htail with hd
      · obtain ⟨rfl, hlast⟩ : x = [] ∧ d :: [] = c :: rest := by
          cases x with
          | nil => exact ⟨rfl, htail⟩
          | cons e others => simp at htail
        obtain ⟨rfl, rfl⟩ : d = c ∧ [] = rest := by simpa using hlast
        by_cases hbackslash : d = '\\'
        · exact .inl (by rw [hbackslash])
        · refine .inr ⟨d, [], rfl, hbackslash, ?_⟩
          rintro rfl
          exact absurd hd (by simp [metacharacters_eq])
      · simp at htail
  | boundary | blanks | someBlanks | word =>
      refine .inr ⟨c, rest, rfl, ?_, ?_⟩ <;>
        (rintro rfl; revert hmem; decide)

/-! ## Words that stay whole -/

/-- Words that begin with a backslash stay whole, if no text of atoms begins with the rest of them:
in the middle of a word, a backslash is its last character. -/
theorem aligned_of_backslash {tail : List Char} (htext : old.flatMap Atom.chars = '\\' :: tail)
    (htail : ∀ atoms : List Atom, ¬tail <+: atoms.flatMap Atom.chars) :
    Aligned Atom.chars old where
  ne_nil := by simp [htext]
  atStart _ h := prefix_of_chars h
  inside a atoms x y hword hx hy hprefix := by
    rw [htext] at hprefix
    rcases inside_chars hword hx hy with rfl | ⟨c, rest, rfl, hc, -⟩
    · exact htail atoms (List.cons_prefix_cons.1 hprefix).2
    · exact hc (List.cons_prefix_cons.1 hprefix).1.symm

/-- Only the text of a literal begins with a metacharacter behind a backslash. -/
theorem aligned_metacharacter (hc : c ∈ metacharacters) (hne : c ≠ '\\') :
    Aligned Atom.chars [.literal c] := by
  have htext : [Atom.literal c].flatMap Atom.chars = ['\\', c] := by simp [chars_literal, hc]
  refine aligned_of_backslash htext ?_
  rintro atoms ⟨rest, hrest⟩
  have hhead : (atoms.flatMap Atom.chars).head? = some c := by rw [← hrest]; rfl
  rcases eq_backslash_or_not_mem hhead with h | h
  · exact hne h
  · exact h hc

theorem aligned_comma : Aligned Atom.chars [.literal ','] where
  ne_nil := by simp [chars_ne_nil]
  atStart _ h := prefix_of_chars h
  inside a atoms x y hword hx hy hprefix := by
    have hcomma : [Atom.literal ','].flatMap Atom.chars = [','] := by
      simp [chars_literal, metacharacters_eq]
    rw [hcomma] at hprefix
    rcases inside_chars hword hx hy with rfl | ⟨c, rest, rfl, -, hc⟩
    · exact absurd (List.cons_prefix_cons.1 hprefix).1 (by decide)
    · exact hc (List.cons_prefix_cons.1 hprefix).1.symm

theorem aligned_blanks : Aligned Atom.chars [.blanks, .blanks] := by
  have htext : [Atom.blanks, .blanks].flatMap Atom.chars =
      '\\' :: ['s', '*', '\\', 's', '*'] := by decide
  refine aligned_of_backslash htext ?_
  rintro atoms ⟨rest, hrest⟩
  -- only a letter of the signature is an `s` by itself, and no star follows it
  cases atoms with
  | nil => simp at hrest
  | cons a others =>
      rw [List.flatMap_cons] at hrest
      cases a with
      | literal c =>
          rw [chars_literal] at hrest
          split_ifs at hrest with hc
          · simp at hrest
          · have hstar : (others.flatMap Atom.chars).head? = some '*' := by
              rw [List.singleton_append, List.cons_append, List.cons.injEq] at hrest
              rw [← hrest.2]
              rfl
            rcases eq_backslash_or_not_mem hstar with h | h
            · exact absurd h (by decide)
            · exact h (by simp [metacharacters_eq])
      | boundary | blanks | someBlanks | word => simp [Atom.chars, Atom.text] at hrest

/-! ## Pairs of optional blanks -/

theorem collapse_cons (a : Atom) (atoms : List Atom) :
    collapse (a :: atoms) = consAtom a (collapse atoms) := rfl

theorem consAtom_blanks_idem (atoms : List Atom) :
    consAtom .blanks (consAtom .blanks atoms) = consAtom .blanks atoms := by
  cases atoms with
  | nil => rfl
  | cons b others => cases b <;> rfl

theorem collapse_substitute (atoms : List Atom) :
    collapse (substitute [.blanks, .blanks] [.blanks] atoms) = collapse atoms := by
  fun_induction substitute [Atom.blanks, .blanks] [.blanks] atoms with
  | case1 => rfl
  | case2 a rest hprefix ih =>
      obtain ⟨others, hpair⟩ := hprefix
      obtain ⟨rfl, rfl⟩ : .blanks = a ∧ .blanks :: others = rest := by simpa using hpair
      rw [List.singleton_append, collapse_cons, ih, collapse_cons, collapse_cons,
        consAtom_blanks_idem]
      rfl
  | case3 a rest hprefix ih => rw [collapse_cons, ih, collapse_cons]

theorem collapse_eq_self (h : ¬[Atom.blanks, .blanks] <:+: atoms) : collapse atoms = atoms := by
  induction atoms with
  | nil => rfl
  | cons a rest ih =>
      rw [List.infix_cons_iff, not_or] at h
      rw [collapse_cons, ih h.2]
      unfold consAtom
      split
      · next others => exact absurd (by simp) h.1
      · rfl

/-- Pairs of optional blanks are made one until there is none. -/
theorem substituteAll_blanks (atoms : List Atom) :
    substituteAll [.blanks, .blanks] [.blanks] (by decide) atoms = collapse atoms := by
  fun_induction substituteAll [Atom.blanks, .blanks] [.blanks] (by decide) atoms with
  | case1 atoms hpair ih => rw [ih, collapse_substitute]
  | case2 atoms hpair => exact (collapse_eq_self hpair).symm

end Pattern

namespace Removal

open Pattern

/-- An escaped text with optional blanks around its marks, each run of which is one. -/
def looseExpression (text : List Char) : List Char :=
  let escaped := text.flatMap fun c => (escape c).toList
  let opened := substitute "\\(".toList "\\s*\\(\\s*".toList escaped
  let closed := substitute "\\)".toList "\\s*\\)".toList opened
  let separated := substitute ",".toList "\\s*,\\s*".toList closed
  substituteAll "\\s*\\s*".toList "\\s*".toList (by decide) separated

/-- The regular expression of a compact text. -/
def expression (text : List Char) : List Char :=
  if text.head?.any isNameChar then "\\b".toList ++ looseExpression text else looseExpression text

/-- Around its marks, a character gets the atoms that allow blanks. -/
theorem substitute_literals (text : List Char) :
    substitute [.literal ','] [.blanks, .literal ',', .blanks]
        (substitute [.literal ')'] [.blanks, .literal ')']
          (substitute [.literal '('] [.blanks, .literal '(', .blanks] (literals text))) =
      text.flatMap charAtoms := by
  rw [substitute_singleton, substitute_singleton, substitute_singleton, literals,
    List.flatMap_map, List.flatMap_assoc, List.flatMap_assoc]
  refine List.flatMap_congr fun c _ => ?_
  unfold charAtoms
  by_cases hopen : c = '('
  · subst hopen
    simp
  by_cases hclose : c = ')'
  · subst hclose
    simp
  by_cases hcomma : c = ','
  · subst hcomma
    simp
  simp [hopen, hclose, hcomma]

theorem flatMap_chars_literals (text : List Char) :
    (literals text).flatMap Atom.chars = text.flatMap fun c => (escape c).toList := by
  rw [literals, List.flatMap_map]
  rfl

/-- Substitution makes the text of the atoms of a compact text. -/
theorem looseExpression_eq (text : List Char) :
    looseExpression text = (atoms text).flatMap Atom.chars := by
  have haligned : Aligned Atom.chars [.literal '('] ∧ Aligned Atom.chars [.literal ')'] := by
    constructor <;> exact aligned_metacharacter (by simp [metacharacters_eq]) (by decide)
  -- each step replaces atoms among those that the step before has left
  have hopen := haligned.1.substitute_flatMap [.blanks, .literal '(', .blanks] (literals text)
  have hclose := haligned.2.substitute_flatMap [.blanks, .literal ')']
    (substitute [.literal '('] [.blanks, .literal '(', .blanks] (literals text))
  have hcomma := aligned_comma.substitute_flatMap [.blanks, .literal ',', .blanks]
    (substitute [.literal ')'] [.blanks, .literal ')']
      (substitute [.literal '('] [.blanks, .literal '(', .blanks] (literals text)))
  have hshorter : [Atom.blanks].length < [Atom.blanks, .blanks].length := by decide
  have hpairs := aligned_blanks.substituteAll_flatMap hshorter (by decide) (text.flatMap charAtoms)
  rw [flatMap_chars_literals] at hopen
  rw [← hopen] at hclose
  rw [← hclose, substitute_literals] at hcomma
  rw [← hcomma, substituteAll_blanks] at hpairs
  exact hpairs

/-- The text of the pattern is the expression that substitution writes. -/
theorem toList_text_pattern (text : String) :
    (pattern text).text.toList = expression (compact text.toList) := by
  have hatoms : ∀ xs : List Atom,
      (Pattern.mk (xs.map .atom)).text.toList = xs.flatMap Atom.chars := by
    intro xs
    simp only [Pattern.text, Text.concat, List.map_map, String.toList_ofList, List.flatMap_map]
    rfl
  have hboundary : [Atom.boundary].flatMap Atom.chars = "\\b".toList := by decide
  rw [pattern_eq_atoms, hatoms, List.flatMap_append, expression, looseExpression_eq]
  split_ifs
  · rw [hboundary]
  · rw [List.flatMap_nil, List.nil_append]

end Removal

end HookMigration
