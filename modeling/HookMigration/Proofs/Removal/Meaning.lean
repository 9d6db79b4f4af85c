import HookMigration.Proofs.Removal.Expression
import HookMigration.Proofs.Removal.OwnText

/-!
# The meaning of a removal

A removed signature is compacted, and the regular expression of the compact text matches it with any
blanks around its marks, but for those behind a closing parenthesis (`Rule.removal_meaning`).  Every
other character of the text stands for itself.

Leaving out the blanks next to the marks undoes that: of a loosened text it makes the compact one
again (`Loosened.compactFrom_eq`, `compactFrom_compactFrom`).
-/

namespace HookMigration

open Pattern Regex Text

namespace Removal

variable {ks t : List Char} {a : Atom} {atoms : List Atom}

/-! ## Compact texts -/

theorem compactFrom_true_blanks {gap : List Char} (hgap : gap.all isBlank = true)
    (rest : List Char) : compactFrom true (gap ++ rest) = compactFrom true rest := by
  induction gap with
  | nil => rfl
  | cons g others ih =>
      rw [List.all_cons, Bool.and_eq_true] at hgap
      rw [List.cons_append, compactFrom, if_pos hgap.1, if_pos (by simp), ih hgap.2]

theorem markAhead_blank {c : Char} (hc : isBlank c = true) (rest : List Char) :
    markAhead (c :: rest) = markAhead rest := by
  simp [markAhead, trimStart, hc]

theorem markAhead_solid {c : Char} (hc : isBlank c = false) (rest : List Char) :
    markAhead (c :: rest) = isMark c := by
  simp [markAhead, trimStart, hc]

theorem markAhead_compactFrom (behindMark : Bool) (cs : List Char) :
    markAhead (compactFrom behindMark cs) = markAhead cs := by
  fun_induction compactFrom behindMark cs with
  | case1 => rfl
  | case2 behindMark c rest hc hdrop ih => rw [ih, markAhead_blank hc]
  | case3 behindMark c rest hc hkeep ih => rw [markAhead_blank hc, markAhead_blank hc, ih]
  | case4 behindMark c rest hc ih =>
      rw [Bool.not_eq_true] at hc
      rw [markAhead_solid hc, markAhead_solid hc]

/-- Compacting twice is compacting once. -/
theorem compactFrom_compactFrom (behindMark : Bool) (cs : List Char) :
    compactFrom behindMark (compactFrom behindMark cs) = compactFrom behindMark cs := by
  fun_induction compactFrom behindMark cs with
  | case1 => rfl
  | case2 behindMark c rest hc hdrop ih => exact ih
  | case3 behindMark c rest hc hkeep ih =>
      rw [compactFrom, if_pos hc, markAhead_compactFrom, if_neg hkeep, ih]
  | case4 behindMark c rest hc ih => rw [compactFrom, if_neg hc, ih]

/-! ## Loosened texts made compact -/

theorem Loosened.markAhead_eq (h : Loosened ks t) : markAhead t = markAhead ks := by
  induction h with
  | nil => rfl
  | @cons c lead trail ks written hlead htrail hfront hbehind hrest ih =>
      cases hc : isBlank c with
      | true =>
          obtain ⟨rfl, rfl⟩ := gaps_eq_nil (isMark_of_isBlank hc) hfront hbehind
          rw [List.nil_append, List.nil_append, markAhead_blank hc, markAhead_blank hc, ih]
      | false =>
          rw [markAhead_gap hlead (by simpa using hc), markAhead_solid hc]
          rfl

/-- What the pattern allows is left out again. -/
theorem Loosened.compactFrom_eq (h : Loosened ks t) (behindMark : Bool) :
    compactFrom behindMark t = compactFrom behindMark ks := by
  induction h generalizing behindMark with
  | nil => rfl
  | @cons c lead trail ks written hlead htrail hfront hbehind hrest ih =>
      cases hc : isBlank c with
      | true =>
          obtain ⟨rfl, rfl⟩ := gaps_eq_nil (isMark_of_isBlank hc) hfront hbehind
          rw [List.nil_append, List.nil_append, compactFrom, if_pos hc, compactFrom, if_pos hc,
            hrest.markAhead_eq, ih, ih]
      | false =>
          have hdropped : (if behindMark || isMark c then [] else lead) = [] := by
            split_ifs with hmark
            · rfl
            · by_contra hne
              exact hmark (by rw [hfront hne, Bool.or_true])
          have hbehind_c : compactFrom (isMark c) (trail ++ written) =
              compactFrom (isMark c) ks := by
            cases hmark : isMark c with
            | true => rw [compactFrom_true_blanks htrail, ih]
            | false =>
                obtain ⟨-, rfl⟩ := gaps_eq_nil hmark hfront hbehind
                rw [List.nil_append, ih]
          calc
            compactFrom behindMark (lead ++ c :: (trail ++ written))
              = (if behindMark || isMark c then [] else lead) ++
                  compactFrom false (c :: (trail ++ written)) :=
                compactFrom_gap hlead (by simpa using hc) behindMark
            _ = c :: compactFrom (isMark c) ks := by
                rw [hdropped, List.nil_append, compactFrom_solid hc, hbehind_c]
            _ = compactFrom behindMark (c :: ks) := (compactFrom_solid hc behindMark).symm

/-! ## The pattern and its expression -/

theorem mem_of_mem_collapse (h : a ∈ collapse atoms) : a ∈ atoms := by
  have hcons : ∀ {b : Atom} {others : List Atom}, a ∈ consAtom b others → a ∈ b :: others := by
    intro b others hmem
    unfold consAtom at hmem
    split at hmem
    · exact List.mem_cons_of_mem _ hmem
    · exact hmem
  induction atoms with
  | nil => exact h
  | cons b rest ih =>
      rw [collapse_cons] at h
      rcases List.mem_cons.1 (hcons h) with rfl | hrest
      · exact List.mem_cons_self
      · exact List.mem_cons_of_mem _ (ih hrest)

/-- No character asks for a word boundary. -/
theorem boundary_not_mem (cs : List Char) : .boundary ∉ Removal.atoms cs := by
  intro h
  obtain ⟨c, -, hc⟩ := List.mem_flatMap.1 (mem_of_mem_collapse h)
  unfold charAtoms at hc
  split_ifs at hc <;> simp at hc

theorem read?_text_atoms (xs : List Atom) :
    read? (Pattern.mk (xs.map .atom)).text = some (xs.map fun a => .item a.item) := by
  have hslots : (xs.map Part.atom).filterMap Part.slot? = [] := by
    rw [List.filterMap_map, List.filterMap_eq_nil_iff]
    exact fun _ _ => rfl
  rw [read?_text (by rw [hslots]; exact List.nodup_nil), Pattern.regex, List.map_map]
  rfl

/-- A match is a loosened form of the compact text, and compact it is that text. -/
theorem loosened_of_matchAhead? {text : String} {before : Option Char} {ahead : List Char}
    {m : Match} (hm : (pattern text).matchAhead? before ahead = some m) :
    Loosened (compact text.toList) m.matched ∧
      compactFrom false m.matched = compact text.toList := by
  rw [← getLast?_toList before] at hm
  obtain ⟨after, -, hmatches⟩ := matchAhead?_sound hm
  obtain ⟨-, hloosened, -⟩ := (matches_pattern text).1 hmatches
  refine ⟨hloosened, ?_⟩
  rw [hloosened.compactFrom_eq, compact, compactFrom_compactFrom]

end Removal

open Removal

/-- The expression of a removal is written by substitution from the compact text.  Behind a word
boundary, which it asks for exactly if that text begins with a name character, it matches the
loosened forms of the text and nothing else.  A match of the rule is not empty, and without the
blanks next to its marks it is the compact text. -/
theorem Rule.removal_meaning [PatternEngine] {old : String} {r : Rule}
    (h : Rule.compile old none = .ok r) :
    r.pattern.text.toList = expression (compact old.toList) ∧
    (∃ lead body, read? r.pattern.text = some (lead ++ body) ∧
      lead = (if (compact old.toList).head?.any isNameChar then [.item .boundary] else []) ∧
      .item .boundary ∉ body ∧
      ∀ before u after captures,
        Matches body before u after captures ↔ Loosened (compact old.toList) u ∧ captures = []) ∧
    ∀ before ahead m, r.pattern.matchAhead? before ahead = some m →
      Loosened (compact old.toList) m.matched ∧ compactFrom false m.matched = compact old.toList ∧
        m.matched ≠ [] := by
  obtain ⟨hpattern, hne⟩ := removes_of_compile h
  have hcompact : compact (trimmed old).toList = compact old.toList := by
    rw [compact, toList_trimmed, trim_trim, compact]
  refine ⟨?_, ⟨_, (atoms (compact old.toList)).map fun a => .item a.item, ?_, rfl, ?_, ?_⟩, ?_⟩
  · rw [hpattern, toList_text_pattern, hcompact]
  · rw [hpattern, pattern_eq_atoms, read?_text_atoms, hcompact, List.map_append]
    split_ifs <;> rfl
  · intro hboundary
    obtain ⟨a, ha, hitem⟩ := List.mem_map.1 hboundary
    obtain rfl : a = .boundary := by cases a <;> simp [Atom.item] at hitem ⊢
    exact boundary_not_mem _ ha
  · intro before u after captures
    rw [matches_items, itemsTake_atoms]
  · intro before ahead m hm
    rw [hpattern] at hm
    obtain ⟨hloosened, hcompacted⟩ := loosened_of_matchAhead? hm
    rw [hcompact] at hloosened hcompacted
    have hcompact_ne : compact old.toList ≠ [] := compact_ne_nil hne
    exact ⟨hloosened, hcompacted, hloosened.ne_nil hcompact_ne⟩

section Usual

attribute [local instance] PatternEngine.usual

/-- The backslash, the letter and the star of the signature stand for themselves. -/
theorem Rule.removal_meaning_metacharacters :
    ∃ r m, Rule.compile " Foo\\s* ( a.b , (x) ) " none = .ok r ∧
      r.pattern.text.toList = expression "Foo\\s*(a.b,(x))".toList ∧
      r.pattern.matchAhead? none "Foo\\s*  (a.b ,( x ) ) ;".toList = some m ∧
      compactFrom false m.matched = "Foo\\s*(a.b,(x))".toList ∧ m.matched ≠ [] := by
  obtain ⟨r, hr, hfound⟩ : ∃ r, Rule.compile " Foo\\s* ( a.b , (x) ) " none = .ok r ∧
      (r.pattern.matchAhead? none "Foo\\s*  (a.b ,( x ) ) ;".toList).isSome = true :=
    exists_ok_of_any (by decide +kernel)
  obtain ⟨m, hm⟩ := Option.isSome_iff_exists.1 hfound
  obtain ⟨htext, -, hmatches⟩ := removal_meaning hr
  obtain ⟨-, hcompacted, hne⟩ := hmatches _ _ m hm
  have hcompact : compact " Foo\\s* ( a.b , (x) ) ".toList = "Foo\\s*(a.b,(x))".toList := by
    decide +kernel
  rw [hcompact] at htext hcompacted
  exact ⟨r, m, hr, htext, hm, hcompacted, hne⟩

end Usual

end HookMigration
