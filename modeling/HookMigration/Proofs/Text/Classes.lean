import HookMigration.Text.Lowercase
import Mathlib.Data.List.Basic

/-!
# How the character classes meet

Blanks are neither word characters nor name characters, so a run of the one kind ends where the
other begins.  The characters that lay out a parameter list are the blanks, the brackets and the
comma; a character that is none of them is *inert*.  Word characters, name characters and the
lowercase of name characters are inert.

All of this is read off the tables.  `inRanges_eq_false_of_apart` reduces a statement about every
character to a comparison of the ranges of two tables, which is closed by evaluation.
-/

namespace HookMigration.Text

/-! ## Ranges -/

theorem exists_range_of_inRanges {n : Nat} {ranges : List (Nat × Nat)}
    (h : inRanges n ranges = true) : ∃ range ∈ ranges, range.1 ≤ n ∧ n ≤ range.2 := by
  induction ranges with
  | nil => simp [inRanges] at h
  | cons range rest ih =>
      simp only [inRanges] at h
      split at h
      · simp at h
      · split at h
        · exact ⟨range, List.mem_cons_self, by omega⟩
        · obtain ⟨other, hother, hn⟩ := ih h
          exact ⟨other, List.mem_cons_of_mem _ hother, hn⟩

/-- Whether an interval lies apart from every range of a table. -/
def liesApart (low high : Nat) (ranges : List (Nat × Nat)) : Bool :=
  ranges.all fun range => decide (high < range.1) || decide (range.2 < low)

theorem inRanges_eq_false_of_liesApart {n low high : Nat} {ranges : List (Nat × Nat)}
    (hapart : liesApart low high ranges = true) (hlow : low ≤ n) (hhigh : n ≤ high) :
    inRanges n ranges = false := by
  by_contra hranges
  obtain ⟨range, hrange, hn⟩ := exists_range_of_inRanges (by simpa using hranges)
  simp only [liesApart, List.all_eq_true, Bool.or_eq_true, decide_eq_true_eq] at hapart
  have := hapart range hrange
  omega

/-- Two tables whose ranges lie apart hold no common number. -/
theorem inRanges_eq_false_of_apart {n : Nat} {first second : List (Nat × Nat)}
    (hapart : (first.all fun range => liesApart range.1 range.2 second) = true)
    (hfirst : inRanges n first = true) : inRanges n second = false := by
  obtain ⟨range, hrange, hlow, hhigh⟩ := exists_range_of_inRanges hfirst
  exact inRanges_eq_false_of_liesApart (List.all_eq_true.1 hapart range hrange) hlow hhigh

/-! ## Inert characters -/

/-- The code points of blanks, parentheses, brackets and the comma. -/
def layoutRanges : List (Nat × Nat) :=
  [(0x9, 0xd), (0x20, 0x20), (0x28, 0x29), (0x2c, 0x2c), (0x3c, 0x3c), (0x3e, 0x3e), (0x5b, 0x5b),
   (0x5d, 0x5d), (0x85, 0x85), (0xa0, 0xa0), (0x1680, 0x1680), (0x2000, 0x200a), (0x2028, 0x2029),
   (0x202f, 0x202f), (0x205f, 0x205f), (0x3000, 0x3000)]

/-- A character that has no part in the layout of a parameter list: neither a blank nor a bracket
of any kind nor a comma. -/
def isInert (c : Char) : Bool :=
  !inRanges c.toNat layoutRanges

/-- The tables that word characters and name characters are read from. -/
def characterTables : List (List (Nat × Nat)) :=
  [alphabeticRanges, markRanges, digitRanges, otherNumberRanges, connectorRanges,
   [(0x200c, 0x200d)]]

theorem characterTables_apart :
    ∀ table ∈ characterTables,
      (table.all fun range => liesApart range.1 range.2 layoutRanges) = true := by
  decide +kernel

theorem isInert_of_mem_characterTables {c : Char} {table : List (Nat × Nat)}
    (htable : table ∈ characterTables) (h : inRanges c.toNat table = true) : isInert c = true := by
  simp [isInert, inRanges_eq_false_of_apart (characterTables_apart table htable) h]

theorem isInert_of_isWordChar {c : Char} (h : isWordChar c = true) : isInert c = true := by
  simp only [isWordChar, Bool.or_eq_true] at h
  rcases h with (((halphabetic | hmark) | hdigit) | hconnector) | hjoiner
  · exact isInert_of_mem_characterTables (by simp [characterTables]) halphabetic
  · exact isInert_of_mem_characterTables (by simp [characterTables]) hmark
  · exact isInert_of_mem_characterTables (by simp [characterTables]) hdigit
  · exact isInert_of_mem_characterTables (by simp [characterTables]) hconnector
  · exact isInert_of_mem_characterTables (by simp [characterTables]) hjoiner

theorem isInert_of_isNameChar {c : Char} (h : isNameChar c = true) : isInert c = true := by
  simp only [isNameChar, isAlphanumeric, Bool.or_eq_true, beq_iff_eq] at h
  rcases h with ((halphabetic | hdigit) | hother) | rfl
  · exact isInert_of_mem_characterTables (by simp [characterTables]) halphabetic
  · exact isInert_of_mem_characterTables (by simp [characterTables]) hdigit
  · exact isInert_of_mem_characterTables (by simp [characterTables]) hother
  · rfl

theorem isWordChar_eq_false_of_not_isInert {c : Char} (h : isInert c = false) :
    isWordChar c = false := by
  by_contra hword
  simp [isInert_of_isWordChar (by simpa using hword)] at h

theorem isNameChar_eq_false_of_not_isInert {c : Char} (h : isInert c = false) :
    isNameChar c = false := by
  by_contra hname
  simp [isInert_of_isNameChar (by simpa using hname)] at h

theorem isBlank_eq_false_of_isInert {c : Char} (h : isInert c = true) : isBlank c = false := by
  by_contra hblank
  obtain ⟨range, hrange, hlow, hhigh⟩ :=
    exists_range_of_inRanges (by simpa only [isBlank, Bool.not_eq_false] using hblank)
  have hcovered : ∀ a ∈ [(0x9, 0xd), (0x20, 0x20), (0x85, 0x85), (0xa0, 0xa0), (0x1680, 0x1680),
      (0x2000, 0x200a), (0x2028, 0x2029), (0x202f, 0x202f), (0x205f, 0x205f), (0x3000, 0x3000)],
      ∀ n ∈ List.range' a.1 (a.2 + 1 - a.1), inRanges n layoutRanges = true := by
    decide +kernel
  have hlayout := hcovered range hrange c.toNat (List.mem_range'_1.2 (by omega))
  simp [isInert, hlayout] at h

theorem isBlank_eq_false_of_isWordChar {c : Char} (h : isWordChar c = true) : isBlank c = false :=
  isBlank_eq_false_of_isInert (isInert_of_isWordChar h)

theorem isBlank_eq_false_of_isNameChar {c : Char} (h : isNameChar c = true) : isBlank c = false :=
  isBlank_eq_false_of_isInert (isInert_of_isNameChar h)

theorem isWordChar_eq_false_of_isBlank {c : Char} (h : isBlank c = true) : isWordChar c = false := by
  by_contra hword
  simp [isBlank_eq_false_of_isWordChar (by simpa using hword)] at h

theorem ne_of_isInert {c d : Char} (hc : isInert c = true) (hd : isInert d = false) : c ≠ d := by
  rintro rfl
  simp [hc] at hd

/-! ## The marks of a list -/

@[simp] theorem isBlank_open : isBlank '(' = false := by decide

@[simp] theorem isBlank_close : isBlank ')' = false := by decide

@[simp] theorem isBlank_comma : isBlank ',' = false := by decide

@[simp] theorem isNameChar_open : isNameChar '(' = false :=
  isNameChar_eq_false_of_not_isInert rfl

@[simp] theorem isNameChar_close : isNameChar ')' = false :=
  isNameChar_eq_false_of_not_isInert rfl

@[simp] theorem isWordChar_open : isWordChar '(' = false :=
  isWordChar_eq_false_of_not_isInert rfl

@[simp] theorem isWordChar_close : isWordChar ')' = false :=
  isWordChar_eq_false_of_not_isInert rfl

@[simp] theorem isWordChar_comma : isWordChar ',' = false :=
  isWordChar_eq_false_of_not_isInert rfl

/-! ## Lowercase -/

theorem isInert_ofNat {n : Nat} (h : inRanges n layoutRanges = false) :
    isInert (Char.ofNat n) = true := by
  by_cases hvalid : n.isValidChar
  · have hchar : Char.ofNat n = Char.ofNatAux n hvalid := dif_pos hvalid
    have hcode : (Char.ofNatAux n hvalid).toNat = n := rfl
    rw [hchar, isInert, hcode, h]
    rfl
  · rw [Char.ofNat, dif_neg hvalid]
    rfl

theorem exists_run_of_runDistance? {n distance : Nat} {runs : List (Nat × Nat × Nat × Nat)}
    (h : runDistance? n runs = some distance) :
    ∃ run ∈ runs, run.1 ≤ n ∧ n ≤ run.2.1 ∧ run.2.2.2 = distance := by
  induction runs with
  | nil => simp [runDistance?] at h
  | cons run rest ih =>
      simp only [runDistance?] at h
      split_ifs at h with hbefore hwithin hstep
      · exact ⟨run, List.mem_cons_self, by omega, hwithin, by simpa using h⟩
      all_goals
        obtain ⟨other, hother, hn⟩ := ih h
        exact ⟨other, List.mem_cons_of_mem _ hother, hn⟩

theorem lowercase_apart :
    (∀ run ∈ lowercaseAbove,
      liesApart (run.1 + run.2.2.2) (run.2.1 + run.2.2.2) layoutRanges = true) ∧
    ∀ run ∈ lowercaseBelow,
      liesApart (run.1 - run.2.2.2) (run.2.1 - run.2.2.2) layoutRanges = true := by
  decide +kernel

theorem isInert_lowerChar {c : Char} (h : isInert c = true) : isInert (lowerChar c) = true := by
  unfold lowerChar
  split
  next distance hdistance =>
    obtain ⟨run, hrun, hlow, hhigh, rfl⟩ := exists_run_of_runDistance? hdistance
    exact isInert_ofNat
      (inRanges_eq_false_of_liesApart (lowercase_apart.1 run hrun) (by omega) (by omega))
  next habove =>
    split
    next distance hdistance =>
      obtain ⟨run, hrun, hlow, hhigh, rfl⟩ := exists_run_of_runDistance? hdistance
      exact isInert_ofNat
        (inRanges_eq_false_of_liesApart (lowercase_apart.2 run hrun) (by omega) (by omega))
    next => exact h

theorem isInert_of_mem_lowercase {cs : List Char} (hcs : ∀ c ∈ cs, isInert c = true) {d : Char}
    (hd : d ∈ lowercase cs) : isInert d = true := by
  suffices ∀ before, d ∈ lowercaseAfter before cs → isInert d = true from this [] hd
  clear hd
  induction cs with
  | nil => intro before hd; simp [lowercaseAfter] at hd
  | cons c rest ih =>
      intro before hd
      simp only [lowercaseAfter, List.mem_append] at hd
      rcases hd with hd | hd
      · split_ifs at hd
        · obtain rfl : d = 'ς' := by simpa using hd
          decide
        · obtain rfl : d = 'σ' := by simpa using hd
          decide
        · obtain rfl | rfl : d = 'i' ∨ d = '\u0307' := by simpa using hd
          all_goals decide
        · obtain rfl : d = lowerChar c := by simpa using hd
          exact isInert_lowerChar (hcs c List.mem_cons_self)
      · exact ih (fun e he => hcs e (List.mem_cons_of_mem _ he)) _ hd

end HookMigration.Text
