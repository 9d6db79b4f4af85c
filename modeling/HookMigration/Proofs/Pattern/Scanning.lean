import HookMigration.Proofs.Pattern.Matcher
import HookMigration.Scan

/-!
# What a scan passes over

A scan goes through a text from left to right and continues behind each match that it finds.  So it
may pass over a place where the pattern matches, but only inside of a match that began before
(`covered_stretches`): whatever can be found in a text lies under a match that is found.
-/

namespace HookMigration

namespace Pattern

variable {p : Pattern} {first : Option Char} {front back after : List Char} {m x : Match}

/-- The text of stretches. -/
def scanned (stretches : List Stretch) : List Char :=
  stretches.flatMap Stretch.text

@[simp] theorem scanned_nil : scanned [] = [] := rfl

@[simp] theorem scanned_cons (s : Stretch) (rest : List Stretch) :
    scanned (s :: rest) = s.text ++ scanned rest := rfl

/-- One of the stretches is a match that covers the character with the given number. -/
def Covered (stretches : List Stretch) (n : Nat) : Prop :=
  ∃ before x rest, stretches = before ++ .hit x :: rest ∧ (scanned before).length ≤ n ∧
    n < (scanned before).length + x.matched.length

/-! ## The first stretch -/

theorem stretchesFrom_none {c : Char} {rest : List Char}
    (h : p.matchAhead? first (c :: rest) = none) :
    p.stretchesFrom first (c :: rest) = .plain c :: p.stretchesFrom (some c) rest := by
  rw [stretchesFrom, h]

theorem stretchesFrom_empty {c : Char} {rest : List Char}
    (h : p.matchAhead? first (c :: rest) = some x) (hempty : x.matched = []) :
    p.stretchesFrom first (c :: rest) = .plain c :: p.stretchesFrom (some c) rest := by
  rw [stretchesFrom, h]
  simp only [if_pos hempty]

theorem stretchesFrom_some (hne : x.matched ≠ [])
    (h : p.matchAhead? first (x.matched ++ after) = some x) :
    p.stretchesFrom first (x.matched ++ after) =
      .hit x :: p.stretchesFrom x.matched.getLast? after := by
  obtain ⟨c, rest, hmatched⟩ := List.exists_cons_of_ne_nil hne
  have htext : x.matched ++ after = c :: (rest ++ after) := by rw [hmatched, List.cons_append]
  have hdrop : (x.matched ++ after).drop x.matched.length = after := List.drop_left
  rw [htext] at h hdrop ⊢
  rw [stretchesFrom, h]
  simp only [if_neg hne, hdrop]

theorem matched_prefix (h : p.matchAhead? first back = some x) : x.matched <+: back := by
  rw [← getLast?_toList first] at h
  obtain ⟨after, rfl, -⟩ := matchAhead?_sound h
  exact List.prefix_append _ _

/-- A scan goes on behind a character or behind a match. -/
theorem stretchesFrom_cases (p : Pattern) (first : Option Char) (c : Char) (rest : List Char) :
    p.stretchesFrom first (c :: rest) = .plain c :: p.stretchesFrom (some c) rest ∨
      ∃ x after, x.matched ≠ [] ∧ c :: rest = x.matched ++ after ∧
        p.matchAhead? first (x.matched ++ after) = some x ∧
        p.stretchesFrom first (c :: rest) = .hit x :: p.stretchesFrom x.matched.getLast? after := by
  cases hfirst : p.matchAhead? first (c :: rest) with
  | none => exact .inl (stretchesFrom_none hfirst)
  | some x =>
      by_cases hempty : x.matched = []
      · exact .inl (stretchesFrom_empty hfirst hempty)
      · obtain ⟨after, htext⟩ := matched_prefix hfirst
        rw [← htext] at hfirst ⊢
        exact .inr ⟨x, after, hempty, rfl, hfirst, stretchesFrom_some hempty hfirst⟩

theorem scanned_stretchesFrom (p : Pattern) (first : Option Char) (text : List Char) :
    scanned (p.stretchesFrom first text) = text := by
  induction hlength : text.length using Nat.strong_induction_on generalizing text first with
  | _ n ih =>
      cases text with
      | nil => simp [stretchesFrom, scanned]
      | cons c rest =>
          rcases stretchesFrom_cases p first c rest with hplain | ⟨x, after, hne, htext, -, hhit⟩
          · rw [List.length_cons] at hlength
            rw [hplain, scanned, List.flatMap_cons]
            exact congrArg (c :: ·) (ih rest.length (by omega) (some c) rest rfl)
          · have hpos := List.length_pos_iff.2 hne
            have hsum := congrArg List.length htext
            rw [hlength, List.length_append] at hsum
            rw [hhit, scanned, List.flatMap_cons]
            exact (congrArg (x.matched ++ ·) (ih after.length (by omega) _ after rfl)).trans
              htext.symm

/-- The last character of stretches, or else the one before them. -/
theorem getLast?_scanned_cons (s : Stretch) (rest : List Stretch) (first : Option Char) :
    (scanned (s :: rest)).getLast?.or first =
      (scanned rest).getLast?.or (s.text.getLast?.or first) := by
  rw [scanned, List.flatMap_cons, List.getLast?_append, Option.or_assoc]
  rfl

/-- A match among the stretches of a text is what the matcher finds where it begins. -/
theorem matchAhead?_of_stretchesFrom {before rest : List Stretch} {text : List Char}
    (h : p.stretchesFrom first text = before ++ .hit x :: rest) :
    x.matched ≠ [] ∧
      p.matchAhead? ((scanned before).getLast?.or first) (x.matched ++ scanned rest) = some x := by
  induction before generalizing first text with
  | nil =>
      cases text with
      | nil => simp [stretchesFrom] at h
      | cons c others =>
          rcases stretchesFrom_cases p first c others with
            hplain | ⟨y, after, hne, -, hfound, hhit⟩
          · rw [hplain] at h
            simp at h
          · rw [hhit, List.nil_append] at h
            obtain ⟨hsame, hrest⟩ := List.cons.inj h
            obtain rfl := Stretch.hit.inj hsame
            rw [← hrest, scanned_stretchesFrom]
            exact ⟨hne, hfound⟩
  | cons s before ih =>
      cases text with
      | nil => simp [stretchesFrom] at h
      | cons c others =>
          rw [getLast?_scanned_cons]
          rcases stretchesFrom_cases p first c others with
            hplain | ⟨y, after, hne, -, -, hhit⟩
          · rw [hplain, List.cons_append] at h
            obtain ⟨rfl, hrest⟩ := List.cons.inj h
            exact ih hrest
          · rw [hhit, List.cons_append] at h
            obtain ⟨rfl, hrest⟩ := List.cons.inj h
            have hlast : y.matched.getLast?.or first = y.matched.getLast? := by
              rw [List.getLast?_eq_some_getLast hne]
              rfl
            rw [Stretch.text, hlast]
            exact ih hrest

/-! ## Places that are passed over -/

theorem covered_hit {n : Nat} {rest : List Stretch} (h : n < x.matched.length) :
    Covered (.hit x :: rest) n :=
  ⟨[], x, rest, rfl, Nat.zero_le _, by simpa [scanned] using h⟩

theorem Covered.cons {n : Nat} {rest : List Stretch} (h : Covered rest n) (s : Stretch) :
    Covered (s :: rest) (s.text.length + n) := by
  obtain ⟨before, x, others, rfl, hle, hlt⟩ := h
  refine ⟨s :: before, x, others, rfl, ?_, ?_⟩ <;>
    simp only [scanned, List.flatMap_cons, List.length_append] at hle hlt ⊢ <;> omega

theorem covered_stretchesFrom (h : p.matchAhead? (front.getLast?.or first) back = some m)
    (hne : m.matched ≠ []) : Covered (p.stretchesFrom first (front ++ back)) front.length := by
  -- on what still lies in front of the place: the scan reaches the place or a match goes over it
  induction hlength : front.length using Nat.strong_induction_on generalizing front first with
  | _ n ih =>
      cases front with
      | nil =>
          obtain ⟨after, rfl⟩ := matched_prefix h
          rw [← hlength, List.nil_append, stretchesFrom_some hne (by simpa using h)]
          exact covered_hit (List.length_pos_iff.2 hne)
      | cons c others =>
          rw [List.cons_append]
          rcases stretchesFrom_cases p first c (others ++ back) with
            hplain | ⟨x, after, hempty, htext, -, hhit⟩
          · have hplace : others.getLast?.or (some c) = (c :: others).getLast?.or first := by
              rw [List.getLast?_cons]
              cases others.getLast? <;> rfl
            rw [← hplace] at h
            rw [List.length_cons] at hlength
            rw [hplain, ← hlength, Nat.add_comm]
            exact (ih others.length (by omega) h rfl).cons (.plain c)
          · rw [hhit]
            by_cases hlong : n < x.matched.length
            · exact covered_hit hlong
            · -- the match ends before the place
              have hmatched : x.matched <+: c :: (others ++ back) := ⟨after, htext.symm⟩
              have hothers : c :: others <+: c :: (others ++ back) := ⟨back, rfl⟩
              obtain ⟨front', hfront⟩ :=
                List.prefix_of_prefix_length_le hmatched hothers (by omega)
              have hafter : after = front' ++ back := by
                rw [← List.cons_append, ← hfront, List.append_assoc] at htext
                exact (List.append_cancel_left htext).symm
              rw [← hfront, List.getLast?_append, Option.or_assoc] at h
              rw [← hfront, List.length_append] at hlength
              have hpos := List.length_pos_iff.2 hempty
              have hplace : x.matched.getLast?.or first = x.matched.getLast? := by
                rw [List.getLast?_eq_some_getLast hempty]
                rfl
              rw [hplace] at h
              rw [hafter, ← hlength]
              exact (ih front'.length (by omega) h rfl).cons (.hit x)

/-- Where a match begins, a match is found that covers the place. -/
theorem covered_stretches (h : p.matchAhead? front.getLast? back = some m) (hne : m.matched ≠ []) :
    Covered (p.stretches (front ++ back)) front.length :=
  covered_stretchesFrom (by rwa [Option.or_none]) hne

end Pattern

/-! ## Records -/

open Pattern

variable {r : Rule} {file : Option String}

theorem Rule.recordsFrom_append (r : Rule) (file : Option String) (cursor : Text.Cursor)
    (before rest : List Stretch) :
    r.recordsFrom file cursor (before ++ rest) =
      r.recordsFrom file cursor before ++
        r.recordsFrom file (cursor.advanceOver (scanned before)) rest := by
  induction before generalizing cursor with
  | nil => rfl
  | cons s others ih =>
      have hcursor : cursor.advanceOver (scanned (s :: others)) =
          (cursor.advanceOver s.text).advanceOver (scanned others) :=
        Text.Cursor.advanceOver_append cursor s.text (scanned others)
      rw [hcursor]
      cases s with
      | plain c => exact ih (cursor.advance c)
      | hit m => exact congrArg (r.record file cursor m :: ·) (ih (cursor.advanceOver m.matched))

theorem Rule.scanned_stretches (r : Rule) (text : String) :
    scanned (r.stretches text) = text.toList :=
  scanned_stretchesFrom r.pattern none text.toList

/-- A match among the stretches of a text is what the rule finds where it begins. -/
theorem Rule.matchAhead?_of_stretches {text : String} {before rest : List Stretch} {x : Match}
    (h : r.stretches text = before ++ .hit x :: rest) :
    x.matched ≠ [] ∧ text.toList = scanned before ++ (x.matched ++ scanned rest) ∧
      r.pattern.matchAhead? (scanned before).getLast? (x.matched ++ scanned rest) = some x := by
  obtain ⟨hne, hfound⟩ := matchAhead?_of_stretchesFrom h
  rw [Option.or_none] at hfound
  refine ⟨hne, ?_, hfound⟩
  rw [← r.scanned_stretches text, h]
  simp [scanned, Stretch.text]

theorem Rule.exists_stretch_of_mem_recordsFrom {cursor : Text.Cursor} {stretches : List Stretch}
    {record : Record} (h : record ∈ r.recordsFrom file cursor stretches) :
    ∃ before x rest, stretches = before ++ .hit x :: rest ∧
      record = r.record file (cursor.advanceOver (scanned before)) x := by
  induction stretches generalizing cursor with
  | nil => simp [Rule.recordsFrom] at h
  | cons s others ih =>
      have hcursor : ∀ before, cursor.advanceOver (scanned (s :: before)) =
          (cursor.advanceOver s.text).advanceOver (scanned before) :=
        fun before => Text.Cursor.advanceOver_append cursor s.text (scanned before)
      cases s with
      | plain c =>
          obtain ⟨before, x, rest, rfl, hrecord⟩ := ih h
          exact ⟨.plain c :: before, x, rest, rfl, by rw [hcursor]; exact hrecord⟩
      | hit m =>
          rcases List.mem_cons.1 h with rfl | h
          · exact ⟨[], m, others, rfl, rfl⟩
          · obtain ⟨before, x, rest, rfl, hrecord⟩ := ih h
            exact ⟨.hit m :: before, x, rest, rfl, by rw [hcursor]; exact hrecord⟩

/-- The records of a rule are those of the matches among the stretches. -/
theorem Rule.mem_records_iff {text : String} {record : Record} :
    record ∈ r.records file text ↔ ∃ before x rest, r.stretches text = before ++ .hit x :: rest ∧
      record = r.record file (Text.Cursor.start.advanceOver (scanned before)) x := by
  constructor
  · exact Rule.exists_stretch_of_mem_recordsFrom
  · rintro ⟨before, x, rest, hstretches, rfl⟩
    rw [Rule.records, hstretches, Rule.recordsFrom_append]
    exact List.mem_append_right _ List.mem_cons_self

/-- A character that a match covers is reported. -/
theorem Rule.exists_record_of_covered {text : String} {n : Nat}
    (h : Covered (r.stretches text) n) (file : Option String) :
    ∃ before m, before ++ m.matched <+: text.toList ∧ before.length ≤ n ∧
      n < before.length + m.matched.length ∧
      r.record file (Text.Cursor.start.advanceOver before) m ∈ r.records file text := by
  obtain ⟨before, m, rest, hstretches, hle, hlt⟩ := h
  obtain ⟨-, htext, -⟩ := Rule.matchAhead?_of_stretches hstretches
  refine ⟨scanned before, m, ⟨scanned rest, ?_⟩, hle, hlt, ?_⟩
  · rw [htext, List.append_assoc]
  · exact Rule.mem_records_iff.2 ⟨before, m, rest, hstretches, rfl⟩

end HookMigration
