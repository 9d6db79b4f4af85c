import HookMigration.Proofs.Migration.Reading
import HookMigration.Proofs.Signature.Splitting

/-!
# Types and names in a parameter

The reader checks a type with a counter of open brackets.  `IsType` says the same of the text as a
whole, by counting the brackets before each of its characters; `isTypeToken_iff` compares the two.

A type ends at the first blank at depth zero.  Since blanks inside of a type are shielded by its
brackets, a type with a name behind it is cut where the type ends (`splitTypeName_type_name`), and
conversely what is cut apart fits together again (`exists_gap_of_splitTypeName`).
-/

namespace HookMigration.Signature

open Text

variable {cs type gap name : List Char} {c : Char} {depth : Nat}

/-! ## Brackets of types -/

/-- The number of brackets of types that a text opens. -/
def openers (cs : List Char) : Nat :=
  cs.countP fun c => c == '<' || c == '['

/-- The number of brackets of types that a text closes. -/
def closers (cs : List Char) : Nat :=
  cs.countP fun c => c == '>' || c == ']'

/-- A character that a type may hold at any place but the first. -/
def isTypeChar (c : Char) : Bool :=
  isNameChar c || c ∈ ['.', '?', '<', '>', '[', ']']

/-- A text is a type: it begins with a name character, holds commas and blanks only between
brackets, and closes its brackets, each after it was opened. -/
structure IsType (cs : List Char) : Prop where
  begins : cs.head?.any isNameChar = true
  chars : ∀ before c after, cs = before ++ c :: after →
    isTypeChar c = true ∨ (c = ',' ∨ isBlank c = true) ∧ closers before < openers before
  opened : ∀ before after, cs = before ++ after → closers before ≤ openers before
  closed : openers cs = closers cs

/-- The rest of a type, when the given number of brackets is open. -/
structure IsTypeRest (depth : Nat) (cs : List Char) : Prop where
  chars : ∀ before c after, cs = before ++ c :: after →
    isTypeChar c = true ∨ (c = ',' ∨ isBlank c = true) ∧ closers before < depth + openers before
  opened : ∀ before after, cs = before ++ after → closers before ≤ depth + openers before
  closed : depth + openers cs = closers cs

@[simp] theorem openers_nil : openers [] = 0 := rfl

@[simp] theorem closers_nil : closers [] = 0 := rfl

theorem openers_cons (c : Char) (cs : List Char) : openers (c :: cs) = openers [c] + openers cs := by
  rw [← List.singleton_append, openers, List.countP_append]
  rfl

theorem closers_cons (c : Char) (cs : List Char) : closers (c :: cs) = closers [c] + closers cs := by
  rw [← List.singleton_append, closers, List.countP_append]
  rfl

theorem isTypeRest_nil : IsTypeRest depth [] ↔ depth = 0 := by
  constructor
  · intro h
    simpa using h.closed
  · rintro rfl
    exact {
      chars := by simp
      opened := by simp
      closed := rfl }

/-- One character of a type, and the number of brackets that are open behind it. -/
theorem isTypeRest_cons (depth' : Nat)
    (hdepth : depth + openers [c] = depth' + closers [c]) :
    IsTypeRest depth (c :: cs) ↔
      (isTypeChar c = true ∨ (c = ',' ∨ isBlank c = true) ∧ 0 < depth) ∧ IsTypeRest depth' cs := by
  constructor
  · intro h
    refine ⟨by simpa using h.chars [] c cs rfl, ⟨?_, ?_, ?_⟩⟩
    · intro before d after heq
      have hchar := h.chars (c :: before) d after (by rw [heq, List.cons_append])
      rw [openers_cons, closers_cons] at hchar
      refine hchar.imp_right fun hgap => ⟨hgap.1, ?_⟩
      omega
    · intro before after heq
      have hopened := h.opened (c :: before) after (by rw [heq, List.cons_append])
      rw [openers_cons, closers_cons] at hopened
      omega
    · have hclosed := h.closed
      rw [openers_cons, closers_cons] at hclosed
      omega
  · rintro ⟨hfirst, h⟩
    refine ⟨?_, ?_, ?_⟩
    · intro before d after heq
      cases before with
      | nil =>
          obtain ⟨rfl, -⟩ : c = d ∧ cs = after := by simpa using heq
          simpa using hfirst
      | cons e others =>
          obtain ⟨rfl, hrest⟩ : c = e ∧ cs = others ++ d :: after := by simpa using heq
          rw [openers_cons, closers_cons]
          refine (h.chars others d after hrest).imp_right fun hgap => ⟨hgap.1, ?_⟩
          omega
    · intro before after heq
      cases before with
      | nil => simp
      | cons e others =>
          obtain ⟨rfl, hrest⟩ : c = e ∧ cs = others ++ after := by simpa using heq
          have hopened := h.opened others after hrest
          rw [openers_cons, closers_cons]
          omega
    · have hclosed := h.closed
      rw [openers_cons, closers_cons]
      omega

/-- A bracket that closes nothing is no part of a type. -/
theorem not_isTypeRest_of_close (hc : closers [c] = 1) (ho : openers [c] = 0) :
    ¬IsTypeRest 0 (c :: cs) := by
  intro h
  have hopened := h.opened [c] cs rfl
  omega

/-! ## The counter of the reader -/

theorem isTypeChar_eq_false (h : c = ',' ∨ isBlank c = true) : isTypeChar c = false := by
  rcases h with rfl | hblank
  · decide +kernel
  · have hname : isNameChar c = false := by
      by_contra hname
      rw [isBlank_eq_false_of_isNameChar (by simpa using hname)] at hblank
      exact absurd hblank Bool.false_ne_true
    have hmarks : (['.', '?', '<', '>', '[', ']'].any isBlank) = false := by decide
    rw [List.any_eq_false] at hmarks
    have hmark : c ∉ ['.', '?', '<', '>', '[', ']'] := fun hmem => hmarks c hmem hblank
    simp [isTypeChar, hname, hmark]

theorem isTypeRest_iff : isTypeRest depth cs = true ↔ IsTypeRest depth cs := by
  induction cs generalizing depth with
  | nil => simp [isTypeRest, isTypeRest_nil]
  | cons c rest ih =>
      unfold isTypeRest
      split_ifs with hopen hclose hgap
      · have hc : openers [c] = 1 ∧ closers [c] = 0 ∧ isTypeChar c = true := by
          rcases hopen with rfl | rfl <;> decide +kernel
        rw [ih, isTypeRest_cons (depth + 1) (by omega)]
        exact ⟨fun h => ⟨.inl hc.2.2, h⟩, And.right⟩
      · have hc : closers [c] = 1 ∧ openers [c] = 0 ∧ isTypeChar c = true := by
          rcases hclose with rfl | rfl <;> decide +kernel
        cases depth with
        | zero => simpa using not_isTypeRest_of_close hc.1 hc.2.1
        | succ depth =>
            simp only
            rw [ih, isTypeRest_cons depth (by omega)]
            exact ⟨fun h => ⟨.inl hc.2.2, h⟩, And.right⟩
      all_goals
        -- Neither of the other characters is a bracket.
        obtain ⟨hangle, hsquare⟩ := not_or.1 hopen
        obtain ⟨hangle', hsquare'⟩ := not_or.1 hclose
        have hnone : openers [c] = 0 ∧ closers [c] = 0 := by
          simp [openers, closers, hangle, hsquare, hangle', hsquare']
        rw [Bool.and_eq_true, ih, isTypeRest_cons depth (by omega)]
        refine and_congr_left fun _ => ?_
      · rw [isTypeChar_eq_false hgap]
        simp [hgap, Nat.pos_iff_ne_zero]
      · simp [isTypeChar, hangle, hsquare, hangle', hsquare', hgap, or_comm, or_assoc]

/-- The reader accepts exactly the types. -/
theorem isTypeToken_iff : isTypeToken cs = true ↔ IsType cs := by
  cases cs with
  | nil =>
      refine ⟨fun h => ?_, fun h => ?_⟩
      · simp [isTypeToken] at h
      · simpa using h.begins
  | cons c rest =>
      simp only [isTypeToken, Bool.and_eq_true, isTypeRest_iff]
      constructor
      · rintro ⟨hfirst, h⟩
        exact {
          begins := by simpa using hfirst
          chars := by simpa using h.chars
          opened := by simpa using h.opened
          closed := by simpa using h.closed }
      · intro h
        exact ⟨by simpa using h.begins, by simpa using h.chars, by simpa using h.opened,
          by simpa using h.closed⟩

/-! ## Depth inside of a type -/

theorem IsType.isTypeText (h : IsType cs) : Migration.IsTypeText cs :=
  Migration.isTypeText_of_token (isTypeToken_iff.2 h)

theorem depthStep_eq_zero {p : Char → Bool} (h : p c = true)
    (hmarks : (['<', '(', '[', '>', ')', ']'].any p) = false) : depthStep c = 0 := by
  rw [List.any_eq_false] at hmarks
  have hne : ∀ d ∈ ['<', '(', '[', '>', ')', ']'], c ≠ d := by
    rintro d hd rfl
    exact hmarks c hd h
  simp only [List.mem_cons, List.not_mem_nil, or_false, forall_eq_or_imp, forall_eq] at hne
  simp [depthStep, hne]

theorem depthOf_eq_zero (h : ∀ c ∈ cs, depthStep c = 0) : depthOf cs = 0 := by
  induction cs with
  | nil => rfl
  | cons c rest ih =>
      rw [depthOf_cons, h c List.mem_cons_self, ih fun d hd => h d (List.mem_cons_of_mem _ hd)]
      rfl

/-- Without parentheses the depth is the number of brackets that are open. -/
theorem depthOf_eq_openers_sub_closers (h : ∀ c ∈ cs, c ≠ '(' ∧ c ≠ ')') :
    depthOf cs = openers cs - closers cs := by
  induction cs with
  | nil => rfl
  | cons c rest ih =>
      have hstep : depthStep c = openers [c] - closers [c] := by
        have hc := h c List.mem_cons_self
        unfold depthStep
        split <;> simp_all [openers, closers]
      rw [depthOf_cons, ih fun d hd => h d (List.mem_cons_of_mem _ hd), hstep,
        openers_cons c rest, closers_cons c rest]
      push_cast
      omega

theorem IsType.depthOf_eq (h : IsType cs) : depthOf cs = 0 := by
  rw [depthOf_eq_openers_sub_closers h.isTypeText.no_paren, h.closed, Int.sub_self]

/-- The commas and the blanks of a type stand between its brackets. -/
theorem IsType.shielded {p : Char → Bool} (h : IsType cs)
    (hp : ∀ c, p c = true → c = ',' ∨ isBlank c = true) : Shielded p 0 cs := by
  intro before c after heq hc
  have hbefore : depthOf before = openers before - closers before := by
    refine depthOf_eq_openers_sub_closers fun d hd => h.isTypeText.no_paren d ?_
    rw [heq]
    exact List.mem_append_left _ hd
  rcases h.chars before c after heq with hchar | ⟨-, hopen⟩
  · rw [isTypeChar_eq_false (hp c hc)] at hchar
    exact absurd hchar Bool.false_ne_true
  · rw [hbefore]
    omega

/-! ## Texts without a cut -/

/-- A text in which the splitter cuts nothing, and behind which it may cut. -/
structure Whole (cs : List Char) : Prop where
  shielded : Shielded isComma 0 cs
  level : depthOf cs = 0

theorem Whole.append {a b : List Char} (ha : Whole a) (hb : Whole b) : Whole (a ++ b) where
  shielded := shielded_append.2 ⟨ha.shielded, by simpa [ha.level] using hb.shielded⟩
  level := by rw [depthOf_append, ha.level, hb.level, Int.add_zero]

/-- A text of one class of characters, if no bracket and no comma is among them. -/
theorem whole_of_all {p : Char → Bool} (h : cs.all p = true)
    (hmarks : ([',', '<', '(', '[', '>', ')', ']'].any p) = false) : Whole cs := by
  rw [List.all_eq_true] at h
  rw [List.any_cons, Bool.or_eq_false_iff] at hmarks
  constructor
  · refine shielded_of_forall (fun c hc => ?_) 0
    by_contra hcomma
    obtain rfl : c = ',' := by simpa [isComma] using hcomma
    rw [h _ hc] at hmarks
    exact absurd hmarks.1 (by simp)
  · exact depthOf_eq_zero fun c hc => depthStep_eq_zero (h c hc) hmarks.2

theorem IsType.whole (h : IsType cs) : Whole cs where
  shielded := h.shielded fun _ hc => .inl (by simpa [isComma] using hc)
  level := h.depthOf_eq

/-! ## A type and a name -/

theorem splitTypeName_append {depth : Int} (h : Shielded isBlank depth type) (rest : List Char) :
    splitTypeName depth (type ++ rest) =
      (type ++ (splitTypeName (depth + depthOf type) rest).1,
        (splitTypeName (depth + depthOf type) rest).2) := by
  induction type generalizing depth with
  | nil => simp
  | cons c others ih =>
      obtain ⟨hfirst, hothers⟩ := shielded_cons.1 h
      rw [List.cons_append, splitTypeName, if_neg hfirst, ih hothers]
      simp [Int.add_assoc]

/-- A type is cut off from the name behind it. -/
theorem splitTypeName_type_name (h : IsType type) (hgap : gap.all isBlank = true)
    (hname : name.head?.any isBlank = false) (hiff : gap = [] ↔ name = []) :
    splitTypeName 0 (type ++ (gap ++ name)) = (type, name) := by
  rw [splitTypeName_append (h.shielded fun c hc => .inr hc), h.depthOf_eq]
  cases gap with
  | nil =>
      obtain rfl : name = [] := hiff.1 rfl
      simp [splitTypeName]
  | cons c rest =>
      have hc : isBlank c = true := List.all_eq_true.1 hgap c List.mem_cons_self
      have htrim : trimStart (c :: (rest ++ name)) = name := by
        rw [← List.cons_append, trimStart_append hgap, trimStart_eq_self hname]
      rw [List.cons_append, splitTypeName, if_pos ⟨hc, rfl⟩, htrim, List.append_nil]

/-- What is cut apart fits together again. -/
theorem exists_gap_of_splitTypeName (depth : Int) (cs : List Char) :
    ∃ gap, gap.all isBlank = true ∧
      cs = (splitTypeName depth cs).1 ++ (gap ++ (splitTypeName depth cs).2) ∧
      (gap = [] → (splitTypeName depth cs).2 = []) := by
  induction cs generalizing depth with
  | nil => exact ⟨[], rfl, rfl, fun _ => rfl⟩
  | cons c rest ih =>
      unfold splitTypeName
      split_ifs with hcut
      · refine ⟨(c :: rest).takeWhile isBlank, List.all_takeWhile, ?_, fun hnil => ?_⟩
        · exact (List.takeWhile_append_dropWhile ..).symm
        · simp [hcut.1] at hnil
      · obtain ⟨gap, hgap, heq, hnil⟩ := ih (depth + depthStep c)
        exact ⟨gap, hgap, congrArg (c :: ·) heq, hnil⟩

end HookMigration.Signature
