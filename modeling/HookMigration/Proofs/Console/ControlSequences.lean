import HookMigration.Console.Log
import HookMigration.Proofs.Text.Runs

/-!
# Deleting control sequences

A control sequence is an escape character, a bracket, digits and an `m`.  `dropSequences` deletes
those of a text from left to right, as a pattern for them would.

What is deleted from a text depends on what stands behind it, for a sequence may begin in one text
and end in the next: `"\x1b[3"` and `"1m"` have none, but together they are one.  Where the border
is `Clean` this cannot happen (`dropSequences_append`).  A border is clean if the text before it
ends in a character behind which no sequence goes on, such as a blank, or the text behind it begins
with one that no sequence has in its midst, such as a blank, a line end or a new escape character.
-/

namespace HookMigration

open Text

variable {a b cs rest after : List Char}

/-- What `next` finds behind a character of a class. -/
def afterOne? (p : Char → Bool) (next : List Char → Option (List Char)) :
    List Char → Option (List Char)
  | [] => none
  | c :: rest => if p c then next rest else none

/-- What follows the rest of a control sequence, from its second digit on. -/
def afterDigits? : List Char → Option (List Char)
  | [] => none
  | c :: rest =>
    if c = 'm' then some rest else if c.isDigit then afterDigits? rest else none

/-- What follows the control sequence in front of a text, if there is one. -/
def afterSequence? : List Char → Option (List Char) :=
  afterOne? (· == '\x1b') (afterOne? (· == '[') (afterOne? Char.isDigit afterDigits?))

/-- What is found follows an `m`. -/
def Shortens (next : List Char → Option (List Char)) : Prop :=
  ∀ cs after, next cs = some after → 'm' :: after <:+ cs

theorem shortens_afterOne? {p : Char → Bool} {next : List Char → Option (List Char)}
    (h : Shortens next) : Shortens (afterOne? p next) := by
  intro cs after hafter
  cases cs with
  | nil => cases hafter
  | cons c rest =>
      rw [afterOne?] at hafter
      split_ifs at hafter
      exact (h rest after hafter).trans (List.suffix_cons c rest)

theorem shortens_afterDigits? : Shortens afterDigits? := by
  intro cs after h
  induction cs with
  | nil => cases h
  | cons c rest ih =>
      rw [afterDigits?] at h
      split_ifs at h with hm hdigit
      · obtain rfl := hm
        obtain rfl := Option.some.inj h
        exact List.suffix_rfl
      · exact (ih h).trans (List.suffix_cons c rest)

theorem suffix_of_afterSequence? (h : afterSequence? cs = some after) : 'm' :: after <:+ cs :=
  shortens_afterOne? (shortens_afterOne? (shortens_afterOne? shortens_afterDigits?)) cs after h

theorem length_of_afterSequence? (h : afterSequence? cs = some after) :
    after.length < cs.length :=
  (suffix_of_afterSequence? h).length_le

/-- A text without its control sequences. -/
def dropSequences : List Char → List Char
  | [] => []
  | c :: rest =>
    match _h : afterSequence? (c :: rest) with
    | some after => dropSequences after
    | none => c :: dropSequences rest
termination_by cs => cs.length
decreasing_by
  · exact length_of_afterSequence? _h
  · exact Nat.lt_succ_self _

@[simp] theorem dropSequences_nil : dropSequences [] = [] := by
  rw [dropSequences]

theorem dropSequences_of_some (h : afterSequence? cs = some after) :
    dropSequences cs = dropSequences after := by
  cases cs with
  | nil => cases h
  | cons c rest =>
      rw [dropSequences]
      split <;> simp_all

theorem dropSequences_of_none {c : Char} (h : afterSequence? (c :: rest) = none) :
    dropSequences (c :: rest) = c :: dropSequences rest := by
  rw [dropSequences]
  split <;> simp_all

theorem dropSequences_eq_self (h : '\x1b' ∉ cs) : dropSequences cs = cs := by
  induction cs with
  | nil => exact dropSequences_nil
  | cons c rest ih =>
      obtain ⟨hc, hrest⟩ := List.ne_and_not_mem_of_not_mem_cons h
      have hnone : afterSequence? (c :: rest) = none := by
        simp [afterSequence?, afterOne?, hc.symm]
      rw [dropSequences_of_none hnone, ih hrest]

/-! ## Borders -/

/-- A character behind which a sequence may go on. -/
def leadsOn (c : Char) : Bool :=
  c == '\x1b' || c == '[' || c.isDigit

/-- A character that a sequence may have behind its first one. -/
def goesOn (c : Char) : Bool :=
  c == '[' || c == 'm' || c.isDigit

/-- No control sequence reaches from one text into the next. -/
def Clean (a b : List Char) : Prop :=
  a.getLast?.any leadsOn = false ∨ b.head?.any goesOn = false

theorem Clean.of_suffix {c : Char} (h : Clean a b) (hsuffix : c :: cs <:+ a) : Clean cs b := by
  refine h.imp_left fun hlast => ?_
  obtain ⟨front, rfl⟩ := hsuffix
  by_cases hcs : cs = []
  · rw [hcs]
    rfl
  · rwa [List.getLast?_append_of_ne_nil _ (by simp), List.getLast?_cons_of_ne_nil hcs] at hlast

theorem Clean.tail {c : Char} (h : Clean (c :: cs) b) : Clean cs b :=
  h.of_suffix List.suffix_rfl

theorem Clean.of_leadsOn {c : Char} (h : Clean [c] b) (hc : leadsOn c = true) :
    b.head?.any goesOn = false := by
  refine h.resolve_left ?_
  simp [hc]

theorem goesOn_of_isDigit {c : Char} (h : c.isDigit = true) : goesOn c = true := by
  simp [goesOn, h]

/-- Behind a character of a sequence, the same is found whatever stands behind a clean border. -/
def Settled (next : List Char → Option (List Char)) : Prop :=
  ∀ c cs b, leadsOn c = true → Clean (c :: cs) b → next (cs ++ b) = (next cs).map (· ++ b)

theorem settled_afterOne? {p : Char → Bool} {next : List Char → Option (List Char)}
    (hp : ∀ c, p c = true → leadsOn c = true ∧ goesOn c = true) (h : Settled next) :
    Settled (afterOne? p next) := by
  intro c cs b hc hclean
  rcases cs with _ | ⟨d, rest⟩
  · -- what stands behind the border does not go on
    have hstop := hclean.of_leadsOn hc
    rcases b with _ | ⟨d, rest⟩
    · rfl
    · have hd : p d = false := by
        by_contra hd
        simp [(hp d (by simpa using hd)).2] at hstop
      simp [afterOne?, hd]
  · rw [List.cons_append, afterOne?, afterOne?]
    split_ifs with hd
    · exact h d rest b (hp d hd).1 hclean.tail
    · rfl

theorem settled_afterDigits? : Settled afterDigits? := by
  intro c cs b hc hclean
  induction cs generalizing c with
  | nil =>
      have hstop := hclean.of_leadsOn hc
      rcases b with _ | ⟨d, rest⟩
      · rfl
      · have hm : d ≠ 'm' := by
          rintro rfl
          simp [goesOn] at hstop
        have hdigit : d.isDigit = false := by
          by_contra hdigit
          simp [goesOn_of_isDigit (c := d) (by simpa using hdigit)] at hstop
        simp [afterDigits?, hm, hdigit]
  | cons d rest ih =>
      rw [List.cons_append, afterDigits?, afterDigits?]
      split_ifs with hm hdigit
      · rfl
      · exact ih d (by simp [leadsOn, hdigit]) hclean.tail
      · rfl

theorem afterSequence?_append (h : Clean a b) (hne : a ≠ []) :
    afterSequence? (a ++ b) = (afterSequence? a).map (· ++ b) := by
  obtain ⟨c, rest, rfl⟩ := List.exists_cons_of_ne_nil hne
  have hsettled : Settled (afterOne? (· == '[') (afterOne? Char.isDigit afterDigits?)) := by
    refine settled_afterOne? ?_ (settled_afterOne? ?_ settled_afterDigits?)
    · intro d hd
      simp_all [leadsOn, goesOn]
    · intro d hd
      simp [leadsOn, goesOn, hd]
  rw [List.cons_append, afterSequence?, afterOne?, afterOne?]
  split_ifs with hescape
  · obtain rfl : c = '\x1b' := by simpa using hescape
    exact hsettled _ rest b rfl h
  · rfl

theorem dropSequences_append (h : Clean a b) :
    dropSequences (a ++ b) = dropSequences a ++ dropSequences b := by
  fun_induction dropSequences a with
  | case1 => rfl
  | case2 c rest after hafter ih =>
      have happend := afterSequence?_append h (by simp)
      rw [hafter] at happend
      rw [dropSequences_of_some happend, ih (h.of_suffix (suffix_of_afterSequence? hafter))]
  | case3 c rest hnone ih =>
      have happend := afterSequence?_append h (by simp)
      rw [hnone] at happend
      rw [List.cons_append] at happend ⊢
      rw [dropSequences_of_none happend, ih h.tail, List.cons_append]

/-! ## Lines in two forms -/

theorem toList_controlSequence (code : Nat) :
    (controlSequence code).toList = '\x1b' :: '[' :: (Nat.toDigits 10 code ++ ['m']) := by
  simp [controlSequence, Nat.toString_eq_repr, Nat.toList_repr]

theorem afterDigits?_run {digits : List Char} (h : digits.all Char.isDigit = true)
    (rest : List Char) : afterDigits? (digits ++ 'm' :: rest) = some rest := by
  induction digits with
  | nil => simp [afterDigits?]
  | cons c others ih =>
      rw [List.all_cons, Bool.and_eq_true] at h
      have hm : c ≠ 'm' := by
        rintro rfl
        exact absurd h.1 (by decide)
      rw [List.cons_append, afterDigits?, if_neg hm, if_pos h.1, ih h.2]

/-- Control sequences are deleted wherever they are shown. -/
theorem dropSequences_controlSequence (code : Nat) (rest : List Char) :
    dropSequences ((controlSequence code).toList ++ rest) = dropSequences rest := by
  obtain ⟨digit, digits, hdigits⟩ : ∃ digit digits, Nat.toDigits 10 code = digit :: digits :=
    List.exists_cons_of_ne_nil Nat.toDigits_ne_nil
  have hall := all_isDigit_toDigits code
  rw [hdigits, List.all_cons, Bool.and_eq_true] at hall
  refine dropSequences_of_some ?_
  rw [toList_controlSequence, hdigits, afterSequence?]
  simp [afterOne?, hall.1, afterDigits?_run hall.2]

/-- A text between two control sequences has clean borders. -/
theorem dropSequences_between (code code' : Nat) (cs rest : List Char) :
    dropSequences ((controlSequence code).toList ++ cs ++ (controlSequence code').toList ++ rest) =
      dropSequences cs ++ dropSequences rest := by
  have hclean : Clean cs ((controlSequence code').toList ++ rest) := by
    rw [toList_controlSequence]
    exact .inr rfl
  rw [List.append_assoc, List.append_assoc, dropSequences_controlSequence,
    dropSequences_append hclean, dropSequences_controlSequence]

theorem dropSequences_embolden (text : String) :
    dropSequences (embolden text).toList = dropSequences text.toList := by
  have h := dropSequences_between 1 0 text.toList []
  simpa [embolden] using h

theorem dropSequences_paint (color : Color) (text : String) :
    dropSequences (color.paint text).toList = dropSequences text.toList := by
  have h := dropSequences_between color.code 39 text.toList []
  simpa [Color.paint] using h

namespace Line

variable {line other : Line} {text : String}

/-- The two forms of a line differ in control sequences alone. -/
def Alike (line : Line) : Prop :=
  dropSequences line.styled.toList = dropSequences line.bare.toList

theorem alike_plain (text : String) : (plain text).Alike := rfl

theorem alike_bold (text : String) : (bold text).Alike :=
  dropSequences_embolden text

theorem alike_colored (color : Color) (text : String) : (colored color text).Alike :=
  dropSequences_paint color text

theorem alike_strong (color : Color) (text : String) : (strong color text).Alike :=
  (dropSequences_embolden _).trans (dropSequences_paint color text)

theorem alike_decorated (code : Nat) (text : String) : (decorated code text).Alike := by
  have h := dropSequences_between code 0 text.toList []
  simpa [decorated, Alike] using h

/-- Two parts with a clean border in both forms. -/
theorem Alike.append (h : line.Alike) (hother : other.Alike)
    (hstyled : Clean line.styled.toList other.styled.toList)
    (hbare : Clean line.bare.toList other.bare.toList) : (line ++ other).Alike := by
  rw [Alike, styled_append, bare_append, String.toList_append, String.toList_append,
    dropSequences_append hstyled, dropSequences_append hbare, h, hother]

/-- A text in front of which a line ends cleanly, such as one that begins with a blank. -/
theorem Alike.append_plain (h : line.Alike) (hclean : text.toList.head?.any goesOn = false) :
    (line ++ plain text).Alike :=
  h.append (alike_plain text) (.inr hclean) (.inr hclean)

/-- A sequence begins cleanly, so that only the text in it matters. -/
theorem Alike.append_decorated (h : line.Alike) (code : Nat) (text : String)
    (hclean : text.toList.head?.any goesOn = false) : (line ++ decorated code text).Alike := by
  refine h.append (alike_decorated code text) (.inr ?_) (.inr hclean)
  simp [decorated, toList_controlSequence, goesOn]

/-- A blank keeps two parts of a line apart. -/
theorem Alike.spaced (h : line.Alike) (hother : other.Alike) :
    (line ++ plain " " ++ other).Alike := by
  have hclean (a b : String) : Clean (a ++ " ").toList b.toList := by
    refine .inl ?_
    rw [String.toList_append, List.getLast?_append]
    rfl
  exact (h.append_plain (by simp [goesOn])).append hother (hclean _ _) (hclean _ _)

theorem Alike.render (h : line.Alike) (styled : Bool) :
    dropSequences (line.render styled).toList = dropSequences line.bare.toList := by
  cases styled with
  | true => exact h
  | false => rfl

end Line

theorem toList_renderLines_cons (styled : Bool) (line : Line) (lines : List (Bool × Line)) :
    (renderLines ((styled, line) :: lines)).toList =
      (line.render styled).toList ++ ['\n'] ++ (renderLines lines).toList := by
  simp [renderLines, concat]

theorem dropSequences_lineEnd : dropSequences ['\n'] = ['\n'] := by
  rw [dropSequences_of_none (by rfl), dropSequences_nil]

/-- A sequence does not reach over the end of a line, so lines that are alike in both forms can be
shown in either. -/
theorem dropSequences_renderLines {lines : List (Bool × Line)} (h : ∀ l ∈ lines, l.2.Alike) :
    dropSequences (renderLines lines).toList =
      (lines.map Prod.snd).flatMap fun line => dropSequences line.bare.toList ++ ['\n'] := by
  induction lines with
  | nil => exact dropSequences_nil
  | cons l rest ih =>
      obtain ⟨styled, line⟩ := l
      obtain ⟨hline, hrest⟩ := List.forall_mem_cons.1 h
      have hend : Clean (line.render styled).toList ['\n'] := .inr rfl
      have hnext : Clean ((line.render styled).toList ++ ['\n']) (renderLines rest).toList := by
        refine .inl ?_
        rw [List.getLast?_concat]
        rfl
      rw [toList_renderLines_cons, dropSequences_append hnext, dropSequences_append hend,
        dropSequences_lineEnd, hline.render, ih hrest, List.map_cons, List.flatMap_cons]

end HookMigration
