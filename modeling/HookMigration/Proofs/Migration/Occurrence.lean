import HookMigration.Proofs.Migration.Spacing
import Mathlib.Data.List.Forall2

/-!
# Occurrences of a signature

What an occurrence of a signature looks like in source text, said without patterns: the name, a
parenthesis, and between it and the closing one an entry for each parameter, separated by commas.
An entry is the type of the parameter with its own spacing, blanks, and any word for the name; there
may be blanks in front of the parentheses, and around entries.

A text begins with an occurrence of a signature in one way only (`occurrence_unique`).  Each part of
an occurrence is a run of blanks, a word or a spaced type, and none of them can go on with the
character that the next part begins with.
-/

namespace HookMigration.Migration

open Text

/-- A parameter as it stands in source text, with the blanks around it. -/
structure Entry where
  lead : List Char
  type : List Char
  gap : List Char
  name : List Char
  trail : List Char
  deriving DecidableEq, Repr

namespace Entry

/-- The text of an entry. -/
def text (e : Entry) : List Char :=
  e.lead ++ e.type ++ e.gap ++ e.name ++ e.trail

/-- An entry writes a parameter: it has the type, and a name of its own. -/
structure Writes (e : Entry) (p : Parameter) : Prop where
  lead_blank : e.lead.all isBlank = true
  type_spaced : Spaced (solid p.type.toList) e.type
  gap_blank : e.gap.all isBlank = true
  gap_ne_nil : e.gap ≠ []
  name_word : e.name.all isWordChar = true
  name_ne_nil : e.name ≠ []
  trail_blank : e.trail.all isBlank = true

end Entry

/-- Entries with commas between them. -/
def listOf (entries : List Entry) : List Char :=
  [','].intercalate (entries.map Entry.text)

/-- The text between the parentheses: entries with commas between them, or only blanks. -/
def ListText (entries : List Entry) (inner : List Char) : Prop :=
  match entries with
  | [] => inner.all isBlank = true
  | entries => inner = listOf entries

/-- A text is an occurrence of a signature, with the given entries for its parameters. -/
def Occurrence (s : Signature) (entries : List Entry) (matched : List Char) : Prop :=
  List.Forall₂ Entry.Writes entries s.parameters ∧
    ∃ gap inner, gap.all isBlank = true ∧ ListText entries inner ∧
      matched = s.name.toList ++ gap ++ '(' :: (inner ++ [')'])

/-- The entries behind the first, each with the comma before it. -/
def tailText (entries : List Entry) : List Char :=
  entries.flatMap fun e => ',' :: e.text

/-- Pieces with a separator between them are the first piece and the others with the separator
before them. -/
theorem intercalate_cons_flatMap (separator first : List Char) (others : List (List Char)) :
    separator.intercalate (first :: others) = first ++ others.flatMap (separator ++ ·) := by
  induction others generalizing first with
  | nil => simp
  | cons second rest ih => simp [List.intercalate_cons_cons, ih]

theorem listOf_cons (e : Entry) (entries : List Entry) :
    listOf (e :: entries) = e.text ++ tailText entries := by
  simp [listOf, tailText, intercalate_cons_flatMap, List.flatMap_map]

theorem listText_cons {e : Entry} {entries : List Entry} {inner : List Char} :
    ListText (e :: entries) inner ↔ inner = e.text ++ tailText entries := by
  rw [← listOf_cons]
  rfl

theorem listText_listOf (entries : List Entry) : ListText entries (listOf entries) := by
  cases entries with
  | nil => rfl
  | cons e rest => rfl

/-! ## One way to read an entry -/

variable {e e' : Entry} {p : Parameter} {x x' : List Char}

theorem solid_ne_nil {cs : List Char} (h : Signature.isTypeToken cs = true) : solid cs ≠ [] := by
  intro hnil
  cases cs with
  | nil => simp [Signature.isTypeToken] at h
  | cons c rest =>
      simp only [Signature.isTypeToken, Bool.and_eq_true] at h
      rw [solid, List.filter_eq_nil_iff] at hnil
      simpa [isBlank_eq_false_of_isNameChar h.1] using hnil c List.mem_cons_self

theorem Entry.Writes.type_ne_nil (h : e.Writes p)
    (htype : Signature.isTypeToken p.type.toList = true) : e.type ≠ [] :=
  h.type_spaced.ne_nil (solid_ne_nil htype)

/-- A written type begins with no blank. -/
theorem Entry.Writes.head?_type (h : e.Writes p) : e.type.head?.any isBlank = false := by
  rw [h.type_spaced.head?_eq]
  cases hks : solid p.type.toList with
  | nil => rfl
  | cons c rest =>
      have hc : c ∈ solid p.type.toList := by simp [hks]
      simpa using isBlank_of_mem_solid hc

theorem head?_any_append {q : Char → Bool} {u v : List Char} (hne : u ≠ []) :
    (u ++ v).head?.any q = u.head?.any q := by
  rw [List.head?_append_of_ne_nil _ hne]

theorem head?_any_of_all {q r : Char → Bool} {u : List Char} (hall : u.all q = true)
    (himp : ∀ c, q c = true → r c = false) : u.head?.any r = false := by
  cases u with
  | nil => rfl
  | cons c rest =>
      simp only [List.all_cons, Bool.and_eq_true] at hall
      simpa using himp c hall.1

/-- A text begins with an entry of a parameter in one way only, where the character behind it is
neither a blank nor part of a word. -/
theorem entry_unique (htype : Signature.isTypeToken p.type.toList = true)
    (h : e.Writes p) (h' : e'.Writes p)
    (hblank : x.head?.any isBlank = false) (hblank' : x'.head?.any isBlank = false)
    (hword : x.head?.any isWordChar = false) (hword' : x'.head?.any isWordChar = false)
    (heq : e.text ++ x = e'.text ++ x') : e = e' ∧ x = x' := by
  have hname : ∀ {e : Entry}, e.Writes p → ∀ y, (e.name ++ y).head?.any isBlank = false := by
    intro e he y
    rw [head?_any_append he.name_ne_nil]
    exact head?_any_of_all he.name_word fun c => isBlank_eq_false_of_isWordChar
  have hlead : ∀ {e : Entry}, e.Writes p → ∀ y, (e.type ++ y).head?.any isBlank = false := by
    intro e he y
    rw [head?_any_append (he.type_ne_nil htype)]
    exact he.head?_type
  have htrail : ∀ {e : Entry}, e.Writes p → ∀ y : List Char, y.head?.any isWordChar = false →
      (e.trail ++ y).head?.any isWordChar = false := by
    intro e he y hy
    by_cases hnil : e.trail = []
    · simpa [hnil] using hy
    · rw [head?_any_append hnil]
      exact head?_any_of_all he.trail_blank fun c => isWordChar_eq_false_of_isBlank
  -- Each part ends where the first character of the next one does not belong to it.
  simp only [Entry.text, List.append_assoc] at heq
  obtain ⟨hleads, heq⟩ := run_unique h.lead_blank h'.lead_blank (hlead h _) (hlead h' _) heq
  obtain ⟨htypes, heq⟩ :=
    spaced_unique (fun c => isBlank_of_mem_solid) h.type_spaced h'.type_spaced heq
  obtain ⟨hgaps, heq⟩ := run_unique h.gap_blank h'.gap_blank (hname h _) (hname h' _) heq
  obtain ⟨hnames, heq⟩ :=
    run_unique h.name_word h'.name_word (htrail h _ hword) (htrail h' _ hword') heq
  obtain ⟨htrails, heq⟩ := run_unique h.trail_blank h'.trail_blank hblank hblank' heq
  cases e
  cases e'
  simp_all

/-! ## One way to read a list -/

/-- What stands behind an entry is a comma or the closing parenthesis. -/
theorem head?_tailText (entries : List Entry) (x : List Char) :
    (tailText entries ++ ')' :: x).head? = some ',' ∨
      (tailText entries ++ ')' :: x).head? = some ')' := by
  cases entries with
  | nil => exact .inr rfl
  | cons e rest => exact .inl rfl

theorem head?_tailText_any {q : Char → Bool} (hcomma : q ',' = false) (hclose : q ')' = false)
    (entries : List Entry) (x : List Char) :
    (tailText entries ++ ')' :: x).head?.any q = false := by
  rcases head?_tailText entries x with h | h <;> simp [h, hcomma, hclose]

theorem entry_unique_of_tail {es es' : List Entry}
    (htype : Signature.isTypeToken p.type.toList = true) (h : e.Writes p) (h' : e'.Writes p)
    (heq : e.text ++ (tailText es ++ ')' :: x) = e'.text ++ (tailText es' ++ ')' :: x')) :
    e = e' ∧ tailText es ++ ')' :: x = tailText es' ++ ')' :: x' :=
  entry_unique htype h h' (head?_tailText_any isBlank_comma isBlank_close es x)
    (head?_tailText_any isBlank_comma isBlank_close es' x')
    (head?_tailText_any isWordChar_comma isWordChar_close es x)
    (head?_tailText_any isWordChar_comma isWordChar_close es' x') heq

theorem tailText_unique {ps : List Parameter} {es es' : List Entry}
    (htypes : ∀ p ∈ ps, Signature.isTypeToken p.type.toList = true)
    (h : List.Forall₂ Entry.Writes es ps) (h' : List.Forall₂ Entry.Writes es' ps)
    (heq : tailText es ++ ')' :: x = tailText es' ++ ')' :: x') : es = es' ∧ x = x' := by
  induction h generalizing es' with
  | nil =>
      cases h'
      exact ⟨rfl, by simpa [tailText] using heq⟩
  | @cons e p es ps hfirst hrest ih =>
      cases h' with
      | @cons e' _ es' _ hfirst' hrest' =>
          have htail : e.text ++ (tailText es ++ ')' :: x) =
              e'.text ++ (tailText es' ++ ')' :: x') := by
            simpa [tailText] using heq
          obtain ⟨rfl, htails⟩ :=
            entry_unique_of_tail (htypes p List.mem_cons_self) hfirst hfirst' htail
          obtain ⟨rfl, rfl⟩ :=
            ih (fun q hq => htypes q (List.mem_cons_of_mem _ hq)) hrest' htails
          exact ⟨rfl, rfl⟩

/-! ## One way to read an occurrence -/

/-- Blanks and an opening parenthesis go on with no word. -/
theorem head?_gap_open {gap : List Char} (hgap : gap.all isBlank = true) (x : List Char) :
    (gap ++ '(' :: x).head?.any isWordChar = false := by
  by_cases hnil : gap = []
  · simp [hnil]
  · rw [head?_any_append hnil]
    exact head?_any_of_all hgap fun c => isWordChar_eq_false_of_isBlank

/-- The word and the blanks in front of an opening parenthesis can be told apart. -/
theorem front_unique {name gap name' gap' : List Char} (hname : name.all isWordChar = true)
    (hname' : name'.all isWordChar = true) (hgap : gap.all isBlank = true)
    (hgap' : gap'.all isBlank = true) (heq : name ++ gap ++ '(' :: x = name' ++ gap' ++ '(' :: x') :
    name = name' ∧ gap = gap' ∧ x = x' := by
  rw [List.append_assoc, List.append_assoc] at heq
  obtain ⟨hnames, hrest⟩ :=
    run_unique hname hname' (head?_gap_open hgap _) (head?_gap_open hgap' _) heq
  obtain ⟨hgaps, hrest⟩ := run_unique hgap hgap' (by simp) (by simp) hrest
  exact ⟨hnames, hgaps, List.tail_eq_of_cons_eq hrest⟩

/-- What an occurrence says of a call without blanks in front of its parenthesis. -/
theorem Occurrence.of_call {s : Signature} (hs : s.WellFormed) {es : List Entry}
    {name inner : List Char} (hname : name.all isWordChar = true)
    (h : Occurrence s es (name ++ '(' :: (inner ++ [')']))) :
    name = s.name.toList ∧ ListText es inner ∧ List.Forall₂ Entry.Writes es s.parameters := by
  obtain ⟨hwrites, gap, inner', hgap, hinner', heq⟩ := h
  have heq : name ++ [] ++ '(' :: (inner ++ [')']) =
      s.name.toList ++ gap ++ '(' :: (inner' ++ [')']) := by
    rw [List.append_nil]
    exact heq
  obtain ⟨hnames, -, hlists⟩ := front_unique hname hs.name_word rfl hgap heq
  obtain rfl : inner = inner' := List.append_cancel_right hlists
  exact ⟨hnames, hinner', hwrites⟩

/-- A text begins with an occurrence of a signature in one way only. -/
theorem occurrence_unique {s : Signature} (hs : s.WellFormed) {es es' : List Entry}
    {matched matched' : List Char} (h : Occurrence s es matched) (h' : Occurrence s es' matched')
    (heq : matched ++ x = matched' ++ x') : matched = matched' ∧ es = es' ∧ x = x' := by
  obtain ⟨hwrites, gap, inner, hgap, hinner, rfl⟩ := h
  obtain ⟨hwrites', gap', inner', hgap', hinner', rfl⟩ := h'
  have hopen : ∀ y : List Char, ('(' :: y).head?.any isBlank = false := by simp
  have hclose : ∀ y : List Char, (')' :: y).head?.any isBlank = false := by simp
  have hlists : gap ++ '(' :: (inner ++ ')' :: x) = gap' ++ '(' :: (inner' ++ ')' :: x') := by
    simpa using heq
  obtain ⟨rfl, hlists⟩ := run_unique hgap hgap' (hopen _) (hopen _) hlists
  have hlists : inner ++ ')' :: x = inner' ++ ')' :: x' := by simpa using hlists
  suffices inner = inner' ∧ es = es' ∧ x = x' by
    obtain ⟨rfl, rfl, rfl⟩ := this
    exact ⟨rfl, rfl, rfl⟩
  -- Without parameters there are only blanks, otherwise a first entry.
  cases hparameters : s.parameters with
  | nil =>
      rw [hparameters] at hwrites hwrites'
      cases hwrites
      cases hwrites'
      obtain ⟨rfl, hrest⟩ := run_unique hinner hinner' (hclose _) (hclose _) hlists
      exact ⟨rfl, rfl, by simpa using hrest⟩
  | cons p ps =>
      have htypes := hs.type_token
      rw [hparameters] at hwrites hwrites' htypes
      obtain ⟨e, es, hfirst, hrest, rfl⟩ := List.forall₂_cons_right_iff.1 hwrites
      obtain ⟨e', es', hfirst', hrest', rfl⟩ := List.forall₂_cons_right_iff.1 hwrites'
      rw [listText_cons] at hinner hinner'
      subst hinner hinner'
      rw [List.append_assoc, List.append_assoc] at hlists
      obtain ⟨rfl, htails⟩ :=
        entry_unique_of_tail (htypes p List.mem_cons_self) hfirst hfirst' hlists
      obtain ⟨rfl, rfl⟩ := tailText_unique
        (fun q hq => htypes q (List.mem_cons_of_mem _ hq)) hrest hrest' htails
      exact ⟨rfl, rfl, rfl⟩

end HookMigration.Migration
