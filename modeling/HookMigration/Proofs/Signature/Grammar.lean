import HookMigration.Proofs.Signature.Tokens

/-!
# The grammar of signatures

What a text has to look like to be read as a signature, said without the reader.  A `Layout` takes a
text apart: the name, blanks, and between parentheses a list of entries with commas between them,
each a type with or without a name; a comma may end the list.  The reader accepts exactly the texts
with a layout, gives the signature that the layout tells, and a text has one layout at most.  A text
that is refused has not the form of a call, or its list has a first piece that is no entry
(`parse_eq_iff_layout`).

The three counters of the reader agree on such texts: inside of a type brackets are closed in order,
and neither the splitter of the list nor that of a parameter meets a comma or a blank of it at depth
zero.  So each stage of the reader is compared with the layout on its own, first one parameter, then
the list, then the call.
-/

namespace HookMigration

open Text

namespace Migration.Entry

open Signature

/-- An entry as a signature may have it: a type, blanks and a name or neither, and blanks around. -/
structure Declared (e : Entry) : Prop where
  lead_blank : e.lead.all isBlank = true
  type_read : IsType e.type
  gap_blank : e.gap.all isBlank = true
  name_chars : e.name.all isNameChar = true
  gap_iff : e.gap = [] ↔ e.name = []
  trail_blank : e.trail.all isBlank = true

/-- The parameter that an entry declares at a position, counted from one. -/
def parameter (e : Entry) (position : Nat) : Parameter :=
  if e.name = [] then ⟨String.ofList e.type, anonymousName position, true⟩
  else ⟨String.ofList e.type, String.ofList e.name, false⟩

/-- An entry without the blanks around it. -/
def core (e : Entry) : List Char :=
  e.type ++ (e.gap ++ e.name)

theorem text_eq_core (e : Entry) : e.text = e.lead ++ (e.core ++ e.trail) := by
  simp [text, core]

variable {e e' : Entry}

theorem Declared.core_ne_nil (h : e.Declared) : e.core ≠ [] := by
  simp [core, h.type_read.isTypeText.ne_nil]

theorem Declared.head?_core (h : e.Declared) : e.core.head?.any isBlank = false := by
  rw [core, head?_any_append h.type_read.isTypeText.ne_nil]
  exact h.type_read.isTypeText.head_solid

theorem Declared.name_solid (h : e.Declared) : ∀ c ∈ e.name, isBlank c = false := by
  intro c hc
  exact isBlank_eq_false_of_isNameChar (List.all_eq_true.1 h.name_chars c hc)

theorem Declared.getLast?_core (h : e.Declared) : e.core.getLast?.any isBlank = false := by
  by_cases hname : e.name = []
  · rw [core, hname, h.gap_iff.2 hname, List.append_nil, List.append_nil]
    exact h.type_read.isTypeText.last_solid
  · rw [core, ← List.append_assoc, getLast?_any_append hname]
    refine getLast?_any_of_mem (q := isNameChar) (fun c hc => ?_) fun c => ?_
    · exact List.all_eq_true.1 h.name_chars c hc
    · exact isBlank_eq_false_of_isNameChar

theorem Declared.trim_text (h : e.Declared) : trim e.text = e.core := by
  rw [text_eq_core, trim_between h.lead_blank h.trail_blank h.head?_core h.getLast?_core]

theorem Declared.splitTypeName_core (h : e.Declared) :
    splitTypeName 0 e.core = (e.type, e.name) := by
  refine splitTypeName_type_name h.type_read h.gap_blank ?_ h.gap_iff
  cases hname : e.name with
  | nil => rfl
  | cons c rest => simpa using h.name_solid c (by simp [hname])

/-- The text of an entry tells the entry. -/
theorem Declared.eq_of_text (h : e.Declared) (h' : e'.Declared) (heq : e.text = e'.text) :
    e = e' := by
  have hcore : e.core = e'.core := by rw [← h.trim_text, ← h'.trim_text, heq]
  have hsplit : (e.type, e.name) = (e'.type, e'.name) := by
    rw [← h.splitTypeName_core, ← h'.splitTypeName_core, hcore]
  obtain ⟨htype, hname⟩ := Prod.mk.inj hsplit
  have hgap : e.gap = e'.gap := by
    rw [core, core, htype, hname] at hcore
    exact List.append_cancel_right (List.append_cancel_left hcore)
  -- the blanks in front are the longest run of blanks, and what is left over stands behind
  rw [text_eq_core, text_eq_core] at heq
  have hhead : ∀ {e : Entry}, e.Declared → ∀ x, (e.core ++ x).head?.any isBlank = false := by
    intro e he x
    rw [head?_any_append he.core_ne_nil]
    exact he.head?_core
  obtain ⟨hlead, hrest⟩ :=
    run_unique h.lead_blank h'.lead_blank (hhead h _) (hhead h' _) heq
  have htrail : e.trail = e'.trail := by
    rw [hcore] at hrest
    exact List.append_cancel_left hrest
  cases e
  cases e'
  simp_all

theorem Declared.whole_text (h : e.Declared) : Whole e.text := by
  have hblanks : ([',', '<', '(', '[', '>', ')', ']'].any isBlank) = false := by decide
  have hnames : ([',', '<', '(', '[', '>', ')', ']'].any isNameChar) = false := by decide +kernel
  have hlead := whole_of_all h.lead_blank hblanks
  have hgap := whole_of_all h.gap_blank hblanks
  have hname := whole_of_all h.name_chars hnames
  have htrail := whole_of_all h.trail_blank hblanks
  exact (((hlead.append h.type_read.whole).append hgap).append hname).append htrail

theorem Declared.not_blank (h : e.Declared) : isBlankText e.text = false := by
  by_contra hblank
  have hall : e.text.all isBlank = true := by simpa [isBlankText] using hblank
  have hcore : trim e.text = [] := by
    rw [trim, trimStart_eq_nil_iff.2 hall]
    rfl
  rw [h.trim_text] at hcore
  exact h.core_ne_nil hcore

end Migration.Entry

namespace Signature

open Migration (Entry listOf)

variable {position : Nat} {piece : List Char} {pieces : List (List Char)}

/-- A piece of a list that declares a parameter. -/
def IsParameter (piece : List Char) : Prop :=
  ∃ e : Entry, e.Declared ∧ piece = e.text

/-- The first piece of a list that declares no parameter; a last piece of blanks does not count. -/
def FirstMalformed (list piece : List Char) : Prop :=
  ∃ before after, Cuts list (before ++ piece :: after) ∧ (∀ p ∈ before, IsParameter p) ∧
    ¬IsParameter piece ∧ ¬(after = [] ∧ isBlankText piece = true)

/-- A text is a name, blanks, and a list between parentheses. -/
structure Frame (name gap list text : List Char) : Prop where
  name_word : name.all isWordChar = true
  name_ne_nil : name ≠ []
  gap_blank : gap.all isBlank = true
  text_eq : text = name ++ gap ++ '(' :: (list ++ [')'])

/-- The parts of a text that is a signature.  The list holds the entries and the blanks around them,
and ends in a comma if `finalComma` says so. -/
structure Layout where
  name : List Char
  gap : List Char
  list : List Char
  entries : List Entry
  finalComma : Bool
  deriving DecidableEq, Repr

namespace Layout

/-- The comma at the end of a list, if there is one. -/
def ending (l : Layout) : List Char :=
  if l.finalComma then [','] else []

/-- A layout takes a text apart by the grammar of signatures. -/
structure Of (l : Layout) (text : List Char) : Prop extends Frame l.name l.gap l.list text where
  declared : ∀ e ∈ l.entries, e.Declared
  list_eq : trim l.list = listOf l.entries ++ l.ending
  ending_eq : l.entries = [] → l.finalComma = false

/-- The signature that a layout tells. -/
def signature (l : Layout) : Signature :=
  ⟨String.ofList l.name, l.entries.mapIdx fun i e => e.parameter (i + 1)⟩

end Layout

/-! ## One parameter -/

/-- The reader takes a piece of a list for a parameter exactly if it is an entry. -/
theorem parseParameter_eq_ok_iff {p : Parameter} :
    parseParameter position piece = .ok p ↔
      ∃ e : Entry, e.Declared ∧ piece = e.text ∧ p = e.parameter position := by
  constructor
  · intro h
    obtain ⟨lead, trail, hlead, htrail, hpiece⟩ := exists_trim_eq piece
    obtain ⟨gap, hgap, hcore, hnone⟩ := exists_gap_of_splitTypeName 0 (trim piece)
    have hlast := getLast?_trim piece
    simp only [parseParameter] at h
    split at h
    next hvalid =>
      rw [Bool.and_eq_true] at hvalid
      -- a gap before no name would be blanks at the end of a trimmed text
      have hname : (splitTypeName 0 (trim piece)).2 = [] → gap = [] := by
        intro hname
        by_contra hne
        rw [hcore, hname, List.append_nil, Migration.getLast?_any_append hne,
          List.getLast?_eq_some_getLast hne, Option.any_some] at hlast
        rw [List.all_eq_true.1 hgap _ (List.getLast_mem hne)] at hlast
        exact absurd hlast (by simp)
      refine ⟨⟨lead, (splitTypeName 0 (trim piece)).1, gap, (splitTypeName 0 (trim piece)).2, trail⟩,
        ⟨hlead, isTypeToken_iff.1 hvalid.1, hgap, hvalid.2, ⟨hnone, hname⟩, htrail⟩, ?_, ?_⟩
      · rw [Entry.text_eq_core, Entry.core, ← hcore, ← hpiece]
      · simp only [List.isEmpty_iff] at h
        unfold Entry.parameter
        split_ifs at h ⊢ <;> exact (Except.ok.inj h).symm
    next => simp at h
  · rintro ⟨e, he, rfl, rfl⟩
    unfold Entry.parameter
    simp only [parseParameter, he.trim_text, he.splitTypeName_core,
      isTypeToken_iff.2 he.type_read, he.name_chars, Bool.and_self, if_true, List.isEmpty_iff]
    split_ifs <;> rfl

theorem parseParameter_eq_error_iff {error : ParseError} :
    parseParameter position piece = .error error ↔
      ¬IsParameter piece ∧ error = ⟨.invalidParameter, String.ofList (trim piece)⟩ := by
  have herror : ∀ {error}, parseParameter position piece = .error error →
      error = ⟨.invalidParameter, String.ofList (trim piece)⟩ := by
    intro error h
    simp only [parseParameter] at h
    split_ifs at h
    exact (Except.error.inj h).symm
  cases hparse : parseParameter position piece with
  | ok p =>
      obtain ⟨e, he, hpiece, -⟩ := parseParameter_eq_ok_iff.1 hparse
      constructor
      · intro h
        exact absurd h (by simp)
      · rintro ⟨hnone, -⟩
        exact absurd ⟨e, he, hpiece⟩ hnone
  | error error' =>
      obtain rfl := herror hparse
      constructor
      · intro h
        refine ⟨?_, (Except.error.inj h).symm⟩
        rintro ⟨e, he, rfl⟩
        rw [parseParameter_eq_ok_iff.2 ⟨e, he, rfl, rfl⟩] at hparse
        exact absurd hparse (by simp)
      · rintro ⟨-, rfl⟩
        rfl

/-! ## The list -/

theorem exists_parseParameter_iff :
    (∃ p, parseParameter position piece = .ok p) ↔ IsParameter piece := by
  constructor
  · rintro ⟨p, hp⟩
    obtain ⟨e, he, hpiece, -⟩ := parseParameter_eq_ok_iff.1 hp
    exact ⟨e, he, hpiece⟩
  · rintro ⟨e, he, hpiece⟩
    exact ⟨_, parseParameter_eq_ok_iff.2 ⟨e, he, hpiece, rfl⟩⟩

theorem parseParameters_cons_eq_ok_iff {ps : List Parameter} :
    parseParameters position (piece :: pieces) = .ok ps ↔
      ∃ p others, parseParameter position piece = .ok p ∧
        parseParameters (position + 1) pieces = .ok others ∧ ps = p :: others := by
  rw [parseParameters]
  cases parseParameter position piece <;>
  cases parseParameters (position + 1) pieces <;>
  simp [bind, Except.bind, pure, Except.pure, eq_comm]

theorem parseParameters_cons_eq_error_iff {error : ParseError} :
    parseParameters position (piece :: pieces) = .error error ↔
      parseParameter position piece = .error error ∨
        (∃ p, parseParameter position piece = .ok p) ∧
          parseParameters (position + 1) pieces = .error error := by
  rw [parseParameters]
  cases parseParameter position piece <;>
  cases parseParameters (position + 1) pieces <;>
  simp [bind, Except.bind, pure, Except.pure]

theorem mapIdx_parameter_cons (e : Entry) (es : List Entry) (position : Nat) :
    (e :: es).mapIdx (fun i e => e.parameter (position + i)) =
      e.parameter position :: es.mapIdx fun i e => e.parameter (position + 1 + i) := by
  have hnext : ∀ i, position + (i + 1) = position + 1 + i := by omega
  rw [List.mapIdx_cons, Nat.add_zero]
  congr 2
  funext i e
  rw [hnext]

theorem parseParameters_eq_ok_iff {ps : List Parameter} :
    parseParameters position pieces = .ok ps ↔
      ∃ es : List Entry, (∀ e ∈ es, e.Declared) ∧ pieces = es.map Entry.text ∧
        ps = es.mapIdx fun i e => e.parameter (position + i) := by
  induction pieces generalizing position ps with
  | nil =>
      constructor
      · intro h
        exact ⟨[], by simp, rfl, (Except.ok.inj h).symm⟩
      · rintro ⟨es, -, hes, rfl⟩
        obtain rfl : es = [] := by simpa using hes.symm
        rfl
  | cons piece rest ih =>
      rw [parseParameters_cons_eq_ok_iff]
      constructor
      · rintro ⟨p, others, hfirst, hothers, rfl⟩
        obtain ⟨e, he, rfl, rfl⟩ := parseParameter_eq_ok_iff.1 hfirst
        obtain ⟨es, hes, rfl, rfl⟩ := ih.1 hothers
        exact ⟨e :: es, by simpa using ⟨he, hes⟩, rfl, (mapIdx_parameter_cons e es _).symm⟩
      · rintro ⟨es, hes, heq, rfl⟩
        obtain ⟨e, es, rfl⟩ := List.exists_cons_of_ne_nil (l := es) (by rintro rfl; simp at heq)
        obtain ⟨rfl, rfl⟩ : piece = e.text ∧ rest = es.map Entry.text := by simpa using heq
        rw [List.forall_mem_cons] at hes
        refine ⟨e.parameter position, es.mapIdx fun i e => e.parameter (position + 1 + i),
          ?_, ?_, mapIdx_parameter_cons e es _⟩
        · exact parseParameter_eq_ok_iff.2 ⟨e, hes.1, rfl, rfl⟩
        · exact ih.2 ⟨es, hes.2, rfl, rfl⟩

/-- The first piece that declares no parameter is the first of all, or it is the first of the
others. -/
theorem exists_first_cons {first : List Char} {q : List Char → Prop} :
    (∃ before piece after, first :: pieces = before ++ piece :: after ∧
        (∀ p ∈ before, IsParameter p) ∧ ¬IsParameter piece ∧ q piece) ↔
      (¬IsParameter first ∧ q first) ∨ IsParameter first ∧
        ∃ before piece after, pieces = before ++ piece :: after ∧
          (∀ p ∈ before, IsParameter p) ∧ ¬IsParameter piece ∧ q piece := by
  constructor
  · rintro ⟨before, piece, after, heq, hbefore, hmalformed, hq⟩
    cases before with
    | nil =>
        obtain ⟨rfl, -⟩ : first = piece ∧ pieces = after := by simpa using heq
        exact .inl ⟨hmalformed, hq⟩
    | cons p others =>
        obtain ⟨rfl, rfl⟩ : first = p ∧ pieces = others ++ piece :: after := by simpa using heq
        rw [List.forall_mem_cons] at hbefore
        exact .inr ⟨hbefore.1, others, piece, after, rfl, hbefore.2, hmalformed, hq⟩
  · rintro (⟨hmalformed, hq⟩ | ⟨hfirst, before, piece, after, rfl, hbefore, hmalformed, hq⟩)
    · exact ⟨[], first, pieces, rfl, by simp, hmalformed, hq⟩
    · exact ⟨first :: before, piece, after, rfl, List.forall_mem_cons.2 ⟨hfirst, hbefore⟩,
        hmalformed, hq⟩

theorem parseParameters_eq_error_iff {error : ParseError} :
    parseParameters position pieces = .error error ↔
      ∃ before piece after, pieces = before ++ piece :: after ∧ (∀ p ∈ before, IsParameter p) ∧
        ¬IsParameter piece ∧ error = ⟨.invalidParameter, String.ofList (trim piece)⟩ := by
  induction pieces generalizing position with
  | nil => simp [parseParameters]
  | cons first rest ih =>
      rw [parseParameters_cons_eq_error_iff, parseParameter_eq_error_iff,
        exists_parseParameter_iff, ih, exists_first_cons]

theorem splitList_listOf {es : List Entry} (hne : es ≠ []) (h : ∀ e ∈ es, e.Declared)
    {ending : List Char} (hending : ending = [] ∨ ending = [',']) :
    splitList (listOf es ++ ending) = es.map Entry.text := by
  induction es with
  | nil => exact absurd rfl hne
  | cons e rest ih =>
      rw [List.forall_mem_cons] at h
      have hwhole := h.1.whole_text
      cases rest with
      | nil =>
          have htext : listOf [e] = e.text := by simp [listOf]
          rw [htext]
          rcases hending with rfl | rfl
          · rw [List.append_nil, splitList_shielded hwhole.shielded, h.1.not_blank]
            rfl
          · rw [splitList_append_comma hwhole.shielded hwhole.level]
            rfl
      | cons e' others =>
          have htext : listOf (e :: e' :: others) = e.text ++ ',' :: listOf (e' :: others) := by
            simp [listOf, List.intercalate_cons_cons]
          rw [htext, List.append_assoc, List.cons_append,
            splitList_append_comma hwhole.shielded hwhole.level,
            ih (List.cons_ne_nil _ _) h.2]
          rfl

/-- The first malformed piece is among those that the splitter gives. -/
theorem firstMalformed_iff {list : List Char} :
    FirstMalformed list piece ↔
      ∃ before after, splitList list = before ++ piece :: after ∧ (∀ p ∈ before, IsParameter p) ∧
        ¬IsParameter piece := by
  constructor
  · rintro ⟨before, after, hcuts, hbefore, hmalformed, hkept⟩
    obtain ⟨others, hothers⟩ := exists_withoutBlankLast_eq_iff.2 ⟨after, rfl, hkept⟩
    exact ⟨before, others, by rw [splitList_of_cuts hcuts, hothers], hbefore, hmalformed⟩
  · rintro ⟨before, after, heq, hbefore, hmalformed⟩
    obtain ⟨pieces, hcuts⟩ := exists_cuts list
    rw [splitList_of_cuts hcuts] at heq
    obtain ⟨others, rfl, hkept⟩ := exists_withoutBlankLast_eq_iff.1 ⟨after, heq⟩
    exact ⟨before, others, hcuts, hbefore, hmalformed, hkept⟩

/-! ## The call -/

section Call

variable {name gap list text : List Char}

theorem Frame.splitCall?_eq (h : Frame name gap list text) :
    splitCall? text = some (name, list) := by
  have hname : text.takeWhile isWordChar = name := by
    rw [h.text_eq, List.append_assoc]
    exact takeWhile_run_append h.name_word (Migration.head?_gap_open h.gap_blank _)
  have hrest : trimStart (text.dropWhile isWordChar) = '(' :: (list ++ [')']) := by
    rw [h.text_eq, List.append_assoc,
      dropWhile_run_append h.name_word (Migration.head?_gap_open h.gap_blank _),
      trimStart_append h.gap_blank]
    exact trimStart_eq_self (by simp)
  simp [splitCall?, hname, hrest, h.name_ne_nil]

theorem exists_frame (h : splitCall? text = some (name, list)) :
    ∃ gap, Frame name gap list text := by
  obtain ⟨hne, hword⟩ := name_of_splitCall? h
  simp only [splitCall?] at h
  split at h
  next body hbody =>
    split_ifs at h with hvalid
    obtain ⟨rfl, rfl⟩ : text.takeWhile isWordChar = name ∧ body.dropLast = list := by simpa using h
    refine ⟨(text.dropWhile isWordChar).takeWhile isBlank, hword, hne, List.all_takeWhile, ?_⟩
    have hlast : body.dropLast ++ [')'] = body := by
      obtain ⟨front, rfl⟩ := List.getLast?_eq_some_iff.1 hvalid.2
      simp
    rw [hlast, ← hbody, List.append_assoc, trimStart, List.takeWhile_append_dropWhile,
      List.takeWhile_append_dropWhile]
  next => simp at h

theorem splitCall?_eq_none_iff :
    splitCall? text = none ↔ ∀ name gap list, ¬Frame name gap list text := by
  constructor
  · intro h name gap list hframe
    rw [hframe.splitCall?_eq] at h
    exact absurd h (by simp)
  · intro h
    by_contra hsome
    obtain ⟨⟨name, list⟩, hcall⟩ := Option.ne_none_iff_exists'.1 hsome
    obtain ⟨gap, hframe⟩ := exists_frame hcall
    exact h name gap list hframe

theorem parse_of_frame {text : String} (h : Frame name gap list (trim text.toList)) :
    parse text =
      (parseParameters 1 (splitList (trim list))).map (Signature.mk (String.ofList name)) := by
  rw [parse]
  simp only [h.splitCall?_eq]
  cases parseParameters 1 (splitList (trim list)) <;> rfl

theorem parse_of_no_frame {text : String}
    (h : ∀ name gap list, ¬Frame name gap list (trim text.toList)) :
    parse text = .error ⟨.invalidSignature, trimmed text⟩ := by
  rw [parse]
  simp only [splitCall?_eq_none_iff.2 h]
  rfl

/-! ## Layouts -/

variable {l l' : Layout}

theorem Layout.Of.splitList_eq (h : l.Of text) :
    splitList (trim l.list) = l.entries.map Entry.text := by
  rw [h.list_eq]
  by_cases hnil : l.entries = []
  · rw [Layout.ending, h.ending_eq hnil, hnil]
    rfl
  · refine splitList_listOf hnil h.declared ?_
    unfold Layout.ending
    split_ifs
    · exact .inr rfl
    · exact .inl rfl

theorem Frame.exists_layout (h : Frame name gap list text) {es : List Entry}
    (hes : ∀ e ∈ es, e.Declared) (hpieces : splitList (trim list) = es.map Entry.text) :
    ∃ finalComma, Layout.Of ⟨name, gap, list, es, finalComma⟩ text := by
  by_cases hempty : trim list = []
  · -- there is no piece, so no entry
    obtain rfl : es = [] := by
      have hnone : splitList [] = [] := rfl
      rw [hempty, hnone] at hpieces
      simpa using hpieces.symm
    exact ⟨false, h, hes, hempty, fun _ => rfl⟩
  · obtain ⟨hne, htext⟩ := eq_intercalate_splitList hempty (getLast?_trim list)
    rw [hpieces] at hne htext
    have hes_ne : es ≠ [] := by
      rintro rfl
      exact hne rfl
    rcases htext with hplain | hcomma
    · exact ⟨false, h, hes, by simpa [Layout.ending, listOf] using hplain, fun _ => rfl⟩
    · exact ⟨true, h, hes, by simpa [Layout.ending, listOf] using hcomma,
        fun hnil => absurd hnil hes_ne⟩

theorem entries_eq_of_text {es es' : List Entry} (h : ∀ e ∈ es, e.Declared)
    (h' : ∀ e ∈ es', e.Declared) (heq : es.map Entry.text = es'.map Entry.text) : es = es' := by
  induction es generalizing es' with
  | nil => simpa using heq.symm
  | cons e rest ih =>
      cases es' with
      | nil => simp at heq
      | cons e' rest' =>
          obtain ⟨hfirst, hrest⟩ : e.text = e'.text ∧ rest.map Entry.text = rest'.map Entry.text := by
            simpa using heq
          rw [List.forall_mem_cons] at h h'
          rw [h.1.eq_of_text h'.1 hfirst, ih h.2 h'.2 hrest]

/-- A text has one layout at most. -/
theorem Layout.Of.unique (h : l.Of text) (h' : l'.Of text) : l = l' := by
  obtain ⟨hname, hgap, hlists⟩ := Migration.front_unique h.name_word h'.name_word h.gap_blank
    h'.gap_blank (h.text_eq.symm.trans h'.text_eq)
  have hlist : l.list = l'.list := List.append_cancel_right hlists
  have hentries : l.entries = l'.entries := by
    refine entries_eq_of_text h.declared h'.declared ?_
    rw [← h.splitList_eq, ← h'.splitList_eq, hlist]
  have hending : l.ending = l'.ending := by
    have htext := h.list_eq
    rw [hlist, h'.list_eq, hentries] at htext
    exact (List.append_cancel_left htext).symm
  have hcomma : l.finalComma = l'.finalComma := by
    unfold Layout.ending at hending
    split_ifs at hending <;> simp_all
  cases l
  cases l'
  simp_all

theorem parse_eq_ok_iff {text : String} {s : Signature} :
    parse text = .ok s ↔ ∃ l : Layout, l.Of (trim text.toList) ∧ s = l.signature := by
  constructor
  · intro h
    obtain ⟨name, list, hcall, hparameters, hname⟩ := exists_call_of_parse h
    obtain ⟨gap, hframe⟩ := exists_frame hcall
    obtain ⟨es, hes, hpieces, hps⟩ := parseParameters_eq_ok_iff.1 hparameters
    obtain ⟨finalComma, hlayout⟩ := hframe.exists_layout hes hpieces
    refine ⟨_, hlayout, ?_⟩
    simp only [Nat.add_comm 1] at hps
    rw [Layout.signature, ← hps, ← hname]
  · rintro ⟨l, hlayout, rfl⟩
    have hparameters : parseParameters 1 (splitList (trim l.list)) =
        .ok (l.entries.mapIdx fun i e => e.parameter (1 + i)) :=
      parseParameters_eq_ok_iff.2 ⟨l.entries, hlayout.declared, hlayout.splitList_eq, rfl⟩
    rw [parse_of_frame hlayout.toFrame, hparameters, Layout.signature]
    simp only [Except.map, Nat.add_comm 1]

theorem parse_eq_error_iff {text : String} {error : ParseError} :
    parse text = .error error ↔
      (error = ⟨.invalidSignature, trimmed text⟩ ∧
        ∀ name gap list, ¬Frame name gap list (trim text.toList)) ∨
      ∃ name gap list piece, Frame name gap list (trim text.toList) ∧
        FirstMalformed (trim list) piece ∧
        error = ⟨.invalidParameter, String.ofList (trim piece)⟩ := by
  by_cases hcall : ∃ name gap list, Frame name gap list (trim text.toList)
  · obtain ⟨name, gap, list, hframe⟩ := hcall
    have hparse : parse text = .error error ↔
        parseParameters 1 (splitList (trim list)) = .error error := by
      rw [parse_of_frame hframe]
      cases parseParameters 1 (splitList (trim list)) <;> simp [Except.map]
    rw [hparse, parseParameters_eq_error_iff]
    constructor
    · rintro ⟨before, piece, after, hpieces, hbefore, hmalformed, rfl⟩
      exact .inr ⟨name, gap, list, piece, hframe,
        firstMalformed_iff.2 ⟨before, after, hpieces, hbefore, hmalformed⟩, rfl⟩
    · rintro (⟨-, hnone⟩ | ⟨name', gap', list', piece, hframe', hfirst, rfl⟩)
      · exact absurd hframe (hnone name gap list)
      · -- the other parts are the same
        have hparts := hframe.splitCall?_eq.symm.trans hframe'.splitCall?_eq
        obtain ⟨rfl, rfl⟩ : name = name' ∧ list = list' := by simpa using hparts
        obtain ⟨before, after, hpieces, hbefore, hmalformed⟩ := firstMalformed_iff.1 hfirst
        exact ⟨before, piece, after, hpieces, hbefore, hmalformed, rfl⟩
  · have hnone : ∀ name gap list, ¬Frame name gap list (trim text.toList) := by
      intro name gap list hframe
      exact hcall ⟨name, gap, list, hframe⟩
    rw [parse_of_no_frame hnone]
    constructor
    · intro h
      exact .inl ⟨(Except.error.inj h).symm, hnone⟩
    · rintro (⟨rfl, -⟩ | ⟨name, gap, list, -, hframe, -⟩)
      · rfl
      · exact absurd hframe (hnone name gap list)

end Call

/-- The reader accepts exactly the texts that have a layout, which is unique, and gives what the
layout tells.  Any other text is no call, and is reported trimmed, or has a first malformed piece in
its list, which is reported trimmed. -/
theorem parse_eq_iff_layout (text : String) :
    (∀ s, parse text = .ok s ↔ ∃ l : Layout, l.Of (trim text.toList) ∧ s = l.signature) ∧
    (∀ l l' : Layout, l.Of (trim text.toList) → l'.Of (trim text.toList) → l = l') ∧
    ∀ error, parse text = .error error ↔
      (error = ⟨.invalidSignature, trimmed text⟩ ∧
        ∀ name gap list, ¬Frame name gap list (trim text.toList)) ∨
      ∃ name gap list piece, Frame name gap list (trim text.toList) ∧
        FirstMalformed (trim list) piece ∧
        error = ⟨.invalidParameter, String.ofList (trim piece)⟩ :=
  ⟨fun _ => parse_eq_ok_iff, fun _ _ h h' => h.unique h', fun _ => parse_eq_error_iff⟩

/-- Nested brackets, a parameter without a name, and a comma at the end. -/
example : parse " Foo (A<b, c[ ]> x, int? , )" =
    .ok ⟨"Foo", [⟨"A<b, c[ ]>", "x", false⟩, ⟨"int?", "param2", true⟩]⟩ := by
  decide +kernel

end Signature

end HookMigration
