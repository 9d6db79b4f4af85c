import HookMigration.Proofs.Migration.Occurrence

/-!
# Lists of entries are read in one way

The text between the parentheses tells the entries, also without a signature to compare it with
(`listText_unique`).  The commas of a type stand between brackets that are closed again, so the
commas outside of brackets are the ones between entries; and within an entry, blanks stand between
the type and the name, while a type neither begins nor ends with one and a name has none at all.

`Entry.Tidy` collects what is used of an entry.  Entries that write a parameter are tidy, and so
are those that a template makes.
-/

namespace HookMigration.Migration

open Text

/-! ## Commas between brackets -/

/-- Whether a text closes all brackets, when `depth` of them are open, and has no comma outside of
them. -/
def enclosed (depth : Nat) : List Char → Bool
  | [] => depth == 0
  | c :: rest =>
    if c = '<' ∨ c = '[' then enclosed (depth + 1) rest
    else if c = '>' ∨ c = ']' then
      match depth with
      | 0 => false
      | depth + 1 => enclosed depth rest
    else if c = ',' then depth != 0 && enclosed depth rest
    else enclosed depth rest

variable {depth : Nat} {cs a b x y : List Char}

/-- A property that no bracket and no comma has tells a character from them. -/
theorem isTypeMark_eq_false {q : Char → Bool} {c : Char} (h : q c = true)
    (hmarks : (['<', '>', ',', '[', ']'].any q) = false) : isTypeMark c = false := by
  cases hmark : isTypeMark c with
  | false => rfl
  | true =>
      have hmem : c ∈ ['<', '>', ',', '[', ']'] := by simpa [isTypeMark, or_assoc] using hmark
      rw [List.any_eq_false] at hmarks
      exact absurd h (hmarks c hmem)

theorem isTypeMark_eq_false_of_isInert {c : Char} (h : isInert c = true) :
    isTypeMark c = false :=
  isTypeMark_eq_false h rfl

theorem isTypeMark_eq_false_of_isBlank {c : Char} (h : isBlank c = true) :
    isTypeMark c = false :=
  isTypeMark_eq_false h rfl

/-- Only brackets and commas matter. -/
theorem enclosed_cons_of_not_isTypeMark {c : Char} (h : isTypeMark c = false) (depth : Nat)
    (cs : List Char) : enclosed depth (c :: cs) = enclosed depth cs := by
  simp only [isTypeMark, Bool.or_eq_false_iff, beq_eq_false_iff_ne, and_assoc] at h
  obtain ⟨hangle, hangle', hcomma, hsquare, hsquare'⟩ := h
  simp [enclosed, hangle, hangle', hcomma, hsquare, hsquare']

theorem enclosed_of_isTypeRest (h : Signature.isTypeRest depth cs = true) :
    enclosed depth cs = true := by
  induction cs generalizing depth with
  | nil => exact h
  | cons c rest ih =>
      -- Where the parser allows a blank or a comma, a bracket is open.
      unfold Signature.isTypeRest at h
      unfold enclosed
      split_ifs at h ⊢ with hopen hclose hcomma hgap
      · exact ih h
      · cases depth with
        | zero => exact h
        | succ depth => exact ih h
      · rw [Bool.and_eq_true] at h ⊢
        exact ⟨h.1, ih h.2⟩
      · exact absurd (.inl hcomma) hgap
      all_goals
        rw [Bool.and_eq_true] at h
        exact ih h.2

/-- Blanks make no difference to the brackets. -/
theorem enclosed_solid (depth : Nat) (cs : List Char) :
    enclosed depth (solid cs) = enclosed depth cs := by
  induction cs generalizing depth with
  | nil => rfl
  | cons c rest ih =>
      by_cases hblank : isBlank c = true
      · have hdrop : solid (c :: rest) = solid rest := by simp [solid, hblank]
        rw [hdrop, ih, enclosed_cons_of_not_isTypeMark (isTypeMark_eq_false_of_isBlank hblank)]
      · have hkeep : solid (c :: rest) = c :: solid rest := by simp [solid, hblank]
        rw [hkeep]
        unfold enclosed
        cases depth <;> simp only [ih]

theorem enclosed_append (ha : enclosed depth a = true) (hb : enclosed 0 b = true) :
    enclosed depth (a ++ b) = true := by
  induction a generalizing depth with
  | nil =>
      obtain rfl : depth = 0 := by simpa [enclosed] using ha
      exact hb
  | cons c rest ih =>
      rw [List.cons_append]
      unfold enclosed at ha ⊢
      split_ifs at ha ⊢
      · exact ih ha
      · cases depth with
        | zero => exact ha
        | succ depth => exact ih ha
      · rw [Bool.and_eq_true] at ha ⊢
        exact ⟨ha.1, ih ha.2⟩
      · exact ih ha

theorem enclosed_of_inert (h : ∀ c ∈ cs, isInert c = true) : enclosed 0 cs = true := by
  induction cs with
  | nil => rfl
  | cons c rest ih =>
      have hmark := isTypeMark_eq_false_of_isInert (h c List.mem_cons_self)
      rw [enclosed_cons_of_not_isTypeMark hmark]
      exact ih fun d hd => h d (List.mem_cons_of_mem _ hd)

theorem enclosed_of_blank (h : cs.all isBlank = true) : enclosed 0 cs = true := by
  rw [← enclosed_solid, solid_eq_nil h]
  rfl

/-- A comma outside of brackets, or the end, comes after enclosed text in one way only. -/
theorem enclosed_unique (ha : enclosed depth a = true) (hb : enclosed depth b = true)
    (hx : ∀ c, x.head? = some c → c = ',') (hy : ∀ c, y.head? = some c → c = ',')
    (heq : a ++ x = b ++ y) : a = b ∧ x = y := by
  -- Text that is enclosed outside of brackets does not begin with a comma.
  have hstop : ∀ {c : Char} {rest z : List Char}, enclosed 0 (c :: rest) = true →
      (∀ d, z.head? = some d → d = ',') → ∀ w, z ≠ c :: w := by
    rintro c rest z hc hz w rfl
    obtain rfl := hz c rfl
    simp [enclosed] at hc
  induction a generalizing depth b with
  | nil =>
      obtain rfl : depth = 0 := by simpa [enclosed] using ha
      cases b with
      | nil => exact ⟨rfl, heq⟩
      | cons c rest => exact absurd heq (hstop hb hx _)
  | cons c rest ih =>
      cases b with
      | nil =>
          obtain rfl : depth = 0 := by simpa [enclosed] using hb
          exact absurd heq.symm (hstop ha hy _)
      | cons d others =>
          obtain ⟨rfl, htail⟩ : c = d ∧ rest ++ x = others ++ y := by simpa using heq
          suffices rest = others ∧ x = y by
            obtain ⟨rfl, rfl⟩ := this
            exact ⟨rfl, rfl⟩
          unfold enclosed at ha hb
          split_ifs at ha hb
          · -- an opening bracket
            exact ih ha hb htail
          · -- a closing bracket
            cases depth with
            | zero => simp at ha
            | succ depth => exact ih ha hb htail
          · -- a comma
            rw [Bool.and_eq_true] at ha hb
            exact ih ha.2 hb.2 htail
          · -- any other character
            exact ih ha hb htail

/-! ## Types -/

/-- What is used of the text of a type. -/
structure IsTypeText (cs : List Char) : Prop where
  ne_nil : cs ≠ []
  head_solid : cs.head?.any isBlank = false
  last_solid : cs.getLast?.any isBlank = false
  enclosed : enclosed 0 cs = true
  no_paren : ∀ c ∈ cs, c ≠ '(' ∧ c ≠ ')'

theorem exists_isTypeRest_tail {c : Char} (h : Signature.isTypeRest depth (c :: cs) = true) :
    ∃ depth', Signature.isTypeRest depth' cs = true := by
  unfold Signature.isTypeRest at h
  split_ifs at h with hopen hclose hgap
  · exact ⟨_, h⟩
  · cases depth with
    | zero => simp at h
    | succ depth => exact ⟨depth, h⟩
  all_goals
    rw [Bool.and_eq_true] at h
    exact ⟨_, h.2⟩

theorem getLast?_of_isTypeRest (h : Signature.isTypeRest depth cs = true) :
    cs.getLast?.any isBlank = false := by
  induction cs generalizing depth with
  | nil => rfl
  | cons c rest ih =>
      cases rest with
      | nil =>
          -- A blank at the end would stand between brackets that are never closed.
          by_contra hblank
          have hblank : isBlank c = true := by simpa using hblank
          have henclosed := enclosed_of_isTypeRest h
          have hmark := isTypeMark_eq_false_of_isBlank hblank
          rw [enclosed_cons_of_not_isTypeMark hmark] at henclosed
          obtain rfl : depth = 0 := by simpa [enclosed] using henclosed
          simp only [isTypeMark, Bool.or_eq_false_iff, beq_eq_false_iff_ne] at hmark
          simp [Signature.isTypeRest, hblank, hmark] at h
      | cons d others =>
          obtain ⟨depth', htail⟩ := exists_isTypeRest_tail h
          rw [List.getLast?_cons_cons]
          exact ih htail

theorem no_paren_of_isTypeRest (h : Signature.isTypeRest depth cs = true) :
    ∀ c ∈ cs, c ≠ '(' ∧ c ≠ ')' := by
  induction cs generalizing depth with
  | nil => simp
  | cons c rest ih =>
      obtain ⟨depth', htail⟩ := exists_isTypeRest_tail h
      intro d hd
      rcases List.mem_cons.1 hd with rfl | hd
      · constructor <;> (rintro rfl; simp [Signature.isTypeRest] at h)
      · exact ih htail d hd

theorem isTypeText_of_token (h : Signature.isTypeToken cs = true) : IsTypeText cs := by
  cases cs with
  | nil => simp [Signature.isTypeToken] at h
  | cons c rest =>
      simp only [Signature.isTypeToken, Bool.and_eq_true] at h
      exact {
        ne_nil := List.cons_ne_nil c rest
        head_solid := by simpa using isBlank_eq_false_of_isNameChar h.1
        last_solid := getLast?_of_isTypeRest h.2
        enclosed := enclosed_of_isTypeRest h.2
        no_paren := no_paren_of_isTypeRest h.2 }

/-- A spacing of a type is a type text as well. -/
theorem isTypeText_of_spaced (h : Signature.isTypeToken cs = true) {t : List Char}
    (hspaced : Spaced (solid cs) t) : IsTypeText t := by
  have htoken := isTypeText_of_token h
  have hsolid : solid t = solid cs := hspaced.solid_eq fun c => isBlank_of_mem_solid
  -- A spacing adds blanks between characters only, so its ends are those of the type.
  have hany : ∀ o : Option Char, (∀ c, o = some c → c ∈ solid cs) → o.any isBlank = false := by
    rintro (_ | c) ho
    · rfl
    · exact isBlank_of_mem_solid (ho c rfl)
  exact {
    ne_nil := hspaced.ne_nil (solid_ne_nil h)
    head_solid := hspaced.head?_eq ▸ hany _ fun c => List.mem_of_head?
    last_solid := hspaced.getLast?_eq ▸ hany _ fun c => List.mem_of_getLast?
    enclosed := by rw [← enclosed_solid, hsolid, enclosed_solid, htoken.enclosed]
    no_paren := by
      intro c hc
      by_cases hblank : isBlank c = true
      · constructor <;> (rintro rfl; simp at hblank)
      · have hcs : c ∈ solid cs := hsolid ▸ List.mem_filter.2 ⟨hc, by simpa using hblank⟩
        exact htoken.no_paren c (List.mem_filter.1 hcs).1 }

/-! ## Entries -/

/-- An entry whose parts can be told apart in its text. -/
structure Entry.Tidy (e : Entry) : Prop where
  lead_blank : e.lead.all isBlank = true
  type_text : IsTypeText e.type
  gap_blank : e.gap.all isBlank = true
  gap_ne_nil : e.gap ≠ []
  name_inert : ∀ c ∈ e.name, isInert c = true
  name_ne_nil : e.name ≠ []
  trail_blank : e.trail.all isBlank = true

theorem Entry.Writes.tidy {e : Entry} {p : Parameter} (h : e.Writes p)
    (htype : Signature.isTypeToken p.type.toList = true) : e.Tidy :=
  { h with
    type_text := isTypeText_of_spaced htype h.type_spaced
    name_inert := fun c hc => isInert_of_isWordChar (List.all_eq_true.1 h.name_word c hc) }

variable {e e' : Entry} {es es' : List Entry}

theorem Entry.Tidy.enclosed_text (h : e.Tidy) : enclosed 0 e.text = true := by
  have hlead := enclosed_of_blank h.lead_blank
  have hgap := enclosed_of_blank h.gap_blank
  have hname := enclosed_of_inert h.name_inert
  have htrail := enclosed_of_blank h.trail_blank
  exact enclosed_append (enclosed_append (enclosed_append (enclosed_append hlead
    h.type_text.enclosed) hgap) hname) htrail

theorem getLast?_any_append {q : Char → Bool} {u v : List Char} (hne : v ≠ []) :
    (u ++ v).getLast?.any q = v.getLast?.any q := by
  rw [List.getLast?_append_of_ne_nil _ hne]

theorem getLast?_any_of_mem {q r : Char → Bool} {u : List Char} (hall : ∀ c ∈ u, q c = true)
    (himp : ∀ c, q c = true → r c = false) : u.getLast?.any r = false := by
  cases hlast : u.getLast? with
  | none => rfl
  | some c => simpa using himp c (hall c (List.mem_of_getLast? hlast))

/-- The text of a tidy entry tells its parts. -/
theorem Entry.Tidy.eq_of_text (h : e.Tidy) (h' : e'.Tidy) (heq : e.text = e'.text) : e = e' := by
  -- A name has no blanks, and a type has none at its ends.
  have hname : ∀ {e : Entry}, e.Tidy → (e.lead ++ e.type ++ e.gap ++ e.name).getLast?.any isBlank =
      false := by
    intro e he
    rw [getLast?_any_append he.name_ne_nil]
    exact getLast?_any_of_mem he.name_inert fun c => isBlank_eq_false_of_isInert
  have hsolid : ∀ {e : Entry}, e.Tidy → (e.name.all fun c => !isBlank c) = true := by
    intro e he
    rw [List.all_eq_true]
    intro c hc
    rw [isBlank_eq_false_of_isInert (he.name_inert c hc), Bool.not_false]
  have hgap : ∀ {e : Entry}, e.Tidy →
      (e.lead ++ e.type ++ e.gap).getLast?.any (fun c => !isBlank c) = false := by
    intro e he
    rw [getLast?_any_append he.gap_ne_nil]
    exact getLast?_any_of_mem (List.all_eq_true.1 he.gap_blank) fun c hc => by rw [hc, Bool.not_true]
  have hlast : ∀ {e : Entry}, e.Tidy → (e.lead ++ e.type).getLast?.any isBlank = false := by
    intro e he
    rw [getLast?_any_append he.type_text.ne_nil]
    exact he.type_text.last_solid
  -- So the parts can be cut off from the right, up to the type.
  obtain ⟨hrest, htrails⟩ :=
    run_unique_right h.trail_blank h'.trail_blank (hname h) (hname h') heq
  obtain ⟨hrest, hnames⟩ := run_unique_right (hsolid h) (hsolid h') (hgap h) (hgap h') hrest
  obtain ⟨hrest, hgaps⟩ :=
    run_unique_right h.gap_blank h'.gap_blank (hlast h) (hlast h') hrest
  obtain ⟨hleads, htypes⟩ := run_unique h.lead_blank h'.lead_blank h.type_text.head_solid
    h'.type_text.head_solid hrest
  cases e
  cases e'
  simp_all

/-! ## Lists -/

theorem head?_tailText_eq_comma (es : List Entry) (c : Char) (h : (tailText es).head? = some c) :
    c = ',' := by
  cases es with
  | nil => simp [tailText] at h
  | cons e rest => simpa [tailText] using h.symm

/-- An entry and the text of the entries behind it. -/
theorem Entry.Tidy.text_unique (h : e.Tidy) (h' : e'.Tidy)
    (heq : e.text ++ tailText es = e'.text ++ tailText es') :
    e = e' ∧ tailText es = tailText es' := by
  obtain ⟨htext, htail⟩ := enclosed_unique h.enclosed_text h'.enclosed_text
    (head?_tailText_eq_comma es) (head?_tailText_eq_comma es') heq
  exact ⟨h.eq_of_text h' htext, htail⟩

theorem tailText_injective (h : ∀ e ∈ es, e.Tidy) (h' : ∀ e ∈ es', e.Tidy)
    (heq : tailText es = tailText es') : es = es' := by
  induction es generalizing es' with
  | nil =>
      cases es' with
      | nil => rfl
      | cons e' rest' => simp [tailText] at heq
  | cons e rest ih =>
      cases es' with
      | nil => simp [tailText] at heq
      | cons e' rest' =>
          have htexts : e.text ++ tailText rest = e'.text ++ tailText rest' := by
            simpa [tailText] using heq
          obtain ⟨rfl, htail⟩ :=
            (h e List.mem_cons_self).text_unique (h' e' List.mem_cons_self) htexts
          rw [ih (fun d hd => h d (List.mem_cons_of_mem _ hd))
            (fun d hd => h' d (List.mem_cons_of_mem _ hd)) htail]

theorem Entry.Tidy.not_blank (h : e.Tidy) (x : List Char) : ¬(e.text ++ x).all isBlank = true := by
  intro hall
  obtain ⟨c, rest, hname⟩ := List.exists_cons_of_ne_nil h.name_ne_nil
  have hc : isInert c = true := h.name_inert c (by simp [hname])
  have hblank : isBlank c = true := List.all_eq_true.1 hall c (by simp [Entry.text, hname])
  simp [isBlank_eq_false_of_isInert hc] at hblank

/-- The text between the parentheses tells the entries. -/
theorem listText_unique {inner : List Char} (h : ∀ e ∈ es, e.Tidy) (h' : ∀ e ∈ es', e.Tidy)
    (hinner : ListText es inner) (hinner' : ListText es' inner) : es = es' := by
  cases es with
  | nil =>
      cases es' with
      | nil => rfl
      | cons e' rest' =>
          -- A text of blanks has no entry in it.
          rw [listText_cons] at hinner'
          exact absurd (hinner' ▸ hinner) ((h' e' List.mem_cons_self).not_blank _)
  | cons e rest =>
      rw [listText_cons] at hinner
      cases es' with
      | nil => exact absurd (hinner ▸ hinner') ((h e List.mem_cons_self).not_blank _)
      | cons e' rest' =>
          rw [listText_cons] at hinner'
          obtain ⟨rfl, htail⟩ := (h e List.mem_cons_self).text_unique (h' e' List.mem_cons_self)
            (hinner.symm.trans hinner')
          rw [tailText_injective (fun d hd => h d (List.mem_cons_of_mem _ hd))
            (fun d hd => h' d (List.mem_cons_of_mem _ hd)) htail]

/-! ## No parentheses inside -/

theorem no_paren_of_blank (h : cs.all isBlank = true) : ∀ c ∈ cs, c ≠ '(' ∧ c ≠ ')' := by
  intro c hc
  have hblank := List.all_eq_true.1 h c hc
  constructor <;> (rintro rfl; simp at hblank)

theorem Entry.Tidy.no_paren (h : e.Tidy) : ∀ c ∈ e.text, c ≠ '(' ∧ c ≠ ')' := by
  intro c hc
  simp only [Entry.text, List.mem_append] at hc
  rcases hc with (((hc | hc) | hc) | hc) | hc
  · exact no_paren_of_blank h.lead_blank c hc
  · exact h.type_text.no_paren c hc
  · exact no_paren_of_blank h.gap_blank c hc
  · exact ⟨ne_of_isInert (h.name_inert c hc) (by decide),
      ne_of_isInert (h.name_inert c hc) (by decide)⟩
  · exact no_paren_of_blank h.trail_blank c hc

theorem no_paren_of_listText {inner : List Char} (h : ∀ e ∈ es, e.Tidy)
    (hinner : ListText es inner) : ∀ c ∈ inner, c ≠ '(' ∧ c ≠ ')' := by
  cases es with
  | nil => exact no_paren_of_blank hinner
  | cons e rest =>
      rw [listText_cons] at hinner
      subst hinner
      intro c hc
      rcases List.mem_append.1 hc with hc | hc
      · exact (h e List.mem_cons_self).no_paren c hc
      · obtain ⟨d, hd, hc⟩ := List.mem_flatMap.1 hc
        rcases List.mem_cons.1 hc with rfl | hc
        · decide
        · exact (h d (List.mem_cons_of_mem _ hd)).no_paren c hc

end HookMigration.Migration
