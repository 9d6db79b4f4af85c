import HookMigration.Proofs.Migration.Meaning
import HookMigration.Proofs.Migration.Reading

/-!
# What a migration makes of an occurrence

The template of a migration, filled with what an occurrence captured, is again a call: the new name
and a list with one entry for each new parameter (`toList_render_template`).  The entry has the type
of the parameter, be it written as in the new signature or as the user spaced it, and a name without
blanks, brackets and commas (`forall₂_makes_made`).  So the entries are tidy, and the list that was
made tells the types of the new signature.
-/

namespace HookMigration

open Text

/-! ## Templates -/

namespace Template

variable {captured : Slot → Option String} {t : Template}

theorem toList_render (captured : Slot → Option String) (t : Template) :
    (t.render captured).toList = t.segments.flatMap fun s => (s.render captured).toList := by
  simp [render, concat, List.flatMap_map]

theorem flatMap_appendLiteral (text : String) (segments : List Segment) :
    (appendLiteral text segments).flatMap (fun s => (s.render captured).toList) =
      segments.flatMap (fun s => (s.render captured).toList) ++ text.toList := by
  fun_induction appendLiteral text segments with
  | case1 => simp [Segment.render]
  | case2 => simp [Segment.render]
  | case3 segment rest hne ih => simp [ih]

@[simp] theorem toList_render_pushLiteral (text : String) :
    ((t.pushLiteral text).render captured).toList = (t.render captured).toList ++ text.toList := by
  unfold pushLiteral
  split_ifs with hempty
  · simp [hempty]
  · rw [toList_render, toList_render, flatMap_appendLiteral]

@[simp] theorem toList_render_pushCapture (slot : Slot) :
    ((t.pushCapture slot).render captured).toList =
      (t.render captured).toList ++ ((captured slot).getD "").toList := by
  simp [toList_render, pushCapture, Segment.render]

@[simp] theorem toList_render_empty : (empty.render captured).toList = [] := by
  simp [toList_render, empty]

end Template

theorem Parameter.sameAs_iff {p q : Parameter} :
    p.sameAs q = true ↔ p.type = q.type ∧ p.name = q.name := by
  simp [sameAs]

namespace Migration

open Pattern (Match)

/-! ## The list of a template -/

/-- The type and the name that a new parameter at a position gets. -/
def madeParts (old : List Parameter) (captured : Slot → Option String) (p : Parameter)
    (position : Nat) : List Char × List Char :=
  match old.findIdx? (·.sameAs p) with
  | some index =>
    (((captured (.type (index + 1))).getD "").toList,
      ((captured (.name (index + 1))).getD "").toList)
  | none =>
    (p.type.toList,
      if position ≤ old.length then ((captured (.name position)).getD "").toList
      else (literalName p position).toList)

/-- The entries for new parameters from a position on. -/
def made (old : List Parameter) (captured : Slot → Option String) (position : Nat) :
    List Parameter → List Entry
  | [] => []
  | p :: rest =>
    { lead := if position > 1 then [' '] else []
      type := (madeParts old captured p position).1
      gap := [' ']
      name := (madeParts old captured p position).2
      trail := [] } :: made old captured (position + 1) rest

variable {old : List Parameter} {captured : Slot → Option String} {t : Template} {position : Nat}

theorem toList_render_pushParameter (p : Parameter) :
    ((pushParameter old t p position).render captured).toList =
      (t.render captured).toList ++ (madeParts old captured p position).1 ++
        ' ' :: (madeParts old captured p position).2 := by
  cases hindex : old.findIdx? (·.sameAs p) with
  | some index => simp [pushParameter, madeParts, hindex]
  | none =>
      simp only [pushParameter, madeParts, hindex]
      split_ifs <;> simp

theorem toList_render_tail {ps : List Parameter} (hposition : 1 < position) :
    ((pushParameters old t position ps).render captured).toList =
      (t.render captured).toList ++ tailText (made old captured position ps) := by
  induction ps generalizing t position with
  | nil => simp [pushParameters, made, tailText]
  | cons p ps ih =>
      rw [pushParameters, if_pos hposition, ih (Nat.lt_succ_of_lt hposition),
        toList_render_pushParameter]
      simp [made, tailText, Entry.text, hposition]

theorem toList_render_pushParameters (old : List Parameter) (captured : Slot → Option String)
    (t : Template) (ps : List Parameter) :
    ((pushParameters old t 1 ps).render captured).toList =
      (t.render captured).toList ++ listOf (made old captured 1 ps) := by
  cases ps with
  | nil => simp [pushParameters, made, listOf]
  | cons p ps =>
      rw [pushParameters, if_neg (lt_irrefl 1), toList_render_tail (Nat.lt_succ_self 1),
        toList_render_pushParameter]
      simp [made, listOf_cons, Entry.text]

/-- A template makes a call of the new name with the entries for the new parameters. -/
theorem toList_render_template (old new : Signature) (captured : Slot → Option String) :
    ((template old new).render captured).toList = new.name.toList ++
      '(' :: (listOf (made old.parameters captured 1 new.parameters) ++ [')']) := by
  unfold template
  rw [Template.toList_render_pushLiteral, toList_render_pushParameters]
  simp

/-! ## What an occurrence captured -/

variable {es : List Entry} {matched : List Char}

theorem lookup_entryCaptures (k i : Nat) (es : List Entry) :
    (entryCaptures k es).lookup (.type (k + i)) = es[i]?.map Entry.type ∧
      (entryCaptures k es).lookup (.name (k + i)) = es[i]?.map Entry.name := by
  induction es generalizing k i with
  | nil => exact ⟨rfl, rfl⟩
  | cons e rest ih =>
      cases i with
      | zero =>
          have hname : (Slot.name k == Slot.type k) = false :=
            beq_eq_false_iff_ne.2 (by simp [Slot.name, Slot.type])
          simp [entryCaptures, List.lookup_cons, hname]
      | succ i =>
          -- The slots of the first entry have an earlier position.
          have hskip : ∀ slot : Slot, slot.position = k + 1 + i →
              (entryCaptures k (e :: rest)).lookup slot =
                (entryCaptures (k + 1) rest).lookup slot := by
            intro slot hslot
            have hne : ∀ half, (slot == ⟨half, k⟩) = false := by
              intro half
              rw [beq_eq_false_iff_ne]
              rintro rfl
              simp only at hslot
              omega
            simp [entryCaptures, List.lookup_cons, Slot.type, Slot.name, hne]
          have hsum : k + (i + 1) = k + 1 + i := by omega
          rw [hsum, hskip _ rfl, hskip _ rfl]
          simpa using ih (k + 1) i

/-- The text captured in the slot of a type is the type of the entry. -/
theorem captured_type {i : Nat} {e : Entry} (h : es[i]? = some e) :
    ((Match.captured ⟨matched, entryCaptures 1 es⟩ (.type (i + 1))).getD "").toList = e.type := by
  have hlookup := (lookup_entryCaptures 1 i es).1
  rw [Nat.add_comm] at hlookup
  simp [Match.captured, hlookup, h]

theorem captured_name {i : Nat} {e : Entry} (h : es[i]? = some e) :
    ((Match.captured ⟨matched, entryCaptures 1 es⟩ (.name (i + 1))).getD "").toList = e.name := by
  have hlookup := (lookup_entryCaptures 1 i es).2
  rw [Nat.add_comm] at hlookup
  simp [Match.captured, hlookup, h]

theorem exists_entry {ps : List Parameter} (hes : List.Forall₂ Entry.Writes es ps) {i : Nat}
    {p : Parameter} (hi : ps[i]? = some p) : ∃ e, es[i]? = some e ∧ e.Writes p := by
  induction hes generalizing i with
  | nil => simp at hi
  | @cons e q es ps hfirst hrest ih =>
      cases i with
      | zero =>
          obtain rfl : q = p := by simpa using hi
          exact ⟨e, rfl, hfirst⟩
      | succ i => exact ih (by simpa using hi)

/-! ## The entries of a template -/

/-- An entry was made for a new parameter: up to blanks it has the type. -/
structure Entry.Makes (e : Entry) (p : Parameter) : Prop where
  tidy : e.Tidy
  solid_type : solid e.type = solid p.type.toList

theorem literalName_ne_nil {p : Parameter} (hname : p.name.toList ≠ []) (position : Nat) :
    (literalName p position).toList ≠ [] := by
  unfold literalName
  split_ifs
  · simp [Nat.toString_eq_repr, Nat.toList_repr]
  · exact hname

theorem isInert_literalName {p : Parameter} (hname : p.name.toList.all isNameChar = true)
    (position : Nat) : ∀ c ∈ (literalName p position).toList, isInert c = true := by
  intro c hc
  unfold literalName at hc
  split_ifs at hc
  · rw [String.toList_append, List.mem_append, String.toList_ofList] at hc
    rcases hc with hc | hc
    · refine isInert_of_mem_lowercase (fun d hd => ?_) hc
      exact isInert_of_isNameChar (List.mem_filter.1 hd).2
    · rw [Nat.toString_eq_repr, Nat.toList_repr] at hc
      exact isInert_of_isNameChar
        (Signature.isNameChar_of_isDigit (Nat.isDigit_of_mem_toDigits (by decide) (by decide) hc))
  · exact isInert_of_isNameChar (List.all_eq_true.1 hname c hc)

section Made

variable {p : Parameter}
  (hold : ∀ q ∈ old, Signature.isTypeToken q.type.toList = true)
  (hes : List.Forall₂ Entry.Writes es old)

include hold hes

theorem madeParts_spec (matched : List Char) (htype : Signature.isTypeToken p.type.toList = true)
    (hne : p.name.toList ≠ []) (hname : p.name.toList.all isNameChar = true)
    (hposition : 1 ≤ position) {parts : List Char × List Char}
    (hparts : madeParts old (Match.captured ⟨matched, entryCaptures 1 es⟩) p position = parts) :
    IsTypeText parts.1 ∧ solid parts.1 = solid p.type.toList ∧
      (∀ c ∈ parts.2, isInert c = true) ∧ parts.2 ≠ [] := by
  have hword : ∀ {e : Entry} {q : Parameter}, e.Writes q → ∀ c ∈ e.name, isInert c = true :=
    fun he c hc => isInert_of_isWordChar (List.all_eq_true.1 he.name_word c hc)
  cases hindex : old.findIdx? (·.sameAs p) with
  | some index =>
      -- Type and name come from an entry whose parameter has the type of the new one.
      obtain ⟨hlt, hsame, -⟩ := List.findIdx?_eq_some_iff_getElem.1 hindex
      obtain ⟨e, he, hwrites⟩ := exists_entry hes (List.getElem?_eq_getElem hlt)
      have htypes : old[index].type = p.type := (Parameter.sameAs_iff.1 hsame).1
      simp only [madeParts, hindex, captured_type he, captured_name he] at hparts
      subst hparts
      refine ⟨isTypeText_of_spaced (hold _ (List.getElem_mem hlt)) hwrites.type_spaced, ?_,
        hword hwrites, hwrites.name_ne_nil⟩
      rw [hwrites.type_spaced.solid_eq fun c => isBlank_of_mem_solid, htypes]
  | none =>
      -- The type is new, and the name is captured at the same position or made.
      simp only [madeParts, hindex] at hparts
      subst hparts
      refine ⟨isTypeText_of_token htype, rfl, ?_⟩
      obtain ⟨i, rfl⟩ := Nat.exists_eq_add_of_le' hposition
      dsimp only
      split_ifs with hreached
      · obtain ⟨e, he, hwrites⟩ := exists_entry hes (List.getElem?_eq_getElem hreached)
        rw [captured_name he]
        exact ⟨hword hwrites, hwrites.name_ne_nil⟩
      · exact ⟨isInert_literalName hname _, literalName_ne_nil hne _⟩

/-- Each entry of a template has the type of its parameter, up to blanks. -/
theorem forall₂_makes_made {ps : List Parameter}
    (htype : ∀ p ∈ ps, Signature.isTypeToken p.type.toList = true)
    (hne : ∀ p ∈ ps, p.name.toList ≠ []) (hname : ∀ p ∈ ps, p.name.toList.all isNameChar = true)
    (hposition : 1 ≤ position) :
    List.Forall₂ Entry.Makes
      (made old (Match.captured ⟨matched, entryCaptures 1 es⟩) position ps) ps := by
  induction ps generalizing position with
  | nil => exact .nil
  | cons p ps ih =>
      obtain ⟨hspaced, hsolid, hinert, hnil⟩ := madeParts_spec hold hes matched
        (htype p List.mem_cons_self) (hne p List.mem_cons_self) (hname p List.mem_cons_self)
        hposition rfl
      refine .cons ⟨?_, hsolid⟩ (ih (fun q hq => htype q (List.mem_cons_of_mem _ hq))
        (fun q hq => hne q (List.mem_cons_of_mem _ hq))
        (fun q hq => hname q (List.mem_cons_of_mem _ hq)) (Nat.le_succ_of_le hposition))
      exact {
        lead_blank := by split_ifs <;> rfl
        type_text := hspaced
        gap_blank := rfl
        gap_ne_nil := List.cons_ne_nil _ _
        name_inert := hinert
        name_ne_nil := hnil
        trail_blank := rfl }

end Made

/-! ## What was made tells the new signature -/

/-- The types of a signature without their blanks. -/
def solidTypes (s : Signature) : List (List Char) :=
  s.parameters.map fun p => solid p.type.toList

variable {s old new : Signature}

/-- The replacement of an occurrence is a call of the new name, with an entry made for each new
parameter. -/
theorem exists_made (hold : old.WellFormed) (hnew : new.WellFormed)
    (h : Occurrence old es matched) :
    ∃ es' inner, List.Forall₂ Entry.Makes es' new.parameters ∧ ListText es' inner ∧
      ((template old new).render (Match.captured ⟨matched, entryCaptures 1 es⟩)).toList =
        new.name.toList ++ '(' :: (inner ++ [')']) :=
  ⟨_, _, forall₂_makes_made hold.type_token h.1 hnew.type_token hnew.parameter_ne_nil
    hnew.parameter_name (Nat.le_refl 1), listText_listOf _, toList_render_template _ _ _⟩

/-- What is known of an entry by its parameter is known of all entries. -/
theorem forall_mem_of_forall₂ {R : Entry → Parameter → Prop} {q : Entry → Prop}
    {ps : List Parameter} (h : List.Forall₂ R es ps) (himp : ∀ e, ∀ p ∈ ps, R e p → q e) :
    ∀ e ∈ es, q e := by
  induction h with
  | nil => simp
  | @cons e p es ps hfirst hrest ih =>
      intro d hd
      rcases List.mem_cons.1 hd with rfl | hd
      · exact himp d p List.mem_cons_self hfirst
      · exact ih (fun e q hq => himp e q (List.mem_cons_of_mem _ hq)) d hd

theorem tidy_of_makes {ps : List Parameter} (h : List.Forall₂ Entry.Makes es ps) :
    ∀ e ∈ es, e.Tidy :=
  forall_mem_of_forall₂ h fun _ _ _ hmakes => hmakes.tidy

theorem tidy_of_writes {ps : List Parameter}
    (htype : ∀ p ∈ ps, Signature.isTypeToken p.type.toList = true)
    (h : List.Forall₂ Entry.Writes es ps) : ∀ e ∈ es, e.Tidy :=
  forall_mem_of_forall₂ h fun _ p hp hwrites => hwrites.tidy (htype p hp)

theorem map_solid_of_makes {ps : List Parameter} (h : List.Forall₂ Entry.Makes es ps) :
    es.map (fun e => solid e.type) = ps.map fun p => solid p.type.toList := by
  rw [← List.forall₂_eq_eq_eq, List.forall₂_map_left_iff, List.forall₂_map_right_iff]
  exact h.imp fun e p hmakes => hmakes.solid_type

theorem map_solid_of_writes {ps : List Parameter} (h : List.Forall₂ Entry.Writes es ps) :
    es.map (fun e => solid e.type) = ps.map fun p => solid p.type.toList := by
  rw [← List.forall₂_eq_eq_eq, List.forall₂_map_left_iff, List.forall₂_map_right_iff]
  exact h.imp fun e p hwrites => hwrites.type_spaced.solid_eq fun c => isBlank_of_mem_solid

/-- A call that was made for a new signature is an occurrence only of signatures with the same name
and, up to blanks, the same types. -/
theorem eq_of_occurrence_made (hs : s.WellFormed) (hnew : new.WellFormed) {es' : List Entry}
    {inner : List Char} (hmade : List.Forall₂ Entry.Makes es' new.parameters)
    (hinner : ListText es' inner)
    (h : Occurrence s es (new.name.toList ++ '(' :: (inner ++ [')']))) :
    new.name = s.name ∧ solidTypes new = solidTypes s := by
  obtain ⟨hnames, hinner', hwrites⟩ := h.of_call hs hnew.name_word
  -- The entries that were made are the entries that occur.
  obtain rfl : es' = es :=
    listText_unique (tidy_of_makes hmade) (tidy_of_writes hs.type_token hwrites) hinner hinner'
  refine ⟨String.toList_inj.1 hnames, ?_⟩
  calc solidTypes new
      = es'.map fun e => solid e.type := (map_solid_of_makes hmade).symm
    _ = solidTypes s := map_solid_of_writes hwrites

end Migration

end HookMigration
