import HookMigration.Proofs.RuleSet.OwnSignature
import HookMigration.Proofs.Signature.Grammar

/-!
# Reading what is displayed

A displayed signature is a text of the grammar again: each type stands where a type may stand, with
its own brackets, commas and blanks, and each name is given.  So the reader gives back the signature
with its names no longer left out (`parse_display`), and this in turn is displayed in the same way.
Two signatures that were read look alike only if they differ in which names were left out.

The layout of a displayed signature has an entry for each parameter, and its list needs no trimming:
it begins with a type and ends in a name.
-/

namespace HookMigration

open Text Migration

/-- A parameter whose name counts as given. -/
def Parameter.named (p : Parameter) : Parameter :=
  { p with synthesized := false }

namespace Signature

variable {s t : Signature} {ps : List Parameter} {text : String} {position : Nat} {e : Entry}
  {es : List Entry}

/-- A signature whose names all count as given. -/
def named (s : Signature) : Signature :=
  { s with parameters := s.parameters.map Parameter.named }

@[simp] theorem display_named (s : Signature) : s.named.display = s.display := by
  rw [display, display, named, List.map_map]
  rfl

theorem parametersParts_named (position : Nat) (ps : List Parameter) :
    parametersParts position (ps.map Parameter.named) = parametersParts position ps := by
  induction ps generalizing position with
  | nil => rfl
  | cons p rest ih =>
      rw [List.map_cons, parametersParts, parametersParts, ih]
      rfl

/-- The pattern looks at the name of the hook and at the types. -/
@[simp] theorem pattern_named (s : Signature) : pattern s.named = pattern s := by
  rw [pattern, pattern, named, parametersParts_named]

/-! ## The layout of a displayed signature -/

theorem mem_displayed (h : e ∈ displayed position ps) :
    ∃ p ∈ ps, ∃ lead, lead.all isBlank = true ∧
      e = ⟨lead, p.type.toList, [' '], p.name.toList, []⟩ := by
  induction ps generalizing position with
  | nil => simp [displayed] at h
  | cons p rest ih =>
      rcases List.mem_cons.1 h with rfl | h
      · exact ⟨p, List.mem_cons_self, _, by split_ifs <;> rfl, rfl⟩
      · obtain ⟨q, hq, heq⟩ := ih h
        exact ⟨q, List.mem_cons_of_mem p hq, heq⟩

theorem WellFormed.declared_displayed (h : s.WellFormed) :
    ∀ e ∈ displayed 1 s.parameters, e.Declared := by
  intro e he
  obtain ⟨p, hp, lead, hlead, rfl⟩ := mem_displayed he
  have hne := h.parameter_ne_nil p hp
  exact {
    lead_blank := hlead
    type_read := isTypeToken_iff.1 (h.type_token p hp)
    gap_blank := rfl
    name_chars := h.parameter_name p hp
    gap_iff := by simp [hne]
    trail_blank := rfl }

theorem head?_listOf (h : e.Declared) (hlead : e.lead = []) (es : List Entry) :
    (listOf (e :: es)).head?.any isBlank = false := by
  rw [listOf_cons, Entry.text_eq_core, hlead, List.nil_append, List.append_assoc,
    head?_any_append h.core_ne_nil]
  exact h.head?_core

theorem getLast?_listOf (h : e.Declared) (htrail : e.trail = []) (es : List Entry) :
    (listOf (es ++ [e])).getLast?.any isBlank = false := by
  have htext : e.text = e.lead ++ e.core := by rw [Entry.text_eq_core, htrail, List.append_nil]
  have hlast : ∀ front : List Char, (front ++ e.core).getLast?.any isBlank = false := by
    intro front
    rw [getLast?_any_append h.core_ne_nil]
    exact h.getLast?_core
  by_cases hes : es = []
  · rw [hes, listOf, List.nil_append, List.map_singleton, List.intercalate_singleton, htext]
    exact hlast _
  · rw [listOf, List.map_append, List.map_singleton, intercalate_concat (by simpa using hes), htext,
      ← List.cons_append, ← List.append_assoc]
    exact hlast _

/-- The displayed list of parameters has no blanks at its ends. -/
theorem WellFormed.trim_listOf_displayed (h : s.WellFormed) :
    trim (listOf (displayed 1 s.parameters)) = listOf (displayed 1 s.parameters) := by
  have hdeclared := h.declared_displayed
  refine trim_eq_self ?_ ?_
  · cases hps : s.parameters with
    | nil => rfl
    | cons p rest =>
        rw [hps] at hdeclared
        exact head?_listOf (hdeclared _ List.mem_cons_self) rfl _
  · rcases List.eq_nil_or_concat (displayed 1 s.parameters) with hnil | ⟨es, e, hes⟩
    · rw [hnil]
      rfl
    · have he : e ∈ displayed 1 s.parameters := by simp [hes]
      obtain ⟨p, -, lead, -, rfl⟩ := mem_displayed he
      rw [hes, List.concat_eq_append]
      exact getLast?_listOf (hdeclared _ he) rfl es

theorem mapIdx_parameter_displayed (hne : ∀ p ∈ ps, p.name.toList ≠ []) :
    (displayed 1 ps).mapIdx (fun i e => e.parameter (i + 1)) = ps.map Parameter.named := by
  refine List.ext_getElem? fun i => ?_
  rw [List.getElem?_mapIdx, List.getElem?_map]
  cases hp : ps[i]? with
  | none =>
      have hnone : (displayed 1 ps)[i]? = none := by
        rw [List.getElem?_eq_none_iff, length_displayed]
        exact List.getElem?_eq_none_iff.1 hp
      rw [hnone]
      rfl
  | some p =>
      obtain ⟨e, he, htype, hname⟩ := exists_displayed 1 hp
      have hgiven : p.name.toList ≠ [] := hne p (List.mem_of_getElem? hp)
      rw [he, Option.map_some, Option.map_some, Entry.parameter, hname, if_neg hgiven, htype,
        String.ofList_toList, String.ofList_toList]
      rfl

/-- The layout of a displayed signature. -/
def displayLayout (s : Signature) : Layout where
  name := s.name.toList
  gap := []
  list := listOf (displayed 1 s.parameters)
  entries := displayed 1 s.parameters
  finalComma := false

theorem WellFormed.of_displayLayout (h : s.WellFormed) :
    s.displayLayout.Of (trim s.display.toList) := by
  have htext : s.display.toList = s.displayLayout.name ++ s.displayLayout.gap ++
      '(' :: (s.displayLayout.list ++ [')']) := by
    rw [toList_display, displayLayout, List.append_nil]
  have htrim : trim s.display.toList = s.display.toList := by
    refine trim_eq_self ?_ ?_
    · rw [toList_display, head?_any_append h.name_ne_nil]
      exact head?_any_of_all h.name_word fun c => isBlank_eq_false_of_isWordChar
    · rw [toList_display, ← List.cons_append, ← List.append_assoc, List.getLast?_concat]
      rfl
  exact {
    name_word := h.name_word
    name_ne_nil := h.name_ne_nil
    gap_blank := rfl
    text_eq := htrim.trans htext
    declared := h.declared_displayed
    list_eq := h.trim_listOf_displayed.trans (List.append_nil _).symm
    ending_eq := fun _ => rfl }

theorem WellFormed.signature_displayLayout (h : s.WellFormed) :
    s.displayLayout.signature = s.named := by
  rw [Layout.signature, displayLayout, named, mapIdx_parameter_displayed h.parameter_ne_nil,
    String.ofList_toList]

/-! ## Reading it -/

theorem WellFormed.parse_display_eq (h : s.WellFormed) : parse s.display = .ok s.named :=
  parse_eq_ok_iff.2 ⟨s.displayLayout, h.of_displayLayout, h.signature_displayLayout.symm⟩

/-- What a signature is displayed as is read as the same signature with all names given, whose
display and whose pattern are the same.  Signatures that were read have the same display exactly if
they are the same up to which names were given. -/
theorem parse_display (h : parse text = .ok s) :
    parse s.display = .ok s.named ∧ s.named.display = s.display ∧ pattern s.named = pattern s ∧
      ∀ other t, parse other = .ok t → (s.display = t.display ↔ s.named = t.named) := by
  have hread := (wellFormed_of_parse h).parse_display_eq
  refine ⟨hread, display_named s, pattern_named s, fun other t ht => ⟨fun hsame => ?_, ?_⟩⟩
  · -- the same display is read in one way only
    have hother := (wellFormed_of_parse ht).parse_display_eq
    rw [← hsame, hread] at hother
    exact Except.ok.inj hother
  · intro hsame
    rw [← display_named s, hsame, display_named]

/-- Blanks and commas between the brackets of a type, and a name that is left out. -/
theorem parse_display_brackets :
    ∃ s, parse " Foo ( Map<A b,List< C >[ , ]> x ,int?, )" = .ok s ∧
      s.display = "Foo(Map<A b,List< C >[ , ]> x, int? param2)" ∧
      parse "Foo(Map<A b,List< C >[ , ]> x, int? param2)" = .ok s.named ∧ s ≠ s.named := by
  obtain ⟨s, hs, hcheck⟩ : ∃ s, parse " Foo ( Map<A b,List< C >[ , ]> x ,int?, )" = .ok s ∧
      decide (s.display = "Foo(Map<A b,List< C >[ , ]> x, int? param2)" ∧ s ≠ s.named) = true :=
    exists_ok_of_any (by decide +kernel)
  obtain ⟨hdisplay, hne⟩ := of_decide_eq_true hcheck
  have hread := (parse_display hs).1
  rw [hdisplay] at hread
  exact ⟨s, hs, hdisplay, hread, hne⟩

end Signature

end HookMigration
