import HookMigration.Proofs.Calls.Stretches
import HookMigration.Proofs.Migration.Rendering
import HookMigration.Proofs.RuleSet.Compiled

/-!
# Migrations match calls

An occurrence of a signature is a call, and so is what a migration makes of it
(`callRule_of_migrates`).  The condition that the hook begins with a name character is the one under
which the pattern asks for a word boundary; without it, the end of a longer word would match.

Which rule matches a call is told by its name, and what a rule has made is matched again only by
rules for the new name and, up to blanks, the new types (`eq_of_replaced?`).
-/

namespace HookMigration.Calls

open Migration Pattern Text

variable {r r' : Rule} {s old new old' new' : Signature} {es : List Entry} {m m' : List Char}

/-! ## Occurrences are calls -/

theorem isCallOf_of_occurrence (hs : s.WellFormed) (h : Occurrence s es m) :
    IsCallOf s.name.toList m := by
  obtain ⟨hwrites, gap, inner, hgap, hinner, rfl⟩ := h
  exact ⟨gap, inner, hs.name_ne_nil, hs.name_word, hgap,
    no_paren_of_listText (tidy_of_writes hs.type_token hwrites) hinner, rfl⟩

/-- Occurrences of a signature that begin at different places of a text do not overlap. -/
theorem occurrences_apart {front front' x x' : List Char} {es' : List Entry} (hs : s.WellFormed)
    (h : Occurrence s es m) (h' : Occurrence s es' m')
    (heq : front ++ (m ++ x) = front' ++ (m' ++ x')) (hlt : front.length < front'.length) :
    (front ++ m).length ≤ front'.length := by
  by_contra hover
  obtain ⟨u, rfl⟩ : front <+: front' :=
    List.prefix_of_prefix_length_le ⟨_, heq⟩ ⟨_, rfl⟩ (Nat.le_of_lt hlt)
  rw [List.append_assoc, List.append_cancel_left_eq] at heq
  simp only [List.length_append] at hover hlt
  obtain ⟨v, rfl⟩ : u <+: m := List.prefix_of_prefix_length_le ⟨_, heq.symm⟩ ⟨_, rfl⟩ (by omega)
  rw [List.append_assoc, List.append_cancel_left_eq] at heq
  -- The second occurrence would begin within the first.
  have hu : u ≠ [] := by
    rintro rfl
    simp at hlt
  have hv : v ≠ [] := by
    rintro rfl
    simp at hover
  exact not_isCallOf_inside (isCallOf_of_occurrence hs h) hu hv (isCallOf_of_occurrence hs h') heq

theorem isCall_of_made {name inner : List Char} {ps : List Parameter} (hne : name ≠ [])
    (hname : name.all isWordChar = true) (hmade : List.Forall₂ Entry.Makes es ps)
    (hinner : ListText es inner) : IsCall (name ++ '(' :: (inner ++ [')'])) :=
  ⟨name, [], inner, hne, hname, rfl, no_paren_of_listText (tidy_of_makes hmade) hinner, by simp⟩

/-- The names of two signatures that occur in the same call are the same. -/
theorem name_eq_of_occurrence {s' : Signature} {es' : List Entry} (hs : s.WellFormed)
    (hs' : s'.WellFormed) (h : Occurrence s es m) (h' : Occurrence s' es' m) :
    s.name = s'.name := by
  obtain ⟨-, gap, inner, hgap, -, rfl⟩ := h
  obtain ⟨-, gap', inner', hgap', -, heq⟩ := h'
  exact String.toList_inj.1 (front_unique hs.name_word hs'.name_word hgap hgap' heq).1

/-! ## The pattern of a migration -/

theorem callPattern_of_head (hs : s.WellFormed)
    (hhook : s.name.toList.head?.any isNameChar = true) : CallPattern (Migration.pattern s) where
  stands := by
    intro before ahead x hx
    rw [← getLast?_toList before] at hx
    obtain ⟨after, hahead, hmatches⟩ := matchAhead?_sound hx
    obtain ⟨hfree, es, hes, -⟩ := (matches_regex hs).1 hmatches
    refine ⟨after, hahead, ?_, ⟨_, isCallOf_of_occurrence hs hes⟩⟩
    rw [← getLast?_toList before]
    exact hfree hhook
  alone := by
    rintro before after ⟨matched, captures⟩ ⟨hbefore, -⟩
    -- Behind a character that ends no word, only the occurrence counts.
    have hmatch : ∀ before after, before.any isWordChar = false →
        ((Migration.pattern s).matchAhead? before (matched ++ after) = some ⟨matched, captures⟩ ↔
          ∃ es, Occurrence s es matched ∧ captures = entryCaptures 1 es) := by
      intro before after hbefore
      rw [← getLast?_toList before] at hbefore ⊢
      rw [matchAhead?_pattern hs]
      exact ⟨fun h => h.2, fun h => ⟨fun _ => hbefore, h⟩⟩
    have hnone := hmatch none [] rfl
    rw [List.append_nil] at hnone
    rw [hmatch before after hbefore, hnone]

/-! ## Migrations -/

section Migrates

variable (h : r.Migrates old new) (hhook : r.hook.toList.head?.any isNameChar = true)

include h

theorem callPattern_of_migrates (hhook : r.hook.toList.head?.any isNameChar = true) :
    CallPattern r.pattern := by
  rw [h.pattern]
  rw [h.hook] at hhook
  exact callPattern_of_head (Signature.wellFormed_of_parse h.old_read) hhook

theorem wellFormed_new : new.WellFormed := by
  obtain ⟨source, -, hparse⟩ := h.new_read
  exact Signature.wellFormed_of_parse hparse

include hhook

/-- What a migration makes of a call that it matches. -/
theorem exists_made_of_replaced? (hm : IsCall m) (hm' : replaced? r m = some m') :
    ∃ es es' inner, Occurrence old es m ∧ List.Forall₂ Entry.Makes es' new.parameters ∧
      ListText es' inner ∧ m' = new.name.toList ++ '(' :: (inner ++ [')']) := by
  have hold := Signature.wellFormed_of_parse h.old_read
  obtain ⟨⟨matched, captures⟩, hx, rfl⟩ := Option.map_eq_some_iff.1 hm'
  obtain rfl : matched = m := (callPattern_of_migrates h hhook).eq_of_match hm hx
  rw [h.pattern] at hx
  obtain ⟨es, hes, rfl⟩ := (matchAhead?_whole hold).1 hx
  obtain ⟨es', inner, hmade, hinner, hrender⟩ := exists_made hold (wellFormed_new h) hes
  refine ⟨es, es', inner, hes, hmade, hinner, ?_⟩
  rw [Rule.replacementFor, h.template, hrender]

/-- A migration matches only calls, and replaces them by calls. -/
theorem callRule_of_migrates : CallRule r where
  pattern := callPattern_of_migrates h hhook
  isCall := by
    intro m m' hm hm'
    obtain ⟨es, es', inner, -, hmade, hinner, rfl⟩ := exists_made_of_replaced? h hhook hm hm'
    have hnew := wellFormed_new h
    exact isCall_of_made hnew.name_ne_nil hnew.name_word hmade hinner

variable (h' : r'.Migrates old' new') (hhook' : r'.hook.toList.head?.any isNameChar = true)

include h' hhook'

/-- Migrations that match the same call have the same hook. -/
theorem hook_eq_of_replaced? (hm : IsCall m) (hr : (replaced? r m).isSome = true)
    (hr' : (replaced? r' m).isSome = true) : r.hook = r'.hook := by
  obtain ⟨m₁, hm₁⟩ := Option.isSome_iff_exists.1 hr
  obtain ⟨m₂, hm₂⟩ := Option.isSome_iff_exists.1 hr'
  obtain ⟨es, -, -, hes, -⟩ := exists_made_of_replaced? h hhook hm hm₁
  obtain ⟨es', -, -, hes', -⟩ := exists_made_of_replaced? h' hhook' hm hm₂
  rw [h.hook, h'.hook]
  exact name_eq_of_occurrence (Signature.wellFormed_of_parse h.old_read)
    (Signature.wellFormed_of_parse h'.old_read) hes hes'

/-- What a migration has made is matched again only by migrations of the new name and, up to blanks,
the new types. -/
theorem eq_of_replaced? (hm : IsCall m) (hm' : replaced? r m = some m')
    (hr' : (replaced? r' m').isSome = true) :
    new.name = r'.hook ∧ solidTypes new = solidTypes old' := by
  obtain ⟨m'', hm''⟩ := Option.isSome_iff_exists.1 hr'
  have hcall := (callRule_of_migrates h hhook).isCall hm hm'
  obtain ⟨-, es', inner, -, hmade, hinner, rfl⟩ := exists_made_of_replaced? h hhook hm hm'
  obtain ⟨es, -, -, hes, -⟩ := exists_made_of_replaced? h' hhook' hcall hm''
  rw [h'.hook]
  exact eq_of_occurrence_made (Signature.wellFormed_of_parse h'.old_read) (wellFormed_new h) hmade
    hinner hes

end Migrates

theorem callRule_of_eligible [PatternEngine] {entries : List HookEntry}
    (hr : r ∈ (RuleSet.compile entries).1.eligible false)
    (hhook : r.hook.toList.head?.any isNameChar = true) : CallRule r := by
  obtain ⟨old, new, h⟩ := RuleSet.exists_migrates hr
  exact callRule_of_migrates h hhook

end HookMigration.Calls
