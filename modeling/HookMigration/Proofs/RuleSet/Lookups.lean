import HookMigration.RuleSet
import Mathlib.Data.List.Nodup
import Mathlib.Data.List.Perm.Subperm

/-!
# The tables of a rule set

A rule set keeps two tables beside its rules, and each new rule is entered in both.  The tables stay
in step with the rules (`Indexed`): the entry of an id is the position of the rule with that id, and
the entry of a hook that of the first rule of the hook.  So a lookup finds what a search through the
rules would find (`Indexed.get?_eq`, `Indexed.byHook?_eq`).

In the table of ids a new entry would take the place of an older one.  That it never does is due to
the search for a free id, which ends at an id without an entry (`Indexed.hasId_freeId`): among as
many numbered ids as there are rules and one more, one is free.  For the same reason ids are
distinct, and an id tells its rule (`Indexed.get?_eq_some_iff`).
-/

namespace HookMigration

namespace Positions

variable {p : Positions} {name other : String} {position : Nat}

theorem lookup_enter :
    (p.enter name position).lookup other =
      if other = name then some position else p.lookup other := by
  rw [enter, List.lookup_cons]
  by_cases h : other = name
  · simp [h]
  · rw [beq_false_of_ne h, if_neg h]

/-- An older entry stays. -/
theorem lookup_enterNew :
    (p.enterNew name position).lookup other =
      (p.lookup other).or (if other = name then some position else none) := by
  unfold enterNew has
  split_ifs with hhas hname hname
  · obtain rfl := hname
    obtain ⟨old, hold⟩ := Option.isSome_iff_exists.1 hhas
    rw [hold, Option.some_or]
  · rw [Option.or_none]
  · obtain rfl := hname
    rw [lookup_enter, if_pos rfl, Option.not_isSome_iff_eq_none.1 hhas, Option.none_or]
  · rw [lookup_enter, if_neg hname, Option.or_none]

end Positions

namespace RuleSet

variable {s : RuleSet} {rule r : Rule} {id hook base : String} {n tries : Nat}

/-- Ids are distinct, and the tables lead to the rule with an id and to the first rule of a
hook. -/
structure Indexed (s : RuleSet) : Prop where
  ids_nodup : (s.rules.map Rule.id).Nodup
  byId : ∀ id, s.byId.lookup id = s.rules.findIdx? (·.id == id)
  byHook : ∀ hook, s.byHook.lookup hook = s.rules.findIdx? (·.hook == hook)

namespace Indexed

theorem get?_eq (h : s.Indexed) (id : String) : s.get? id = s.rules.find? (·.id == id) := by
  rw [get?, h.byId, List.find?_eq_bind_findIdx?_getElem?]

theorem byHook?_eq (h : s.Indexed) (hook : String) :
    s.byHook? hook = s.rules.find? (·.hook == hook) := by
  rw [byHook?, h.byHook, List.find?_eq_bind_findIdx?_getElem?]

theorem hasId_iff (h : s.Indexed) : s.hasId id = true ↔ id ∈ s.rules.map Rule.id := by
  rw [hasId, Positions.has, h.byId, List.findIdx?_isSome]
  simp

/-- An id tells its rule. -/
theorem get?_eq_some_iff (h : s.Indexed) :
    s.get? id = some r ↔ r ∈ s.rules ∧ r.id = id := by
  rw [h.get?_eq]
  constructor
  · intro hr
    exact ⟨List.mem_of_find?_eq_some hr, by simpa using List.find?_some hr⟩
  · rintro ⟨hr, rfl⟩
    obtain ⟨found, hfound⟩ : ∃ found, s.rules.find? (·.id == r.id) = some found :=
      Option.isSome_iff_exists.1 (List.find?_isSome.2 ⟨r, hr, by simp⟩)
    have hsame : found.id = r.id := by simpa using List.find?_some hfound
    rw [hfound, List.inj_on_of_nodup_map h.ids_nodup (List.mem_of_find?_eq_some hfound) hr hsame]

end Indexed

/-! ## Free ids -/

theorem numberedId_injective (base : String) : Function.Injective (numberedId base) := by
  intro m n h
  have htext := congrArg String.toList h
  simp only [numberedId, String.toList_append, Nat.toString_eq_repr, Nat.toList_repr] at htext
  have hdigits := congrArg (Nat.ofDigitChars 10 · 0) (List.append_cancel_left htext)
  simpa only [Nat.ofDigitChars_ten_toDigits] using hdigits

/-- If the search ends with an id in use, all ids that it went through are. -/
theorem hasId_of_hasId_firstFree (h : s.hasId (s.firstFree base n tries) = true) :
    ∀ k ≤ tries, s.hasId (numberedId base (n + k)) = true := by
  induction tries generalizing n with
  | zero =>
      intro k hk
      obtain rfl : k = 0 := Nat.le_zero.1 hk
      exact h
  | succ tries ih =>
      rw [firstFree] at h
      split_ifs at h with hused
      · intro k hk
        cases k with
        | zero => exact hused
        | succ k =>
            have hrest := ih h k (Nat.le_of_succ_le_succ hk)
            rwa [Nat.add_right_comm] at hrest
      · exact absurd h hused

namespace Indexed

/-- As many tries as there are rules are enough. -/
theorem hasId_firstFree (h : s.Indexed) (base : String) (n : Nat) :
    s.hasId (s.firstFree base n s.rules.length) = false := by
  by_contra hused
  -- Then one id more than there are rules would be in use.
  have hall := hasId_of_hasId_firstFree (by simpa using hused)
  have hsubset : (List.range (s.rules.length + 1)).map (fun k => numberedId base (n + k)) ⊆
      s.rules.map Rule.id := by
    intro id hid
    obtain ⟨k, hk, rfl⟩ := List.mem_map.1 hid
    exact h.hasId_iff.1 (hall k (Nat.le_of_lt_succ (List.mem_range.1 hk)))
  have hnodup : ((List.range (s.rules.length + 1)).map fun k => numberedId base (n + k)).Nodup := by
    refine List.nodup_range.map fun j k hjk => ?_
    exact Nat.add_left_cancel (numberedId_injective base hjk)
  have hlength := (hnodup.subperm hsubset).length_le
  rw [List.length_map, List.length_map, List.length_range] at hlength
  omega

theorem hasId_freeId (h : s.Indexed) (base : String) : s.hasId (s.freeId base) = false := by
  unfold freeId
  split_ifs with hused
  · exact h.hasId_firstFree base 2
  · simpa using hused

theorem freeId_not_mem (h : s.Indexed) (base : String) :
    s.freeId base ∉ s.rules.map Rule.id := by
  rw [← h.hasId_iff, h.hasId_freeId]
  exact Bool.false_ne_true

end Indexed

/-! ## One rule more, and all entries -/

theorem rules_push (s : RuleSet) (rule : Rule) :
    (s.push rule).rules = s.rules ++ [{ rule with id := s.freeId rule.id }] := rfl

theorem indexed_empty : empty.Indexed :=
  ⟨List.nodup_nil, fun _ => rfl, fun _ => rfl⟩

/-- A rule that is entered in both tables under a free id keeps them in step. -/
theorem Indexed.push (h : s.Indexed) (rule : Rule) : (s.push rule).Indexed where
  ids_nodup := by
    rw [rules_push, List.map_append, List.map_singleton, ← List.concat_eq_append]
    exact (List.nodup_concat _ _).2 ⟨h.freeId_not_mem rule.id, h.ids_nodup⟩
  byId id := by
    have hlookup : (s.push rule).byId.lookup id =
        if id = s.freeId rule.id then some s.rules.length else s.byId.lookup id :=
      Positions.lookup_enter
    rw [hlookup, rules_push, List.findIdx?_append, ← h.byId]
    by_cases hid : id = s.freeId rule.id
    · -- the free id has no older entry that the new one could take the place of
      have hfree : s.byId.lookup id = none := by
        rw [hid]
        exact Option.not_isSome_iff_eq_none.1 (Bool.eq_false_iff.1 (h.hasId_freeId rule.id))
      simp [hid ▸ hfree, hid]
    · simp [hid, Ne.symm hid]
  byHook hook := by
    have hlookup : (s.push rule).byHook.lookup hook =
        (s.byHook.lookup hook).or (if hook = rule.hook then some s.rules.length else none) :=
      Positions.lookup_enterNew
    rw [hlookup, rules_push, List.findIdx?_append, ← h.byHook]
    by_cases hhook : hook = rule.hook
    · simp [hhook]
    · simp [hhook, Ne.symm hhook]

section Entries

variable [PatternEngine]

theorem Indexed.pushEntries (h : s.Indexed) (entries : List HookEntry) :
    (s.pushEntries entries).1.Indexed := by
  induction entries generalizing s with
  | nil => exact h
  | cons entry rest ih =>
      unfold RuleSet.pushEntries
      cases hentry : Rule.compileEntry entry with
      | ok rule => exact ih (h.push rule)
      | error e => exact ih h

/-- The tables of a compiled rule set lead to its rules. -/
theorem indexed_compile (entries : List HookEntry) : (compile entries).1.Indexed :=
  indexed_empty.pushEntries entries

end Entries

end RuleSet

end HookMigration
