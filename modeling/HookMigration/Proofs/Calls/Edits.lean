import HookMigration.Proofs.Calls.Stretches
import HookMigration.Proofs.Records.Edits

/-!
# The edits that rules suggest

Every rule that matches a call of a text suggests one edit of it.  Read off the chunks of the text,
these are the edits for the matches among its stretches (`editsFrom_stretches`).

Rules are separate when a call that one of them matches is not matched by the others, neither as it
stands nor after the replacement.  Then a call has one edit at most, the edits of a text lie apart,
and applying them at once does what the rules do one after the other
(`foldl_apply_eq_applyEdits`).
-/

namespace HookMigration.Calls

open Pattern Text

variable {r : Rule} {rules rules' : List Rule} {m m' : List Char} {chunks : List Chunk}
  {offset : Nat}

/-! ## Edits of chunks -/

/-- What rules make of a call as it stands. -/
def results (rules : List Rule) (m : List Char) : List (List Char) :=
  rules.filterMap (replaced? · m)

/-- An edit of a call that stands at an offset. -/
def callEdit (offset : Nat) (m m' : List Char) : Edit :=
  ⟨⟨offset, offset + byteLength m⟩, String.ofList m'⟩

/-- The edits that rules suggest for chunks from an offset on. -/
def editsFrom (rules : List Rule) (offset : Nat) : List Chunk → List Edit
  | [] => []
  | .plain c :: rest => editsFrom rules (offset + c.utf8Size) rest
  | .call m :: rest =>
    (results rules m).map (callEdit offset m) ++ editsFrom rules (offset + byteLength m) rest

theorem start_of_mem_editsFrom {e : Edit} (he : e ∈ editsFrom rules offset chunks) :
    offset ≤ e.span.start := by
  induction chunks generalizing offset with
  | nil => simp [editsFrom] at he
  | cons chunk rest ih =>
      cases chunk with
      | plain c => exact Nat.le_trans (Nat.le_add_right _ _) (ih he)
      | call m =>
          rcases List.mem_append.1 he with he | he
          · obtain ⟨m', -, rfl⟩ := List.mem_map.1 he
            exact Nat.le_refl _
          · exact Nat.le_trans (Nat.le_add_right _ _) (ih he)

/-! ## Edits of stretches -/

theorem editsFrom_map_plain (r : Rule) (offset : Nat) (cs : List Char) :
    r.editsFrom offset (cs.map Stretch.plain) = [] := by
  induction cs generalizing offset with
  | nil => rfl
  | cons c rest ih => exact ih _

/-- The edits for the stretches of a chunk. -/
theorem editsFrom_stretches_chunk (hr : CallRule r) {chunk : Chunk}
    (hcall : ∀ m, chunk = .call m → IsCall m) (offset : Nat) :
    r.editsFrom offset (chunk.stretches r.pattern) = editsFrom [r] offset [chunk] ∧
      scanned (chunk.stretches r.pattern) = chunk.text := by
  cases chunk with
  | plain c => exact ⟨rfl, rfl⟩
  | call m =>
      cases hmatch : r.pattern.matchAhead? none m with
      | none =>
          simp [Chunk.stretches, Chunk.text, hmatch, editsFrom_map_plain, editsFrom, results,
            replaced?, scanned, List.flatMap_map, Stretch.text]
      | some x =>
          obtain rfl := hr.pattern.eq_of_match (hcall m rfl) hmatch
          simp [Chunk.stretches, Chunk.text, hmatch, Rule.editsFrom, editsFrom, results,
            replaced?, callEdit, scanned, Stretch.text]

/-- The edits for the stretches of a text are those of its chunks. -/
theorem editsFrom_stretches (hr : CallRule r) (hcalls : ∀ m, .call m ∈ chunks → IsCall m)
    (offset : Nat) :
    r.editsFrom offset (chunks.flatMap (Chunk.stretches r.pattern)) =
      editsFrom [r] offset chunks := by
  induction chunks generalizing offset with
  | nil => rfl
  | cons chunk rest ih =>
      have hrest := ih fun m hm => hcalls m (List.mem_cons_of_mem _ hm)
      obtain ⟨hedits, htext⟩ := editsFrom_stretches_chunk hr
        (fun m hm => hcalls m (hm ▸ List.mem_cons_self)) offset
      rw [List.flatMap_cons, Rule.editsFrom_append, hedits, htext, hrest]
      cases chunk with
      | plain c => rfl
      | call m => simp [editsFrom, Chunk.text]

/-! ## Edits of several rules -/

theorem flatMap_results (rules : List Rule) (f : List Char → Edit) :
    rules.flatMap (fun r => (results [r] m).map f) = (results rules m).map f := by
  induction rules with
  | nil => rfl
  | cons r rest ih =>
      rw [List.flatMap_cons, ih, ← List.map_append]
      congr 1
      cases h : replaced? r m <;> simp [results, h]

/-- The edits of several rules are the edits of each, in another order. -/
theorem perm_editsFrom (rules : List Rule) (offset : Nat) (chunks : List Chunk) :
    (rules.flatMap fun r => editsFrom [r] offset chunks).Perm (editsFrom rules offset chunks) := by
  induction chunks generalizing offset with
  | nil =>
      have hnil : (rules.flatMap fun r => editsFrom [r] offset []) = [] := by simp [editsFrom]
      rw [hnil]
      exact .refl _
  | cons chunk rest ih =>
      cases chunk with
      | plain c => exact ih (offset + c.utf8Size)
      | call m =>
          refine (List.flatMap_append_perm rules _ _).symm.trans ?_
          rw [flatMap_results]
          exact (ih (offset + byteLength m)).append_left _

/-! ## Separate rules -/

/-- Of two rules, the second matches no call that the first one matches, neither before nor after
the replacement. -/
def Separate (a b : Rule) : Prop :=
  ∀ m m', IsCall m → replaced? a m = some m' → replaced? b m = none ∧ replaced? b m' = none

theorem Quiet.results_eq (h : Quiet rules m) : results rules m = [] := by
  rw [results, List.filterMap_eq_nil_iff]
  exact h

/-- Of separate rules one at most matches a call, and what it makes is what all of them make. -/
theorem results_cases (hrules : rules.Pairwise Separate) (hm : IsCall m) :
    (results rules m = [] ∧ replacedBy rules m = m ∧ replacements rules m = 0) ∨
      ∃ m', results rules m = [m'] ∧ replacedBy rules m = m' ∧ replacements rules m = 1 := by
  induction rules with
  | nil => exact .inl ⟨rfl, rfl, rfl⟩
  | cons r rest ih =>
      rw [List.pairwise_cons] at hrules
      cases hr : replaced? r m with
      | none =>
          have hresults : results (r :: rest) m = results rest m := by simp [results, hr]
          have hcount : replacements (r :: rest) m = replacements rest m := by
            rw [replacements, hr, replaced_of_none hr]
            simp
          rw [hresults, hcount, replacedBy_cons, replaced_of_none hr]
          exact ih hrules.2
      | some m' =>
          -- The other rules match neither the call nor what was made of it.
          have hbefore : Quiet rest m := fun q hq => (hrules.1 q hq m m' hm hr).1
          have hafter : Quiet rest m' := fun q hq => (hrules.1 q hq m m' hm hr).2
          refine .inr ⟨m', ?_, ?_, ?_⟩
          · simpa [results, hr] using hbefore.results_eq
          · rw [replacedBy_cons, replaced_of_some hr, hafter.replacedBy_eq]
          · rw [replacements, hr, replaced_of_some hr, hafter.replacements_eq]
            rfl

section Separate

variable (hrules : rules.Pairwise Separate) (hcalls : ∀ m, .call m ∈ chunks → IsCall m)

include hrules hcalls

/-- The edits that separate rules suggest lie apart. -/
theorem pairwise_apart_editsFrom (offset : Nat) :
    (editsFrom rules offset chunks).Pairwise Edit.Apart := by
  induction chunks generalizing offset with
  | nil => exact .nil
  | cons chunk rest ih =>
      have hrest := ih fun m hm => hcalls m (List.mem_cons_of_mem _ hm)
      cases chunk with
      | plain c => exact hrest (offset + c.utf8Size)
      | call m =>
          rw [editsFrom]
          rcases results_cases hrules (hcalls m List.mem_cons_self) with
            ⟨hresults, -⟩ | ⟨m', hresults, -⟩
          · rw [hresults]
            exact hrest (offset + byteLength m)
          · rw [hresults]
            refine .cons (fun e he => .inl ?_) (hrest (offset + byteLength m))
            exact start_of_mem_editsFrom he

/-- There are as many edits as replacements when the rules are applied one after the other. -/
theorem length_editsFrom (offset : Nat) :
    (editsFrom rules offset chunks).length = (chunks.map (Chunk.replacements rules)).sum := by
  induction chunks generalizing offset with
  | nil => rfl
  | cons chunk rest ih =>
      have hrest := ih fun m hm => hcalls m (List.mem_cons_of_mem _ hm)
      rw [List.map_cons, List.sum_cons]
      cases chunk with
      | plain c => rw [editsFrom, hrest, Chunk.replacements, Nat.zero_add]
      | call m =>
          rw [editsFrom, List.length_append, List.length_map, hrest, Chunk.replacements]
          rcases results_cases hrules (hcalls m List.mem_cons_self) with
            ⟨hresults, -, hcount⟩ | ⟨m', hresults, -, hcount⟩ <;>
          · rw [hresults, hcount]
            rfl

theorem applyEditsFrom_textOf (offset : Nat) :
    applyEditsFrom (editsFrom rules offset chunks) offset (textOf chunks) =
      textOf (chunks.map (Chunk.mapCall (replacedBy rules))) := by
  induction chunks generalizing offset with
  | nil => rfl
  | cons chunk rest ih =>
      have hrest := ih fun m hm => hcalls m (List.mem_cons_of_mem _ hm)
      -- no edit of the later chunks reaches back to a text in front of them
      have hstays : ∀ cs : List Char,
          applyEditsFrom (editsFrom rules (offset + byteLength cs) rest) offset
            (cs ++ textOf rest) = cs ++ textOf (rest.map (Chunk.mapCall (replacedBy rules))) := by
        intro cs
        rw [applyEditsFrom_uncovered fun e he => .inr (start_of_mem_editsFrom he), hrest]
      cases chunk with
      | plain c => exact hstays [c]
      | call m =>
          have hm := hcalls m List.mem_cons_self
          have hapart := pairwise_apart_editsFrom hrules hcalls offset
          rw [editsFrom] at hapart ⊢
          rw [textOf_call, List.map_cons, Chunk.mapCall, textOf_call]
          rcases results_cases hrules hm with ⟨hresults, hmakes, -⟩ | ⟨m', hresults, hmakes, -⟩
          · -- no rule matches the call
            rw [hresults, hmakes]
            exact hstays m
          · rw [hresults, List.map_singleton, List.singleton_append] at hapart ⊢
            have hstart : (callEdit offset m m').span.start = offset := rfl
            have hstop : (callEdit offset m m').span.stop = offset + byteLength m := rfl
            rw [applyEditsFrom_cons hapart hm.ne_nil hstart hstop, hrest, hmakes, callEdit,
              String.toList_ofList]

/-- Applying the edits at once does what the rules do one after the other. -/
theorem applyEdits_textOf :
    applyEdits (editsFrom rules 0 chunks) (String.ofList (textOf chunks)) =
      String.ofList (textOf (chunks.map (Chunk.mapCall (replacedBy rules)))) := by
  rw [applyEdits, String.toList_ofList, applyEditsFrom_textOf hrules hcalls]

omit hcalls in
/-- Applying separate rules to a text one after the other applies their edits at once. -/
theorem foldl_apply_eq_applyEdits (hcallRules : ∀ r ∈ rules, CallRule r) (hcut : Cut none chunks) :
    rules.foldl Fixed.apply ⟨String.ofList (textOf chunks), 0⟩ =
      ⟨applyEdits (editsFrom rules 0 chunks) (String.ofList (textOf chunks)),
        (editsFrom rules 0 chunks).length⟩ := by
  have hcalls : ∀ m, .call m ∈ chunks → IsCall m := fun m hm => hcut.isCall hm
  calc rules.foldl Fixed.apply ⟨String.ofList (textOf chunks), 0⟩
      = ⟨String.ofList (textOf (chunks.map (Chunk.mapCall (replacedBy rules)))),
          0 + (chunks.map (Chunk.replacements rules)).sum⟩ :=
        foldl_apply_textOf hcallRules hcut 0
    _ = ⟨applyEdits (editsFrom rules 0 chunks) (String.ofList (textOf chunks)),
          (editsFrom rules 0 chunks).length⟩ := by
        rw [applyEdits_textOf hrules hcalls, length_editsFrom hrules hcalls, Nat.zero_add]

end Separate

/-! ## The order of the rules -/

/-- Separate rules do the same to a call in any order. -/
theorem replacedBy_perm (hperm : rules.Perm rules') (hrules : rules.Pairwise Separate)
    (hrules' : rules'.Pairwise Separate) (hm : IsCall m) :
    replacedBy rules m = replacedBy rules' m ∧ replacements rules m = replacements rules' m := by
  have hresults : (results rules m).Perm (results rules' m) := hperm.filterMap _
  rcases results_cases hrules hm with ⟨h, hreplaced, hcount⟩ | ⟨k, h, hreplaced, hcount⟩ <;>
  rcases results_cases hrules' hm with ⟨h', hreplaced', hcount'⟩ | ⟨k', h', hreplaced', hcount'⟩
  · exact ⟨hreplaced.trans hreplaced'.symm, hcount.trans hcount'.symm⟩
  · rw [h, h'] at hresults
    simp at hresults
  · rw [h, h'] at hresults
    simp at hresults
  · rw [h, h'] at hresults
    obtain rfl : k = k' := by simpa using hresults
    exact ⟨hreplaced.trans hreplaced'.symm, hcount.trans hcount'.symm⟩

end HookMigration.Calls
