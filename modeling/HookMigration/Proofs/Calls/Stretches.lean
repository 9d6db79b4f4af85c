import HookMigration.Proofs.Calls.Basic
import HookMigration.Proofs.RuleSet.Turns

/-!
# Rules that match calls

The pattern of a rule for a hook matches nothing but calls that stand in the text, and whether it
matches one depends on that call alone.  For such a pattern the stretches of a text are read off its
cut into calls (`stretchesFrom_textOf`): each call is matched as a whole or left alone.  Applying
such a rule, whose replacements are calls, therefore exchanges calls for calls and counts those that
it exchanges (`apply_textOf`).
-/

namespace HookMigration.Calls

open Pattern

variable {p : Pattern} {before : Option Char} {m u v after : List Char} {chunks : List Chunk}

/-! ## Patterns of calls -/

/-- A pattern matches only calls that stand in the text, and whether it matches one depends on the
call alone. -/
structure CallPattern (p : Pattern) : Prop where
  stands : ∀ {before ahead x}, p.matchAhead? before ahead = some x →
    ∃ after, ahead = x.matched ++ after ∧ Stands before x.matched
  alone : ∀ {before after x}, Stands before x.matched →
    (p.matchAhead? before (x.matched ++ after) = some x ↔ p.matchAhead? none x.matched = some x)

/-- Where a call stands, the pattern matches it as a whole or not at all. -/
theorem CallPattern.matchAhead?_call (hp : CallPattern p) (hm : Stands before m) :
    p.matchAhead? before (m ++ after) = p.matchAhead? none m := by
  have hwhole : ∀ before after x, p.matchAhead? before (m ++ after) = some x → m = x.matched := by
    intro before after x hx
    obtain ⟨rest, htext, hstands⟩ := hp.stands hx
    exact hm.2.unique hstands.2 htext
  ext x
  constructor
  · intro hx
    obtain rfl := hwhole before after x hx
    exact (hp.alone hm).1 hx
  · intro hx
    obtain rfl := hwhole none [] x (by rwa [List.append_nil])
    exact (hp.alone hm).2 hx

theorem CallPattern.eq_of_match (hp : CallPattern p) (hm : IsCall m) {x : Match}
    (hx : p.matchAhead? none m = some x) : x.matched = m := by
  obtain ⟨rest, htext, hstands⟩ := hp.stands hx
  exact (hm.unique (x := []) hstands.2 (by rwa [List.append_nil])).symm

/-! ## Stretches -/

/-- Behind the beginning of a call nothing is matched until its end. -/
theorem CallPattern.stretchesFrom_inside (hp : CallPattern p) (hm : IsCall (u ++ v)) (hu : u ≠ []) :
    p.stretchesFrom u.getLast? (v ++ after) =
      v.map Stretch.plain ++ p.stretchesFrom (some ')') after := by
  induction v generalizing u with
  | nil =>
      rw [List.append_nil] at hm
      rw [hm.getLast?_eq]
      rfl
  | cons c rest ih =>
      have hnone : p.matchAhead? u.getLast? (c :: (rest ++ after)) = none := by
        rw [Option.eq_none_iff_forall_ne_some]
        intro x hx
        obtain ⟨others, htext, hstands⟩ := hp.stands hx
        exact not_stands_inside hm hu (List.cons_ne_nil c rest) hstands htext
      have hlast : (u ++ [c]).getLast? = some c := by simp
      have hrest := ih (u := u ++ [c]) (by simpa using hm) (by simp)
      rw [hlast] at hrest
      rw [List.cons_append, stretchesFrom_none hnone, hrest]
      rfl

/-- The stretches of a chunk. -/
def Chunk.stretches (p : Pattern) : Chunk → List Stretch
  | .plain c => [.plain c]
  | .call m =>
    match p.matchAhead? none m with
    | some x => [.hit x]
    | none => m.map .plain

/-- The stretches of a text are those of its chunks. -/
theorem CallPattern.stretchesFrom_textOf (hp : CallPattern p) (hcut : Cut before chunks) :
    p.stretchesFrom before (textOf chunks) = chunks.flatMap (Chunk.stretches p) := by
  induction hcut with
  | nil => simp [stretchesFrom]
  | @plain before c rest hnone hrest ih =>
      have hmatch : p.matchAhead? before (c :: textOf rest) = none := by
        rw [Option.eq_none_iff_forall_ne_some]
        intro x hx
        obtain ⟨after, htext, hstands⟩ := hp.stands hx
        exact hnone _ _ hstands htext
      rw [textOf_plain, stretchesFrom_none hmatch, ih]
      rfl
  | @call before m rest hstands hrest ih =>
      have hcall : p.matchAhead? before (m ++ textOf rest) = p.matchAhead? none m :=
        hp.matchAhead?_call hstands
      rw [textOf_call, List.flatMap_cons, ← ih]
      cases hmatch : p.matchAhead? none m with
      | some x =>
          -- The call is matched as a whole.
          obtain rfl := hp.eq_of_match hstands.2 hmatch
          rw [hmatch] at hcall
          rw [stretchesFrom_some hstands.2.ne_nil hcall, hstands.2.getLast?_eq]
          simp [Chunk.stretches, hmatch]
      | none =>
          -- The call is not matched where it begins, and then not before it ends.
          obtain ⟨c, others, rfl⟩ := List.exists_cons_of_ne_nil hstands.2.ne_nil
          have hinside : p.stretchesFrom (some c) (others ++ textOf rest) =
              others.map Stretch.plain ++ p.stretchesFrom (some ')') (textOf rest) :=
            hp.stretchesFrom_inside (u := [c]) hstands.2 (List.cons_ne_nil c [])
          rw [hmatch, List.cons_append] at hcall
          rw [List.cons_append, stretchesFrom_none hcall]
          simpa [Chunk.stretches, hmatch] using hinside

/-! ## Applying rules -/

/-- What a rule makes of a call that it matches. -/
def replaced? (r : Rule) (m : List Char) : Option (List Char) :=
  (r.pattern.matchAhead? none m).map fun x => (r.replacementFor x).toList

/-- What a rule makes of a call. -/
def replaced (r : Rule) (m : List Char) : List Char :=
  (replaced? r m).getD m

/-- A rule matches only calls, and replaces them by calls. -/
structure CallRule (r : Rule) : Prop where
  pattern : CallPattern r.pattern
  isCall : ∀ {m m'}, IsCall m → replaced? r m = some m' → IsCall m'

variable {r : Rule} {rules : List Rule}

theorem replaced_of_none (h : replaced? r m = none) : replaced r m = m := by
  rw [replaced, h, Option.getD_none]

theorem replaced_of_some {m' : List Char} (h : replaced? r m = some m') : replaced r m = m' := by
  rw [replaced, h, Option.getD_some]

theorem CallRule.isCall_replaced (hr : CallRule r) (hm : IsCall m) : IsCall (replaced r m) := by
  cases hm' : replaced? r m with
  | none => rwa [replaced_of_none hm']
  | some m' =>
      rw [replaced_of_some hm']
      exact hr.isCall hm hm'

/-- Whether a rule matches a chunk. -/
def Chunk.isHit (r : Rule) : Chunk → Bool
  | .plain _ => false
  | .call m => (replaced? r m).isSome

theorem hitCount_map_plain (cs : List Char) : hitCount (cs.map Stretch.plain) = 0 := by
  simp [hitCount, Stretch.isHit]

theorem replaceHits_map_plain (replacement : Match → List Char) (cs : List Char) :
    replaceHits replacement (cs.map Stretch.plain) = cs := by
  simp [replaceHits, List.flatMap_map]

theorem hitCount_stretches (r : Rule) (chunk : Chunk) :
    hitCount (chunk.stretches r.pattern) = if chunk.isHit r then 1 else 0 := by
  cases chunk with
  | plain c => rfl
  | call m =>
      cases hmatch : r.pattern.matchAhead? none m with
      | none => simp [Chunk.stretches, Chunk.isHit, replaced?, hmatch, hitCount_map_plain]
      | some x => simp [Chunk.stretches, Chunk.isHit, replaced?, hmatch, hitCount, Stretch.isHit]

theorem replaceHits_stretches (r : Rule) (chunk : Chunk) :
    replaceHits (fun x => (r.replacementFor x).toList) (chunk.stretches r.pattern) =
      (chunk.mapCall (replaced r)).text := by
  cases chunk with
  | plain c => rfl
  | call m =>
      cases hmatch : r.pattern.matchAhead? none m with
      | none =>
          simp [Chunk.stretches, Chunk.mapCall, Chunk.text, replaced, replaced?, hmatch,
            replaceHits_map_plain]
      | some x =>
          simp [Chunk.stretches, Chunk.mapCall, Chunk.text, replaced, replaced?, hmatch,
            replaceHits]

/-- The number of matches of a rule in a text is the number of calls that it matches. -/
theorem CallRule.hitCount_textOf (hr : CallRule r) (hcut : Cut none chunks) :
    hitCount (r.stretches (String.ofList (textOf chunks))) = chunks.countP (Chunk.isHit r) := by
  rw [Rule.stretches, Pattern.stretches, String.toList_ofList, hr.pattern.stretchesFrom_textOf hcut]
  clear hcut
  induction chunks with
  | nil => rfl
  | cons chunk rest ih =>
      have hsum : hitCount ((chunk :: rest).flatMap (Chunk.stretches r.pattern)) =
          hitCount (chunk.stretches r.pattern) +
            hitCount (rest.flatMap (Chunk.stretches r.pattern)) := by
        simp [hitCount]
      rw [hsum, ih, hitCount_stretches, List.countP_cons, Nat.add_comm]

/-- A text with the matches of a rule replaced is the text with its calls replaced. -/
theorem CallRule.replaceAll_textOf (hr : CallRule r) (hcut : Cut none chunks) :
    r.replaceAll (String.ofList (textOf chunks)) =
      String.ofList (textOf (chunks.map (Chunk.mapCall (replaced r)))) := by
  rw [Rule.replaceAll, Rule.stretches, Pattern.stretches, String.toList_ofList,
    hr.pattern.stretchesFrom_textOf hcut]
  congr 1
  clear hcut
  induction chunks with
  | nil => rfl
  | cons chunk rest ih =>
      have hparts : replaceHits (fun x => (r.replacementFor x).toList)
          ((chunk :: rest).flatMap (Chunk.stretches r.pattern)) =
            replaceHits (fun x => (r.replacementFor x).toList) (chunk.stretches r.pattern) ++
            replaceHits (fun x => (r.replacementFor x).toList)
              (rest.flatMap (Chunk.stretches r.pattern)) := by
        simp [replaceHits]
      rw [hparts, ih, replaceHits_stretches]
      rfl

/-- Applying a rule replaces the calls that it matches, and counts them. -/
theorem CallRule.apply_textOf (hr : CallRule r) (hcut : Cut none chunks) (n : Nat) :
    Fixed.apply ⟨String.ofList (textOf chunks), n⟩ r =
      ⟨String.ofList (textOf (chunks.map (Chunk.mapCall (replaced r)))),
        n + chunks.countP (Chunk.isHit r)⟩ := by
  rw [Fixed.apply_eq, hr.replaceAll_textOf hcut, Rule.length_records, hr.hitCount_textOf hcut]

/-- What rules make of a call, one after the other. -/
def replacedBy (rules : List Rule) (m : List Char) : List Char :=
  rules.foldl (fun m r => replaced r m) m

/-- How often rules replace a call, one after the other. -/
def replacements : List Rule → List Char → Nat
  | [], _ => 0
  | r :: rest, m => (if (replaced? r m).isSome then 1 else 0) + replacements rest (replaced r m)

theorem replacedBy_cons (r : Rule) (rules : List Rule) (m : List Char) :
    replacedBy (r :: rules) m = replacedBy rules (replaced r m) := rfl

/-- No rule matches a call. -/
def Quiet (rules : List Rule) (m : List Char) : Prop :=
  ∀ r ∈ rules, replaced? r m = none

theorem Quiet.replacedBy_eq (h : Quiet rules m) : replacedBy rules m = m := by
  induction rules with
  | nil => rfl
  | cons r rest ih =>
      rw [replacedBy_cons, replaced_of_none (h r List.mem_cons_self)]
      exact ih fun q hq => h q (List.mem_cons_of_mem _ hq)

theorem Quiet.replacements_eq (h : Quiet rules m) : replacements rules m = 0 := by
  induction rules with
  | nil => rfl
  | cons r rest ih =>
      have hr := h r List.mem_cons_self
      have hrest := ih fun q hq => h q (List.mem_cons_of_mem _ hq)
      rw [replacements, hr, replaced_of_none hr, hrest]
      rfl

/-- How often rules replace a chunk. -/
def Chunk.replacements (rules : List Rule) : Chunk → Nat
  | .plain _ => 0
  | .call m => Calls.replacements rules m

theorem sum_replacements_nil (chunks : List Chunk) :
    (chunks.map (Chunk.replacements [])).sum = 0 := by
  induction chunks with
  | nil => rfl
  | cons chunk rest ih => cases chunk <;> simpa [Chunk.replacements, Calls.replacements] using ih

theorem sum_replacements_cons (r : Rule) (rules : List Rule) (chunks : List Chunk) :
    (chunks.map (Chunk.replacements (r :: rules))).sum = chunks.countP (Chunk.isHit r) +
      ((chunks.map (Chunk.mapCall (replaced r))).map (Chunk.replacements rules)).sum := by
  induction chunks with
  | nil => rfl
  | cons chunk rest ih =>
      have hchunk : chunk.replacements (r :: rules) =
          (if chunk.isHit r then 1 else 0) +
            (chunk.mapCall (replaced r)).replacements rules := by
        cases chunk <;> rfl
      simp only [List.map_cons, List.sum_cons, List.countP_cons] at ih ⊢
      omega

/-- Applying rules one after the other does to each call what they do to it alone. -/
theorem foldl_apply_textOf (hrules : ∀ r ∈ rules, CallRule r) (hcut : Cut none chunks) (n : Nat) :
    rules.foldl Fixed.apply ⟨String.ofList (textOf chunks), n⟩ =
      ⟨String.ofList (textOf (chunks.map (Chunk.mapCall (replacedBy rules)))),
        n + (chunks.map (Chunk.replacements rules)).sum⟩ := by
  induction rules generalizing chunks n with
  | nil =>
      have htext : chunks.map (Chunk.mapCall (replacedBy [])) = chunks :=
        map_mapCall_eq_self fun m _ => rfl
      rw [htext, sum_replacements_nil]
      rfl
  | cons r rest ih =>
      have hr := hrules r List.mem_cons_self
      have hcut' := hcut.map fun m hm => hr.isCall_replaced hm
      have hcompose : Chunk.mapCall (replacedBy rest) ∘ Chunk.mapCall (replaced r) =
          Chunk.mapCall (replacedBy (r :: rest)) := by
        funext chunk
        cases chunk <;> rfl
      rw [List.foldl_cons, hr.apply_textOf hcut,
        ih (fun q hq => hrules q (List.mem_cons_of_mem _ hq)) hcut', List.map_map, hcompose,
        sum_replacements_cons, Nat.add_assoc]

/-- Rules that do the same to every call of a text do the same to the text. -/
theorem foldl_apply_congr {rules' : List Rule} (hrules : ∀ r ∈ rules, CallRule r)
    (hrules' : ∀ r ∈ rules', CallRule r) (hcut : Cut none chunks)
    (h : ∀ m, .call m ∈ chunks →
      replacedBy rules m = replacedBy rules' m ∧ replacements rules m = replacements rules' m)
    (n : Nat) :
    rules.foldl Fixed.apply ⟨String.ofList (textOf chunks), n⟩ =
      rules'.foldl Fixed.apply ⟨String.ofList (textOf chunks), n⟩ := by
  have hmade : chunks.map (Chunk.mapCall (replacedBy rules)) =
      chunks.map (Chunk.mapCall (replacedBy rules')) :=
    map_mapCall_congr fun m hm => (h m hm).1
  have hcount : chunks.map (Chunk.replacements rules) = chunks.map (Chunk.replacements rules') := by
    refine List.map_congr_left fun chunk hchunk => ?_
    cases chunk with
    | plain c => rfl
    | call m => exact (h m hchunk).2
  rw [foldl_apply_textOf hrules hcut, foldl_apply_textOf hrules' hcut, hmade, hcount]

end HookMigration.Calls
