import HookMigration.Proofs.RuleSet.KeptNames

/-!
# New signatures that differ in blanks

A pattern ignores the blanks inside of the types of its signature.  So a new signature may be
expected to do the same, be the types in it spaced one way or another.  Its template compares the
types of old and new parameters as they are written, however, and a type that is spaced in another
way is not found among the old ones.  Then the name is taken from another place.

Nothing else can happen.  Two rules for such signatures make the same of all texts, up to blanks,
exactly if they take the name of each parameter from the same place
(`Rule.replaceAll_alike_iff`).  That they do otherwise is seen in a text where the names at the two
places differ: the names are read off the results one by one, from left to right
(`nameSources_eq_of_solidList`).
-/

namespace HookMigration

open Pattern Text

open Migration (solid)

/-- Two parameters that differ only in the blanks of their types. -/
structure Parameter.Respaces (p q : Parameter) : Prop where
  type_solid : solid p.type.toList = solid q.type.toList
  name_eq : p.name = q.name
  synthesized_eq : p.synthesized = q.synthesized

/-- Two signatures that differ only in the blanks of their types. -/
structure Signature.Respaces (s t : Signature) : Prop where
  name_eq : s.name = t.name
  parameters : List.Forall₂ Parameter.Respaces s.parameters t.parameters

namespace Migration

/-- Where the names of new parameters from a position on come from. -/
def nameSources (old : List Parameter) (position : Nat) : List Parameter → List (Option Nat)
  | [] => []
  | p :: rest => nameSource old position p :: nameSources old (position + 1) rest

variable {old written ps qs : List Parameter} {p q : Parameter} {position : Nat}

/-! ## The same sources -/

theorem filter_isNameChar_solid (cs : List Char) :
    (solid cs).filter isNameChar = cs.filter isNameChar := by
  rw [solid, List.filter_filter]
  refine List.filter_congr fun c _ => ?_
  cases hname : isNameChar c with
  | false => rfl
  | true => simp [isBlank_eq_false_of_isNameChar hname]

theorem literalName_eq_of_respaces (h : p.Respaces q) (position : Nat) :
    literalName p position = literalName q position := by
  have hletters : p.type.toList.filter isNameChar = q.type.toList.filter isNameChar := by
    rw [← filter_isNameChar_solid, h.type_solid, filter_isNameChar_solid]
  unfold literalName
  rw [hletters, h.name_eq, h.synthesized_eq]

/-- A name that comes from a given source. -/
def sourcedName (written : List Parameter) (literal : String) (source : Option Nat) : String :=
  (source.bind (written[·]?)).elim literal Parameter.name

theorem name_supplied (old written : List Parameter) (position : Nat) (p : Parameter) :
    (supplied old written position p).name =
      sourcedName written (literalName p position) (nameSource old position p) := rfl

theorem solidList_cons (p : Parameter) (rest : List Parameter) :
    solidList (p :: rest) =
      ',' :: (solid p.type.toList ++ (solid p.name.toList ++ solidList rest)) := by
  simp [solidList]

/-- What is supplied is the same up to blanks, where the names come from the same places. -/
theorem solidList_suppliedFrom_congr (hwritten : HasTypes written old)
    (h : List.Forall₂ Parameter.Respaces ps qs)
    (hsources : nameSources old position ps = nameSources old position qs) :
    solidList (suppliedFrom old written position ps) =
      solidList (suppliedFrom old written position qs) := by
  induction h generalizing position with
  | nil => rfl
  | @cons p q ps qs hfirst hrest ih =>
      obtain ⟨hsource, hothers⟩ := List.cons.inj hsources
      rw [suppliedFrom, suppliedFrom, solidList_cons, solidList_cons, ih hothers, name_supplied,
        name_supplied, hsource, literalName_eq_of_respaces hfirst, solid_type_supplied hwritten,
        solid_type_supplied hwritten, hfirst.type_solid]

/-! ## Different sources -/

section Marked

variable (mark : Nat → Prop) [DecidablePred mark]

theorem hasTypes_marked (ps : List Parameter) : HasTypes (marked mark ps) ps := by
  rw [HasTypes, List.forall₂_iff_get]
  refine ⟨by simp [marked], fun i hi hi' => ?_⟩
  simp only [marked, List.get_eq_getElem, List.getElem_mapIdx, String.toList_ofList]
  exact solid_eq_self fun c => isBlank_of_mem_solid

theorem sourcedName_marked {i : Nat} (hi : i < old.length) (literal : String) :
    sourcedName (marked mark old) literal (some i) = if mark i then "b" else "a" := by
  simp [sourcedName, marked, hi]

end Marked

/-- Sources of a name are the same if in all marked texts the name begins with the same
character. -/
theorem source_eq_of_head? {literal : String} {a b : Option Nat} (hliteral : literal.toList ≠ [])
    (ha : ∀ i, a = some i → i < old.length) (hb : ∀ i, b = some i → i < old.length)
    (h : ∀ (mark : Nat → Prop) [DecidablePred mark],
      (sourcedName (marked mark old) literal a).toList.head? =
        (sourcedName (marked mark old) literal b).toList.head?) : a = b := by
  -- the literal name and a letter that it does not begin with
  have hletter : ∀ i, i < old.length → ∃ (mark : Nat → Prop) (_ : DecidablePred mark),
      (sourcedName (marked mark old) literal (some i)).toList.head? ≠ literal.toList.head? := by
    intro i hi
    obtain ⟨c, rest, hcons⟩ := List.exists_cons_of_ne_nil hliteral
    refine ⟨fun _ => c = 'a', inferInstance, ?_⟩
    rw [sourcedName_marked _ hi, hcons]
    split_ifs with hc
    · subst hc
      simp
    · simpa using Ne.symm hc
  cases a with
  | none =>
      cases b with
      | none => rfl
      | some j =>
          obtain ⟨mark, _, hne⟩ := hletter j (hb j rfl)
          exact absurd (h mark).symm hne
  | some i =>
      cases b with
      | none =>
          obtain ⟨mark, _, hne⟩ := hletter i (ha i rfl)
          exact absurd (h mark) hne
      | some j =>
          -- only the name at the first of the two places is marked
          have hmarked := h (· = i)
          rw [sourcedName_marked _ (ha i rfl), sourcedName_marked _ (hb j rfl), if_pos rfl]
            at hmarked
          by_contra hne
          have hji : j ≠ i := fun heq => hne (by rw [heq])
          rw [if_neg hji] at hmarked
          exact absurd hmarked (by decide)

/-- The name that is supplied for a marked text has no blanks. -/
theorem solid_name_supplied (mark : Nat → Prop) [DecidablePred mark]
    (hname : p.name.toList.all isNameChar = true) (hne : p.name.toList ≠ [])
    (hposition : 1 ≤ position) :
    solid (supplied old (marked mark old) position p).name.toList =
        (supplied old (marked mark old) position p).name.toList ∧
      (supplied old (marked mark old) position p).name.toList ≠ [] := by
  rw [name_supplied]
  cases hsource : nameSource old position p with
  | none =>
      exact ⟨solid_eq_self fun c hc => isBlank_eq_false_of_isInert
        (isInert_literalName hname position c hc), literalName_ne_nil hne position⟩
  | some i =>
      rw [sourcedName_marked mark (nameSource_lt hposition hsource)]
      split_ifs <;> exact ⟨by decide, by decide⟩

/-- The names are read off marked texts one by one. -/
theorem nameSources_eq_of_solidList (hposition : 1 ≤ position)
    (h : List.Forall₂ Parameter.Respaces ps qs)
    (hname : ∀ p ∈ ps, p.name.toList.all isNameChar = true)
    (hne : ∀ p ∈ ps, p.name.toList ≠ [])
    (heq : ∀ (mark : Nat → Prop) [DecidablePred mark],
      solidList (suppliedFrom old (marked mark old) position ps) =
        solidList (suppliedFrom old (marked mark old) position qs)) :
    nameSources old position ps = nameSources old position qs := by
  induction h generalizing position with
  | nil => rfl
  | @cons p q ps qs hfirst hrest ih =>
      rw [List.forall_mem_cons] at hname hne
      have hname' : q.name.toList.all isNameChar = true := hfirst.name_eq ▸ hname.1
      have hne' : q.name.toList ≠ [] := hfirst.name_eq ▸ hne.1
      have hliteral := literalName_eq_of_respaces hfirst position
      -- the types are the same, and behind them stand the names
      have hnames : ∀ (mark : Nat → Prop) [DecidablePred mark],
          (supplied old (marked mark old) position p).name.toList ++
              solidList (suppliedFrom old (marked mark old) (position + 1) ps) =
            (supplied old (marked mark old) position q).name.toList ++
              solidList (suppliedFrom old (marked mark old) (position + 1) qs) := by
        intro mark _
        have hlist := heq mark
        have htypes := hasTypes_marked mark old
        rw [suppliedFrom, suppliedFrom, solidList_cons, solidList_cons, List.cons.injEq,
          solid_type_supplied htypes, solid_type_supplied htypes, hfirst.type_solid,
          (solid_name_supplied mark hname.1 hne.1 hposition).1,
          (solid_name_supplied mark hname' hne' hposition).1] at hlist
        exact List.append_cancel_left hlist.2
      have hsource : nameSource old position p = nameSource old position q := by
        refine source_eq_of_head? (literalName_ne_nil hne.1 position)
          (fun i => nameSource_lt hposition) (fun i => nameSource_lt hposition) ?_
        intro mark _
        have hhead := congrArg List.head? (hnames mark)
        rw [List.head?_append_of_ne_nil _ (solid_name_supplied mark hname.1 hne.1 hposition).2,
          List.head?_append_of_ne_nil _ (solid_name_supplied mark hname' hne' hposition).2,
          name_supplied, name_supplied, ← hliteral] at hhead
        exact hhead
      have hothers := ih (Nat.le_succ_of_le hposition) hname.2 hne.2 fun mark _ => by
        have hlist := hnames mark
        rw [name_supplied, name_supplied, hsource, hliteral] at hlist
        exact List.append_cancel_left hlist
      rw [nameSources, nameSources, hsource, hothers]

end Migration

open Migration

namespace Rule

variable {oldText newText newText' : String} {old new new' : Signature} {r r' : Rule}

/-- Up to blanks, the results are those of the lists of parameters. -/
theorem solid_display_eq_iff {name : String} {ps qs : List Parameter}
    (hlength : ps.length = qs.length) :
    solid (Signature.display ⟨name, ps⟩).toList = solid (Signature.display ⟨name, qs⟩).toList ↔
      solidList ps = solidList qs := by
  rw [solid_display, solid_display, List.append_cancel_left_eq, List.cons.injEq,
    List.append_cancel_right_eq]
  cases ps with
  | nil =>
      obtain rfl : qs = [] := List.length_eq_zero_iff.1 hlength.symm
      exact ⟨fun _ => rfl, fun _ => ⟨rfl, rfl⟩⟩
  | cons p ps =>
      cases qs with
      | nil => exact absurd hlength (by simp)
      | cons q qs =>
          simp only [solidList_cons, List.tail_cons, List.cons.injEq, true_and]

/-- Two rules whose new signatures differ only in the blanks of their types make the same of every
text, up to blanks, exactly if each parameter gets its name from the same place. -/
theorem replaceAll_alike_iff [PatternEngine] (hold : Signature.parse oldText = .ok old)
    (hnew : Signature.parse newText = .ok new) (hnew' : Signature.parse newText' = .ok new')
    (hr : compile oldText (some newText) = .ok r) (hr' : compile oldText (some newText') = .ok r')
    (hspacing : new.Respaces new') :
    (∀ text, solid (r.replaceAll text).toList = solid (r'.replaceAll text).toList) ↔
      nameSources old.parameters 1 new.parameters =
        nameSources old.parameters 1 new'.parameters := by
  have h := migrates_of_compile hold hnew hr
  have h' := migrates_of_compile hold hnew' hr'
  have hlength : ∀ written, (suppliedFrom old.parameters written 1 new.parameters).length =
      (suppliedFrom old.parameters written 1 new'.parameters).length := by
    intro written
    rw [length_suppliedFrom, length_suppliedFrom, hspacing.parameters.length_eq]
  constructor
  · intro halike
    have hwell := Signature.wellFormed_of_parse hnew
    refine nameSources_eq_of_solidList (Nat.le_refl 1) hspacing.parameters hwell.parameter_name
      hwell.parameter_ne_nil fun mark _ => ?_
    have htext := halike (Signature.display ⟨old.name, marked mark old.parameters⟩)
    have hes := occurrence_marked mark old
    rw [h.replaceAll_eq_display hes, h'.replaceAll_eq_display hes, map_written_marked,
      hspacing.name_eq] at htext
    exact (solid_display_eq_iff (hlength _)).1 htext
  · intro hsources text
    have hpattern : r'.stretches text = r.stretches text := by
      rw [stretches, stretches, h.pattern, h'.pattern]
    rw [replaceAll, replaceAll, hpattern, String.toList_ofList, String.toList_ofList]
    refine solid_replaceHits_congr fun m hm => ?_
    obtain ⟨before, rest, hstretches⟩ := List.append_of_mem hm
    obtain ⟨-, -, hfound⟩ := matchAhead?_of_stretches hstretches
    obtain ⟨es, hes, hcaptures⟩ := h.exists_occurrence hfound
    rw [h.replacementFor_eq_display hes hcaptures, h'.replacementFor_eq_display hes hcaptures,
      hspacing.name_eq]
    exact (solid_display_eq_iff (hlength _)).2
      (solidList_suppliedFrom_congr (hasTypes_written hes.1) hspacing.parameters hsources)

section Usual

attribute [local instance] PatternEngine.usual

/-- A type that no old parameter has may be spaced in any way. -/
theorem replaceAll_alike_iff_new_type :
    ∃ r r', compile "Foo(int a, List<A> b)" (some "Foo(List<A> b, Map<K, V> m)") = .ok r ∧
      compile "Foo(int a, List<A> b)" (some "Foo(List<A> b, Map<K,V> m)") = .ok r' ∧
      ∀ text, solid (r.replaceAll text).toList = solid (r'.replaceAll text).toList := by
  have hold : Signature.parse "Foo(int a, List<A> b)" =
      .ok ⟨"Foo", [⟨"int", "a", false⟩, ⟨"List<A>", "b", false⟩]⟩ := by decide +kernel
  have hnew : Signature.parse "Foo(List<A> b, Map<K, V> m)" =
      .ok ⟨"Foo", [⟨"List<A>", "b", false⟩, ⟨"Map<K, V>", "m", false⟩]⟩ := by decide +kernel
  have hnew' : Signature.parse "Foo(List<A> b, Map<K,V> m)" =
      .ok ⟨"Foo", [⟨"List<A>", "b", false⟩, ⟨"Map<K,V>", "m", false⟩]⟩ := by decide +kernel
  obtain ⟨r, hr, -⟩ : ∃ r,
      compile "Foo(int a, List<A> b)" (some "Foo(List<A> b, Map<K, V> m)") = .ok r ∧
      true = true := exists_ok_of_any (by decide +kernel)
  obtain ⟨r', hr', -⟩ : ∃ r',
      compile "Foo(int a, List<A> b)" (some "Foo(List<A> b, Map<K,V> m)") = .ok r' ∧
      true = true := exists_ok_of_any (by decide +kernel)
  refine ⟨r, r', hr, hr', (replaceAll_alike_iff hold hnew hnew' hr hr' ⟨rfl, ?_⟩).2 ?_⟩
  · exact .cons ⟨rfl, rfl, rfl⟩ (.cons ⟨by decide, rfl, rfl⟩ .nil)
  · decide +kernel

end Usual

/-- Two new signatures differ only in the blanks of their types, and their rules make texts of one
text that differ in more than blanks. -/
def SpacingMatters [PatternEngine] (oldText newText newText' text : String) : Prop :=
  ∃ new new' r r', Signature.parse newText = .ok new ∧ Signature.parse newText' = .ok new' ∧
    new.Respaces new' ∧ compile oldText (some newText) = .ok r ∧
    compile oldText (some newText') = .ok r' ∧
    solid (r.replaceAll text).toList ≠ solid (r'.replaceAll text).toList

section Usual

attribute [local instance] PatternEngine.usual

/-- A type that is spaced in another way is not found among the old ones: the name `x` is lost, and
`y` is written twice. -/
theorem spacing_moves_name :
    SpacingMatters "Foo(List<A,B> a, int b)" "Foo(int b, List<A,B> a)" "Foo(int b, List<A, B> a)"
      "Foo(List<A,B> x, int y)" := by
  have hnew : Signature.parse "Foo(int b, List<A,B> a)" =
      .ok ⟨"Foo", [⟨"int", "b", false⟩, ⟨"List<A,B>", "a", false⟩]⟩ := by decide +kernel
  have hnew' : Signature.parse "Foo(int b, List<A, B> a)" =
      .ok ⟨"Foo", [⟨"int", "b", false⟩, ⟨"List<A, B>", "a", false⟩]⟩ := by decide +kernel
  obtain ⟨r, hr, hmade⟩ : ∃ r,
      compile "Foo(List<A,B> a, int b)" (some "Foo(int b, List<A,B> a)") = .ok r ∧
      (r.replaceAll "Foo(List<A,B> x, int y)" == "Foo(int y, List<A,B> x)") = true :=
    exists_ok_of_any (by decide +kernel)
  obtain ⟨r', hr', hmade'⟩ : ∃ r',
      compile "Foo(List<A,B> a, int b)" (some "Foo(int b, List<A, B> a)") = .ok r' ∧
      (r'.replaceAll "Foo(List<A,B> x, int y)" == "Foo(int y, List<A, B> y)") = true :=
    exists_ok_of_any (by decide +kernel)
  refine ⟨_, _, r, r', hnew, hnew', ⟨rfl, ?_⟩, hr, hr', ?_⟩
  · exact .cons ⟨rfl, rfl, rfl⟩ (.cons ⟨by decide, rfl, rfl⟩ .nil)
  · rw [beq_iff_eq.1 hmade, beq_iff_eq.1 hmade']
    decide +kernel

end Usual

end Rule

end HookMigration
