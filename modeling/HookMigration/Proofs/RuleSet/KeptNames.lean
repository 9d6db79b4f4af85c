import HookMigration.Proofs.RuleSet.Supplied

/-!
# A rule that keeps its signature and the names of the user

A rule whose new signature is the old one is expected to change blanks only, whatever names the user
has chosen.  For each parameter its template looks up the first one with the same type and the same
name, and takes the type and the name that were written there (`kept`).  So each name comes back at
its place exactly if the parameters are distinct (`Rule.changes_only_blanks_iff`).  Where two are
the same, the name that was written for the first is written for both.

That the second of them is lost is seen in the text alone, without blanks: if all names are of one
letter, the text has the same length everywhere up to the place of the second, and there it has the
letter of the first (`map_name_eq_of_solidList`).

Two parameters are the same not only if the signature says so twice.  A name that was left out is
filled in, and may be the name of another parameter of this type.
-/

namespace HookMigration

open Pattern Text

namespace Migration

/-- No two parameters have the same type and the same name. -/
def Distinct (ps : List Parameter) : Prop :=
  ps.Pairwise fun p q => p.sameAs q = false

/-- What a template that keeps the parameters `all` makes of those that were written for them: at
each place the one that was written at the first place with the same type and name. -/
def kept (all written : List Parameter) : List Parameter :=
  all.map fun p => written.getD (all.findIdx (·.sameAs p)) p

variable {s : Signature} {all written ps qs : List Parameter} {es : List Entry} {position i j : Nat}
  {matched inner : List Char}

/-! ## First places -/

theorem findIdx_sameAs (h : Distinct all) (hi : i < all.length) :
    all.findIdx (·.sameAs all[i]) = i := by
  rw [List.findIdx_eq hi]
  refine ⟨sameAs_self _, fun k hk => ?_⟩
  exact List.pairwise_iff_getElem.1 h k i (Nat.lt_trans hk hi) hi hk

/-- Distinct parameters are kept as they were written. -/
theorem kept_eq_self (h : Distinct all) (hlength : written.length = all.length) :
    kept all written = written := by
  refine List.ext_getElem (by simp [kept, hlength]) fun i hi hi' => ?_
  have hall : i < all.length := by rwa [← hlength]
  simp [kept, findIdx_sameAs h hall, hi']

/-- For a parameter that is kept, the one that was written at the first place of it is supplied. -/
theorem supplied_of_mem {p : Parameter} (hp : p ∈ all) (hlength : es.length = all.length)
    (position : Nat) :
    supplied all (es.map Entry.written) position p =
      (es.map Entry.written).getD (all.findIdx (·.sameAs p)) p := by
  have hlt := findIdx_sameAs_lt hp
  have hindex : all.findIdx? (·.sameAs p) = some (all.findIdx (·.sameAs p)) := by
    rw [List.findIdx?_eq_some_iff_findIdx_eq]
    exact ⟨hlt, rfl⟩
  rw [← hlength] at hlt
  simp [supplied, nameSource_of_findIdx? hindex, hindex, hlt, Entry.written]

theorem suppliedFrom_of_forall_mem (hps : ∀ p ∈ ps, p ∈ all) (hlength : es.length = all.length) :
    suppliedFrom all (es.map Entry.written) position ps =
      ps.map fun p => (es.map Entry.written).getD (all.findIdx (·.sameAs p)) p := by
  induction ps generalizing position with
  | nil => rfl
  | cons p rest ih =>
      obtain ⟨hp, hrest⟩ := List.forall_mem_cons.1 hps
      rw [suppliedFrom, supplied_of_mem hp hlength, ih hrest, List.map_cons]

/-! ## Texts without blanks -/

/-- A list of parameters without blanks, with a comma before each. -/
def solidList (ps : List Parameter) : List Char :=
  ps.flatMap fun p => ',' :: (solid p.type.toList ++ solid p.name.toList)

theorem solid_cons {c : Char} (hc : isBlank c = false) (cs : List Char) :
    solid (c :: cs) = c :: solid cs := by
  simp [solid, hc]

theorem solid_tailText (es : List Entry) :
    solid (tailText es) = es.flatMap fun e => ',' :: solid e.text := by
  induction es with
  | nil => rfl
  | cons e rest ih =>
      rw [List.flatMap_cons, ← ih, tailText, List.flatMap_cons, ← tailText, solid_append,
        solid_cons isBlank_comma]

/-- The text between the parentheses without blanks. -/
theorem solid_listText (h : ListText es inner) :
    solid inner = (es.flatMap fun e => ',' :: solid e.text).tail := by
  cases es with
  | nil => exact solid_eq_nil h
  | cons e rest =>
      rw [listText_cons.1 h, solid_append, solid_tailText]
      rfl

theorem solid_text_displayed (position : Nat) (ps : List Parameter) :
    ((displayed position ps).flatMap fun e => ',' :: solid e.text) = solidList ps := by
  induction ps generalizing position with
  | nil => rfl
  | cons p rest ih =>
      have hlead : solid (if position > 1 then [' '] else []) = [] :=
        solid_eq_nil (by split_ifs <;> rfl)
      have hgap : solid [' '] = [] := solid_eq_nil rfl
      rw [displayed, List.flatMap_cons, ih]
      simp only [Entry.text, solid_append, hlead, hgap, List.nil_append, List.append_nil]
      rfl

theorem Entry.Writes.solid_text {e : Entry} {p : Parameter} (h : e.Writes p) :
    solid e.text = solid e.type ++ solid e.name := by
  simp [Entry.text, solid_eq_nil h.lead_blank, solid_eq_nil h.gap_blank,
    solid_eq_nil h.trail_blank]

theorem solid_text_written (h : List.Forall₂ Entry.Writes es ps) :
    (es.flatMap fun e => ',' :: solid e.text) = solidList (es.map Entry.written) := by
  induction h with
  | nil => rfl
  | @cons e p es ps hfirst hrest ih =>
      rw [List.flatMap_cons, ih, hfirst.solid_text]
      simp [solidList, Entry.written]

/-- A displayed signature without blanks. -/
theorem solid_display (s : Signature) :
    solid s.display.toList =
      solid s.name.toList ++ '(' :: ((solidList s.parameters).tail ++ [')']) := by
  have hinner := solid_listText (listText_listOf (displayed 1 s.parameters))
  rw [solid_text_displayed] at hinner
  rw [toList_display, solid_append, solid_cons isBlank_open, solid_append, hinner]
  rfl

/-- Up to blanks, an occurrence is the display of what it writes. -/
theorem Occurrence.solid_eq (h : Occurrence s es matched) :
    solid matched = solid (Signature.display ⟨s.name, es.map Entry.written⟩).toList := by
  obtain ⟨hwrites, gap, inner, hgap, hinner, rfl⟩ := h
  have hlist := solid_listText hinner
  rw [solid_text_written hwrites] at hlist
  rw [solid_display, solid_append, solid_append, solid_eq_nil hgap, solid_cons isBlank_open,
    solid_append, hlist, List.append_nil]
  rfl

/-- Lists of parameters with the same types and with names of the same length can be told apart
without blanks. -/
theorem map_name_eq_of_solidList
    (h : List.Forall₂ (fun p q : Parameter => solid p.type.toList = solid q.type.toList ∧
      (solid p.name.toList).length = (solid q.name.toList).length) ps qs)
    (heq : (solidList ps).tail = (solidList qs).tail) :
    ps.map (fun p => solid p.name.toList) = qs.map fun q => solid q.name.toList := by
  have htails : ∀ {ps qs : List Parameter},
      List.Forall₂ (fun p q : Parameter => solid p.type.toList = solid q.type.toList ∧
        (solid p.name.toList).length = (solid q.name.toList).length) ps qs →
      solidList ps = solidList qs →
      ps.map (fun p => solid p.name.toList) = qs.map fun q => solid q.name.toList := by
    intro ps qs h heq
    induction h with
    | nil => rfl
    | @cons p q ps qs hfirst hrest ih =>
        simp only [solidList, List.flatMap_cons, List.cons_append, List.append_assoc,
          hfirst.1] at heq
        have hnames := List.append_cancel_left (List.cons.inj heq).2
        obtain ⟨hname, hothers⟩ := List.append_inj hnames hfirst.2
        rw [List.map_cons, List.map_cons, hname, ih hothers]
  cases h with
  | nil => rfl
  | cons hfirst hrest =>
      refine htails (.cons hfirst hrest) ?_
      exact congrArg (',' :: ·) heq

/-! ## Names that tell two places apart -/

/-- Parameters as a user may have written them: without blanks in the types, and with one of two
names at each place. -/
def marked (mark : Nat → Prop) [DecidablePred mark] (ps : List Parameter) : List Parameter :=
  ps.mapIdx fun k p => ⟨String.ofList (solid p.type.toList), if mark k then "b" else "a", false⟩

/-- Parameters as a user may have written them: without blanks in the types, and with a name of its
own at one place. -/
def markedAt (j : Nat) (ps : List Parameter) : List Parameter :=
  ps.mapIdx fun k p => ⟨String.ofList (solid p.type.toList), if k = j then "b" else "a", false⟩

theorem map_written_displayed (position : Nat) (h : ∀ p ∈ ps, p.synthesized = false) :
    (displayed position ps).map Entry.written = ps := by
  induction ps generalizing position with
  | nil => rfl
  | cons p rest ih =>
      obtain ⟨hp, hrest⟩ := List.forall_mem_cons.1 h
      rw [displayed, List.map_cons, ih (position + 1) hrest]
      simp [Entry.written, ← hp]

section Marked

variable (mark : Nat → Prop) [DecidablePred mark]

theorem map_written_marked (ps : List Parameter) :
    (displayed 1 (marked mark ps)).map Entry.written = marked mark ps := by
  refine map_written_displayed 1 fun p hp => ?_
  obtain ⟨k, hk, rfl⟩ := List.mem_mapIdx.1 hp
  rfl

theorem occurrence_marked (s : Signature) :
    Occurrence s (displayed 1 (marked mark s.parameters))
      (Signature.display ⟨s.name, marked mark s.parameters⟩).toList := by
  refine ⟨forall₂_writes_displayed.2 ?_, [], _, rfl, listText_listOf _, ?_⟩
  · rw [List.forall₂_iff_get]
    refine ⟨by simp [marked], fun k hk hk' => ?_⟩
    simp only [marked, List.get_eq_getElem, List.getElem_mapIdx, String.toList_ofList]
    refine ⟨spaced_self _, ?_⟩
    split_ifs <;> decide +kernel
  · rw [toList_display, List.append_nil]

end Marked

theorem kept_markedAt (j : Nat) (all : List Parameter) :
    kept all (markedAt j all) = all.map fun p =>
      ⟨String.ofList (solid p.type.toList),
        if all.findIdx (·.sameAs p) = j then "b" else "a", false⟩ := by
  refine List.map_congr_left fun p hp => ?_
  have hlt := findIdx_sameAs_lt hp
  obtain ⟨htype, -⟩ := Parameter.sameAs_iff.1 (List.findIdx_getElem (w := hlt))
  simp [markedAt, hlt, htype]

/-- With marked names, what is kept has the types and the lengths of the names that were written. -/
theorem forall₂_kept_markedAt (j : Nat) (all : List Parameter) :
    List.Forall₂ (fun p q : Parameter => solid p.type.toList = solid q.type.toList ∧
      (solid p.name.toList).length = (solid q.name.toList).length)
      (kept all (markedAt j all)) (markedAt j all) := by
  rw [kept_markedAt, List.forall₂_iff_get]
  refine ⟨by simp [markedAt], fun k hk hk' => ?_⟩
  simp only [markedAt, List.get_eq_getElem, List.getElem_map, List.getElem_mapIdx, true_and]
  split_ifs <;> rfl

/-- If the marked name comes back at its place, no place before has the same parameter. -/
theorem sameAs_eq_false_of_kept (hij : i < j) (hj : j < all.length)
    (h : (kept all (markedAt j all)).map (fun p => solid p.name.toList) =
      (markedAt j all).map fun p => solid p.name.toList) :
    all[i].sameAs all[j] = false := by
  by_contra hsame
  have hfirst : all.findIdx (·.sameAs all[j]) ≠ j := by
    refine Nat.ne_of_lt (Nat.lt_of_le_of_lt (Nat.le_of_not_lt fun hlt => ?_) hij)
    exact hsame (by simpa using List.not_of_lt_findIdx hlt)
  have hname := congrArg (fun names => names[j]?) h
  rw [kept_markedAt] at hname
  have hletters : solid "a".toList = solid "b".toList := by
    simpa [markedAt, hj, hfirst] using hname
  exact absurd hletters (by decide)

/-! ## Replaced texts -/

/-- Replacements that are equal without blanks make texts that are. -/
theorem solid_replaceHits_congr {f g : Match → List Char} {stretches : List Stretch}
    (h : ∀ x, .hit x ∈ stretches → solid (f x) = solid (g x)) :
    solid (replaceHits f stretches) = solid (replaceHits g stretches) := by
  induction stretches with
  | nil => rfl
  | cons stretch rest ih =>
      have hrest := ih fun x hx => h x (List.mem_cons_of_mem _ hx)
      simp only [replaceHits, List.flatMap_cons, solid_append] at hrest ⊢
      rw [hrest]
      cases stretch with
      | plain c => rfl
      | hit x => rw [h x List.mem_cons_self]

theorem solid_replaceHits {replacement : Match → List Char} {stretches : List Stretch}
    (h : ∀ x, .hit x ∈ stretches → solid (replacement x) = solid x.matched) :
    solid (replaceHits replacement stretches) = solid (scanned stretches) := by
  have hmatched : replaceHits Match.matched stretches = scanned stretches :=
    List.flatMap_congr fun stretch _ => by cases stretch <;> rfl
  rw [← hmatched]
  exact solid_replaceHits_congr h

end Migration

/-! ## Rules -/

open Migration

namespace Rule

variable {r : Rule} {s : Signature} {m : Match} {es : List Entry}

/-- The replacement of a match has what was written at the first place of each parameter. -/
theorem Migrates.replacementFor_eq (h : r.Migrates s s) (hes : Occurrence s es m.matched)
    (hcaptures : m.captures = entryCaptures 1 es) :
    r.replacementFor m =
      Signature.display ⟨s.name, kept s.parameters (es.map Entry.written)⟩ := by
  rw [h.replacementFor_eq_display hes hcaptures,
    suppliedFrom_of_forall_mem (fun p hp => hp) hes.1.length_eq, kept]

theorem Migrates.solid_replaceAll (h : r.Migrates s s) (hdistinct : Distinct s.parameters)
    (text : String) : solid (r.replaceAll text).toList = solid text.toList := by
  rw [replaceAll, String.toList_ofList, ← r.scanned_stretches text]
  refine solid_replaceHits fun m hm => ?_
  obtain ⟨before, rest, hstretches⟩ := List.append_of_mem hm
  obtain ⟨-, -, hfound⟩ := matchAhead?_of_stretches hstretches
  obtain ⟨es, hes, hcaptures⟩ := h.exists_occurrence hfound
  have hlength : (es.map Entry.written).length = s.parameters.length := by
    rw [List.length_map, hes.1.length_eq]
  rw [h.replacementFor_eq hes hcaptures, kept_eq_self hdistinct hlength, hes.solid_eq]

/-- If only blanks ever change, the parameters are distinct. -/
theorem Migrates.distinct_of_solid_replaceAll (h : r.Migrates s s)
    (hblanks : ∀ text, solid (r.replaceAll text).toList = solid text.toList) :
    Distinct s.parameters := by
  refine List.pairwise_iff_getElem.2 fun i j hi hj hij => ?_
  have htext := hblanks (Signature.display ⟨s.name, markedAt j s.parameters⟩)
  have hes : Occurrence s (displayed 1 (markedAt j s.parameters))
      (Signature.display ⟨s.name, markedAt j s.parameters⟩).toList := occurrence_marked (· = j) s
  have hwritten : (displayed 1 (markedAt j s.parameters)).map Entry.written =
      markedAt j s.parameters := map_written_marked (· = j) s.parameters
  have hkept : r.replaceAll (Signature.display ⟨s.name, markedAt j s.parameters⟩) =
      Signature.display ⟨s.name, kept s.parameters (markedAt j s.parameters)⟩ := by
    rw [h.replaceAll_eq_display hes, suppliedFrom_of_forall_mem (fun p hp => hp) hes.1.length_eq,
      hwritten, kept]
  rw [hkept, solid_display, solid_display, List.append_cancel_left_eq, List.cons.injEq,
    List.append_cancel_right_eq] at htext
  exact sameAs_eq_false_of_kept hij hj
    (map_name_eq_of_solidList (forall₂_kept_markedAt j s.parameters) htext.2)

/-- A rule that keeps its signature changes only blanks in all texts exactly if the parameters of
the signature are distinct.  Each match of it is an occurrence, and its replacement lists, in the
order of the signature, what was written at the first place of each parameter; where the parameters
are distinct, this is what was written, with every name at its place. -/
theorem changes_only_blanks_iff [PatternEngine] {source : String}
    (h : Signature.parse source = .ok s) (hr : compile source (some source) = .ok r) :
    ((∀ text, solid (r.replaceAll text).toList = solid text.toList) ↔ Distinct s.parameters) ∧
    ∀ before ahead m, r.pattern.matchAhead? before ahead = some m →
      ∃ es, Occurrence s es m.matched ∧ m.captures = entryCaptures 1 es ∧
        r.replacementFor m =
          Signature.display ⟨s.name, kept s.parameters (es.map Entry.written)⟩ ∧
        (Distinct s.parameters →
          kept s.parameters (es.map Entry.written) = es.map Entry.written) := by
  have hself := migrates_of_compile h h hr
  refine ⟨⟨hself.distinct_of_solid_replaceAll, hself.solid_replaceAll⟩, ?_⟩
  intro before ahead m hm
  obtain ⟨es, hes, hcaptures⟩ := hself.exists_occurrence hm
  refine ⟨es, hes, hcaptures, hself.replacementFor_eq hes hcaptures, fun hdistinct => ?_⟩
  exact kept_eq_self hdistinct (by rw [List.length_map, hes.1.length_eq])

section Usual

attribute [local instance] PatternEngine.usual

/-- A name that was left out, and a type with blanks. -/
theorem changes_only_blanks_iff_unnamed :
    ∃ s r, Signature.parse "Foo(int, List<A, B> b)" = .ok s ∧
      compile "Foo(int, List<A, B> b)" (some "Foo(int, List<A, B> b)") = .ok r ∧
      Distinct s.parameters ∧
      (∀ text, solid (r.replaceAll text).toList = solid text.toList) ∧
      r.replaceAll "Foo(int b, List<A ,B>\nparam1 );" = "Foo(int b, List<A ,B> param1);" := by
  obtain ⟨s, hs, hcompiles⟩ : ∃ s, Signature.parse "Foo(int, List<A, B> b)" = .ok s ∧
      (decide (s.parameters.Pairwise fun p q => p.sameAs q = false) &&
        (compile "Foo(int, List<A, B> b)" (some "Foo(int, List<A, B> b)")).toOption.any fun r =>
          r.replaceAll "Foo(int b, List<A ,B>\nparam1 );" ==
            "Foo(int b, List<A ,B> param1);") = true :=
    exists_ok_of_any (by decide +kernel)
  rw [Bool.and_eq_true, decide_eq_true_eq] at hcompiles
  obtain ⟨hdistinct, hcompiles⟩ := hcompiles
  obtain ⟨r, hr, hreplaced⟩ := exists_ok_of_any hcompiles
  exact ⟨s, r, hs, hr, hdistinct, (changes_only_blanks_iff hs hr).1.2 hdistinct,
    by simpa using hreplaced⟩

/-- The name that was left out is filled in with the name of the other parameter of its type, and
the name that the user wrote for it is lost. -/
theorem repeats_filled_in_name :
    ∃ s r, Signature.parse "Foo(int param2, int)" = .ok s ∧
      compile "Foo(int param2, int)" (some "Foo(int param2, int)") = .ok r ∧
      r.replaceAll "Foo(int x, int y)" = "Foo(int x, int x)" ∧
      solid (r.replaceAll "Foo(int x, int y)").toList ≠ solid "Foo(int x, int y)".toList := by
  obtain ⟨s, hs, hcompiles⟩ : ∃ s, Signature.parse "Foo(int param2, int)" = .ok s ∧
      ((compile "Foo(int param2, int)" (some "Foo(int param2, int)")).toOption.any fun r =>
        r.replaceAll "Foo(int x, int y)" == "Foo(int x, int x)") = true :=
    exists_ok_of_any (by decide +kernel)
  obtain ⟨r, hr, hreplaced⟩ := exists_ok_of_any hcompiles
  have htext : r.replaceAll "Foo(int x, int y)" = "Foo(int x, int x)" := by simpa using hreplaced
  refine ⟨s, r, hs, hr, htext, ?_⟩
  rw [htext]
  decide +kernel

end Usual

end Rule

end HookMigration
