import HookMigration.Proofs.Calls.Migrations

/-!
# One fix is enough

Where no migration makes what another one, or the same, looks for, a fixed text has nothing left to
fix: no migration matches anywhere in it, and a second fix changes nothing (`fix_fix`).

The migrations act on each call of the text alone.  A call that none of them matches stays as it is;
a call that one of them replaces is matched by none of them afterwards.  So every call is quiet in
the end, and since the calls of the fixed text are the calls that were made, nothing can match across
the border of one.
-/

namespace HookMigration

open Calls Pattern Text

/-- A rule makes what another rule looks for: a call of its hook with, up to blanks, its types. -/
def Rule.Feeds (a b : Rule) : Prop :=
  ∃ new ∈ a.newRead?, ∃ old ∈ b.oldRead?,
    new.name = b.hook ∧ Migration.solidTypes new = Migration.solidTypes old

instance (a b : Rule) : Decidable (a.Feeds b) :=
  inferInstanceAs (Decidable (∃ new ∈ a.newRead?, ∃ old ∈ b.oldRead?,
    new.name = b.hook ∧ Migration.solidTypes new = Migration.solidTypes old))

namespace Calls

/-- No rule matches a call that one of the rules has made. -/
def Settling (rules : List Rule) : Prop :=
  ∀ r ∈ rules, ∀ m m', IsCall m → replaced? r m = some m' → Quiet rules m'

variable {rules rest : List Rule} {m : List Char}

/-- Some of the rules leave a call alone, or make it one that none of all the rules matches. -/
theorem Settling.quiet_or (h : Settling rules) (hm : IsCall m) (hrest : ∀ r ∈ rest, r ∈ rules) :
    Quiet rest m ∨ Quiet rules (replacedBy rest m) := by
  induction rest with
  | nil => exact .inl fun r hr => absurd hr (List.not_mem_nil)
  | cons r rest ih =>
      have hothers : ∀ q ∈ rest, q ∈ rules := fun q hq => hrest q (List.mem_cons_of_mem _ hq)
      cases hm' : replaced? r m with
      | none =>
          rw [replacedBy_cons, replaced_of_none hm']
          refine (ih hothers).imp_left fun hquiet q hq => ?_
          rcases List.mem_cons.1 hq with rfl | hq
          · exact hm'
          · exact hquiet q hq
      | some m' =>
          -- None of the rules matches what was made, so the rest of them leave it alone.
          have hquiet : Quiet rules m' := h r (hrest r List.mem_cons_self) m m' hm hm'
          have hstay : Quiet rest m' := fun q hq => hquiet q (hothers q hq)
          rw [replacedBy_cons, replaced_of_some hm', hstay.replacedBy_eq]
          exact .inr hquiet

theorem Settling.quiet_replacedBy (h : Settling rules) (hm : IsCall m) :
    Quiet rules (replacedBy rules m) := by
  rcases h.quiet_or hm (fun r hr => hr) with hquiet | hquiet
  · rwa [hquiet.replacedBy_eq]
  · exact hquiet

theorem isCall_replacedBy (hrules : ∀ r ∈ rules, CallRule r) (hm : IsCall m) :
    IsCall (replacedBy rules m) := by
  induction rules generalizing m with
  | nil => exact hm
  | cons r rest ih =>
      exact ih (fun q hq => hrules q (List.mem_cons_of_mem _ hq))
        ((hrules r List.mem_cons_self).isCall_replaced hm)

/-! ## Quiet texts -/

variable {chunks : List Chunk}

/-- Every call among chunks is quiet. -/
def QuietChunks (rules : List Rule) (chunks : List Chunk) : Prop :=
  ∀ m, .call m ∈ chunks → Quiet rules m

theorem Settling.quietChunks (h : Settling rules) {before : Option Char}
    (hcut : Cut before chunks) :
    QuietChunks rules (chunks.map (Chunk.mapCall (replacedBy rules))) := by
  intro m hm
  obtain ⟨chunk, hchunk, heq⟩ := List.mem_map.1 hm
  cases chunk with
  | plain c => simp [Chunk.mapCall] at heq
  | call k =>
      obtain rfl : replacedBy rules k = m := Chunk.call.inj heq
      exact h.quiet_replacedBy (hcut.isCall hchunk)

/-- Rules change nothing in a text whose calls are quiet. -/
theorem foldl_apply_of_quiet (hrules : ∀ r ∈ rules, CallRule r) (hcut : Cut none chunks)
    (hquiet : QuietChunks rules chunks) :
    rules.foldl Fixed.apply ⟨String.ofList (textOf chunks), 0⟩ =
      ⟨String.ofList (textOf chunks), 0⟩ := by
  have hnone : ∀ r ∈ ([] : List Rule), CallRule r := fun r hr => absurd hr List.not_mem_nil
  exact foldl_apply_congr hrules hnone hcut
    (fun m hm => ⟨(hquiet m hm).replacedBy_eq, (hquiet m hm).replacements_eq⟩) 0

/-- Rules match nowhere in a text whose calls are quiet. -/
theorem matchAhead?_of_quiet (hrules : ∀ r ∈ rules, CallRule r) (hcut : Cut none chunks)
    (hquiet : QuietChunks rules chunks) {r : Rule} (hr : r ∈ rules) {before ahead : List Char}
    (htext : textOf chunks = before ++ ahead) :
    r.pattern.matchAhead? before.getLast? ahead = none := by
  rw [Option.eq_none_iff_forall_ne_some]
  intro x hx
  have hpattern := (hrules r hr).pattern
  obtain ⟨after, rfl, hstands⟩ := hpattern.stands hx
  have hmem : .call x.matched ∈ chunks := hcut.mem_of_stands htext (by rwa [Option.or_none])
  have hnone := hquiet _ hmem r hr
  rw [replaced?, (hpattern.alone hstands).1 hx] at hnone
  simp at hnone

end Calls

/-! ## Compiled rule sets -/

namespace RuleSet

variable {entries : List HookEntry}

theorem settling_of_not_feeds [PatternEngine]
    (hhooks : ∀ r ∈ (compile entries).1.eligible false,
      r.hook.toList.head?.any isNameChar = true)
    (hfeeds : ∀ a ∈ (compile entries).1.eligible false,
      ∀ b ∈ (compile entries).1.eligible false, ¬a.Feeds b) :
    Settling ((compile entries).1.eligible false) := by
  intro a ha m m' hm hm' b hb
  by_contra hsome
  obtain ⟨old, new, h⟩ := exists_migrates ha
  obtain ⟨old', new', h'⟩ := exists_migrates hb
  obtain ⟨hname, htypes⟩ := eq_of_replaced? h (hhooks a ha) h' (hhooks b hb) hm hm'
    (Option.isSome_iff_ne_none.2 hsome)
  exact hfeeds a ha b hb ⟨new, h.newRead?_eq, old', h'.oldRead?_eq, hname, htypes⟩

/-- Where no migration makes what a migration looks for, none matches anywhere in a fixed text, and
a second fix changes nothing. -/
theorem fix_fix [PatternEngine] (entries : List HookEntry) (text : String)
    (hhooks : ∀ r ∈ (compile entries).1.eligible false,
      r.hook.toList.head?.any isNameChar = true)
    (hfeeds : ∀ a ∈ (compile entries).1.eligible false,
      ∀ b ∈ (compile entries).1.eligible false, ¬a.Feeds b) :
    (∀ r ∈ (compile entries).1.eligible false, ∀ before matched after captures,
      ((compile entries).1.fix text false).text.toList = before ++ (matched ++ after) →
        ¬Regex.Matches r.pattern.regex before matched after captures) ∧
    (compile entries).1.fix ((compile entries).1.fix text false).text false =
      ⟨((compile entries).1.fix text false).text, 0⟩ := by
  have hrules : ∀ r ∈ (compile entries).1.eligible false, CallRule r :=
    fun r hr => callRule_of_eligible hr (hhooks r hr)
  have hsettling := settling_of_not_feeds hhooks hfeeds
  obtain ⟨chunks, hcut, htext⟩ := exists_cut none text.toList
  have hfixed : ((compile entries).1.fix text false).text = String.ofList
      (textOf (chunks.map (Chunk.mapCall (replacedBy ((compile entries).1.eligible false))))) := by
    have hsource : text = String.ofList (textOf chunks) := by rw [htext, String.ofList_toList]
    rw [fix, hsource, foldl_apply_textOf hrules hcut]
  have hcut' := hcut.map fun m hm => isCall_replacedBy hrules hm
  have hquiet := hsettling.quietChunks hcut
  constructor
  · -- a match would be a call of the fixed text, and all of these are quiet
    intro r hr before matched after captures hplace hmatches
    rw [hfixed, String.toList_ofList] at hplace
    obtain ⟨x, hx⟩ := matchAhead?_complete hmatches
    have hnone := matchAhead?_of_quiet hrules hcut' hquiet hr hplace
    rw [hx] at hnone
    simp at hnone
  · rw [hfixed, fix]
    exact foldl_apply_of_quiet hrules hcut' hquiet

section Usual

attribute [local instance] PatternEngine.usual

/-- A migration that keeps the name of its hook and adds a parameter. -/
theorem fix_fix_added_parameter :
    let s := (compile [.ofSignatures "Foo(List<A> a)" (some "Foo(List<A> a, Map<A, B> b)")]).1
    (s.fix "x = Foo( List< A > n );" false).replacements = 1 ∧
      s.fix (s.fix "x = Foo( List< A > n );" false).text false =
        ⟨(s.fix "x = Foo( List< A > n );" false).text, 0⟩ := by
  refine ⟨by decide +kernel, ?_⟩
  exact (fix_fix [.ofSignatures "Foo(List<A> a)" (some "Foo(List<A> a, Map<A, B> b)")]
    "x = Foo( List< A > n );" (by decide +kernel) (by decide +kernel)).2

end Usual

end RuleSet

end HookMigration
