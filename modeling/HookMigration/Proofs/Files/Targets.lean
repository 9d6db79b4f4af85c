import HookMigration.Proofs.Files.ScanAndFix
import HookMigration.Proofs.Files.Trails
import Mathlib.Data.List.Forall2

/-!
# The targets of patterns

The targets are trails that some pattern reaches, in the order of their components, and with each
components once; up to the spelling of a path they depend on nothing but which patterns there are
(`targets_eq_ok_iff`).  A pattern that cannot be read is reported instead, the first one if there are
several.

A way is listed once, and a file as often as there are ways to it.  So each file is listed once
exactly if no two of the patterns' ways lead to the same file (`targets_once_iff`).  This is so where
no pattern goes up and all of them begin alike, at the root or in the working folder.  But
`sub/../a` is another way to the file `a` (`file_listed_twice`).
-/

namespace HookMigration

/-! ## Lists of results -/

section Results

variable {α β ε : Type} {f : α → Except ε β} {as : List α} {bs : List β} {e : ε}

theorem mapM_cons_eq_ok_iff {a : α} :
    (a :: as).mapM f = .ok bs ↔ ∃ b rest, f a = .ok b ∧ as.mapM f = .ok rest ∧ b :: rest = bs := by
  rw [List.mapM_cons]
  cases hfirst : f a <;> cases hrest : as.mapM f <;>
    simp [bind, Except.bind, pure, Except.pure]

theorem mapM_cons_eq_error_iff {a : α} :
    (a :: as).mapM f = .error e ↔ f a = .error e ∨ (∃ b, f a = .ok b) ∧ as.mapM f = .error e := by
  rw [List.mapM_cons]
  cases hfirst : f a <;> cases hrest : as.mapM f <;>
    simp [bind, Except.bind, pure, Except.pure]

theorem mapM_eq_ok_iff : as.mapM f = .ok bs ↔ List.Forall₂ (fun a b => f a = .ok b) as bs := by
  induction as generalizing bs with
  | nil => simp [pure, Except.pure, eq_comm]
  | cons a rest ih =>
      rw [mapM_cons_eq_ok_iff, List.forall₂_cons_left_iff]
      simp only [ih, eq_comm]

/-- The first thing that fails says why the whole fails. -/
theorem mapM_eq_error_iff : as.mapM f = .error e ↔
    ∃ front a back, as = front ++ a :: back ∧ (∀ x ∈ front, ∃ b, f x = .ok b) ∧ f a = .error e := by
  induction as with
  | nil => simp [pure, Except.pure]
  | cons a rest ih =>
      rw [mapM_cons_eq_error_iff, ih]
      constructor
      · rintro (hfirst | ⟨hfirst, front, a', back, rfl, hfront, herror⟩)
        · exact ⟨[], a, rest, rfl, by simp, hfirst⟩
        · exact ⟨a :: front, a', back, rfl, List.forall_mem_cons.2 ⟨hfirst, hfront⟩, herror⟩
      · rintro ⟨front, a', back, heq, hfront, herror⟩
        cases front with
        | nil =>
            obtain ⟨rfl, rfl⟩ : a = a' ∧ rest = back := by simpa using heq
            exact .inl herror
        | cons x others =>
            obtain ⟨rfl, rfl⟩ : a = x ∧ rest = others ++ a' :: back := by simpa using heq
            rw [List.forall_mem_cons] at hfront
            exact .inr ⟨hfront.1, others, a', back, rfl, hfront.2, herror⟩

theorem exists_of_forall₂ {r : α → β → Prop} {a : α} (h : List.Forall₂ r as bs) (ha : a ∈ as) :
    ∃ b, r a b := by
  induction h with
  | nil => simp at ha
  | cons hfirst _ ih =>
      rcases List.mem_cons.1 ha with rfl | ha
      · exact ⟨_, hfirst⟩
      · exact ih ha

end Results

theorem Glob.absolute_of_parse {pattern : String} {glob : Glob}
    (h : Glob.parse pattern = .ok glob) : glob.absolute = Path.isAbsolute pattern := by
  unfold Glob.parse at h
  cases htokens : Glob.tokens pattern with
  | error e => simp [htokens, bind, Except.bind] at h
  | ok tokens =>
      cases hsteps : (Glob.componentsOf pattern).mapM fun piece =>
          (Glob.tokens piece).map Glob.Step.ofTokens with
      | error e => simp [htokens, hsteps, bind, Except.bind] at h
      | ok steps =>
          rw [htokens, hsteps] at h
          rw [← Except.ok.inj h]

namespace FileTree

open Trail

variable {t : FileTree} {root : String} {patterns : List String} {trail other : Trail}
  {trails : List Trail}

/-! ## One more trail -/

theorem eq_or_mem_of_mem_insertInOrder {α : Type} {before : α → α → Bool} {a b : α} {l : List α}
    (h : b ∈ insertInOrder before a l) : b = a ∨ b ∈ l := by
  induction l with
  | nil => simpa [insertInOrder] using h
  | cons first rest ih =>
      unfold insertInOrder at h
      split_ifs at h
      · simpa using h
      · rcases List.mem_cons.1 h with rfl | h
        · exact .inr List.mem_cons_self
        · exact (ih h).imp_right (List.mem_cons_of_mem _)
      · exact .inr h

theorem mem_insertInOrder_of_mem {α : Type} {before : α → α → Bool} {a b : α} {l : List α}
    (h : b ∈ l) : b ∈ insertInOrder before a l := by
  induction l with
  | nil => simp at h
  | cons first rest ih =>
      unfold insertInOrder
      split_ifs
      · exact List.mem_cons_of_mem _ h
      · rcases List.mem_cons.1 h with rfl | h
        · exact List.mem_cons_self
        · exact List.mem_cons_of_mem _ (ih h)
      · exact h

/-- A trail is inserted, or another one with its components was there. -/
theorem exists_mem_insertInOrder (trail : Trail) (trails : List Trail) :
    ∃ listed ∈ insertInOrder Trail.before trail trails, listed.components = trail.components := by
  induction trails with
  | nil => exact ⟨trail, List.mem_singleton_self _, rfl⟩
  | cons first rest ih =>
      unfold insertInOrder
      split_ifs with hbefore hbehind
      · exact ⟨trail, List.mem_cons_self, rfl⟩
      · obtain ⟨listed, hlisted, hsame⟩ := ih
        exact ⟨listed, List.mem_cons_of_mem _ hlisted, hsame⟩
      · refine ⟨first, List.mem_cons_self, ?_⟩
        by_contra hne
        exact (before_total hne).elim hbehind hbefore

theorem pairwise_insertInOrder (h : trails.Pairwise fun a b => a.before b = true) :
    (insertInOrder Trail.before trail trails).Pairwise fun a b => a.before b = true := by
  induction trails with
  | nil => simp [insertInOrder]
  | cons first rest ih =>
      have hrest := List.pairwise_cons.1 h
      unfold insertInOrder
      split_ifs with hbefore hbehind
      · refine List.pairwise_cons.2 ⟨fun x hx => ?_, h⟩
        rcases List.mem_cons.1 hx with rfl | hx
        · exact hbefore
        · exact before_trans hbefore (hrest.1 x hx)
      · refine List.pairwise_cons.2 ⟨fun x hx => ?_, ih hrest.2⟩
        rcases eq_or_mem_of_mem_insertInOrder hx with rfl | hx
        · exact hbehind
        · exact hrest.1 x hx
      · exact h

/-! ## All trails -/

/-- Trails in the order of their components, each components once. -/
def merged (trails : List Trail) : List Trail :=
  trails.foldl (fun trails trail => insertInOrder Trail.before trail trails) []

theorem merged_concat (trails : List Trail) (trail : Trail) :
    merged (trails ++ [trail]) = insertInOrder Trail.before trail (merged trails) := by
  unfold merged
  rw [List.foldl_append]
  rfl

theorem pairwise_merged (trails : List Trail) :
    (merged trails).Pairwise fun a b => a.before b = true := by
  induction trails using List.reverseRecOn with
  | nil => exact .nil
  | append_singleton trails trail ih =>
      rw [merged_concat]
      exact pairwise_insertInOrder ih

theorem mem_of_mem_merged (h : trail ∈ merged trails) : trail ∈ trails := by
  induction trails using List.reverseRecOn with
  | nil => exact h
  | append_singleton trails last ih =>
      rw [merged_concat] at h
      rw [List.mem_append, List.mem_singleton]
      exact (eq_or_mem_of_mem_insertInOrder h).symm.imp_left ih

theorem exists_mem_merged (h : trail ∈ trails) :
    ∃ listed ∈ merged trails, listed.components = trail.components := by
  induction trails using List.reverseRecOn with
  | nil => simp at h
  | append_singleton trails last ih =>
      rw [merged_concat]
      rw [List.mem_append, List.mem_singleton] at h
      rcases h with h | rfl
      · obtain ⟨listed, hlisted, hsame⟩ := ih h
        exact ⟨listed, mem_insertInOrder_of_mem hlisted, hsame⟩
      · exact exists_mem_insertInOrder trail _

/-- A list of trails in order is told, up to the spelling, by the components in it. -/
theorem map_components_eq {others : List Trail} (h : trails.Pairwise fun a b => a.before b = true)
    (h' : others.Pairwise fun a b => a.before b = true)
    (hsub : ∀ a ∈ trails, ∃ b ∈ others, b.components = a.components)
    (hsup : ∀ b ∈ others, ∃ a ∈ trails, a.components = b.components) :
    trails.map Trail.components = others.map Trail.components := by
  have hkeys : trails.map key = others.map key := by
    refine List.Pairwise.eq_of_mem_iff (r := (· < ·))
      (List.pairwise_map.2 (h.imp before_iff.1)) (List.pairwise_map.2 (h'.imp before_iff.1)) ?_
    intro k
    simp only [List.mem_map]
    constructor
    · rintro ⟨a, ha, rfl⟩
      obtain ⟨b, hb, hsame⟩ := hsub a ha
      exact ⟨b, hb, key_eq_iff.2 hsame⟩
    · rintro ⟨b, hb, rfl⟩
      obtain ⟨a, ha, hsame⟩ := hsup b hb
      exact ⟨a, ha, key_eq_iff.2 hsame⟩
  have hinjective : Function.Injective (List.map Component.key) :=
    List.map_injective_iff.2 Component.key_injective
  refine hinjective.list_map ?_
  rw [List.map_map, List.map_map]
  exact hkeys

/-! ## The targets -/

/-- A pattern can be read, below a root. -/
def Readable (root pattern : String) : Prop :=
  ∃ glob, Glob.parse (Path.join root pattern) = .ok glob

/-- Some of the patterns reaches a trail. -/
def Reaches (t : FileTree) (root : String) (patterns : List String) (trail : Trail) : Prop :=
  ∃ pattern ∈ patterns, ∃ glob,
    Glob.parse (Path.join root pattern) = .ok glob ∧ trail ∈ t.reach glob

/-- Some of the patterns has a step that may lead up. -/
def GoesUp (root : String) (patterns : List String) : Prop :=
  ∃ pattern ∈ patterns, ∃ glob, Glob.parse (Path.join root pattern) = .ok glob ∧
    ∃ step ∈ glob.steps, step.goesUp = true

/-- All patterns begin at the root, or all of them in the working folder. -/
def BeginAlike (root : String) (patterns : List String) : Prop :=
  ∀ p ∈ patterns, ∀ q ∈ patterns,
    Path.isAbsolute (Path.join root p) = Path.isAbsolute (Path.join root q)

theorem targets_eq (t : FileTree) (root : String) (patterns : List String) :
    t.targets root patterns =
      (patterns.mapM fun pattern => Glob.parse (Path.join root pattern)).map fun globs =>
        merged (globs.flatMap t.reach) := by
  unfold targets merged
  cases patterns.mapM fun pattern => Glob.parse (Path.join root pattern) <;> rfl

theorem mem_reach_iff {globs : List Glob}
    (h : List.Forall₂ (fun pattern glob => Glob.parse (Path.join root pattern) = .ok glob)
      patterns globs) :
    trail ∈ globs.flatMap t.reach ↔ t.Reaches root patterns trail := by
  rw [List.mem_flatMap]
  induction h with
  | nil => simp [Reaches]
  | cons hfirst _ ih =>
      rw [Reaches] at ih
      simp [Reaches, hfirst, ih]

theorem targets_eq_error_iff {e : Glob.PatternError} :
    t.targets root patterns = .error e ↔ ∃ front pattern back,
      patterns = front ++ pattern :: back ∧ (∀ p ∈ front, Readable root p) ∧
        Glob.parse (Path.join root pattern) = .error e := by
  rw [targets_eq]
  refine Iff.trans ?_ mapM_eq_error_iff
  cases patterns.mapM fun pattern => Glob.parse (Path.join root pattern) <;> simp [Except.map]

theorem exists_globs (h : ∀ p ∈ patterns, Readable root p) :
    ∃ globs, (patterns.mapM fun pattern => Glob.parse (Path.join root pattern)) = .ok globs := by
  cases hglobs : patterns.mapM fun pattern => Glob.parse (Path.join root pattern) with
  | ok globs => exact ⟨globs, rfl⟩
  | error e =>
      obtain ⟨front, pattern, back, rfl, -, herror⟩ := mapM_eq_error_iff.1 hglobs
      obtain ⟨glob, hglob⟩ := h pattern (by simp)
      rw [hglob] at herror
      exact absurd herror (by simp)

/-- The targets are trails that are reached, in order, and one for the components of each. -/
theorem targets_of_readable (h : ∀ p ∈ patterns, Readable root p) :
    ∃ trails, t.targets root patterns = .ok trails ∧
      trails.Pairwise (fun a b => a.before b = true) ∧
      (∀ trail ∈ trails, t.Reaches root patterns trail) ∧
      ∀ trail, t.Reaches root patterns trail →
        ∃ listed ∈ trails, listed.components = trail.components := by
  obtain ⟨globs, hglobs⟩ := exists_globs h
  have hforall := mapM_eq_ok_iff.1 hglobs
  refine ⟨merged (globs.flatMap t.reach), by rw [targets_eq, hglobs]; rfl, pairwise_merged _,
    fun trail htrail => (mem_reach_iff hforall).1 (mem_of_mem_merged htrail),
    fun trail htrail => exists_mem_merged ((mem_reach_iff hforall).2 htrail)⟩

theorem leads_of_reaches (h : t.Reaches root patterns trail) :
    trail.Leads t.home ∧ t.isFile trail.place = true := by
  obtain ⟨pattern, -, glob, -, hreach⟩ := h
  exact leads_of_mem_reach hreach

theorem plain_of_reaches (hup : ¬GoesUp root patterns) (h : t.Reaches root patterns trail) :
    ∃ pattern ∈ patterns, trail.Plain t.home (Path.isAbsolute (Path.join root pattern)) := by
  obtain ⟨pattern, hpattern, glob, hglob, hreach⟩ := h
  refine ⟨pattern, hpattern, ?_⟩
  rw [← Glob.absolute_of_parse hglob]
  refine plain_of_mem_reach (fun step hstep => ?_) hreach
  by_contra hgoesUp
  exact hup ⟨pattern, hpattern, glob, hglob, step, hstep, by simpa using hgoesUp⟩

theorem reaches_congr {others : List String} (h : ∀ p, p ∈ others ↔ p ∈ patterns) :
    t.Reaches root others trail ↔ t.Reaches root patterns trail := by
  simp only [Reaches, h]

/-- Lists of the same paths, where a path tells where it leads. -/
theorem forall₂_same {home : Place} {others : List Trail} (htrails : ∀ a ∈ trails, a.Leads home)
    (hothers : ∀ b ∈ others, b.Leads home)
    (h : trails.map Trail.components = others.map Trail.components) :
    List.Forall₂ Trail.Same trails others := by
  induction trails generalizing others with
  | nil =>
      obtain rfl : others = [] := by simpa using h.symm
      exact .nil
  | cons first rest ih =>
      cases others with
      | nil => simp at h
      | cons other more =>
          rw [List.forall_mem_cons] at htrails hothers
          rw [List.map_cons, List.map_cons, List.cons.injEq] at h
          exact .cons ⟨h.1, htrails.1.place_eq hothers.1 h.1⟩ (ih htrails.2 hothers.2 h.2)

/-- No two of the targets name the same file exactly if no file is reached in two ways. -/
theorem nodup_places_iff (hpairwise : trails.Pairwise fun a b => a.before b = true)
    (hreached : ∀ trail ∈ trails, t.Reaches root patterns trail)
    (hlisted : ∀ trail, t.Reaches root patterns trail →
      ∃ listed ∈ trails, listed.components = trail.components) :
    (trails.map Trail.place).Nodup ↔
      ∀ a b, t.Reaches root patterns a → t.Reaches root patterns b → a.place = b.place →
        a.components = b.components := by
  constructor
  · intro hnodup a b ha hb hplace
    obtain ⟨a', ha', hsame⟩ := hlisted a ha
    obtain ⟨b', hb', hsame'⟩ := hlisted b hb
    have hleads := fun x (hx : x ∈ trails) => (leads_of_reaches (hreached x hx)).1
    have hplace' : a'.place = b'.place := by
      rw [(hleads a' ha').place_eq (leads_of_reaches ha).1 hsame, hplace,
        (hleads b' hb').place_eq (leads_of_reaches hb).1 hsame']
    rw [← hsame, ← hsame', List.inj_on_of_nodup_map hnodup ha' hb' hplace']
  · intro hways
    refine List.pairwise_map.2 (hpairwise.imp_of_mem fun ha hb hbefore hplace => ?_)
    have hsame := hways _ _ (hreached _ ha) (hreached _ hb) hplace
    rw [before_iff, key_eq_iff.2 hsame] at hbefore
    exact lt_irrefl _ hbefore

/-- A scan counts each target that is a text, and a fix has a result for each. -/
theorem counts_of_targets (h : t.targets root patterns = .ok trails) (rules : RuleSet)
    (mode : FixMode) :
    ∃ report results after, t.scan root rules patterns = .ok report ∧
      t.fix root rules patterns mode = .ok (results, after) ∧
      report.files = (trails.countP fun trail => (t.textAt trail.place).isOk) ∧
      results.length = report.files := by
  have hlength : (t.sources root trails).length =
      trails.countP fun trail => (t.textAt trail.place).isOk := by
    unfold sources
    rw [List.length_filterMap_eq_countP]
    refine List.countP_congr fun trail _ => ?_
    cases t.textAt trail.place <;> simp [Except.isOk, Except.toBool]
  have hsources : t.sourcesOf root patterns = .ok ((t.sources root trails).map Prod.snd) := by
    rw [sourcesOf, h]
    rfl
  rw [scan_eq, hsources, fix_eq, h]
  refine ⟨_, _, _, rfl, rfl, ?_, ?_⟩
  · rw [← hlength]
    exact List.length_map _
  · simp [FixResult.sorted]

/-- The targets of patterns.

* If some pattern cannot be read, the first such pattern is reported and there is no list.
* Otherwise there is a list of the files that some pattern reaches, in the order of the components
  of their paths, strictly increasing: each listed way is reached, and each way that is reached is
  listed under one of its spellings.  Up to the spellings the list depends on nothing but which
  patterns there are.
* The list has each way to a file once.  So it has no file twice exactly if no file is reached in
  two ways, which is so if no pattern goes up and all of them begin alike, at the root or in the
  working folder.
* A scan counts each listed text once, and a fix has one result for it. -/
theorem targets_once_iff (t : FileTree) (root : String) (patterns : List String) :
    (∀ e, t.targets root patterns = .error e ↔ ∃ front pattern back,
      patterns = front ++ pattern :: back ∧ (∀ p ∈ front, Readable root p) ∧
        Glob.parse (Path.join root pattern) = .error e) ∧
    ((∀ p ∈ patterns, Readable root p) → ∃ trails, t.targets root patterns = .ok trails ∧
      trails.Pairwise (fun a b => a.before b = true) ∧
      (∀ trail ∈ trails, t.Reaches root patterns trail) ∧
      (∀ trail, t.Reaches root patterns trail → ∃ listed ∈ trails, listed.Same trail) ∧
      (∀ trail ∈ trails, t.isFile trail.place = true) ∧
      (∀ others, (∀ p, p ∈ others ↔ p ∈ patterns) → ∃ listed,
        t.targets root others = .ok listed ∧ List.Forall₂ Trail.Same listed trails) ∧
      ((trails.map Trail.place).Nodup ↔
        ∀ a b, t.Reaches root patterns a → t.Reaches root patterns b → a.place = b.place →
          a.components = b.components) ∧
      (¬GoesUp root patterns → BeginAlike root patterns → (trails.map Trail.place).Nodup) ∧
      ∀ rules mode, ∃ report results after, t.scan root rules patterns = .ok report ∧
        t.fix root rules patterns mode = .ok (results, after) ∧
        report.files = (trails.countP fun trail => (t.textAt trail.place).isOk) ∧
        results.length = report.files) := by
  refine ⟨fun e => targets_eq_error_iff, fun hreadable => ?_⟩
  obtain ⟨trails, htargets, hpairwise, hreached, hlisted⟩ := targets_of_readable (t := t) hreadable
  have hleads := fun x (hx : x ∈ trails) => (leads_of_reaches (hreached x hx)).1
  have hnodup := nodup_places_iff hpairwise hreached hlisted
  refine ⟨trails, htargets, hpairwise, hreached, fun trail htrail => ?_,
    fun trail htrail => (leads_of_reaches (hreached trail htrail)).2, fun others hothers => ?_,
    hnodup, fun hup halike => ?_, counts_of_targets htargets⟩
  · obtain ⟨listed, hmem, hsame⟩ := hlisted trail htrail
    exact ⟨listed, hmem, hsame, (hleads listed hmem).place_eq (leads_of_reaches htrail).1 hsame⟩
  · have hreadable' : ∀ p ∈ others, Readable root p := fun p hp => hreadable p ((hothers p).1 hp)
    obtain ⟨listed, htargets', hpairwise', hreached', hlisted'⟩ :=
      targets_of_readable (t := t) hreadable'
    refine ⟨listed, htargets', forall₂_same
      (fun x hx => (leads_of_reaches (hreached' x hx)).1) hleads ?_⟩
    exact map_components_eq hpairwise' hpairwise
      (fun a ha => hlisted a ((reaches_congr hothers).1 (hreached' a ha)))
      fun b hb => hlisted' b ((reaches_congr hothers).2 (hreached b hb))
  · refine hnodup.2 fun a b ha hb hplace => ?_
    obtain ⟨p, hp, hplain⟩ := plain_of_reaches hup ha
    obtain ⟨q, hq, hplain'⟩ := plain_of_reaches hup hb
    rw [hplain.components_eq, hplain'.components_eq, halike p hp q hq, hplace]

/-- Four patterns that reach two files, each of them in more than one of them, and none goes up. -/
theorem targets_once_iff_overlapping :
    let t : FileTree :=
      ⟨[(["w", "a.cs"], ByteArray.empty), (["w", "sub", "b.cs"], ByteArray.empty)], [], ["w"]⟩
    let patterns := ["**/*.cs", "./a.cs", "*/*.cs", "a.cs"]
    (∀ p ∈ patterns, Readable "." p) ∧ ¬GoesUp "." patterns ∧
      ∃ trails, t.targets "." patterns = .ok trails ∧ (trails.map Trail.place).Nodup := by
  intro t patterns
  have hreadable : ∀ p ∈ patterns, Readable "." p := by
    have hparse : ∀ p ∈ patterns,
        (Glob.parse (Path.join "." p)).toOption.any (fun _ => true) = true := by
      decide +kernel
    intro p hp
    obtain ⟨glob, hglob, -⟩ := exists_ok_of_any (hparse p hp)
    exact ⟨glob, hglob⟩
  have hup : ¬GoesUp "." patterns := by
    have hsteps : ∀ p ∈ patterns, (Glob.parse (Path.join "." p)).toOption.any
        (fun glob => glob.steps.all fun step => !step.goesUp) = true := by
      decide +kernel
    rintro ⟨p, hp, glob, hglob, step, hstep, hgoesUp⟩
    have hall := hsteps p hp
    simp only [hglob, Except.toOption, Option.any_some, List.all_eq_true] at hall
    exact absurd (hall step hstep) (by simp [hgoesUp])
  have halike : BeginAlike "." patterns := by
    unfold BeginAlike
    decide +kernel
  obtain ⟨trails, htargets, -, -, -, -, -, -, hnodup, -⟩ :=
    (targets_once_iff t "." patterns).2 hreadable
  exact ⟨hreadable, hup, trails, htargets, hnodup hup halike⟩

/-- The ways `a.cs` and `sub/../a.cs` lead to one file, which is listed and counted twice. -/
theorem file_listed_twice :
    let t : FileTree :=
      ⟨[(["w", "a.cs"], ByteArray.empty), (["w", "sub", "b.cs"], ByteArray.empty)], [], ["w"]⟩
    let patterns := ["a.cs", "sub/../a.cs"]
    (t.targets "." patterns).toOption.map (List.map Trail.place) =
        some [["w", "a.cs"], ["w", "a.cs"]] ∧
      (t.scan "." RuleSet.empty patterns).toOption.map ScanReport.files = some 2 := by
  decide +kernel

end FileTree

end HookMigration
