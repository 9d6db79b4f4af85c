import HookMigration.Proofs.Files.Writing
import Mathlib.Data.List.Nodup

/-!
# Fixing files

A fix reads all of its targets, and then writes the fixed texts of those that change.  Afterwards
every file that was read holds its fixed text, and every other file what it held before
(`file?_writeAll_of_mem`, `file?_writeAll_of_not_mem`); so the files that differ are those whose
result says so (`file?_writeAll_ne_iff`).

Where no two targets name the same file, it does not matter that all targets are read first: they may
as well be taken one after the other, in any order, each read when its turn comes
(`foldl_fixTarget`).
-/

namespace HookMigration

/-! ## Results -/

/-- The result for one source. -/
def FixResult.ofSource (rules : RuleSet) (mode : FixMode) (source : Source) : FixResult :=
  .ofFixed mode source (rules.fix source.text mode.strip)

/-- A result without the text that it shows. -/
def FixResult.withoutPreview (r : FixResult) : FixResult :=
  { r with preview := none }

theorem FixResult.mem_sorted {r : FixResult} {results : List FixResult} :
    r ∈ sorted results ↔ r ∈ results :=
  List.mem_mergeSort

/-- The order of results is that of their files. -/
theorem FixResult.sorted_map {f : FixResult → FixResult} (hf : ∀ r, (f r).file = r.file)
    (results : List FixResult) : sorted (results.map f) = (sorted results).map f := by
  refine (List.map_mergeSort ?_).symm
  intro a _ b _
  rw [hf, hf]

namespace FileTree

variable {t : FileTree} {root : String} {rules : RuleSet} {strip : Bool} {targets : List Trail}
  {sources : List (Trail × Source)} {s : Trail × Source} {place : Place} {text : String}

/-! ## Sources -/

theorem mem_sources : s ∈ t.sources root targets ↔
    s.1 ∈ targets ∧ t.textAt s.1.place = .ok s.2.text ∧ s.2.name = Path.display root s.1.path := by
  unfold sources
  rw [List.mem_filterMap]
  obtain ⟨trail, name, text⟩ := s
  constructor
  · rintro ⟨target, htarget, hsource⟩
    split at hsource
    next read hread =>
      obtain ⟨rfl, rfl, rfl⟩ :
          target = trail ∧ Path.display root target.path = name ∧ read = text := by
        simpa using hsource
      exact ⟨htarget, hread, rfl⟩
    next => simp at hsource
  · rintro ⟨htarget, hread, hname⟩
    refine ⟨trail, htarget, ?_⟩
    simp only at hread hname
    simp [hread, hname]

/-! ## Writing the fixed texts -/

/-- The tree with the fixed texts of sources in it. -/
def writeAll (t : FileTree) (rules : RuleSet) (strip : Bool) (sources : List (Trail × Source)) :
    FileTree :=
  sources.foldl (fun t s => t.writeFixed s.1 s.2 (rules.fix s.2.text strip)) t

@[simp] theorem writeAll_nil (t : FileTree) (rules : RuleSet) (strip : Bool) :
    t.writeAll rules strip [] = t := rfl

@[simp] theorem writeAll_cons (t : FileTree) (rules : RuleSet) (strip : Bool)
    (s : Trail × Source) (rest : List (Trail × Source)) :
    t.writeAll rules strip (s :: rest) =
      (t.writeFixed s.1 s.2 (rules.fix s.2.text strip)).writeAll rules strip rest := rfl

theorem fix_eq (t : FileTree) (root : String) (rules : RuleSet) (patterns : List String)
    (mode : FixMode) :
    t.fix root rules patterns mode = (t.targets root patterns).map fun targets =>
      (FixResult.sorted ((t.sources root targets).map fun s => .ofSource rules mode s.2),
        if mode.write then t.writeAll rules mode.strip (t.sources root targets) else t) := by
  unfold fix
  cases t.targets root patterns <;> rfl

theorem file?_writeFixed_of_ne {f : Fixed} (h : place ≠ s.1.place) :
    (t.writeFixed s.1 s.2 f).file? place = t.file? place := by
  unfold writeFixed
  split_ifs
  · exact file?_write_of_ne h
  · rfl

/-- A file that holds the text that was read, or the fixed one, holds the fixed one afterwards. -/
theorem file?_writeFixed {f : Fixed}
    (h : t.file? s.1.place = some s.2.text.toUTF8 ∨ t.file? s.1.place = some f.text.toUTF8) :
    (t.writeFixed s.1 s.2 f).file? s.1.place = some f.text.toUTF8 := by
  unfold writeFixed
  split_ifs with hchanged
  · rw [file?_write, if_pos rfl]
    rcases h with h | h <;> rw [h] <;> rfl
  · have hsame : f.text = s.2.text := by simpa using hchanged
    rcases h with h | h
    · rw [h, hsame]
    · exact h

theorem files_writeAll (t : FileTree) (rules : RuleSet) (strip : Bool)
    (sources : List (Trail × Source)) :
    (t.writeAll rules strip sources).folders = t.folders ∧
      (t.writeAll rules strip sources).files.map Prod.fst = t.files.map Prod.fst := by
  induction sources generalizing t with
  | nil => exact ⟨rfl, rfl⟩
  | cons s rest ih =>
      have hfirst : (t.writeFixed s.1 s.2 (rules.fix s.2.text strip)).folders = t.folders ∧
          (t.writeFixed s.1 s.2 (rules.fix s.2.text strip)).files.map Prod.fst =
            t.files.map Prod.fst := by
        unfold writeFixed
        split_ifs
        · exact ⟨rfl, files_write t _ _⟩
        · exact ⟨rfl, rfl⟩
      obtain ⟨hfolders, hfiles⟩ := ih (t.writeFixed s.1 s.2 (rules.fix s.2.text strip))
      exact ⟨hfolders.trans hfirst.1, hfiles.trans hfirst.2⟩

theorem file?_writeAll_of_not_mem (h : ∀ s ∈ sources, s.1.place ≠ place) :
    (t.writeAll rules strip sources).file? place = t.file? place := by
  induction sources generalizing t with
  | nil => rfl
  | cons s rest ih =>
      rw [List.forall_mem_cons] at h
      rw [writeAll_cons]
      exact (ih h.2).trans (file?_writeFixed_of_ne h.1.symm)

/-- A fixed text stays: sources of the same file have the same text. -/
theorem file?_writeAll_of_fixed (hsame : ∀ s ∈ sources, s.1.place = place → s.2.text = text)
    (h : t.file? place = some (rules.fix text strip).text.toUTF8) :
    (t.writeAll rules strip sources).file? place =
      some (rules.fix text strip).text.toUTF8 := by
  induction sources generalizing t with
  | nil => exact h
  | cons s rest ih =>
      rw [List.forall_mem_cons] at hsame
      rw [writeAll_cons]
      refine ih hsame.2 ?_
      by_cases hplace : s.1.place = place
      · obtain rfl := hplace
        rw [← hsame.1 rfl] at h ⊢
        exact file?_writeFixed (.inr h)
      · rw [file?_writeFixed_of_ne (Ne.symm hplace), h]

theorem file?_writeAll (hsame : ∀ s ∈ sources, s.1.place = place → s.2.text = text)
    (h : t.file? place = some text.toUTF8) (hmem : ∃ s ∈ sources, s.1.place = place) :
    (t.writeAll rules strip sources).file? place =
      some (rules.fix text strip).text.toUTF8 := by
  -- the file holds the text that was read until a source names it, and then the fixed one
  induction sources generalizing t with
  | nil => simp at hmem
  | cons s rest ih =>
      rw [List.forall_mem_cons] at hsame
      by_cases hplace : s.1.place = place
      · obtain rfl := hplace
        have hfixed : (t.writeFixed s.1 s.2 (rules.fix s.2.text strip)).file? s.1.place =
            some (rules.fix text strip).text.toUTF8 := by
          rw [← hsame.1 rfl] at h ⊢
          exact file?_writeFixed (.inl h)
        rw [writeAll_cons]
        exact file?_writeAll_of_fixed hsame.2 hfixed
      · have hrest : ∃ s ∈ rest, s.1.place = place := by
          obtain ⟨other, hother, hotherplace⟩ := hmem
          rcases List.mem_cons.1 hother with rfl | hother
          · exact absurd hotherplace hplace
          · exact ⟨other, hother, hotherplace⟩
        rw [writeAll_cons]
        exact ih hsame.2 ((file?_writeFixed_of_ne (Ne.symm hplace)).trans h) hrest

/-- Every file that was read holds its fixed text. -/
theorem file?_writeAll_of_mem (hs : s ∈ t.sources root targets) :
    (t.writeAll rules strip (t.sources root targets)).file? s.1.place =
      some (rules.fix s.2.text strip).text.toUTF8 := by
  have hread := (mem_sources.1 hs).2.1
  refine file?_writeAll ?_ (textAt_eq_ok_iff.1 hread) ⟨s, hs, rfl⟩
  intro other hother hplace
  have hother := (mem_sources.1 hother).2.1
  rw [hplace, hread] at hother
  exact (Except.ok.inj hother).symm

/-- The files that differ afterwards are those whose fixed text is another one. -/
theorem file?_writeAll_ne_iff :
    (t.writeAll rules strip (t.sources root targets)).file? place ≠ t.file? place ↔
      ∃ s ∈ t.sources root targets, s.1.place = place ∧
        (rules.fix s.2.text strip).text ≠ s.2.text := by
  constructor
  · intro hne
    by_contra hnone
    by_cases hmem : ∃ s ∈ t.sources root targets, s.1.place = place
    · obtain ⟨s, hs, rfl⟩ := hmem
      have hsame : (rules.fix s.2.text strip).text = s.2.text := by
        by_contra hchanged
        exact hnone ⟨s, hs, rfl, hchanged⟩
      refine hne ?_
      rw [file?_writeAll_of_mem hs, hsame, textAt_eq_ok_iff.1 (mem_sources.1 hs).2.1]
    · refine hne (file?_writeAll_of_not_mem fun s hs hplace => ?_)
      exact hmem ⟨s, hs, hplace⟩
  · rintro ⟨s, hs, rfl, hchanged⟩ hsame
    rw [file?_writeAll_of_mem hs, textAt_eq_ok_iff.1 (mem_sources.1 hs).2.1] at hsame
    exact hchanged (toUTF8_injective (Option.some.inj hsame))

/-! ## One target after the other -/

/-- The tree after one target was read and its fixed text was written. -/
def fixTarget (rules : RuleSet) (strip : Bool) (t : FileTree) (trail : Trail) : FileTree :=
  match t.textAt trail.place with
  | .ok text => t.writeFixed trail ⟨trail.path, text⟩ (rules.fix text strip)
  | .error _ => t

/-- A target is a file with a new text, or the tree stays as it is. -/
theorem fixTarget_cases (rules : RuleSet) (strip : Bool) (t : FileTree) (trail : Trail) :
    fixTarget rules strip t trail = t ∨
      ∃ text, fixTarget rules strip t trail = t.write trail.place text := by
  unfold fixTarget
  split
  · unfold writeFixed
    split_ifs
    · exact .inr ⟨_, rfl⟩
    · exact .inl rfl
  · exact .inl rfl

theorem textAt_fixTarget_of_ne {trail : Trail} (h : place ≠ trail.place) :
    (fixTarget rules strip t trail).textAt place = t.textAt place := by
  rcases fixTarget_cases rules strip t trail with hsame | ⟨text, hwrite⟩
  · rw [hsame]
  · rw [hwrite, textAt_write_of_ne h]

/-- What becomes of a target depends on its own file alone. -/
theorem fixTarget_congr (rules : RuleSet) (strip : Bool) {t' : FileTree} {trail : Trail}
    (h : t.textAt trail.place = t'.textAt trail.place) :
    (fixTarget rules strip t trail = t ∧ fixTarget rules strip t' trail = t') ∨
      ∃ text, fixTarget rules strip t trail = t.write trail.place text ∧
        fixTarget rules strip t' trail = t'.write trail.place text := by
  unfold fixTarget
  rw [h]
  cases t'.textAt trail.place with
  | error e => exact .inl ⟨rfl, rfl⟩
  | ok text =>
      simp only [writeFixed]
      split_ifs
      · exact .inr ⟨_, rfl, rfl⟩
      · exact .inl ⟨rfl, rfl⟩

theorem fixTarget_comm {a b : Trail} (h : a.place ≠ b.place) (t : FileTree) :
    fixTarget rules strip (fixTarget rules strip t a) b =
      fixTarget rules strip (fixTarget rules strip t b) a := by
  have ha : (fixTarget rules strip t b).textAt a.place = t.textAt a.place :=
    textAt_fixTarget_of_ne h
  have hb : (fixTarget rules strip t a).textAt b.place = t.textAt b.place :=
    textAt_fixTarget_of_ne (Ne.symm h)
  rcases fixTarget_congr rules strip ha with ⟨hab, hat⟩ | ⟨text, hab, hat⟩ <;>
  rcases fixTarget_congr rules strip hb with ⟨hba, hbt⟩ | ⟨text', hba, hbt⟩ <;>
  rw [hab, hba, hat, hbt]
  exact write_comm t h text text'

theorem sources_congr {t' : FileTree}
    (h : ∀ trail ∈ targets, t.textAt trail.place = t'.textAt trail.place) :
    t.sources root targets = t'.sources root targets := by
  unfold sources
  refine List.filterMap_congr fun trail htrail => ?_
  rw [h trail htrail]

/-- In the order in which the targets were found it makes no difference when they are read. -/
theorem foldl_fixTarget_targets (hplaces : (targets.map Trail.place).Nodup) (t : FileTree) :
    targets.foldl (fixTarget rules strip) t =
      t.writeAll rules strip (t.sources root targets) := by
  induction targets generalizing t with
  | nil => rfl
  | cons trail rest ih =>
      rw [List.map_cons, List.nodup_cons] at hplaces
      have hrest : (fixTarget rules strip t trail).sources root rest = t.sources root rest := by
        refine sources_congr fun other hother => textAt_fixTarget_of_ne fun hplace => ?_
        exact hplaces.1 (hplace ▸ List.mem_map_of_mem hother)
      rw [List.foldl_cons, ih hplaces.2, hrest]
      unfold fixTarget sources
      rw [List.filterMap_cons]
      cases t.textAt trail.place <;> rfl

/-- Targets that name different files may be taken one after the other in any order. -/
theorem foldl_fixTarget {order : List Trail} (hplaces : (targets.map Trail.place).Nodup)
    (horder : order.Perm targets) (root : String) (t : FileTree) :
    order.foldl (fixTarget rules strip) t =
      t.writeAll rules strip (t.sources root targets) := by
  rw [← foldl_fixTarget_targets hplaces t]
  refine horder.foldl_eq' (fun a ha b hb t => ?_) t
  by_cases hplace : a.place = b.place
  · -- no two targets name the same file, so it is one target
    have hsame : a = b :=
      List.inj_on_of_nodup_map hplaces (horder.subset ha) (horder.subset hb) hplace
    rw [hsame]
  · exact fixTarget_comm hplace t

end FileTree

end HookMigration
