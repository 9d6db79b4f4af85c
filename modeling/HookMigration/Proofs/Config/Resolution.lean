import HookMigration.Config.Resolve
import HookMigration.PlainDecoders
import HookMigration.Proofs.Files.Ancestors
import HookMigration.Proofs.Files.Writing

/-!
# Which settings result

The settings of a run come about in three steps.  The root is the lowest marked folder at or above the
start (`RootFor`).  The first configuration file at the root says something, or nothing if it is
unfit (`Says`).  Each setting is then the one on the command line, or else the one in the file, or
else the default, whatever the other settings are (`Settled`).

Each of the three is a relation that has exactly one solution, and the program finds it
(`resolve_correct`).  Which files there are does not depend on what is in them; so an unfit
configuration file has the effect of an empty one.
-/

namespace HookMigration

namespace Config

variable {t : FileTree} {start root : String} {o : Overrides} {c : Config} {e : Effective}

/-! ## The root -/

/-- A folder has a configuration file or a repository marker. -/
def Marked (t : FileTree) (folder : String) : Prop :=
  ∃ name ∈ ["hookshift.toml", "hookshift.yaml", "hookshift.yml", ".git"],
    t.holds (Path.join folder name) = true

/-- The root for a start. -/
inductive RootFor (t : FileTree) (start : String) : String → Prop
  /-- The lowest marked folder at or above the start. -/
  | marked {root : String} (habove : root ∈ Path.ancestors start) (hmarked : Marked t root)
      (hlowest : ∀ folder ∈ Path.ancestors start, Marked t folder →
        Path.components folder <+: Path.components root) : RootFor t start root
  /-- The start itself where no folder is marked. -/
  | unmarked (hnone : ∀ folder ∈ Path.ancestors start, ¬Marked t folder) : RootFor t start start

theorem isMarked_iff (t : FileTree) (folder : String) :
    isMarked t folder = true ↔ Marked t folder :=
  List.any_eq_true

theorem rootFor_detectRoot (t : FileTree) (start : String) : RootFor t start (detectRoot t start) := by
  unfold detectRoot
  cases hfind : (Path.ancestors start).find? (isMarked t) with
  | none =>
      refine .unmarked fun folder hfolder hmarked => ?_
      exact List.find?_eq_none.1 hfind folder hfolder ((isMarked_iff t folder).2 hmarked)
  | some root =>
      obtain ⟨hmarked, lower, upper, hsplit, hlower⟩ := List.find?_eq_some_iff_append.1 hfind
      refine .marked (by simp [hsplit]) ((isMarked_iff t root).1 hmarked) fun folder hfolder h => ?_
      rw [hsplit, List.mem_append, List.mem_cons] at hfolder
      rcases hfolder with hfolder | rfl | hfolder
      · -- nothing is marked on the way up to the root
        have hnot := hlower folder hfolder
        rw [(isMarked_iff t folder).2 h] at hnot
        exact absurd hnot (by decide)
      · exact List.prefix_rfl
      · have hpairwise := Path.pairwise_ancestors start
        rw [hsplit] at hpairwise
        have hupper := (List.pairwise_append.1 hpairwise).2.1
        exact ((List.pairwise_cons.1 hupper).1 folder hfolder).1

/-- There is one root for each start. -/
theorem RootFor.eq {other : String} (h : RootFor t start root) (h' : RootFor t start other) :
    root = other := by
  cases h with
  | marked habove hmarked hlowest =>
      cases h' with
      | marked habove' hmarked' hlowest' =>
          have hle := hlowest' _ habove hmarked
          have hge := hlowest _ habove' hmarked'
          exact Path.eq_of_mem_ancestors habove habove'
            (hle.eq_of_length (le_antisymm hle.length_le hge.length_le))
      | unmarked hnone => exact absurd hmarked (hnone _ habove)
  | unmarked hnone =>
      cases h' with
      | marked habove hmarked _ => exact absurd hmarked (hnone _ habove)
      | unmarked _ => rfl

theorem rootFor_iff : RootFor t start root ↔ detectRoot t start = root :=
  ⟨fun h => (rootFor_detectRoot t start).eq h, fun h => h ▸ rootFor_detectRoot t start⟩

/-- The root is its own root. -/
theorem detectRoot_detectRoot (t : FileTree) (start : String) :
    detectRoot t (detectRoot t start) = detectRoot t start := by
  have hroot := rootFor_detectRoot t start
  generalize detectRoot t start = root at hroot
  cases hroot with
  | unmarked hnone => exact rootFor_iff.1 (.unmarked hnone)
  | marked habove hmarked hlowest =>
      exact rootFor_iff.1 (.marked (Path.mem_ancestors_self root) hmarked fun folder hfolder _ =>
        Path.components_prefix_of_mem_ancestors hfolder)

/-! ## The configuration file -/

/-- The first of the configuration files there are at a root. -/
def IsFirst (t : FileTree) (root name : String) : Prop :=
  ∃ before after, ["hookshift.toml", "hookshift.yaml", "hookshift.yml"] = before ++ name :: after ∧
    (∀ other ∈ before, t.holds (Path.join root other) = false) ∧
    t.holds (Path.join root name) = true

theorem isFirst_iff {name : String} : IsFirst t root name ↔
    fileNames.find? (fun name => t.holds (Path.join root name)) = some name := by
  rw [List.find?_eq_some_iff_append]
  simp only [IsFirst, fileNames, Bool.not_eq_true']
  constructor
  · rintro ⟨before, after, hsplit, hbefore, hname⟩
    exact ⟨hname, before, after, hsplit, hbefore⟩
  · rintro ⟨hname, before, after, hsplit, hbefore⟩
    exact ⟨before, after, hsplit, hbefore, hname⟩

section Reading

variable [Decoders]

/-- What the configuration at a root says. -/
inductive Says (t : FileTree) (root : String) : Config → Prop
  /-- There is no configuration file. -/
  | absent (hnone : ∀ name ∈ ["hookshift.toml", "hookshift.yaml", "hookshift.yml"],
      t.holds (Path.join root name) = false) : Says t root .empty
  /-- The first one cannot be read. -/
  | unreadable {name : String} {e : FileError} (hfirst : IsFirst t root name)
      (hread : t.readText (Path.join root name) = .error e) : Says t root .empty
  /-- The first one is unfit. -/
  | unfit {name text fault : String} (hfirst : IsFirst t root name)
      (hread : t.readText (Path.join root name) = .ok text)
      (hunfit : ofText name text = .error fault) : Says t root .empty
  /-- The first one is fit. -/
  | fit {name text : String} {c : Config} (hfirst : IsFirst t root name)
      (hread : t.readText (Path.join root name) = .ok text) (hfit : ofText name text = .ok c) :
      Says t root c

/-- The configuration at a root depends on the first configuration file alone. -/
theorem load?_of_isFirst {name : String} (h : IsFirst t root name) :
    load? t root =
      (t.readText (Path.join root name)).toOption.bind fun text => (ofText name text).toOption := by
  unfold load? read?
  rw [isFirst_iff.1 h]
  cases hread : t.readText (Path.join root name) <;>
    simp [hread, Except.toOption]

theorem says_load? (t : FileTree) (root : String) : Says t root ((load? t root).getD .empty) := by
  cases hfind : fileNames.find? fun name => t.holds (Path.join root name) with
  | none =>
      have hload : load? t root = none := by
        unfold load? read?
        rw [hfind]
        rfl
      rw [hload]
      exact .absent fun name hname => by simpa using List.find?_eq_none.1 hfind name hname
  | some name =>
      have hname : IsFirst t root name := isFirst_iff.2 hfind
      rw [load?_of_isFirst hname]
      cases hread : t.readText (Path.join root name) with
      | error e => exact .unreadable hname hread
      | ok text =>
          cases hfit : ofText name text with
          | error fault => simpa [Except.toOption, hfit] using Says.unfit hname hread hfit
          | ok c => simpa [Except.toOption, hfit] using Says.fit hname hread hfit

theorem says_iff : Says t root c ↔ (load? t root).getD .empty = c := by
  constructor
  · intro h
    cases h with
    | absent hnone =>
        unfold load? read?
        rw [List.find?_eq_none.2 fun name hname => by simp [hnone name hname]]
        rfl
    | unreadable hfirst hread => simp [load?_of_isFirst hfirst, hread, Except.toOption]
    | unfit hfirst hread hunfit => simp [load?_of_isFirst hfirst, hread, Except.toOption, hunfit]
    | fit hfirst hread hfit => simp [load?_of_isFirst hfirst, hread, Except.toOption, hfit]
  · rintro rfl
    exact says_load? t root

end Reading

/-! ## The settings -/

/-- Where a setting comes from: the command line, or else the file, or else the default. -/
inductive Chosen {α : Type} (default : α) : Option α → Option α → α → Prop
  | given (value : α) (said : Option α) : Chosen default (some value) said value
  | said (value : α) : Chosen default none (some value) value
  | neither : Chosen default none none default

theorem chosen_iff {α : Type} {default value : α} {given said : Option α} :
    Chosen default given said value ↔ (given.or said).getD default = value := by
  constructor
  · rintro (_ | _ | _) <;> rfl
  · rintro rfl
    cases given with
    | some value => exact .given value said
    | none =>
        cases said with
        | some value => exact .said value
        | none => exact .neither

/-- The settings for a root, a command line and a configuration.  An empty list of patterns counts as
none. -/
structure Settled (root : String) (o : Overrides) (c : Config) (e : Effective) : Prop where
  repoRoot : e.repoRoot = root
  rules : Chosen "hooks.toml" o.rules c.rules e.rules
  patterns : Chosen ["**/*.cs"] (if o.patterns = [] then none else some o.patterns)
    (c.patterns.filter (· ≠ [])) e.patterns
  output : Chosen "human" o.output c.output e.output
  minSeverity : Chosen .error o.minSeverity c.minSeverity e.minSeverity
  write : Chosen false o.write (c.fix.bind FixConfig.write) e.write
  diff : Chosen false o.diff (c.fix.bind FixConfig.diff) e.diff
  check : Chosen false o.check (c.fix.bind FixConfig.check) e.check
  strip : Chosen false o.strip (c.fix.bind FixConfig.strip) e.strip

/-- A setting about fixing is not said where nothing is said about fixing. -/
theorem chosen_fix (given : Option Bool) (fix : Option FixConfig) (said : FixConfig → Option Bool)
    (hempty : said .empty = none) :
    Chosen false given (fix.bind said) ((given.or (said (fix.getD .empty))).getD false) := by
  have hsaid : said (fix.getD .empty) = fix.bind said := by
    cases fix with
    | none => exact hempty
    | some fix => rfl
  rw [hsaid]
  exact chosen_iff.2 rfl

theorem settled_merge (root : String) (o : Overrides) (c : Config) :
    Settled root o c (merge root o c) where
  repoRoot := rfl
  rules := chosen_iff.2 rfl
  patterns := by
    have hgiven : givenPatterns o.patterns = if o.patterns = [] then none else some o.patterns := by
      cases o.patterns <;> rfl
    have hsaid : c.patterns.bind givenPatterns = c.patterns.filter (· ≠ []) := by
      cases c.patterns with
      | none => rfl
      | some patterns => cases patterns <;> rfl
    rw [chosen_iff, ← hgiven, ← hsaid]
    rfl
  output := chosen_iff.2 rfl
  minSeverity := chosen_iff.2 rfl
  write := chosen_fix o.write c.fix FixConfig.write rfl
  diff := chosen_fix o.diff c.fix FixConfig.diff rfl
  check := chosen_fix o.check c.fix FixConfig.check rfl
  strip := chosen_fix o.strip c.fix FixConfig.strip rfl

theorem Chosen.eq {α : Type} {default value other : α} {given said : Option α}
    (h : Chosen default given said value) (h' : Chosen default given said other) : value = other :=
  (chosen_iff.1 h).symm.trans (chosen_iff.1 h')

theorem Settled.eq {e' : Effective} (h : Settled root o c e) (h' : Settled root o c e') : e = e' := by
  cases e
  cases e'
  congr
  · exact h.repoRoot.trans h'.repoRoot.symm
  · exact h.rules.eq h'.rules
  · exact h.patterns.eq h'.patterns
  · exact h.output.eq h'.output
  · exact h.minSeverity.eq h'.minSeverity
  · exact h.write.eq h'.write
  · exact h.diff.eq h'.diff
  · exact h.check.eq h'.check
  · exact h.strip.eq h'.strip

theorem settled_iff : Settled root o c e ↔ merge root o c = e :=
  ⟨fun h => (settled_merge root o c).eq h, fun h => h ▸ settled_merge root o c⟩

theorem resolve_iff [Decoders] : resolve t o = e ↔
    ∃ root c, RootFor t (o.repoRoot.getD ".") root ∧ Says t root c ∧ Settled root o c e := by
  simp only [rootFor_iff, says_iff, settled_iff, exists_and_left, exists_eq_left']
  rfl

/-! ## An unfit configuration file -/

theorem detectRoot_write (t : FileTree) (place : Place) (text start : String) :
    detectRoot (t.write place text) start = detectRoot t start := by
  unfold detectRoot isMarked
  simp only [FileTree.holds_write]

theorem isFirst_write {name : String} (place : Place) (text : String) :
    IsFirst (t.write place text) root name ↔ IsFirst t root name := by
  simp only [IsFirst, FileTree.holds_write]

theorem ofText_empty [Decoders] (htoml : Decoders.toml.ReadsEmpty)
    (hyaml : Decoders.yaml.ReadsEmpty) (name : String) : ofText name "" = .ok .empty := by
  unfold ofText
  split_ifs
  · exact htoml
  · exact hyaml

/-- The first configuration file at a root, when it is emptied. -/
theorem load?_write_empty [Decoders] (htoml : Decoders.toml.ReadsEmpty)
    (hyaml : Decoders.yaml.ReadsEmpty) {name : String} {place : Place}
    (hfirst : IsFirst t root name) (hfind : t.find (Path.join root name) = .ok place)
    (hfile : t.isFile place = true) : load? (t.write place "") root = some .empty := by
  have hread : (t.write place "").readText (Path.join root name) = .ok "" := by
    rw [FileTree.readText_of_find ((FileTree.find_write t place "" _).trans hfind),
      FileTree.textAt_write_self hfile]
  rw [load?_of_isFirst ((isFirst_write place "").2 hfirst), hread]
  simp [Except.toOption, ofText_empty htoml hyaml]

/-- The settings that result from a file tree and a command line.

* What lies above a path has the beginnings of its components, from the longest to the shortest, and
  texts that are beginnings of its text; the first is the path itself.
* The root for a start is the lowest marked folder among these, or the start where none is marked;
  there is one, the program finds it, and it is its own root.
* The settings are those for this root, the command line, and what the first configuration file at
  the root says.  Each is the one on the command line, or else the one in the file, or else the
  default.
* If the first configuration file is not a fit text, the settings stay as they are when the file is
  emptied, which makes it fit where the decoders take an empty text for settings that say nothing. -/
theorem resolve_correct [Decoders] (t : FileTree) (o : Overrides) :
    (∀ start,
      (Path.ancestors start).head? = some start ∧
      (Path.ancestors start).map Path.components =
        (Path.beginnings (Path.isAbsolute start) (Path.components start)).reverse ∧
      (∀ folder ∈ Path.ancestors start, folder.toList <+: start.toList) ∧
      (∀ root, RootFor t start root ↔ detectRoot t start = root) ∧
      detectRoot t (detectRoot t start) = detectRoot t start) ∧
    (∀ e, resolve t o = e ↔
      ∃ root c, RootFor t (o.repoRoot.getD ".") root ∧ Says t root c ∧ Settled root o c e) ∧
    (Decoders.toml.ReadsEmpty → Decoders.yaml.ReadsEmpty →
      ∀ name place, IsFirst t (resolve t o).repoRoot name →
      t.find (Path.join (resolve t o).repoRoot name) = .ok place → t.isFile place = true →
      (∀ text c, t.textAt place = .ok text → ofText name text ≠ .ok c) →
      load? (t.write place "") (resolve t o).repoRoot = some .empty ∧
        resolve (t.write place "") o = resolve t o) := by
  refine ⟨fun start => ⟨Path.head?_ancestors start, Path.map_components_ancestors start,
    fun folder => Path.prefix_of_mem_ancestors, fun root => rootFor_iff,
    detectRoot_detectRoot t start⟩, fun e => resolve_iff, ?_⟩
  intro htoml hyaml name place hfirst hfind hfile hunfit
  have hempty := load?_write_empty htoml hyaml hfirst hfind hfile
  have hload : load? t (resolve t o).repoRoot = none := by
    rw [load?_of_isFirst hfirst, FileTree.readText_of_find hfind]
    cases htext : t.textAt place with
    | error e => rfl
    | ok text =>
        cases hfit : ofText name text with
        | error fault => simp [Except.toOption, hfit]
        | ok c => exact absurd hfit (hunfit text c htext)
  refine ⟨hempty, ?_⟩
  -- the root stays, and at the root the empty configuration takes the place of none
  have hroot : (resolve t o).repoRoot = detectRoot t (o.repoRoot.getD defaultStart) := rfl
  rw [hroot] at hempty hload
  unfold resolve
  simp only [detectRoot_write, hempty, hload]
  rfl

section Plain

attribute [local instance] Decoders.plain

/-- An unfit file hides a fit one beside it, and the marks of the folders above it; the start lies
beside the folder that the run works in. -/
theorem resolve_correct_unfit :
    let t : FileTree := ⟨[(["w", "repo", "hookshift.toml"], "rules = 1".toUTF8),
      (["w", "repo", "hookshift.yaml"], "rules: other.toml".toUTF8),
      (["w", "repo", "src", "A.cs"], ByteArray.empty)], [["w", ".git"]], ["w", "home"]⟩
    let o : Overrides := { Overrides.empty with repoRoot := some "/w/repo/src", check := some true }
    let e : Effective :=
      ⟨"/w/repo", "hooks.toml", ["**/*.cs"], "human", .error, false, false, true, false⟩
    resolve t o = e ∧ resolve (t.write ["w", "repo", "hookshift.toml"] "") o = e := by
  intro t o e
  have hresolve : resolve t o = e := by decide +kernel
  have htext : t.textAt ["w", "repo", "hookshift.toml"] = .ok "rules = 1" :=
    FileTree.textAt_eq_ok_iff.2 rfl
  have hunfit : ∀ text c, t.textAt ["w", "repo", "hookshift.toml"] = .ok text →
      ofText "hookshift.toml" text ≠ .ok c := by
    intro text c h hfit
    rw [htext] at h
    obtain rfl := Except.ok.inj h
    have hfault : (ofText "hookshift.toml" "rules = 1").isOk = false := by decide +kernel
    rw [hfit] at hfault
    cases hfault
  have hfirst : IsFirst t (resolve t o).repoRoot "hookshift.toml" := by
    rw [hresolve]
    exact ⟨[], _, rfl, by simp, by decide +kernel⟩
  have hsame := (resolve_correct t o).2.2 Toml.readsEmpty_decoder Yaml.readsEmpty_decoder
    "hookshift.toml" ["w", "repo", "hookshift.toml"] hfirst (by rw [hresolve]; decide +kernel)
    (by decide +kernel) hunfit
  exact ⟨hresolve, hsame.2.trans hresolve⟩

end Plain

end Config

end HookMigration
