import HookMigration.Files.Targets
import Mathlib.Data.List.Lex
import Mathlib.Data.List.Sort
import Mathlib.Data.Prod.Lex
import Mathlib.Data.String.Basic

/-!
# Ways to a place

A trail is a way through a tree: its components say how it goes, and its place where it leads.  The
components tell the place (`Leads`), but not the other way round: a way that goes up into a folder
after it went down from there leads to a place that it could have reached without, and a place below
the working folder is reached from the root as well.  Ways that begin alike and never go up are told
by their places (`Plain`).

Trails are compared by their components, which is a strict total order on them (`before_iff`).  So
to insert trails one after the other gives an increasing list whose components depend on nothing but
which trails there are.
-/

namespace HookMigration

/-! ## The order of trails -/

/-- What a component is compared by. -/
def Component.key (c : Component) : Nat ×ₗ String :=
  match c with
  | .name text => toLex (c.rank, text)
  | _ => toLex (c.rank, "")

theorem Component.key_injective : Function.Injective Component.key := by
  intro a b h
  cases a <;> cases b <;> simp_all [key, rank]

theorem Component.before_iff {a b : Component} : a.before b = true ↔ a.key < b.key := by
  cases a <;> cases b <;> simp [before, key, rank, textBefore, Prod.Lex.toLex_lt_toLex]

namespace Trail

variable {a b : Trail} {place : Place}

/-- What a trail is compared by. -/
def key (t : Trail) : List (Nat ×ₗ String) :=
  t.components.map Component.key

/-- The same path, whatever its spelling. -/
structure Same (a b : Trail) : Prop where
  components_eq : a.components = b.components
  place_eq : a.place = b.place

theorem key_eq_iff : a.key = b.key ↔ a.components = b.components :=
  (List.map_injective_iff.2 Component.key_injective).eq_iff

theorem before_iff : a.before b = true ↔ a.key < b.key := by
  have hgo : ∀ cs ds : List Component,
      before.go cs ds = true ↔ cs.map Component.key < ds.map Component.key := by
    intro cs
    induction cs with
    | nil => intro ds; cases ds <;> simp [before.go]
    | cons c rest ih =>
        intro ds
        cases ds with
        | nil => simp [before.go]
        | cons d others =>
            rw [before.go, List.map_cons, List.map_cons, List.cons_lt_cons_iff, ← ih,
              Component.key_injective.eq_iff, ← Component.before_iff]
            simp
  exact hgo a.components b.components

theorem before_total (h : a.components ≠ b.components) : a.before b = true ∨ b.before a = true := by
  rw [before_iff, before_iff]
  exact lt_or_gt_of_ne fun hkey => h (key_eq_iff.1 hkey)

theorem before_trans {c : Trail} (hab : a.before b = true) (hbc : b.before c = true) :
    a.before c = true := by
  rw [before_iff] at hab hbc ⊢
  exact hab.trans hbc

theorem not_before_self (a : Trail) : ¬a.before a = true := by
  rw [before_iff]
  exact lt_irrefl _

/-! ## Components -/

theorem condensed_append {front : List Component} (h : front ≠ []) (more : List Component) :
    condensed (front ++ more) = condensed front ++ more.filter (· ≠ .current) := by
  obtain ⟨first, rest, rfl⟩ := List.exists_cons_of_ne_nil h
  simp [condensed]

theorem condensed_names (names : List String) :
    condensed (names.map .name) = names.map .name := by
  cases names <;> simp [condensed, List.filter_map, Function.comp_def]

theorem components_of_isCurrent (h : a.isCurrent = true) (hne : a.spelling ≠ []) :
    a.components = [.current] := by
  obtain ⟨first, rest, heq⟩ := List.exists_cons_of_ne_nil hne
  rw [isCurrent, heq, List.all_cons, Bool.and_eq_true, List.all_eq_true] at h
  rw [components, heq, condensed, List.filter_eq_nil_iff.2 (by simpa using h.2)]
  simpa using h.1

theorem isCurrent_of_components (h : a.components = [.current]) : a.isCurrent = true := by
  unfold components condensed at h
  unfold isCurrent
  split at h
  · simp at h
  · next hspelling =>
      rw [hspelling]
      simpa [List.filter_eq_nil_iff] using h

/-- Where further components may be put. -/
def Front (a : Trail) (front : List Component) : Prop :=
  front = a.base ∨ front = a.spelling

/-- A step that stays does not show in the components. -/
theorem components_further_current {front : List Component} (hfront : a.Front front)
    (hne : a.spelling ≠ []) : (a.further front .current).components = a.components := by
  have hspelling : condensed (a.spelling ++ [.current]) = condensed a.spelling := by
    rw [condensed_append hne]
    simp
  rcases hfront with rfl | rfl
  · unfold base further
    split_ifs with hcurrent
    · exact (components_of_isCurrent hcurrent hne).symm
    · exact hspelling
  · exact hspelling

/-! ## Places -/

/-- The components of a trail lead from the working folder to its place. -/
def Leads (home : Place) (t : Trail) : Prop :=
  t.spelling.foldl arrive home = t.place

variable {home : Place} {absolute : Bool}

theorem foldl_arrive_condensed (home : Place) (spelling : List Component) :
    (condensed spelling).foldl arrive home = spelling.foldl arrive home := by
  cases spelling with
  | nil => rfl
  | cons first rest =>
      rw [condensed, List.foldl_cons, List.foldl_cons, List.foldl_filter]
      congr 1
      funext place c
      cases c <;> simp [arrive]

theorem foldl_arrive_of_all {spelling : List Component}
    (h : (spelling.all (· = .current)) = true) : spelling.foldl arrive home = home := by
  induction spelling with
  | nil => rfl
  | cons first rest ih =>
      rw [List.all_cons, Bool.and_eq_true] at h
      obtain rfl : first = .current := by simpa using h.1
      exact ih h.2

theorem foldl_arrive_base (home : Place) (a : Trail) :
    a.base.foldl arrive home = a.spelling.foldl arrive home := by
  unfold base
  split_ifs with hcurrent
  · exact (foldl_arrive_of_all hcurrent).symm
  · rfl

theorem foldl_arrive_names (place : Place) (names : List String) :
    (names.map Component.name).foldl arrive place = place ++ names := by
  induction names generalizing place with
  | nil => simp
  | cons name rest ih =>
      rw [List.map_cons, List.foldl_cons, ih, arrive, List.append_assoc, List.singleton_append]

theorem Leads.place_eq (ha : a.Leads home) (hb : b.Leads home)
    (h : a.components = b.components) : a.place = b.place := by
  rw [← ha, ← hb, ← foldl_arrive_condensed, ← foldl_arrive_condensed home b.spelling]
  exact congrArg (List.foldl arrive home) h

theorem leads_start (t : FileTree) (absolute : Bool) :
    (start absolute (t.origin absolute)).Leads t.home := by
  cases absolute <;> rfl

theorem Leads.further (h : a.Leads home) {front : List Component} (hfront : a.Front front)
    (c : Component) : (a.further front c).Leads home := by
  have hplace : front.foldl arrive home = a.place := by
    rcases hfront with rfl | rfl
    · rw [foldl_arrive_base, h]
    · exact h
  rw [Leads, Trail.further, List.foldl_append, hplace]
  rfl

theorem Leads.down (h : a.Leads home) (hbelow : a.place <+: place) :
    (a.down place).Leads home := by
  obtain ⟨names, rfl⟩ := hbelow
  rw [Leads, Trail.down, List.drop_left, List.foldl_append, foldl_arrive_base, h,
    foldl_arrive_names]

/-! ## Ways that never go up -/

/-- The components of the straight way to a place, from the root or from the working folder. -/
def straight (home : Place) (absolute : Bool) (place : Place) : List Component :=
  if absolute then .root :: place.map .name
  else if place = home then [.current]
  else (place.drop home.length).map .name

/-- A trail that never went up, so that its place tells its components. -/
structure Plain (home : Place) (absolute : Bool) (t : Trail) : Prop where
  components_eq : t.components = straight home absolute t.place
  below : absolute = false → home <+: t.place

theorem plain_start (t : FileTree) (absolute : Bool) :
    (start absolute (t.origin absolute)).Plain t.home absolute := by
  constructor
  · cases absolute <;> simp [start, components, condensed, straight, FileTree.origin]
  · rintro rfl
    exact List.prefix_rfl

theorem Plain.spelling_ne_nil (h : a.Plain home absolute) : a.spelling ≠ [] := by
  intro hnil
  have hcomponents := h.components_eq
  rw [components, hnil] at hcomponents
  unfold straight at hcomponents
  split_ifs at hcomponents with habsolute hhome
  · simp [condensed] at hcomponents
  · simp [condensed] at hcomponents
  · -- below the working folder there are names left
    obtain ⟨names, hnames⟩ := h.below (by simpa using habsolute)
    rw [← hnames, List.drop_left] at hcomponents
    rw [← hnames] at hhome
    simp_all [condensed]

theorem Plain.stay (h : a.Plain home absolute) {front : List Component} (hfront : a.Front front) :
    (a.further front .current).Plain home absolute :=
  ⟨(components_further_current hfront h.spelling_ne_nil).trans h.components_eq, h.below⟩

/-- A straight way goes on straight, except that the path `.` gives way to names. -/
theorem straight_append {names : List String} (hplace : absolute = false → home <+: place)
    (hhome : absolute = false → place ≠ home) :
    straight home absolute (place ++ names) =
      straight home absolute place ++ names.map .name := by
  cases absolute with
  | true => simp [straight]
  | false =>
      obtain ⟨others, rfl⟩ := hplace rfl
      have hothers : others ≠ [] := by simpa using hhome rfl
      simp [straight, hothers]

theorem Plain.down (h : a.Plain home absolute) (hbelow : a.place <+: place)
    (hne : a.place ≠ place) : (a.down place).Plain home absolute := by
  obtain ⟨names, rfl⟩ := hbelow
  refine ⟨?_, fun habsolute => (h.below habsolute).trans (List.prefix_append _ _)⟩
  have hnames : names ≠ [] := by simpa using hne
  have hcomponents := h.components_eq
  unfold components Trail.down base
  rw [List.drop_left]
  split_ifs with hcurrent
  · -- the path was `.`, so the way began in the working folder and is still there
    rw [components_of_isCurrent hcurrent h.spelling_ne_nil] at hcomponents
    obtain ⟨rfl, hhome⟩ : absolute = false ∧ a.place = home := by
      unfold straight at hcomponents
      split_ifs at hcomponents with habsolute hhome
      · simp at hcomponents
      · exact ⟨by simpa using habsolute, hhome⟩
      · rw [eq_comm, List.map_eq_singleton_iff] at hcomponents
        simp at hcomponents
    rw [List.nil_append, condensed_names, hhome]
    simp [straight, hnames]
  · rw [straight_append h.below, ← hcomponents, condensed_append h.spelling_ne_nil]
    · simp [components, List.filter_map, Function.comp_def]
    · rintro rfl hhome
      refine hcurrent (isCurrent_of_components ?_)
      rw [hcomponents, straight, hhome]
      simp

end Trail

/-! ## One step, and a whole pattern -/

/-- Whether a step may lead up. -/
def Glob.Step.goesUp : Glob.Step → Bool
  | .exactly name => name == ".."
  | .folders => false
  | .wild tokens => (Step.wild tokens).beginsWithPoint && (Step.wild tokens).admits ".."

/-- What one step makes of a trail: it rests, or stays with a point, goes down, or goes up if it
may. -/
inductive Trail.Leg (upward : Bool) (a : Trail) : Trail → Prop
  | rest : Leg upward a a
  | stay {front : List Component} (hfront : a.Front front) :
    Leg upward a (a.further front .current)
  | down {place : Place} (hbelow : a.place <+: place) (hne : a.place ≠ place) :
    Leg upward a (a.down place)
  | up {front : List Component} (hfront : a.Front front) (hupward : upward = true) :
    Leg upward a (a.further front .parent)

namespace FileTree

open Trail

variable {t : FileTree} {trail next : Trail} {place folder : Place} {step : Glob.Step} {deep : Bool}
  {steps : List Glob.Step}

theorem prefix_of_mem_below (h : place ∈ t.below folder) :
    folder <+: place ∧ folder ≠ place := by
  rw [below, List.mem_filter, Bool.and_eq_true, List.isPrefixOf_iff_prefix, bne_iff_ne] at h
  exact h.2

/-- A step to a name is a way down. -/
theorem further_name_eq_down (a : Trail) (name : String) :
    a.further a.base (.name name) = a.down (a.place ++ [name]) := by
  simp [further, Trail.down, arrive]

theorem leg_of_mem_exactly {name : String} (h : next ∈ t.exactly trail name) :
    Leg (name == "..") trail next := by
  unfold exactly at h
  split_ifs at h with hfolder hempty hstart hcurrent hup
  · simp at h
  · simp at h
  · obtain rfl := List.mem_singleton.1 h
    exact .rest
  · obtain rfl := List.mem_singleton.1 h
    exact .stay (.inl rfl)
  · obtain rfl := List.mem_singleton.1 h
    exact .up (.inl rfl) (by simpa using hup)
  · simp only at h
    split_ifs at h
    · obtain rfl := List.mem_singleton.1 h
      rw [further_name_eq_down]
      exact .down (List.prefix_append _ _) (by simp)
    · simp at h

theorem leg_of_mem_pointed (h : next ∈ pointed trail step) (hexact : ∀ name, step ≠ .exactly name) :
    Leg step.goesUp trail next := by
  have hgoesUp : step.beginsWithPoint = true → step.admits ".." = true → step.goesUp = true := by
    cases step with
    | exactly name => exact absurd rfl (hexact name)
    | folders => simp [Glob.Step.beginsWithPoint]
    | wild tokens => simp +contextual [Glob.Step.goesUp]
  unfold pointed at h
  split_ifs at h with hpoint hup hcurrent hcurrent
  · rcases List.mem_append.1 h with h | h
    · obtain rfl := List.mem_singleton.1 h
      exact .up (.inr rfl) (hgoesUp hpoint hup)
    · obtain rfl := List.mem_singleton.1 h
      exact .stay (.inr rfl)
  · obtain rfl := List.mem_singleton.1 (by simpa using h)
    exact .up (.inr rfl) (hgoesUp hpoint hup)
  · obtain rfl := List.mem_singleton.1 (by simpa using h)
    exact .stay (.inr rfl)
  · simp at h
  · simp at h

theorem leg_of_mem_map_down {places : List Place} {test : Trail → Bool} {upward : Bool}
    (h : next ∈ (places.map trail.down).filter test)
    (hbelow : ∀ place ∈ places, trail.place <+: place ∧ trail.place ≠ place) :
    Leg upward trail next := by
  obtain ⟨place, hplace, rfl⟩ := List.mem_map.1 (List.mem_of_mem_filter h)
  exact .down (hbelow place hplace).1 (hbelow place hplace).2

theorem leg_of_mem_step (h : next ∈ t.step trail step) : Leg step.goesUp trail next := by
  have hwild : (∀ name, step ≠ .exactly name) → next ∈ (if t.isFolder trail.place then
      pointed trail step ++ ((t.children trail.place).map trail.down).filter (fun next =>
        (next.place.getLast?.map step.admits).getD false)
      else []) → Leg step.goesUp trail next := by
    intro hexact h
    split_ifs at h
    · rcases List.mem_append.1 h with h | h
      · exact leg_of_mem_pointed h hexact
      · exact leg_of_mem_map_down h fun place hplace =>
          prefix_of_mem_below (List.mem_of_mem_filter hplace)
    · simp at h
  cases step with
  | exactly name => exact leg_of_mem_exactly h
  | folders => exact hwild (by simp) h
  | wild tokens => exact hwild (by simp) h

theorem leg_of_mem_anywhere (h : next ∈ t.anywhere trail step) : Leg step.goesUp trail next := by
  unfold anywhere at h
  split_ifs at h
  · exact leg_of_mem_map_down h fun place hplace => prefix_of_mem_below hplace
  · simp at h

/-- What every step of a pattern keeps holds of all that the pattern leads to. -/
theorem of_mem_follow {p : Trail → Prop}
    (hleg : ∀ step ∈ steps, ∀ a b, p a → Leg step.goesUp a b → p b) (htrail : p trail)
    (h : next ∈ t.follow deep trail steps) : p next := by
  induction steps generalizing deep trail with
  | nil =>
      rw [follow] at h
      split_ifs at h
      · simp at h
      · obtain rfl := List.mem_singleton.1 h
        exact htrail
  | cons step rest ih =>
      rw [List.forall_mem_cons] at hleg
      have hstep : next ∈ (if deep then t.anywhere trail step else t.step trail step).flatMap
          (fun next => t.follow false next rest) → p next := by
        intro h
        obtain ⟨middle, hmiddle, h⟩ := List.mem_flatMap.1 h
        refine ih hleg.2 (hleg.1 trail middle htrail ?_) h
        split_ifs at hmiddle
        · exact leg_of_mem_anywhere hmiddle
        · exact leg_of_mem_step hmiddle
      cases step with
      | folders => exact ih hleg.2 htrail h
      | exactly name => exact hstep h
      | wild tokens => exact hstep h

/-- A trail that a pattern reaches leads to a file. -/
theorem leads_of_mem_reach {glob : Glob} (h : trail ∈ t.reach glob) :
    trail.Leads t.home ∧ t.isFile trail.place = true := by
  unfold reach at h
  split_ifs at h
  · simp at h
  · obtain ⟨hfollow, hfile⟩ := List.mem_filter.1 h
    refine ⟨of_mem_follow (p := Leads t.home) (fun step _ a b ha hleg => ?_) (leads_start t _)
      hfollow, hfile⟩
    cases hleg with
    | rest => exact ha
    | stay hfront => exact ha.further hfront _
    | down hbelow _ => exact ha.down hbelow
    | up hfront _ => exact ha.further hfront _

/-- A trail that a pattern reaches without going up is told by its place. -/
theorem plain_of_mem_reach {glob : Glob} (hup : ∀ step ∈ glob.steps, step.goesUp = false)
    (h : trail ∈ t.reach glob) : trail.Plain t.home glob.absolute := by
  unfold reach at h
  split_ifs at h
  · simp at h
  · refine of_mem_follow (p := Plain t.home glob.absolute) (fun step hstep a b ha hleg => ?_)
      (plain_start t _) (List.mem_of_mem_filter h)
    cases hleg with
    | rest => exact ha
    | stay hfront => exact ha.stay hfront
    | down hbelow hne => exact ha.down hbelow hne
    | up _ hupward => exact absurd hupward (by simp [hup step hstep])

end FileTree

end HookMigration
