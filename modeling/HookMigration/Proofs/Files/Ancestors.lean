import HookMigration.Files.Path
import Mathlib.Data.List.Infix
import Mathlib.Data.List.Nodup
import Mathlib.Data.List.TakeWhile

/-!
# The paths above a path

To go up from a path is to drop its last component.  The paths above a path are found by its pieces,
from the last one on, and idle pieces among them are skipped; so the components of the paths that are
found are all beginnings of the components of the path, each of them once, from the longest to the
shortest (`map_components_ancestors`).  Their texts are beginnings of its text.

An absolute path keeps its root, while a relative one ends at the empty path.
-/

namespace HookMigration

/-! ## Pieces -/

namespace Text

theorem splitAt_eq_splitOn (separator : Char) (cs : List Char) :
    splitAt separator cs = cs.splitOn separator := by
  induction cs with
  | nil => rfl
  | cons c rest ih =>
      rw [splitAt, ih, List.splitOn_cons_eq_if_modifyHead]
      by_cases hc : c = separator
      · simp [hc]
      · cases hrest : rest.splitOn separator with
        | nil => exact absurd hrest (List.splitOn_ne_nil _ _)
        | cons piece pieces => simp [hc]

theorem not_mem_of_mem_splitAt {separator : Char} {cs piece : List Char}
    (h : piece ∈ splitAt separator cs) : separator ∉ piece := by
  induction cs generalizing piece with
  | nil => simp_all [splitAt]
  | cons c rest ih =>
      rw [splitAt] at h
      split_ifs at h with hc
      · rcases List.mem_cons.1 h with rfl | h
        · simp
        · exact ih h
      · cases hrest : splitAt separator rest with
        | nil =>
            obtain rfl : piece = [c] := by simpa [hrest] using h
            simpa using Ne.symm hc
        | cons first others =>
            rw [hrest] at h
            rcases List.mem_cons.1 h with rfl | h
            · have hfirst : separator ∉ first := ih (by simp [hrest])
              simp [Ne.symm hc, hfirst]
            · exact ih (by simp [hrest, h])

theorem intercalate_prefix_append {α : Type} (separator : List α) (pieces others : List (List α)) :
    separator.intercalate pieces <+: separator.intercalate (pieces ++ others) := by
  induction pieces with
  | nil => exact List.nil_prefix
  | cons piece rest ih =>
      cases rest with
      | nil =>
          cases others with
          | nil => exact List.prefix_rfl
          | cons next others =>
              rw [List.singleton_append, List.intercalate_cons_cons, List.append_assoc]
              simp
      | cons next rest =>
          rw [List.cons_append, List.cons_append, List.intercalate_cons_cons,
            List.intercalate_cons_cons]
          exact (List.prefix_append_right_inj _).2 ih

end Text

namespace Path

variable {path first : String} {rest pieces : List String}

/-- No piece of a path has a slash in it. -/
def Sliced (pieces : List String) : Prop :=
  ∀ piece ∈ pieces, '/' ∉ piece.toList

theorem sliced_piecesOf (path : String) : Sliced (piecesOf path) := by
  intro piece hpiece
  obtain ⟨cs, hcs, rfl⟩ := List.mem_map.1 hpiece
  simpa using Text.not_mem_of_mem_splitAt hcs

theorem joinWith_piecesOf (path : String) : Text.joinWith "/" (piecesOf path) = path := by
  have hmap : (piecesOf path).map String.toList = path.toList.splitOn '/' := by
    rw [piecesOf, Text.pieces, Text.splitAt_eq_splitOn, List.map_map]
    exact (List.map_congr_left fun cs _ => String.toList_ofList).trans (List.map_id _)
  rw [Text.joinWith, hmap]
  exact (congrArg String.ofList (List.intercalate_splitOn '/')).trans String.ofList_toList

theorem piecesOf_joinWith (h : Sliced pieces) (hpieces : pieces ≠ []) :
    piecesOf (Text.joinWith "/" pieces) = pieces := by
  have hsliced : ∀ piece ∈ pieces.map String.toList, '/' ∉ piece := by simpa [Sliced] using h
  have hsplit := List.splitOn_intercalate '/' hsliced (by simpa using hpieces)
  rw [piecesOf, Text.pieces, Text.splitAt_eq_splitOn, Text.joinWith, String.toList_ofList]
  refine (congrArg (List.map String.ofList) hsplit).trans ?_
  rw [List.map_map]
  exact (List.map_congr_left fun piece _ => String.ofList_toList).trans (List.map_id _)

/-! ## Components -/

/-- The component for the first piece of a path. -/
def leading (first : String) : Component :=
  if first = "" then .root else if first = "." then .current else Component.ofPiece first

theorem componentsOf_append (pieces others : List String) :
    componentsOf (pieces ++ others) = componentsOf pieces ++ componentsOf others := by
  simp [componentsOf]

theorem componentsOf_cons_of_not_idle (h : ¬isIdle first = true) (rest : List String) :
    componentsOf (first :: rest) = Component.ofPiece first :: componentsOf rest := by
  simp [componentsOf, h]

theorem components_of_piecesOf (h : piecesOf path = first :: rest) (hpath : path ≠ "") :
    components path = leading first :: componentsOf rest := by
  have hfirst : first = "" → rest ≠ [] := by
    rintro rfl rfl
    refine hpath ?_
    rw [← joinWith_piecesOf path, h]
    rfl
  unfold components leading
  rw [h]
  by_cases hempty : first = ""
  · cases rest with
    | nil => exact absurd rfl (hfirst hempty)
    | cons piece others => simp [hempty]
  · by_cases hpoint : first = "."
    · cases rest <;> simp [hpoint, componentsOf]
    · have hidle : ¬isIdle first = true := by simp [isIdle, hempty, hpoint]
      cases rest <;> simp [hempty, hpoint, componentsOf_cons_of_not_idle hidle]

theorem components_ofReversed (hfirst : '/' ∉ first.toList) (hrest : Sliced rest) :
    components (ofReversed first rest) = leading first :: componentsOf rest.reverse := by
  have hpieces : Sliced (first :: rest.reverse) :=
    List.forall_mem_cons.2 ⟨hfirst, fun piece hpiece => hrest piece (by simpa using hpiece)⟩
  have hjoin := piecesOf_joinWith hpieces (List.cons_ne_nil _ _)
  unfold ofReversed
  split
  next =>
    split_ifs with hempty
    · -- the root of all files has two empty pieces
      have hroot : piecesOf "/" = ["", ""] := by decide +kernel
      rw [components_of_piecesOf hroot (by decide), hempty]
      rfl
    · refine components_of_piecesOf ?_ hempty
      simpa [Text.joinWith] using hjoin
  next hne =>
    refine components_of_piecesOf hjoin fun hempty => ?_
    rw [hempty] at hjoin
    have hempty' : piecesOf "" = [""] := rfl
    exact hne (by simpa using (List.cons.inj (hempty'.symm.trans hjoin)).2.symm)

/-! ## Going up -/

theorem Sliced.dropWhile_isIdle (h : Sliced rest) : Sliced (rest.dropWhile isIdle) := by
  intro piece hpiece
  exact h piece ((List.dropWhile_suffix _).subset hpiece)

theorem componentsOf_reverse_dropWhile (rest : List String) :
    componentsOf (rest.dropWhile isIdle).reverse = componentsOf rest.reverse := by
  induction rest with
  | nil => rfl
  | cons piece rest ih =>
      by_cases hidle : isIdle piece = true
      · rw [List.dropWhile_cons_of_pos hidle, ih, List.reverse_cons, componentsOf_append]
        simp [componentsOf, hidle]
      · rw [List.dropWhile_cons_of_neg hidle]

/-- The beginnings of components that a path can have: an absolute path keeps its root. -/
def beginnings (absolute : Bool) (components : List Component) : List (List Component) :=
  if absolute then components.inits.tail else components.inits

theorem mem_beginnings {absolute : Bool} {cs ds : List Component} :
    cs ∈ beginnings absolute ds ↔ cs <+: ds ∧ (absolute = true → cs ≠ []) := by
  unfold beginnings
  cases absolute with
  | false => simp
  | true =>
      cases ds with
      | nil => simp
      | cons d rest =>
          cases cs with
          | nil => simp
          | cons c others => simp [eq_comm, and_comm]

theorem beginnings_concat {absolute : Bool} {cs : List Component} (h : cs ≠ []) (c : Component) :
    beginnings absolute (cs ++ [c]) = beginnings absolute cs ++ [cs ++ [c]] := by
  unfold beginnings
  cases cs with
  | nil => exact absurd rfl h
  | cons first rest => cases absolute <;> simp [List.inits_append]

/-- The components of a path and of what lies above it. -/
theorem components_cons_map_above (hfirst : '/' ∉ first.toList) (hrest : Sliced rest) :
    (leading first :: componentsOf rest.reverse) :: (above first rest).map components =
      (beginnings (first = "") (leading first :: componentsOf rest.reverse)).reverse := by
  induction rest with
  | nil =>
      unfold above
      by_cases hempty : first = ""
      · simp [hempty, beginnings, componentsOf]
      · have hcomponents : components "" = [] := rfl
        simp [hempty, beginnings, componentsOf, hcomponents]
  | cons piece rest ih =>
      have hsliced := List.forall_mem_cons.1 hrest
      rw [above, List.reverse_cons, componentsOf_append]
      by_cases hidle : isIdle piece = true
      · have hnone : componentsOf [piece] = [] := by simp [componentsOf, hidle]
        rw [if_pos hidle, hnone, List.append_nil]
        exact ih hsliced.2
      · rw [if_neg hidle, List.map_cons, components_ofReversed hfirst
          (Sliced.dropWhile_isIdle hsliced.2), componentsOf_reverse_dropWhile, ih hsliced.2,
          componentsOf_cons_of_not_idle hidle, ← List.cons_append,
          show componentsOf [] = [] from rfl, beginnings_concat (List.cons_ne_nil _ _)]
        simp

theorem isAbsolute_eq (h : piecesOf path = first :: rest) (hpath : path ≠ "") :
    isAbsolute path = decide (first = "") := by
  have hsliced := List.forall_mem_cons.1 (h ▸ sliced_piecesOf path)
  have htext : path.toList = ['/'].intercalate (first.toList :: rest.map String.toList) := by
    rw [← joinWith_piecesOf path, h, Text.joinWith, String.toList_ofList]
    rfl
  have hfirst : first = "" ↔ first.toList = [] := by simp
  unfold isAbsolute
  rw [htext, decide_eq_decide, hfirst]
  cases hcs : first.toList with
  | nil =>
      cases rest with
      | nil =>
          refine absurd ?_ hpath
          simpa [hcs] using htext
      | cons piece others => simp [List.intercalate_cons_cons]
  | cons c cs =>
      have hc : c ≠ '/' := by
        rintro rfl
        exact hsliced.1 (by simp [hcs])
      cases rest with
      | nil => simpa using hc
      | cons piece others => simpa [List.intercalate_cons_cons] using hc

/-- The paths above a path have the beginnings of its components, from the longest to the
shortest. -/
theorem map_components_ancestors (path : String) : (ancestors path).map components =
    (beginnings (isAbsolute path) (components path)).reverse := by
  by_cases hpath : path = ""
  · subst hpath
    rfl
  · cases hpieces : piecesOf path with
    | nil =>
        refine absurd ?_ hpath
        rw [← joinWith_piecesOf path, hpieces]
        rfl
    | cons first rest =>
        have hsliced := List.forall_mem_cons.1 (hpieces ▸ sliced_piecesOf path)
        have hrest : Sliced rest.reverse := fun piece hpiece =>
          hsliced.2 piece (List.mem_reverse.1 hpiece)
        have habove := components_cons_map_above hsliced.1 hrest
        rw [List.reverse_reverse] at habove
        rw [isAbsolute_eq hpieces hpath, components_of_piecesOf hpieces hpath, ancestors, hpieces,
          List.map_cons, components_of_piecesOf hpieces hpath]
        exact habove

theorem head?_ancestors (path : String) : (ancestors path).head? = some path := by
  unfold ancestors
  split <;> rfl

theorem mem_ancestors_self (path : String) : path ∈ ancestors path :=
  List.mem_of_head? (head?_ancestors path)

theorem pairwise_inits (cs : List Component) : cs.inits.Pairwise fun a b => a <+: b ∧ a ≠ b := by
  induction cs with
  | nil => simp
  | cons c rest ih =>
      rw [List.inits_cons]
      refine List.pairwise_cons.2 ⟨fun b hb => ?_, List.pairwise_map.2 (ih.imp fun h => ?_)⟩
      · obtain ⟨b, -, rfl⟩ := List.mem_map.1 hb
        simp
      · simpa using h

/-- What comes later among the paths above a path lies above what comes earlier. -/
theorem pairwise_ancestors (path : String) : (ancestors path).Pairwise fun a b =>
    components b <+: components a ∧ components b ≠ components a := by
  have hmap : ((ancestors path).map components).Pairwise fun a b => b <+: a ∧ b ≠ a := by
    rw [map_components_ancestors, List.pairwise_reverse]
    unfold beginnings
    split_ifs
    · exact (pairwise_inits _).tail
    · exact pairwise_inits _
  exact List.pairwise_map.1 hmap

/-- What lies above a path has a beginning of its components. -/
theorem components_prefix_of_mem_ancestors {folder : String} (h : folder ∈ ancestors path) :
    components folder <+: components path := by
  have hmem := List.mem_map_of_mem (f := components) h
  rw [map_components_ancestors, List.mem_reverse, mem_beginnings] at hmem
  exact hmem.1

/-- What lies above a path is told by its components. -/
theorem eq_of_mem_ancestors {folder other : String} (h : folder ∈ ancestors path)
    (h' : other ∈ ancestors path) (hsame : components folder = components other) :
    folder = other := by
  have hnodup : ((ancestors path).map components).Nodup :=
    List.pairwise_map.2 ((pairwise_ancestors path).imp fun h => h.2.symm)
  exact List.inj_on_of_nodup_map hnodup h h' hsame

/-! ## The texts of what lies above -/

theorem beginning_ofReversed (first : String) (rest others : List String) (hothers : others ≠ []) :
    (ofReversed first rest).toList <+:
      (Text.joinWith "/" (first :: (rest.reverse ++ others))).toList := by
  have hbeginning := Text.intercalate_prefix_append ['/'] ((first :: rest.reverse).map String.toList)
    (others.map String.toList)
  rw [← List.map_append, List.cons_append] at hbeginning
  unfold ofReversed Text.joinWith
  split
  next =>
    split_ifs with hempty
    · -- the slash behind the empty piece stands for the root
      obtain ⟨piece, others, rfl⟩ := List.exists_cons_of_ne_nil hothers
      simp [hempty, List.intercalate_cons_cons]
    · simpa using hbeginning
  next =>
    simp only [String.toList_ofList]
    exact hbeginning

theorem prefix_of_mem_above {folder : String} (h : folder ∈ above first rest) :
    folder.toList <+: (Text.joinWith "/" (first :: rest.reverse)).toList := by
  induction rest with
  | nil =>
      unfold above at h
      split_ifs at h
      · simp at h
      · rw [List.mem_singleton.1 h]
        exact List.nil_prefix
  | cons piece rest ih =>
      have hlonger : folder ∈ above first rest → folder.toList <+:
          (Text.joinWith "/" (first :: (rest.reverse ++ [piece]))).toList := by
        intro h
        have hbeginning := Text.intercalate_prefix_append ['/']
          ((first :: rest.reverse).map String.toList) [piece.toList]
        refine (ih h).trans ?_
        simpa [Text.joinWith] using hbeginning
      rw [List.reverse_cons]
      rw [above] at h
      split_ifs at h
      · exact hlonger h
      · rcases List.mem_cons.1 h with rfl | h
        · obtain ⟨idle, hidle⟩ := List.dropWhile_suffix (l := rest) isIdle
          have hbeginning := beginning_ofReversed first (rest.dropWhile isIdle)
            (idle.reverse ++ [piece]) (by simp)
          rwa [← List.append_assoc, ← List.reverse_append, hidle] at hbeginning
        · exact hlonger h

/-- The text of a path above a path is a beginning of its text. -/
theorem prefix_of_mem_ancestors {folder : String} (h : folder ∈ ancestors path) :
    folder.toList <+: path.toList := by
  unfold ancestors at h
  split at h
  next => rw [List.mem_singleton.1 h]
  next first rest hpieces =>
    rcases List.mem_cons.1 h with rfl | h
    · exact List.prefix_rfl
    · have habove := prefix_of_mem_above h
      rwa [List.reverse_reverse, ← hpieces, joinWith_piecesOf] at habove

end Path

end HookMigration
