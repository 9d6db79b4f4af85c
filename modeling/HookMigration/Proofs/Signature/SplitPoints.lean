import HookMigration.Proofs.Signature.Splitting

/-!
# What a split keeps

A parameter list is cut at a comma exactly if the text before it opens as many brackets as it
closes.  Nothing else of the list is touched, so the pieces with commas between them are the list
again; only a last piece of blanks is left out, together with the comma before it.

The splitter carries a depth along, which may fall below zero.  `depthOf_eq` reads it off the text:
it is the number of opened brackets less the number of closed ones, in whatever order they stand.
With this `Cuts`, which says how a text falls into its pieces from left to right, tells for every
comma whether it is a cut (`Cuts.parted_iff`).
-/

namespace HookMigration.Signature

open Text

variable {cs before after : List Char} {pieces : List (List Char)}

/-- The number of brackets that a text opens. -/
def bracketsOpened (cs : List Char) : Nat :=
  cs.countP fun c => c == '<' || c == '(' || c == '['

/-- The number of brackets that a text closes. -/
def bracketsClosed (cs : List Char) : Nat :=
  cs.countP fun c => c == '>' || c == ')' || c == ']'

/-- A comma with as many opened as closed brackets before it. -/
structure IsCut (cs before after : List Char) : Prop where
  text_eq : cs = before ++ ',' :: after
  level : bracketsOpened before = bracketsClosed before

/-- Pieces fall into two parts, each of which is not empty and is joined with commas. -/
def Parted (pieces : List (List Char)) (before after : List Char) : Prop :=
  ∃ left right, left ≠ [] ∧ right ≠ [] ∧ pieces = left ++ right ∧
    before = [','].intercalate left ∧ after = [','].intercalate right

theorem bracketsOpened_append (a b : List Char) :
    bracketsOpened (a ++ b) = bracketsOpened a + bracketsOpened b :=
  List.countP_append

theorem bracketsClosed_append (a b : List Char) :
    bracketsClosed (a ++ b) = bracketsClosed a + bracketsClosed b :=
  List.countP_append

/-- The depth that the splitter carries is told by the text behind it. -/
theorem depthOf_eq (cs : List Char) : depthOf cs = bracketsOpened cs - bracketsClosed cs := by
  induction cs with
  | nil => rfl
  | cons c rest ih =>
      have hstep : depthStep c = bracketsOpened [c] - bracketsClosed [c] := by
        unfold depthStep
        split <;> simp_all [bracketsOpened, bracketsClosed]
      have hcons : c :: rest = [c] ++ rest := rfl
      rw [depthOf_cons, ih, hstep, hcons, bracketsOpened_append, bracketsClosed_append]
      omega

theorem level_iff : bracketsOpened cs = bracketsClosed cs ↔ depthOf cs = 0 := by
  rw [depthOf_eq]
  omega

theorem Shielded.not_isCut (h : Shielded isComma 0 cs) : ¬IsCut cs before after := by
  rintro ⟨htext, hlevel⟩
  have hdepth := h before ',' after htext rfl
  rw [level_iff] at hlevel
  exact hdepth (by rw [hlevel, Int.add_zero])

/-- Behind a cut, the depth is counted as if the text began there. -/
theorem depthOf_append_comma {piece : List Char} (hlevel : depthOf piece = 0)
    (middle : List Char) : depthOf (piece ++ ',' :: middle) = depthOf middle := by
  rw [depthOf_append, hlevel, depthOf_cons, Int.zero_add]
  exact Int.zero_add _

/-- Behind a cut, a text is cut as if it began there. -/
theorem isCut_append_comma {piece rest : List Char} (hlevel : depthOf piece = 0)
    (middle after : List Char) :
    IsCut (piece ++ ',' :: rest) (piece ++ ',' :: middle) after ↔ IsCut rest middle after := by
  have hdepth := depthOf_append_comma hlevel middle
  constructor
  · rintro ⟨htext, hbefore⟩
    rw [level_iff, hdepth, ← level_iff] at hbefore
    exact ⟨by simpa using htext, hbefore⟩
  · rintro ⟨rfl, hmiddle⟩
    rw [level_iff, ← hdepth, ← level_iff] at hmiddle
    exact ⟨by simp, hmiddle⟩

theorem not_parted_singleton (piece : List Char) : ¬Parted [piece] before after := by
  rintro ⟨left, right, hleft, hright, hpieces, -, -⟩
  have hlength := congrArg List.length hpieces
  have hpositive := List.length_pos_iff.2 hleft
  have hpositive' := List.length_pos_iff.2 hright
  simp only [List.length_append, List.length_singleton] at hlength
  omega

/-- Pieces are parted behind the first one, or where the others are. -/
theorem parted_cons (hne : pieces ≠ []) (piece before after : List Char) :
    Parted (piece :: pieces) before after ↔
      before = piece ∧ after = [','].intercalate pieces ∨
        ∃ middle, before = piece ++ ',' :: middle ∧ Parted pieces middle after := by
  constructor
  · rintro ⟨left, right, hleft, hright, hpieces, rfl, rfl⟩
    obtain ⟨first, others, rfl⟩ := List.exists_cons_of_ne_nil hleft
    obtain ⟨rfl, rfl⟩ : piece = first ∧ pieces = others ++ right := by simpa using hpieces
    by_cases hothers : others = []
    · exact .inl (by simp [hothers])
    · refine .inr ⟨[','].intercalate others, ?_, others, right, hothers, hright, rfl, rfl, rfl⟩
      rw [List.intercalate_cons_of_ne_nil hothers, List.append_assoc]
      rfl
  · rintro (⟨rfl, rfl⟩ | ⟨middle, rfl, left, right, hleft, hright, rfl, rfl, rfl⟩)
    · exact ⟨[before], pieces, by simp, hne, rfl, by simp, rfl⟩
    · refine ⟨piece :: left, right, by simp, hright, rfl, ?_, rfl⟩
      rw [List.intercalate_cons_of_ne_nil hleft, List.append_assoc]
      rfl

/-- The cuts of a text are the places between its pieces. -/
theorem Cuts.parted_iff (h : Cuts cs pieces) (before after : List Char) :
    Parted pieces before after ↔ IsCut cs before after := by
  induction h generalizing before with
  | last hshielded => exact iff_of_false (not_parted_singleton _) hshielded.not_isCut
  | @cons piece rest pieces hshielded hlevel hrest ih =>
      rw [parted_cons hrest.ne_nil, hrest.intercalate_eq]
      constructor
      · rintro (⟨rfl, rfl⟩ | ⟨middle, rfl, hparted⟩)
        · exact ⟨rfl, level_iff.2 hlevel⟩
        · exact (isCut_append_comma hlevel middle after).2 ((ih middle).1 hparted)
      · intro hcut
        rcases List.append_eq_append_iff.1 hcut.text_eq with
          ⟨between, rfl, hbetween⟩ | ⟨between, rfl, hbetween⟩
        · -- the comma stands behind the piece
          rcases between with _ | ⟨c, middle⟩
          · exact .inl ⟨by simp, by simpa using hbetween.symm⟩
          · obtain ⟨rfl, -⟩ : ',' = c ∧ rest = middle ++ ',' :: after := by simpa using hbetween
            have hmiddle := (isCut_append_comma hlevel middle after).1 hcut
            exact .inr ⟨middle, rfl, (ih middle).2 hmiddle⟩
        · -- it stands in the piece, unless this ends just before it
          rcases between with _ | ⟨c, others⟩
          · exact .inl ⟨by simp, by simpa using hbetween⟩
          · obtain ⟨rfl, -⟩ : ',' = c ∧ after = others ++ ',' :: rest := by simpa using hbetween
            exact absurd ⟨rfl, hcut.level⟩ hshielded.not_isCut

/-! ## The pieces that are kept -/

theorem Cuts.shielded_of_mem (h : Cuts cs pieces) : ∀ piece ∈ pieces, Shielded isComma 0 piece := by
  induction h with
  | last hshielded => simpa using hshielded
  | cons hshielded hlevel hrest ih => simpa using ⟨hshielded, ih⟩

/-- A piece begins at depth zero. -/
theorem Cuts.depthOf_before {left right : List (List Char)} {piece : List Char}
    (h : Cuts cs (left ++ piece :: right)) (x : List Char) :
    depthOf ([','].intercalate (left ++ [x])) = depthOf x := by
  by_cases hleft : left = []
  · simp [hleft]
  · have hcut := (h.parted_iff _ _).1 ⟨left, piece :: right, hleft, by simp, rfl, rfl, rfl⟩
    rw [intercalate_concat hleft, depthOf_append_comma (level_iff.1 hcut.level)]

/-- A comma inside of a piece has other numbers of opened and of closed brackets before it. -/
theorem Cuts.not_level_inside {left right : List (List Char)} {x y : List Char}
    (h : Cuts cs (left ++ (x ++ ',' :: y) :: right)) :
    bracketsOpened ([','].intercalate (left ++ [x])) ≠
      bracketsClosed ([','].intercalate (left ++ [x])) := by
  intro hlevel
  have hshielded := h.shielded_of_mem _ (List.mem_append_right left List.mem_cons_self)
  refine hshielded.not_isCut ⟨rfl, ?_⟩
  rwa [level_iff, ← h.depthOf_before x, ← level_iff]

/-- A split gives the pieces between the cuts, but for a last one of blanks. -/
theorem map_toList_splitParameters {p : String} {front : List (List Char)} {tail : List Char}
    (h : Cuts p.toList (front ++ [tail])) :
    (splitParameters p).map String.toList =
      if isBlankText tail then front else front ++ [tail] := by
  have hsplit : (splitParameters p).map String.toList = splitList p.toList := by
    simp [splitParameters, Function.comp_def]
  rw [hsplit, splitList_of_cuts h, withoutBlankLast]
  simp

/-- Whether a last piece is left out or not, the others stand between the same cuts. -/
theorem not_level_inside_split {p : String} {front : List (List Char)} {tail x y : List Char}
    {left right : List String} {piece : String} (h : Cuts p.toList (front ++ [tail]))
    (hsplit : splitParameters p = left ++ piece :: right) (hpiece : piece.toList = x ++ ',' :: y) :
    bracketsOpened ([','].intercalate (left.map String.toList ++ [x])) ≠
      bracketsClosed ([','].intercalate (left.map String.toList ++ [x])) := by
  have hpieces := map_toList_splitParameters h
  rw [hsplit, List.map_append, List.map_cons, hpiece] at hpieces
  obtain ⟨others, hothers⟩ : ∃ others, front ++ [tail] =
      left.map String.toList ++ (x ++ ',' :: y) :: others := by
    split_ifs at hpieces
    · exact ⟨right.map String.toList ++ [tail], by rw [← hpieces]; simp⟩
    · exact ⟨right.map String.toList, hpieces.symm⟩
  rw [hothers] at h
  exact h.not_level_inside

/-- What a split of `p` keeps, where `tail` is the text behind the last cut, or all of `p`, and
`front` holds the pieces in front of it. -/
structure Keeps (p : String) (front : List (List Char)) (tail : List Char) : Prop where
  /-- The list is cut at the commas that are level, and at no others. -/
  parted_iff : ∀ before after,
    Parted (front ++ [tail]) before after ↔ IsCut p.toList before after
  /-- All pieces are given, or all but the last one if that is blank. -/
  pieces_eq : (splitParameters p).map String.toList =
    if isBlankText tail then front else front ++ [tail]
  /-- If the last piece is not blank, the pieces make up the list. -/
  whole : isBlankText tail = false → joinWith "," (splitParameters p) = p
  /-- If it is blank, it is missing with the comma before it. -/
  tail_missing : isBlankText tail = true → front ≠ [] →
    joinWith "," (splitParameters p) ++ "," ++ String.ofList tail = p
  /-- A blank list without a cut is missing as a whole. -/
  all_missing : isBlankText tail = true → front = [] →
    splitParameters p = [] ∧ String.ofList tail = p
  /-- No comma inside of a piece is level. -/
  inside : ∀ left piece right x y, splitParameters p = left ++ piece :: right →
    piece.toList = x ++ ',' :: y →
    bracketsOpened ([','].intercalate (left.map String.toList ++ [x])) ≠
      bracketsClosed ([','].intercalate (left.map String.toList ++ [x]))

/-- Joined with commas, the pieces of a parameter list give it back, but for a last one of blanks;
and the commas between them are those that are level. -/
theorem splitParameters_keeps (p : String) : ∃ front tail, Keeps p front tail := by
  obtain ⟨pieces, hcuts⟩ := exists_cuts p.toList
  obtain ⟨front, tail, rfl⟩ : ∃ front tail, pieces = front ++ [tail] :=
    ⟨_, _, (List.dropLast_concat_getLast hcuts.ne_nil).symm⟩
  have hpieces := map_toList_splitParameters hcuts
  have htext := hcuts.intercalate_eq
  refine ⟨front, tail, hcuts.parted_iff, hpieces, ?_, ?_, ?_,
    fun _ _ _ _ _ => not_level_inside_split hcuts⟩
  · intro htail
    rw [joinWith, hpieces, htail, if_neg Bool.false_ne_true]
    exact String.toList_inj.1 (by simpa using htext)
  · intro htail hfront
    rw [intercalate_concat hfront] at htext
    rw [joinWith, hpieces, if_pos htail, ← String.toList_inj]
    simpa using htext
  · rintro htail rfl
    rw [if_pos htail] at hpieces
    refine ⟨by simpa using hpieces, ?_⟩
    rw [← String.toList_inj, ← htext]
    simp

/-- A comma below depth zero is no cut, and blanks behind the last cut are left out. -/
example : splitParameters ">a,b<,c, " = [">a,b<", "c"] := by
  decide +kernel

end HookMigration.Signature
