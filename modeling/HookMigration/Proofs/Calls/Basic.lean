import HookMigration.Proofs.Text.Classes
import HookMigration.Proofs.Text.Runs

/-!
# Calls in a text

A call is a word, blanks, and a parenthesised text in which there are no parentheses.  It stands in
a text where the character before it does not continue the word.

The parentheses of a call are the only ones in it, so a call that begins within another one can only
begin later in the same word (`eq_append_of_inside`).  Hence calls of one name never overlap
(`not_isCallOf_inside`), and neither do calls that stand in a text (`not_stands_inside`).  So a text
is cut into the calls that stand in it and the single characters between them (`exists_cut`), and
when the calls are exchanged for other calls, the cut stays where it was (`Cut.map`): no call that
was there before is torn apart, and none arises across the end of a new one.
-/

namespace HookMigration.Calls

open Text

/-! ## Calls -/

/-- A given word, blanks, and a parenthesised text without parentheses in it. -/
def IsCallOf (name m : List Char) : Prop :=
  ∃ gap inner, name ≠ [] ∧ name.all isWordChar = true ∧ gap.all isBlank = true ∧
    (∀ c ∈ inner, c ≠ '(' ∧ c ≠ ')') ∧ m = name ++ gap ++ '(' :: (inner ++ [')'])

/-- A call of any name. -/
def IsCall (m : List Char) : Prop :=
  ∃ name, IsCallOf name m

/-- A call behind a character that is not part of its name. -/
def Stands (before : Option Char) (m : List Char) : Prop :=
  before.any isWordChar = false ∧ IsCall m

variable {before : Option Char} {m m' u v w inner x x' name name' : List Char}

theorem IsCall.ne_nil (h : IsCall m) : m ≠ [] := by
  obtain ⟨name, gap, inner, -, -, -, -, rfl⟩ := h
  simp

theorem IsCall.getLast?_eq (h : IsCall m) : m.getLast? = some ')' := by
  obtain ⟨name, gap, inner, -, -, -, -, rfl⟩ := h
  rw [List.getLast?_append_of_ne_nil _ (List.cons_ne_nil _ _), ← List.cons_append,
    List.getLast?_append_of_ne_nil _ (List.cons_ne_nil _ _)]
  rfl

/-- Whether a character is no parenthesis. -/
def isInside (c : Char) : Bool :=
  c != '(' && c != ')'

theorem isInside_of_isWordChar {c : Char} (h : isWordChar c = true) : isInside c = true := by
  simp only [isInside, Bool.and_eq_true, bne_iff_ne]
  constructor <;> (rintro rfl; simp at h)

theorem isInside_of_isBlank {c : Char} (h : isBlank c = true) : isInside c = true := by
  simp only [isInside, Bool.and_eq_true, bne_iff_ne]
  constructor <;> (rintro rfl; simp at h)

/-- Before its opening parenthesis a call has no parenthesis. -/
theorem all_isInside_front {name gap : List Char} (hname : name.all isWordChar = true)
    (hgap : gap.all isBlank = true) : (name ++ gap).all isInside = true := by
  rw [List.all_append, Bool.and_eq_true, List.all_eq_true, List.all_eq_true]
  exact ⟨fun c hc => isInside_of_isWordChar (List.all_eq_true.1 hname c hc),
    fun c hc => isInside_of_isBlank (List.all_eq_true.1 hgap c hc)⟩

theorem all_isInside (h : ∀ c ∈ inner, c ≠ '(' ∧ c ≠ ')') : inner.all isInside = true := by
  rw [List.all_eq_true]
  intro c hc
  simpa [isInside] using h c hc

theorem head?_open (y : List Char) : ('(' :: y).head?.any isInside = false := by simp [isInside]

theorem head?_close (y : List Char) : (')' :: y).head?.any isInside = false := by simp [isInside]

/-- A text begins with one call at most. -/
theorem IsCall.unique (h : IsCall m) (h' : IsCall m') (heq : m ++ x = m' ++ x') : m = m' := by
  obtain ⟨name, gap, inner, -, hname, hgap, hinner, rfl⟩ := h
  obtain ⟨name', gap', inner', -, hname', hgap', hinner', rfl⟩ := h'
  rw [List.append_assoc (name ++ gap), List.append_assoc (name' ++ gap')] at heq
  obtain ⟨hfront, hrest⟩ := run_unique (all_isInside_front hname hgap)
    (all_isInside_front hname' hgap') (head?_open _) (head?_open _) heq
  have hrest : inner ++ ')' :: x = inner' ++ ')' :: x' := by simpa using hrest
  obtain ⟨rfl, -⟩ :=
    run_unique (all_isInside hinner) (all_isInside hinner') (head?_close _) (head?_close _) hrest
  rw [hfront]

/-! ## Calls do not overlap -/

/-- If a word and blanks end in a word and blanks, the words end together. -/
theorem eq_append_of_front {gap gap' : List Char} (hne : name ≠ [])
    (hname : name.all isWordChar = true) (hgap : gap.all isBlank = true) (hne' : name' ≠ [])
    (hname' : name'.all isWordChar = true) (hgap' : gap'.all isBlank = true)
    (heq : name ++ gap = u ++ (name' ++ gap')) : name = u ++ name' := by
  have hlast : ∀ {n : List Char}, n ≠ [] → n.all isWordChar = true →
      n.getLast?.any isBlank = false := by
    intro n hn hall
    rw [List.getLast?_eq_some_getLast hn]
    exact isBlank_eq_false_of_isWordChar (List.all_eq_true.1 hall _ (List.getLast_mem hn))
  have hlast' : (u ++ name').getLast?.any isBlank = false := by
    rw [List.getLast?_append_of_ne_nil _ hne']
    exact hlast hne' hname'
  rw [← List.append_assoc] at heq
  exact (run_unique_right hgap hgap' (hlast hne hname) hlast' heq).1

/-- No call begins with an opening parenthesis. -/
theorem not_isCall_at_open (h : IsCall m) : '(' :: x ≠ m ++ x' := by
  obtain ⟨name, gap, inner, hne, hname, hgap, -, rfl⟩ := h
  intro heq
  rw [List.append_assoc] at heq
  obtain ⟨hnil, -⟩ := run_unique (p := isInside) (u := []) rfl (all_isInside_front hname hgap)
    (head?_open _) (head?_open _) heq
  simp [hne] at hnil

/-- No call begins where the next parenthesis is a closing one. -/
theorem not_isCall_at_close (hinner : inner.all isInside = true) (h : IsCall m) :
    inner ++ ')' :: x ≠ m ++ x' := by
  obtain ⟨name, gap, inner', -, hname, hgap, -, rfl⟩ := h
  intro heq
  rw [List.append_assoc] at heq
  obtain ⟨-, hparens⟩ := run_unique hinner (all_isInside_front hname hgap) (head?_close _)
    (head?_open _) heq
  simp at hparens

/-- A call that begins before the end of another one has the same parentheses, so its name is what
is left of the name of the other. -/
theorem eq_append_of_inside (h : IsCallOf name (u ++ v)) (hv : v ≠ []) (hm : IsCallOf name' m)
    (heq : v ++ x = m ++ x') : name = u ++ name' := by
  obtain ⟨gap, inner, hne, hname, hgap, hinner, hcall⟩ := h
  rcases List.append_eq_append_iff.1 hcall with ⟨front, hfront, rfl⟩ | ⟨rest, rfl, hrest⟩
  · -- The other call begins in front of the parenthesis.
    obtain ⟨gap', inner', hne', hname', hgap', -, rfl⟩ := hm
    have hall := all_isInside_front hname hgap
    rw [hfront, List.all_append, Bool.and_eq_true] at hall
    rw [List.append_assoc, List.append_assoc (name' ++ gap')] at heq
    obtain ⟨rfl, -⟩ := run_unique hall.2 (all_isInside_front hname' hgap') (head?_open _)
      (head?_open _) heq
    exact eq_append_of_front hne hname hgap hne' hname' hgap' hfront
  · cases rest with
    | nil =>
        obtain rfl : '(' :: (inner ++ [')']) = v := hrest
        exact absurd heq (not_isCall_at_open ⟨name', hm⟩)
    | cons c rest =>
        -- The other call would begin between the parentheses.
        rw [List.cons_append] at hrest
        obtain ⟨-, hlist⟩ := List.cons.inj hrest
        obtain hnil | ⟨others, d, hothers⟩ := List.eq_nil_or_concat v
        · exact absurd hnil hv
        · rw [List.concat_eq_append] at hothers
          rw [hothers, ← List.append_assoc] at hlist
          obtain ⟨rfl, hclose⟩ := List.append_inj' hlist rfl
          obtain rfl : ')' = d := by simpa using hclose
          have hall := all_isInside hinner
          rw [List.all_append, Bool.and_eq_true] at hall
          rw [hothers, List.append_assoc] at heq
          exact absurd heq (not_isCall_at_close hall.2 ⟨name', hm⟩)

/-- Behind the beginning of a call and before its end no other call begins. -/
theorem not_stands_inside (h : IsCall (u ++ v)) (hu : u ≠ []) (hv : v ≠ [])
    (hm : Stands u.getLast? m) : v ++ x ≠ m ++ x' := by
  intro heq
  obtain ⟨name, hcall⟩ := h
  obtain ⟨hbefore, name', hm⟩ := hm
  obtain rfl := eq_append_of_inside hcall hv hm heq
  -- It would begin within the word.
  obtain ⟨-, -, -, hword, -⟩ := hcall
  rw [List.all_append, Bool.and_eq_true] at hword
  rw [List.getLast?_eq_some_getLast hu] at hbefore
  simp [List.all_eq_true.1 hword.1 _ (List.getLast_mem hu)] at hbefore

/-- Calls of one name do not overlap. -/
theorem not_isCallOf_inside (h : IsCallOf name (u ++ v)) (hu : u ≠ []) (hv : v ≠ [])
    (hm : IsCallOf name m) : v ++ x ≠ m ++ x' := by
  intro heq
  exact hu (List.append_left_eq_self.1 (eq_append_of_inside h hv hm heq).symm)

/-! ## Cutting a text into its calls -/

/-- A character outside of the calls of a text, or a call. -/
inductive Chunk
  | plain (c : Char)
  | call (m : List Char)
  deriving DecidableEq, Repr

/-- The text of a chunk. -/
def Chunk.text : Chunk → List Char
  | .plain c => [c]
  | .call m => m

/-- The text of chunks. -/
def textOf (chunks : List Chunk) : List Char :=
  chunks.flatMap Chunk.text

@[simp] theorem textOf_nil : textOf [] = [] := rfl

@[simp] theorem textOf_plain (c : Char) (rest : List Chunk) :
    textOf (.plain c :: rest) = c :: textOf rest := rfl

@[simp] theorem textOf_call (m : List Char) (rest : List Chunk) :
    textOf (.call m :: rest) = m ++ textOf rest := rfl

/-- The calls among chunks are all the calls that stand in their text, behind a given character. -/
inductive Cut : Option Char → List Chunk → Prop
  | nil {before : Option Char} : Cut before []
  | plain {before : Option Char} {c : Char} {rest : List Chunk}
      (hnone : ∀ m x, Stands before m → c :: textOf rest ≠ m ++ x) (hrest : Cut (some c) rest) :
      Cut before (.plain c :: rest)
  | call {before : Option Char} {m : List Char} {rest : List Chunk} (hstands : Stands before m)
      (hrest : Cut (some ')') rest) : Cut before (.call m :: rest)

/-- Every text is cut into its calls and what lies between them. -/
theorem exists_cut (before : Option Char) (text : List Char) :
    ∃ chunks, Cut before chunks ∧ textOf chunks = text := by
  induction hlength : text.length using Nat.strong_induction_on generalizing before text with
  | _ n ih =>
      subst hlength
      by_cases hcall : ∃ m x, Stands before m ∧ text = m ++ x
      · -- a call stands at the beginning: it is cut off as a whole
        obtain ⟨m, x, hstands, rfl⟩ := hcall
        have hlt : x.length < (m ++ x).length := by
          have := List.length_pos_iff.2 hstands.2.ne_nil
          simp only [List.length_append]
          omega
        obtain ⟨chunks, hcut, rfl⟩ := ih x.length hlt (some ')') x rfl
        exact ⟨.call m :: chunks, .call hstands hcut, rfl⟩
      · -- none does: the first character lies outside of all calls
        cases text with
        | nil => exact ⟨[], .nil, rfl⟩
        | cons c rest =>
            obtain ⟨chunks, hcut, rfl⟩ := ih rest.length (by simp) (some c) rest rfl
            refine ⟨.plain c :: chunks, .plain (fun m x hstands heq => ?_) hcut, rfl⟩
            exact hcall ⟨m, x, hstands, heq⟩

theorem Cut.isCall {chunks : List Chunk} (hcut : Cut before chunks) (hm : .call m ∈ chunks) :
    IsCall m := by
  induction hcut with
  | nil => simp at hm
  | plain hnone hrest ih => exact ih (by simpa using hm)
  | call hstands hrest ih =>
      rcases List.mem_cons.1 hm with heq | hm
      · obtain rfl := Chunk.call.inj heq
        exact hstands.2
      · exact ih hm

theorem getLast?_append_or (u v : List Char) (before : Option Char) :
    (u ++ v).getLast?.or before = v.getLast?.or (u.getLast?.or before) := by
  rw [List.getLast?_append, Option.or_assoc]

/-- Wherever a call stands in a text, it is one of the chunks. -/
theorem Cut.mem_of_stands {chunks : List Chunk} (hcut : Cut before chunks)
    (heq : textOf chunks = u ++ (m ++ x)) (hm : Stands (u.getLast?.or before) m) :
    .call m ∈ chunks := by
  induction hcut generalizing u with
  | nil =>
      have hnil : u ++ (m ++ x) = [] := heq.symm
      simp [hm.2.ne_nil] at hnil
  | @plain before c rest hnone hrest ih =>
      cases u with
      | nil => exact absurd heq (hnone m x hm)
      | cons d others =>
          rw [textOf_plain, List.cons_append] at heq
          obtain ⟨rfl, htail⟩ := List.cons.inj heq
          refine List.mem_cons_of_mem _ (ih htail ?_)
          rw [← List.singleton_append, getLast?_append_or] at hm
          exact hm
  | @call before k rest hstands hrest ih =>
      rw [textOf_call] at heq
      rcases List.append_eq_append_iff.1 heq with ⟨w, rfl, htail⟩ | ⟨v, rfl, htail⟩
      · -- the call stands behind the first chunk
        refine List.mem_cons_of_mem _ (ih htail ?_)
        rw [getLast?_append_or, hstands.2.getLast?_eq] at hm
        exact hm
      · -- the call begins within the first chunk, or right behind it
        cases u with
        | nil =>
            obtain rfl : m = v := hm.2.unique hstands.2 htail
            exact List.mem_cons_self
        | cons d others =>
            by_cases hnil : v = []
            · subst hnil
              rw [List.append_nil] at hstands
              refine List.mem_cons_of_mem _ (ih (u := []) htail.symm ?_)
              rw [hstands.2.getLast?_eq] at hm
              exact hm
            · have hinside : Stands (d :: others).getLast? m := by
                rwa [List.getLast?_eq_some_getLast (List.cons_ne_nil d others)] at hm ⊢
              exact absurd htail.symm
                (not_stands_inside hstands.2 (List.cons_ne_nil d others) hnil hinside)

/-! ## Exchanging calls -/

/-- A chunk with its call exchanged. -/
def Chunk.mapCall (f : List Char → List Char) : Chunk → Chunk
  | .plain c => .plain c
  | .call m => .call (f m)

variable {f g : List Char → List Char} {chunks : List Chunk}

/-- Exchanges that agree on the calls among chunks do the same to the chunks. -/
theorem map_mapCall_congr (h : ∀ m, .call m ∈ chunks → f m = g m) :
    chunks.map (Chunk.mapCall f) = chunks.map (Chunk.mapCall g) := by
  refine List.map_congr_left fun chunk hchunk => ?_
  cases chunk with
  | plain c => rfl
  | call m => rw [Chunk.mapCall, Chunk.mapCall, h m hchunk]

theorem map_mapCall_id (chunks : List Chunk) : chunks.map (Chunk.mapCall id) = chunks := by
  have hid : Chunk.mapCall id = id := by
    funext chunk
    cases chunk <;> rfl
  rw [hid, List.map_id]

theorem map_mapCall_eq_self (h : ∀ m, .call m ∈ chunks → f m = m) :
    chunks.map (Chunk.mapCall f) = chunks :=
  (map_mapCall_congr h).trans (map_mapCall_id chunks)

/-- A call that begins before the chunks and was not there before the exchange would overlap a
new call. -/
theorem stands_of_stands_map (hf : ∀ m, IsCall m → IsCall (f m)) (hcut : Cut u.getLast? chunks)
    (hu : u ≠ []) (hm : IsCall m) (heq : u ++ textOf (chunks.map (Chunk.mapCall f)) = m ++ x) :
    ∃ x', u ++ textOf chunks = m ++ x' := by
  induction chunks generalizing u with
  | nil => exact ⟨x, heq⟩
  | cons chunk rest ih =>
      cases hcut with
      | @plain _ c _ hnone hrest =>
          have hlast : (u ++ [c]).getLast? = some c := by simp
          obtain ⟨x', hx'⟩ := ih (u := u ++ [c]) (by rwa [hlast]) (by simp)
            (by simpa [Chunk.mapCall] using heq)
          exact ⟨x', by simpa using hx'⟩
      | @call _ b _ hstands hrest =>
          rcases List.append_eq_append_iff.1 heq with ⟨v, rfl, hv⟩ | ⟨w, rfl, hw⟩
          · -- the call reaches to the new one, so it ends before it
            by_cases hnil : v = []
            · exact ⟨textOf (.call b :: rest), by simp [hnil]⟩
            · have hnew : Stands u.getLast? (f b) := ⟨hstands.1, hf b hstands.2⟩
              exact absurd hv.symm (not_stands_inside hm hu hnil hnew)
          · exact ⟨w ++ textOf (.call b :: rest), by simp⟩

/-- When calls are exchanged for calls, they stay the calls of the text. -/
theorem Cut.map (hf : ∀ m, IsCall m → IsCall (f m)) (h : Cut before chunks) :
    Cut before (chunks.map (Chunk.mapCall f)) := by
  induction h with
  | nil => exact .nil
  | @plain before c rest hnone hrest ih =>
      refine .plain (fun m x hstands heq => ?_) ih
      obtain ⟨x', hx'⟩ := stands_of_stands_map (u := [c]) hf hrest (by simp) hstands.2 heq
      exact hnone m x' hstands hx'
  | call hstands hrest ih => exact .call ⟨hstands.1, hf _ hstands.2⟩ ih

end HookMigration.Calls
