import HookMigration.Proofs.Migration.Rendering
import HookMigration.Proofs.Pattern.Notation
import Mathlib.Data.List.Chain

/-!
# Reading the notation of a template

A template is made by pushing literals and references.  Pushing merges literals that meet, so a
template has one form for what was pushed: no literal is empty, and no two are neighbours
(`merged_ofPushes`).

What a template says is a list of tokens, each a character of a literal or a slot.  In the notation
every token has a text of its own, and none of these texts begins another one: behind a dollar sign
stands a second one, or the brace of a slot.  So the notation is read token by token from the left
(`readTokens_written`), and the tokens make up the segments again, because these are merged
(`ofTokens_tokens`).
-/

namespace HookMigration.Template

open Text

variable {segments : List Segment} {token : Token} {cs rest : List Char} {text : String}

/-! ## Tokens -/

/-- A character of a literal, or a slot. -/
inductive Token
  | char (c : Char)
  | slot (slot : Slot)
  deriving DecidableEq, Repr

/-- The notation of a token. -/
def Token.written : Token → List Char
  | .char c => if c = '$' then ['$', '$'] else [c]
  | .slot s => '$' :: '{' :: (s.label.toList ++ ['}'])

/-- The tokens of a segment. -/
def Segment.tokens : Segment → List Token
  | .literal text => text.toList.map .char
  | .capture slot => [.slot slot]

/-- Segments with the given tokens, where neighbouring characters make one literal. -/
def segmentsOf : List Token → List Segment
  | [] => []
  | .slot slot :: rest => .capture slot :: segmentsOf rest
  | .char c :: rest =>
    match segmentsOf rest with
    | .literal text :: others => .literal (String.ofList (c :: text.toList)) :: others
    | others => .literal (String.ofList [c]) :: others

/-! ## The reader -/

/-- The word for a half in front of a text, and what follows it. -/
def readHalf? : List Char → Option (Half × List Char)
  | 't' :: 'y' :: 'p' :: 'e' :: rest => some (.type, rest)
  | 'n' :: 'a' :: 'm' :: 'e' :: rest => some (.name, rest)
  | _ => none

/-- A slot and the brace behind it in front of a text, and what follows them. -/
def readSlot? (cs : List Char) : Option (Slot × List Char) :=
  match readHalf? cs with
  | none => none
  | some (half, rest) =>
    match rest.takeWhile Char.isDigit, rest.dropWhile Char.isDigit with
    | digit :: digits, '}' :: after =>
      some (⟨half, Nat.ofDigitChars 10 (digit :: digits) 0⟩, after)
    | _, _ => none

/-- The token in front of a text, and what follows it.  A dollar sign that begins neither a pair nor
a slot stands for itself. -/
def readToken? : List Char → Option (Token × List Char)
  | [] => none
  | '$' :: '$' :: rest => some (.char '$', rest)
  | '$' :: '{' :: rest =>
    match readSlot? rest with
    | some (slot, after) => some (.slot slot, after)
    | none => some (.char '$', '{' :: rest)
  | c :: rest => some (.char c, rest)

theorem length_of_readHalf? {half : Half} (h : readHalf? cs = some (half, rest)) :
    rest.length < cs.length := by
  unfold readHalf? at h
  split at h
  · cases h
    simp only [List.length_cons]
    omega
  · cases h
    simp only [List.length_cons]
    omega
  · cases h

theorem length_of_readSlot? {slot : Slot} (h : readSlot? cs = some (slot, rest)) :
    rest.length < cs.length := by
  unfold readSlot? at h
  split at h
  · cases h
  · rename_i half others hhalf
    have hhalf := length_of_readHalf? hhalf
    split at h
    · rename_i digit digits after hdigits hafter
      cases h
      have hshorter := (List.dropWhile_suffix Char.isDigit (l := others)).length_le
      rw [hafter, List.length_cons] at hshorter
      omega
    · cases h

theorem length_of_readToken? (h : readToken? cs = some (token, rest)) :
    rest.length < cs.length := by
  unfold readToken? at h
  split at h
  · cases h
  · cases h
    simp only [List.length_cons]
    omega
  · rename_i others
    cases hslot : readSlot? others with
    | none =>
        rw [hslot] at h
        cases h
        simp
    | some read =>
        rw [hslot] at h
        cases h
        have := length_of_readSlot? hslot
        simp only [List.length_cons]
        omega
  · cases h
    simp

/-- The tokens of a text, read from left to right. -/
def readTokens (cs : List Char) : List Token :=
  match _h : readToken? cs with
  | none => []
  | some (token, rest) => token :: readTokens rest
termination_by cs.length
decreasing_by exact length_of_readToken? _h

/-- The segments that a text in the notation of templates stands for. -/
def readSegments (text : String) : List Segment :=
  segmentsOf (readTokens text.toList)

/-! ## One token at a time -/

theorem readHalf?_word (half : Half) (rest : List Char) :
    readHalf? (half.word.toList ++ rest) = some (half, rest) := by
  cases half <;> rfl

/-- The digits of a number are read up to the brace behind them. -/
theorem readSlot?_label (slot : Slot) (rest : List Char) :
    readSlot? (slot.label.toList ++ '}' :: rest) = some (slot, rest) := by
  have hdigits := all_isDigit_toDigits slot.position
  have hbrace : ('}' :: rest).head?.any Char.isDigit = false := rfl
  obtain ⟨digit, digits, hcons⟩ : ∃ digit digits,
      Nat.toDigits 10 slot.position = digit :: digits :=
    List.exists_cons_of_ne_nil Nat.toDigits_ne_nil
  have htake := takeWhile_run_append hdigits hbrace
  have hdrop := dropWhile_run_append hdigits hbrace
  have hnumber := Nat.ofDigitChars_ten_toDigits (n := slot.position)
  rw [hcons] at htake hdrop hnumber
  rw [Slot.toList_label, List.append_assoc, readSlot?, readHalf?_word, hcons]
  simp only [htake, hdrop, hnumber]

/-- A token is read off its notation, whatever follows it. -/
theorem readToken?_written (token : Token) (rest : List Char) :
    readToken? (token.written ++ rest) = some (token, rest) := by
  cases token with
  | slot s =>
      have hwritten : (Token.slot s).written ++ rest =
          '$' :: '{' :: (s.label.toList ++ '}' :: rest) := by
        simp [Token.written]
      rw [hwritten, readToken?, readSlot?_label]
  | char c =>
      by_cases hdollar : c = '$'
      · rw [hdollar]
        rfl
      · rw [Token.written, if_neg hdollar, List.singleton_append]
        unfold readToken?
        split <;> simp_all

theorem readTokens_of_readToken? (h : readToken? cs = some (token, rest)) :
    readTokens cs = token :: readTokens rest := by
  rw [readTokens]
  split
  · simp_all
  · simp_all

/-- Reading the notation of tokens gives the tokens. -/
theorem readTokens_written (tokens : List Token) :
    readTokens (tokens.flatMap Token.written) = tokens := by
  induction tokens with
  | nil =>
      rw [List.flatMap_nil, readTokens]
      rfl
  | cons token rest ih =>
      rw [List.flatMap_cons, readTokens_of_readToken? (readToken?_written token _), ih]

/-- A template is displayed token by token. -/
theorem toList_display (t : Template) :
    t.display.toList = (t.segments.flatMap Segment.tokens).flatMap Token.written := by
  have hsegment : ∀ s : Segment, s.display.toList = s.tokens.flatMap Token.written := by
    intro s
    cases s with
    | literal text =>
        rw [Segment.display, String.toList_ofList, replaceChar, Segment.tokens, List.flatMap_map]
        rfl
    | capture slot => simp [Segment.display, Segment.tokens, Token.written]
  rw [display, concat, String.toList_ofList, List.flatMap_map, List.flatMap_assoc]
  exact List.flatMap_congr fun s _ => hsegment s

/-! ## Merged segments -/

/-- Whether a segment is a literal. -/
def Segment.isLiteral : Segment → Bool
  | .literal _ => true
  | .capture _ => false

/-- No literal is empty, and no two literals are neighbours. -/
structure Merged (segments : List Segment) : Prop where
  ne_empty : .literal "" ∉ segments
  apart : segments.IsChain fun s s' => ¬(s.isLiteral = true ∧ s'.isLiteral = true)

theorem appendLiteral_concat_literal (front : List Segment) (before text : String) :
    appendLiteral text (front ++ [.literal before]) = front ++ [.literal (before ++ text)] := by
  induction front with
  | nil => rfl
  | cons s others ih =>
      rw [List.cons_append, appendLiteral, ih, List.cons_append]
      intro text' _ hnil
      simp at hnil

theorem appendLiteral_concat_capture (front : List Segment) (slot : Slot) (text : String) :
    appendLiteral text (front ++ [.capture slot]) = front ++ [.capture slot, .literal text] := by
  induction front with
  | nil => rfl
  | cons s others ih =>
      rw [List.cons_append, appendLiteral, ih, List.cons_append]
      intro text' _ hnil
      simp at hnil

theorem Merged.appendLiteral (h : Merged segments) (htext : text ≠ "") :
    Merged (appendLiteral text segments) := by
  obtain ⟨hne, hapart⟩ := h
  rcases List.eq_nil_or_concat segments with rfl | ⟨front, s, rfl⟩
  · exact ⟨by simpa [Template.appendLiteral] using Ne.symm htext, by simp [Template.appendLiteral]⟩
  · rw [List.concat_eq_append] at hne hapart ⊢
    cases s with
    | literal before =>
        -- the last literal grows and keeps its neighbour
        rw [appendLiteral_concat_literal]
        refine ⟨?_, ?_⟩
        · simp only [List.mem_append, List.mem_singleton, not_or] at hne ⊢
          refine ⟨hne.1, fun hempty => htext ?_⟩
          have htexts := congrArg String.toList (Segment.literal.inj hempty)
          rw [← String.toList_inj]
          simp_all
        · rw [List.isChain_append] at hapart ⊢
          exact ⟨hapart.1, by simp, by simpa [Segment.isLiteral] using hapart.2.2⟩
    | capture slot =>
        rw [appendLiteral_concat_capture]
        refine ⟨?_, ?_⟩
        · simpa [Ne.symm htext] using hne
        · rw [List.append_cons, List.isChain_append]
          exact ⟨hapart, by simp, by simp [Segment.isLiteral]⟩

theorem Merged.concat_capture (h : Merged segments) (slot : Slot) :
    Merged (segments ++ [.capture slot]) := by
  refine ⟨by simpa using h.ne_empty, ?_⟩
  rw [List.isChain_append]
  exact ⟨h.apart, by simp, by simp [Segment.isLiteral]⟩

/-- Characters gather in front of a segment that is no literal. -/
theorem segmentsOf_characters {tokens : List Token} (hne : cs ≠ [])
    (hnext : (segmentsOf tokens).head?.any Segment.isLiteral = false) :
    segmentsOf (cs.map .char ++ tokens) = .literal (String.ofList cs) :: segmentsOf tokens := by
  induction cs with
  | nil => exact absurd rfl hne
  | cons c others ih =>
      rw [List.map_cons, List.cons_append, segmentsOf]
      by_cases hothers : others = []
      · rw [hothers, List.map_nil, List.nil_append]
        split
        · rename_i hliteral
          rw [hliteral] at hnext
          exact absurd hnext (by simp [Segment.isLiteral])
        · rfl
      · rw [ih hothers]
        simp

/-- Merged segments are told by their tokens. -/
theorem segmentsOf_tokens (h : Merged segments) :
    segmentsOf (segments.flatMap Segment.tokens) = segments := by
  induction segments with
  | nil => rfl
  | cons s rest ih =>
      obtain ⟨hne, hapart⟩ := h
      rw [List.isChain_cons] at hapart
      have hrest := ih ⟨fun hmem => hne (List.mem_cons_of_mem s hmem), hapart.2⟩
      rw [List.flatMap_cons]
      cases s with
      | capture slot => rw [Segment.tokens, List.singleton_append, segmentsOf, hrest]
      | literal text =>
          have htext : text.toList ≠ [] := by
            intro hnil
            rw [String.toList_eq_nil_iff] at hnil
            exact hne (by simp [hnil])
          have hnext : rest.head?.any Segment.isLiteral = false := by
            cases hhead : rest.head? with
            | none => rfl
            | some next => simpa [Segment.isLiteral] using hapart.1 next hhead
          rw [Segment.tokens, segmentsOf_characters htext (by rwa [hrest]), hrest,
            String.ofList_toList]

/-! ## Pushing -/

/-- A template with a segment behind it. -/
def push (t : Template) : Segment → Template
  | .literal text => t.pushLiteral text
  | .capture slot => t.pushCapture slot

/-- The template that is made by pushing segments one after the other. -/
def ofPushes (pushes : List Segment) : Template :=
  pushes.foldl push empty

theorem merged_push {t : Template} (h : Merged t.segments) (s : Segment) :
    Merged (t.push s).segments := by
  cases s with
  | capture slot => exact h.concat_capture slot
  | literal text =>
      change Merged (t.pushLiteral text).segments
      unfold pushLiteral
      split_ifs with hempty
      · exact h
      · exact h.appendLiteral hempty

theorem merged_ofPushes (pushes : List Segment) : Merged (ofPushes pushes).segments := by
  unfold ofPushes
  induction pushes using List.reverseRecOn with
  | nil => exact ⟨by simp [empty], by simp [empty]⟩
  | append_singleton front s ih =>
      rw [List.foldl_concat]
      exact merged_push ih s

theorem toList_render_push (t : Template) (s : Segment) (captured : Slot → Option String) :
    ((t.push s).render captured).toList =
      (t.render captured).toList ++ (s.render captured).toList := by
  cases s with
  | literal text => exact toList_render_pushLiteral text
  | capture slot => exact toList_render_pushCapture slot

/-- A template says what was pushed, in the order of the pushes. -/
theorem render_ofPushes (pushes : List Segment) (captured : Slot → Option String) :
    (ofPushes pushes).render captured = concat (pushes.map (Segment.render captured)) := by
  have hfold : ∀ t : Template, ((pushes.foldl push t).render captured).toList =
      (t.render captured).toList ++ pushes.flatMap fun s => (s.render captured).toList := by
    induction pushes with
    | nil => simp
    | cons s rest ih =>
        intro t
        rw [List.foldl_cons, ih, toList_render_push, List.flatMap_cons, List.append_assoc]
  rw [← String.toList_inj, ofPushes, hfold, toList_render_empty, concat, String.toList_ofList,
    List.flatMap_map, List.nil_append]

/-! ## Reading what is displayed -/

/-- The notation of merged segments is read as these segments. -/
theorem readSegments_display {t : Template} (h : Merged t.segments) :
    readSegments t.display = t.segments := by
  rw [readSegments, toList_display, readTokens_written, segmentsOf_tokens h]

/-- However a template is pushed together, its literals are merged, it renders what was pushed (the
literals as they are, and for each reference the captured text, or nothing), and its notation is
read as its segments.  So templates that are displayed alike are the same. -/
theorem display_faithful (pushes : List Segment) :
    Merged (ofPushes pushes).segments ∧
      (∀ captured : Slot → Option String, (ofPushes pushes).render captured =
        concat (pushes.map fun
          | .literal text => text
          | .capture slot =>
            match captured slot with
            | some text => text
            | none => "")) ∧
      readSegments (ofPushes pushes).display = (ofPushes pushes).segments ∧
      ∀ others, (ofPushes pushes).display = (ofPushes others).display →
        ofPushes pushes = ofPushes others ∧
          ∀ captured, (ofPushes pushes).render captured = (ofPushes others).render captured := by
  have hread := readSegments_display (merged_ofPushes pushes)
  refine ⟨merged_ofPushes pushes, fun captured => ?_, hread, fun others hdisplay => ?_⟩
  · refine (render_ofPushes pushes captured).trans (congrArg concat ?_)
    refine List.map_congr_left fun s _ => ?_
    cases s with
    | literal text => rfl
    | capture slot => cases hcaptured : captured slot <;> simp [Segment.render, hcaptured]
  have hsegments : (ofPushes pushes).segments = (ofPushes others).segments := by
    rw [← hread, hdisplay, readSegments_display (merged_ofPushes others)]
  have hsame : ofPushes pushes = ofPushes others := by
    cases hpushes : ofPushes pushes
    cases hothers : ofPushes others
    simp_all
  exact ⟨hsame, fun captured => by rw [hsame]⟩

/-- Dollar signs in front of what looks like a slot, pushed in two ways; and a slot that is captured
beside one that is not. -/
theorem display_faithful_dollars :
    (ofPushes [.literal "$$", .literal "\x7btype1\x7d"]).display =
        (ofPushes [.literal "$", .literal "", .literal "$\x7btype1\x7d"]).display ∧
      ofPushes [.literal "$$", .literal "\x7btype1\x7d"] =
        ofPushes [.literal "$", .literal "", .literal "$\x7btype1\x7d"] ∧
      (ofPushes [.literal "$", .capture (.name 1), .capture (.type 2), .literal ";"]).render
        (fun slot => if slot = .name 1 then some "x" else none) = "$x;" := by
  have hdisplay : (ofPushes [.literal "$$", .literal "\x7btype1\x7d"]).display =
      (ofPushes [.literal "$", .literal "", .literal "$\x7btype1\x7d"]).display := by
    decide +kernel
  exact ⟨hdisplay, ((display_faithful _).2.2.2 _ hdisplay).1,
    ((display_faithful _).2.1 _).trans (by decide +kernel)⟩

example : (ofPushes [.literal "$$", .capture (.type 1)]).display = "$$$$$\x7btype1\x7d" := by
  decide +kernel

end HookMigration.Template
