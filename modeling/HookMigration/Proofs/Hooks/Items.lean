import HookMigration.Hooks.Load
import Mathlib.Data.List.Induction
import Mathlib.Data.List.Nodup

/-!
# Items of hook files

A hook file is read in two steps that the program takes at once: its text makes a document, and each
item of the document is read on its own.  Here the items are kept as they stand in the document
(`HookDocument.items?`), before any of them is read, and a `HookListing` is a hook file that is
accepted, with its document and its items.  A document in TOML or YAML is known by the values that the
decoder finds in it, whatever they are.

The items of a JSON object are its members, of which a repeated name keeps its first place and takes
its last value (`Json.mergeMembers_eq`).  Items can be taken out of a document of any format, and
the document stays one that is accepted (`HookDocument.items?_keeping`).
-/

namespace HookMigration

/-! ## Members of JSON objects -/

section EraseDups

variable {α : Type} [BEq α] [LawfulBEq α]

theorem eraseDups_concat (l : List α) (a : α) :
    (l ++ [a]).eraseDups = if a ∈ l then l.eraseDups else l.eraseDups ++ [a] := by
  rw [List.eraseDups_append]
  by_cases h : a ∈ l <;> simp [h, List.removeAll, List.eraseDups_cons]

theorem nodup_eraseDups (l : List α) : l.eraseDups.Nodup := by
  induction l using List.reverseRecOn with
  | nil => exact List.nodup_nil
  | append_singleton l a ih =>
      rw [eraseDups_concat]
      split_ifs with h
      · exact ih
      · refine List.nodup_append.2 ⟨ih, List.nodup_singleton a, ?_⟩
        intro b hb c hc
        obtain rfl := List.mem_singleton.1 hc
        rintro rfl
        exact h (List.mem_eraseDups.1 hb)

end EraseDups

namespace Json

variable {name : String} {value : Json} {members : List (String × Json)}

theorem mergeMembers_concat (members : List (String × Json)) (name : String) (value : Json) :
    mergeMembers (members ++ [(name, value)]) = putMember name value (mergeMembers members) := by
  unfold mergeMembers
  rw [List.foldl_append]
  rfl

/-- One more member, where names do not repeat and a function gives their values. -/
theorem putMember_map {names : List String} (h : names.Nodup) (f : String → Json) :
    putMember name value (names.map fun n => (n, f n)) =
      (if name ∈ names then names else names ++ [name]).map fun n =>
        (n, if n = name then value else f n) := by
  induction names with
  | nil => simp [putMember]
  | cons first rest ih =>
      obtain ⟨hfirst, hrest⟩ := List.nodup_cons.1 h
      rw [List.map_cons, putMember]
      by_cases heq : first = name
      · -- the name does not come again, so the values behind it stay
        subst heq
        have hothers : rest.map (fun n => (n, f n)) =
            rest.map fun n => (n, if n = first then value else f n) := by
          refine List.map_congr_left fun n hn => ?_
          rw [if_neg (ne_of_mem_of_not_mem hn hfirst)]
        simp [hothers]
      · rw [if_neg heq, ih hrest]
        have hmem : name ∈ first :: rest ↔ name ∈ rest := by
          simp [List.mem_cons, Ne.symm heq]
        simp only [hmem]
        split_ifs <;> simp [heq]

/-- A repeated name counts at its first place and with its last value. -/
theorem mergeMembers_eq (members : List (String × Json)) :
    mergeMembers members = (members.map Prod.fst).eraseDups.map fun name =>
      (name, (members.reverse.lookup name).getD .null) := by
  induction members using List.reverseRecOn with
  | nil => rfl
  | append_singleton members member ih =>
      obtain ⟨name, value⟩ := member
      rw [mergeMembers_concat, ih, putMember_map (nodup_eraseDups _), List.map_append,
        List.map_singleton, eraseDups_concat]
      simp only [List.mem_eraseDups]
      -- read from behind, the new member is the first of its name
      refine List.map_congr_left fun n _ => ?_
      rw [List.reverse_concat, List.lookup_cons]
      by_cases heq : n = name
      · simp [heq]
      · rw [if_neg heq, beq_eq_false_iff_ne.2 heq]

theorem nodup_names_mergeMembers (members : List (String × Json)) :
    ((mergeMembers members).map Prod.fst).Nodup := by
  rw [mergeMembers_eq, List.map_map]
  exact (nodup_eraseDups _).map fun _ _ h => h

theorem mem_putMember {member : String × Json} (h : member ∈ putMember name value members) :
    member = (name, value) ∨ member ∈ members := by
  induction members with
  | nil => exact .inl (List.mem_singleton.1 h)
  | cons first rest ih =>
      rw [putMember] at h
      split_ifs at h with heq
      · rcases List.mem_cons.1 h with h | h
        · exact .inl (by rw [h, heq])
        · exact .inr (List.mem_cons_of_mem first h)
      · rcases List.mem_cons.1 h with h | h
        · exact .inr (h ▸ List.mem_cons_self)
        · exact (ih h).imp_right (List.mem_cons_of_mem first)

theorem mem_of_mem_mergeMembers {member : String × Json} (h : member ∈ mergeMembers members) :
    member ∈ members := by
  induction members using List.reverseRecOn with
  | nil => exact h
  | append_singleton members last ih =>
      rw [mergeMembers_concat] at h
      rw [List.mem_append, List.mem_singleton]
      exact (mem_putMember h).symm.imp_left ih

theorem putMember_of_not_mem (h : name ∉ members.map Prod.fst) :
    putMember name value members = members ++ [(name, value)] := by
  induction members with
  | nil => rfl
  | cons first rest ih =>
      rw [List.map_cons, List.mem_cons, not_or] at h
      rw [putMember, if_neg (Ne.symm h.1), ih h.2]
      rfl

theorem mergeMembers_eq_self (h : (members.map Prod.fst).Nodup) :
    mergeMembers members = members := by
  induction members using List.reverseRecOn with
  | nil => rfl
  | append_singleton members last ih =>
      rw [List.map_append, List.map_singleton, List.nodup_append] at h
      obtain ⟨hmembers, -, hapart⟩ := h
      rw [mergeMembers_concat, ih hmembers]
      apply putMember_of_not_mem
      intro hlast
      exact hapart last.1 hlast last.1 (List.mem_singleton_self _) rfl

theorem itemsKeepLimits_iff {depth : Nat} {items : List Json} :
    itemsKeepLimits depth items = true ↔ ∀ item ∈ items, keepsLimits depth item = true := by
  induction items with
  | nil => simp [itemsKeepLimits]
  | cons item rest ih => simp [itemsKeepLimits, ih]

theorem membersKeepLimits_iff {depth : Nat} :
    membersKeepLimits depth members = true ↔
      ∀ member ∈ members, keepsLimits depth member.2 = true := by
  induction members with
  | nil => simp [membersKeepLimits]
  | cons member rest ih => simp [membersKeepLimits, ih]

end Json

/-! ## Documents and their items -/

theorem toOption_eq_some_iff {ε α : Type} {x : Except ε α} {a : α} :
    x.toOption = some a ↔ x = .ok a := by
  cases x <;> simp [Except.toOption]

theorem HookFile.toOption_ofDecoded (path text : String) (format : HookFormat) (d : Decoder) :
    (ofDecoded path text format d).toOption =
      (d.hooks text).toOption.map fun values => ofItems path 1 (values.map d.item) := by
  unfold ofDecoded
  cases d.hooks text <;> rfl

section Documents

variable [Decoders]

/-- An item as it stands in a hook file. -/
inductive HookItem
  | toml (value : Decoders.toml.Value)
  | yaml (value : Decoders.yaml.Value)
  | json (value : Json)
  /-- A member of a JSON object: an old signature and what it maps to. -/
  | member (old : String) (new : Json)

/-- The name of an item, if it can be read, and its entry or the reason why it is none. -/
def HookItem.read : HookItem → Option String × Except String HookEntry
  | .toml value => Decoders.toml.item value
  | .yaml value => Decoders.yaml.item value
  | .json value => value.toItem
  | .member old new => Json.toPair old new

/-- The values of an array, or the members of an object. -/
def Json.hookValues? : Json → Option (List HookItem)
  | .array items => some (items.map .json)
  | .object members => some ((mergeMembers members).map fun (old, new) => .member old new)
  | _ => none

/-- What a hook file says, in one of the formats. -/
inductive HookDocument
  | toml (values : List Decoders.toml.Value)
  | yaml (values : List Decoders.yaml.Value)
  | json (document : Json)

/-- The document that a text in a format makes. -/
def HookFormat.document? (text : String) : HookFormat → Option HookDocument
  | .toml => (Decoders.toml.hooks text).toOption.map .toml
  | .yaml => (Decoders.yaml.hooks text).toOption.map .yaml
  | .json => (Json.read? text).map .json

/-- The items of a document, if it is accepted. -/
def HookDocument.items? : HookDocument → Option (List HookItem)
  | .toml values => some (values.map .toml)
  | .yaml values => some (values.map .yaml)
  | .json document =>
    if Json.keepsLimits Json.nestingLimit document then document.hookValues? else none

theorem Json.hookItems?_eq (document : Json) :
    document.hookItems? = document.hookValues?.map (List.map HookItem.read) := by
  cases document <;> simp [hookItems?, hookValues?, HookItem.read]

/-- A hook file that is accepted: its text, and the items of its document. -/
structure HookListing (t : FileTree) (path : String) where
  text : String
  format : HookFormat
  document : HookDocument
  items : List HookItem
  text_eq : t.readText path = .ok text
  format_eq : (Path.extension? path).bind HookFormat.ofExtension? = some format
  document_eq : format.document? text = some document
  items_eq : document.items? = some items

/-- The hook file that is loaded. -/
def HookListing.file {t : FileTree} {path : String} (l : HookListing t path) : HookFile :=
  .ofItems path 1 (l.items.map HookItem.read)

theorem HookFile.toOption_ofText (path text : String) (format : HookFormat) :
    (ofText path text format).toOption =
      ((format.document? text).bind HookDocument.items?).map fun items =>
        ofItems path 1 (items.map HookItem.read) := by
  cases format with
  | toml =>
      rw [ofText, toOption_ofDecoded, HookFormat.document?]
      cases (Decoders.toml.hooks text).toOption <;>
        simp [HookDocument.items?, HookItem.read, Function.comp_def]
  | yaml =>
      rw [ofText, toOption_ofDecoded, HookFormat.document?]
      cases (Decoders.yaml.hooks text).toOption <;>
        simp [HookDocument.items?, HookItem.read, Function.comp_def]
  | json =>
      simp only [ofText, HookFormat.document?]
      cases Json.read? text with
      | none => rfl
      | some document =>
          simp only [Option.map_some, Option.bind_some, HookDocument.items?, Option.filter_some]
          cases hlimits : Json.keepsLimits Json.nestingLimit document with
          | false => rfl
          | true =>
              simp only [if_true, Json.hookItems?_eq]
              cases document.hookValues? <;> rfl

theorem HookFile.toOption_load (t : FileTree) (path : String) :
    (load t path).toOption = (t.readText path).toOption.bind fun text =>
      ((Path.extension? path).bind HookFormat.ofExtension?).bind fun format =>
        ((format.document? text).bind HookDocument.items?).map fun items =>
          ofItems path 1 (items.map HookItem.read) := by
  unfold load
  cases t.readText path with
  | error e => rfl
  | ok text =>
      cases (Path.extension? path).bind HookFormat.ofExtension? with
      | none => rfl
      | some format => exact toOption_ofText path text format

/-- The files that load are those that have a listing. -/
theorem HookFile.load_eq_ok_iff {t : FileTree} {path : String} {file : HookFile} :
    load t path = .ok file ↔ ∃ l : HookListing t path, l.file = file := by
  rw [← toOption_eq_some_iff, toOption_load]
  constructor
  · intro h
    obtain ⟨text, htext, h⟩ := Option.bind_eq_some_iff.1 h
    obtain ⟨format, hformat, h⟩ := Option.bind_eq_some_iff.1 h
    obtain ⟨items, hitems, hfile⟩ := Option.map_eq_some_iff.1 h
    obtain ⟨document, hdocument, hitems⟩ := Option.bind_eq_some_iff.1 hitems
    exact ⟨⟨text, format, document, items, toOption_eq_some_iff.1 htext, hformat, hdocument,
      hitems⟩, hfile⟩
  · rintro ⟨l, rfl⟩
    rw [toOption_eq_some_iff.2 l.text_eq, Option.bind_some, l.format_eq, Option.bind_some,
      l.document_eq, Option.bind_some, l.items_eq, Option.map_some]
    rfl

/-! ## Items taken out of a document -/

/-- The array without the values, or the object without the members, that fail a test. -/
def Json.keepHook (p : HookItem → Bool) : Json → Json
  | .array items => .array (items.filter fun item => p (.json item))
  | .object members => .object ((mergeMembers members).filter fun (old, new) => p (.member old new))
  | value => value

/-- The document without the items that fail a test. -/
def HookDocument.keeping (p : HookItem → Bool) : HookDocument → HookDocument
  | .toml values => .toml (values.filter fun value => p (.toml value))
  | .yaml values => .yaml (values.filter fun value => p (.yaml value))
  | .json document => .json (document.keepHook p)

theorem Json.hookValues?_keepHook (p : HookItem → Bool) (document : Json) :
    (document.keepHook p).hookValues? = document.hookValues?.map (List.filter p) := by
  cases document with
  | array items => simp [keepHook, hookValues?, List.filter_map, Function.comp_def]
  | object members =>
      have hnames : (((mergeMembers members).filter fun (old, new) =>
          p (.member old new)).map Prod.fst).Nodup :=
        (nodup_names_mergeMembers members).sublist (List.filter_sublist.map Prod.fst)
      simp only [keepHook, hookValues?, Option.map_some]
      rw [mergeMembers_eq_self hnames, List.filter_map]
      rfl
  | _ => rfl

theorem Json.keepsLimits_keepHook {depth : Nat} {document : Json} (p : HookItem → Bool)
    (h : document.keepsLimits depth = true) : (document.keepHook p).keepsLimits depth = true := by
  cases document with
  | array items =>
      cases depth with
      | zero => exact h
      | succ depth =>
          simp only [keepHook, keepsLimits, itemsKeepLimits_iff] at h ⊢
          intro item hitem
          exact h item (List.mem_filter.1 hitem).1
  | object members =>
      cases depth with
      | zero => exact h
      | succ depth =>
          simp only [keepHook, keepsLimits, membersKeepLimits_iff] at h ⊢
          intro member hmember
          exact h member (mem_of_mem_mergeMembers (List.mem_filter.1 hmember).1)
  | _ => exact h

/-- A document stays accepted when items are taken out of it. -/
theorem HookDocument.items?_keeping {document : HookDocument} {items : List HookItem}
    (h : document.items? = some items) (p : HookItem → Bool) :
    (document.keeping p).items? = some (items.filter p) := by
  cases document with
  | toml values =>
      obtain rfl := Option.some.inj h
      simp [keeping, items?, List.filter_map, Function.comp_def]
  | yaml values =>
      obtain rfl := Option.some.inj h
      simp [keeping, items?, List.filter_map, Function.comp_def]
  | json document =>
      simp only [items?, Option.ite_none_right_eq_some] at h
      obtain ⟨hlimits, hvalues⟩ := h
      simp only [keeping, items?]
      rw [if_pos (Json.keepsLimits_keepHook p hlimits), Json.hookValues?_keepHook, hvalues]
      rfl

end Documents

end HookMigration
