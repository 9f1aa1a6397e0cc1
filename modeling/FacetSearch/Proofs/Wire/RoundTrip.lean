import FacetSearch.Proofs.Json.Fields
import FacetSearch.Wire.Document
import FacetSearch.Wire.Query
import FacetSearch.Wire.Term
import Mathlib.Data.List.Induction

/-!
# Values that are read back

What is written as JSON is read as it was: every term, every query and every document. What is left
out in writing has in reading the value for which it was left out, and an empty map of attributes,
which is not left out, is not read as none.

Every name is written once and in its place, so the members of an object are its fields
(`fields?_object`), and each field is found under its name.
-/

namespace FacetSearch

open Json

/-! ## Attributes -/

theorem insertEntry_of_all_lt {name : String} {entries : List (String × String)}
    (after : ∀ entry ∈ entries, entry.1 < name) (value : String) :
    insertEntry name value entries = entries ++ [(name, value)] := by
  induction entries with
  | nil => rfl
  | cons first rest ih =>
      have less : first.1 < name := after first List.mem_cons_self
      have notBefore : ¬ name < first.1 := String.lt_asymm less
      have notSame : name ≠ first.1 := fun same => String.lt_irrefl name (same ▸ less)
      rw [insertEntry, if_neg notBefore, if_neg notSame,
        ih fun entry mem => after entry (List.mem_cons_of_mem first mem)]
      rfl

namespace Attributes

/-- Entries in the order of their names are put in one behind the other. -/
theorem entries_ofList {entries : List (String × String)}
    (sorted : entries.Pairwise fun a b => a.1 < b.1) : (ofList entries).entries = entries := by
  induction entries using List.reverseRecOn with
  | nil => rfl
  | append_singleton init last ih =>
      obtain ⟨sortedInit, -, before⟩ := List.pairwise_append.mp sorted
      have after : ∀ entry ∈ init, entry.1 < last.1 :=
        fun entry mem => before entry mem last (List.mem_singleton_self last)
      have grown : ofList (init ++ [last]) = (ofList init).insert last.1 last.2 := by
        simp [ofList]
      rw [grown]
      show insertEntry last.1 last.2 (ofList init).entries = init ++ [last]
      rw [ih sortedInit, insertEntry_of_all_lt after]

theorem ofJson?_toJson (attributes : Attributes) :
    ofJson? attributes.toJson = some attributes := by
  have members :
      (attributes.entries.map fun entry => (entry.1, Json.string entry.2)).mapM
        (fun member => (member.2.string?).map (member.1, ·)) = some attributes.entries := by
    refine mapM_map_eq_some (fun entry => ?_) attributes.entries
    rfl
  have same : ofList attributes.entries = attributes := by
    obtain ⟨entries, sorted⟩ := attributes
    exact (mk.injEq ..).mpr (entries_ofList sorted)
  simp only [toJson, ofJson?, members, same, Option.bind_eq_bind, Option.bind_some]

end Attributes

/-! ## Node matches and heading focuses -/

theorem NodeMatch.ofJson?_toJson (node : NodeMatch) : ofJson? node.toJson = some node := by
  have order := (List.Sublist.refl ["type"]).append
    ((names_optional "attributes" node.attributes Attributes.toJson).append
      (names_optional "text" node.text Json.string))
  have fields : node.toJson.fields? fieldNames = some _ :=
    fields?_object (by simpa [fieldNames] using order) (by decide)
  have attributes : ∀ x : Attributes, nullable? Attributes.ofJson? x.toJson = some (some x) :=
    fun x => congrArg (Option.map some) x.ofJson?_toJson
  simp [ofJson?, fields, required?, string?, optional?_eq, List.lookup_append, List.lookup_cons,
    elim_written, attributes]

theorem HeadingDepth.ofJson?_toJson (depth : HeadingDepth) : ofJson? depth.toJson = some depth :=
  ofName?_name depth

theorem HeadingFocus.ofJson?_toJson (focus : HeadingFocus) : ofJson? focus.toJson = some focus := by
  have fields : focus.toJson.fields? fieldNames = some _ :=
    fields?_object (List.Sublist.refl fieldNames) (by decide)
  simp [ofJson?, fields, required?, string?, List.lookup_cons, HeadingDepth.ofJson?_toJson]

/-! ## Documents and queries -/

theorem Document.ofJson?_toJson (document : Document) :
    ofJson? document.toJson = some document := by
  have order := ((List.Sublist.refl ["id", "createdAt"]).append
    (names_optional "title" document.title Json.string)).append (List.Sublist.refl ["journalId"])
  have fields : document.toJson.fields? fieldNames = some _ :=
    fields?_object (by simpa [fieldNames] using order) (by decide)
  simp [ofJson?, fields, required?, string?, optional?_eq, List.lookup_append, List.lookup_cons]

namespace Query

theorem names_listMember (name : String) (values : List String) :
    ((listMember name values).map Prod.fst).Sublist [name] := by
  unfold listMember
  split
  · exact List.nil_sublist _
  · exact List.Sublist.refl _

@[simp] theorem lookup_listMember (name key : String) (values : List String) :
    (listMember name values).lookup key =
      if key = name then if values = [] then none else some (ofStrings values) else none := by
  unfold listMember
  split
  · simp
  · exact lookup_singleton name key (ofStrings values)

/-- **Written where it holds something**, and left out where it is empty: a list is read as it was. -/
theorem elim_listMember (values : List String) :
    (if values = [] then none else some (ofStrings values)).elim (some [])
      (listOf? string?) = some values := by
  split
  · rename_i empty
    rw [empty]
    rfl
  · exact listOf?_ofStrings values

theorem fields?_toJson (query : Query) :
    query.toJson.fields? fieldNames = some
      ([ ("journals", .ofStrings query.journals), ("tags", .ofStrings query.tags),
        ("titles", .ofStrings query.titles), ("texts", .ofStrings query.texts) ] ++
      textMember "before" query.before ++
      [("limit", .ofNat query.limit.toNat)] ++
      listMember "excludeJournals" query.excludeJournals ++
      listMember "excludeTags" query.excludeTags ++
      listMember "excludeTitles" query.excludeTitles ++
      listMember "excludeTexts" query.excludeTexts ++
      textMember "date" query.date) := by
  have order := (((((((List.Sublist.refl ["journals", "tags", "titles", "texts"]).append
    (names_optional "before" query.before Json.string)).append
    (List.Sublist.refl ["limit"])).append
    (names_listMember "excludeJournals" query.excludeJournals)).append
    (names_listMember "excludeTags" query.excludeTags)).append
    (names_listMember "excludeTitles" query.excludeTitles)).append
    (names_listMember "excludeTexts" query.excludeTexts)).append
    (names_optional "date" query.date Json.string)
  refine fields?_object ?_ (by decide)
  simpa [fieldNames, textMember] using order

theorem ofJson?_toJson (query : Query) : ofJson? query.toJson = some query := by
  simp [ofJson?, fields?_toJson, required?, optional?_eq, List.lookup_append, List.lookup_cons,
    textMember, elim_listMember]

end Query

/-! ## Terms -/

namespace Term

theorem facetOfType?_label (facet : Facet) : facetOfType? facet.label = some facet := by
  rcases facet with field | slot
  · cases field <;> decide
  · cases slot <;> decide

section Tagged

variable {members : List (String × Json)}

theorem untag?_tagged (untagged : "type" ∉ members.map Prod.fst) (label : String) :
    untag? (.object (("type", .string label) :: members)) =
      some (label, .object (("type", .string label) :: members)) := by
  have none : members.filter (·.1 = "type") = [] := by
    refine List.filter_eq_nil_iff.mpr fun member mem => ?_
    have other : member.1 ≠ "type" := fun same => untagged (same ▸ List.mem_map_of_mem mem)
    simpa using other
  simp [untag?, none]

/-- The type says which facet it is, and is not a field. -/
theorem ofJson?_tagged (untagged : "type" ∉ members.map Prod.fst) (facet : Facet) :
    ofJson? (.object (("type", .string facet.label) :: members)) =
      ofFields? facet (.object members) := by
  have passed : ofJson? (.object (("type", .string facet.label) :: members)) =
      ofFields? facet (.object (("type", .string facet.label) :: members)) := by
    simp [ofJson?, untag?_tagged untagged, facetOfType?_label]
  rw [passed]
  cases facet with
  | field field =>
      simp only [ofFields?]
      rw [fields?_cons_of_notMem _ (by decide)]
  | slot slot =>
      simp only [ofFields?]
      rw [fields?_cons_of_notMem _ (by decide)]

end Tagged

theorem ofFields?_field (field : Field) (value : String) (excluded : Bool) :
    ofFields? (.field field)
      (.object (("value", .string value) :: if excluded then [("excluded", .bool true)] else [])) =
        some (matching field value excluded) := by
  cases excluded with
  | false => rfl
  | true => rfl

theorem fields?_value (value : Json) :
    (Json.object [("value", value)]).fields? ["value"] = some [("value", value)] :=
  fields?_object (List.Sublist.refl _) (List.nodup_singleton _)

theorem ofJson?_toJson (term : Term) : ofJson? term.toJson = some term := by
  cases term with
  | matching field value excluded =>
      have untagged : "type" ∉ (("value", Json.string value) ::
          if excluded then [("excluded", .bool true)] else []).map Prod.fst := by
        cases excluded <;> simp
      exact (ofJson?_tagged untagged (.field field)).trans (ofFields?_field field value excluded)
  | cursor id => exact ofJson?_tagged (by simp) (.slot .before)
  | date text => exact ofJson?_tagged (by simp) (.slot .date)
  | node pattern =>
      refine (ofJson?_tagged (by simp) (.slot .node)).trans ?_
      simp [ofFields?, fields?_value, required?, NodeMatch.ofJson?_toJson]
  | heading focus =>
      refine (ofJson?_tagged (by simp) (.slot .heading)).trans ?_
      simp [ofFields?, fields?_value, required?, HeadingFocus.ofJson?_toJson]

/-! ## Depth -/

theorem membersWithin_strings (depth : Nat) (entries : List (String × String)) :
    membersWithin depth (entries.map fun entry => (entry.1, .string entry.2)) = true := by
  induction entries with
  | nil => rfl
  | cons first rest ih => exact ih

theorem within_node (pattern : NodeMatch) {depth : Nat} (room : 1 < depth) :
    pattern.toJson.within depth = true := by
  obtain ⟨rest, rfl⟩ := Nat.exists_eq_add_of_le' room
  obtain ⟨nodeType, attributes, text⟩ := pattern
  cases attributes with
  | none => cases text <;> simp [NodeMatch.toJson, within, membersWithin]
  | some attributes =>
      cases text <;>
        simp [NodeMatch.toJson, Attributes.toJson, within, membersWithin, membersWithin_strings]

theorem within_heading (focus : HeadingFocus) {depth : Nat} (room : 0 < depth) :
    focus.toJson.within depth = true := by
  simpa [HeadingFocus.toJson, HeadingDepth.toJson, within, membersWithin] using room

/-- Three arrays or objects inside each other are the most that a term is written with. -/
theorem within_toJson (term : Term) : term.toJson.within maxDepth = true := by
  cases term with
  | matching field value excluded => cases excluded <;> rfl
  | cursor id => rfl
  | date text => rfl
  | node pattern => simp [toJson, within, membersWithin, maxDepth, within_node]
  | heading focus => simp [toJson, within, membersWithin, maxDepth, within_heading]

end Term

/-- **What is written is read.** A term, a query and a document are each read back from the JSON they
are written as, whatever of them was left out, and a term stays within the depth that the text of one
may have. An empty map of attributes, which is written, is told apart from none, which is not. -/
theorem Json.reads_back_what_is_written :
    (∀ term : Term,
      term.toJson.within Term.maxDepth = true ∧ Term.ofJson? term.toJson = some term) ∧
    (∀ query : Query, Query.ofJson? query.toJson = some query) ∧
    (∀ document : Document, Document.ofJson? document.toJson = some document) ∧
    (∀ nodeType text, (Term.node ⟨nodeType, some .empty, text⟩).toJson ≠
      (Term.node ⟨nodeType, none, text⟩).toJson) := by
  refine ⟨fun term => ⟨term.within_toJson, term.ofJson?_toJson⟩, Query.ofJson?_toJson,
    Document.ofJson?_toJson, fun nodeType text same => ?_⟩
  have read : some (Term.node ⟨nodeType, some .empty, text⟩) =
      some (.node ⟨nodeType, none, text⟩) := by
    rw [← Term.ofJson?_toJson, same, Term.ofJson?_toJson]
  cases read

end FacetSearch
