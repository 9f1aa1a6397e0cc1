import FacetSearch.Json.Fields
import Mathlib.Data.List.Nodup

/-!
# Records that are read as they were written

A record written as an object gives its fields in their order, none of them twice, and may leave some
out. What it gives is found under its name. What it leaves out is absent, and a field that may be
absent has then a value of its own.

* `fields?_object`: the fields of such an object are its members.
* `elim_written`: what is written where there is a value, and left out where there is none, is read
  as it was.
-/

namespace FacetSearch.Json

/-! ## Values -/

theorem mapM_map_eq_some {α β : Type} {write : α → β} {read? : β → Option α}
    (reads : ∀ value, read? (write value) = some value) (values : List α) :
    (values.map write).mapM read? = some values := by
  induction values with
  | nil => rfl
  | cons first rest ih => simp [reads, ih]

@[simp] theorem listOf?_ofStrings (texts : List String) :
    listOf? string? (ofStrings texts) = some texts := by
  show (texts.map string).mapM string? = some texts
  refine mapM_map_eq_some (fun text => ?_) texts
  rfl

@[simp] theorem natural64?_ofNat (n : UInt64) : natural64? (ofNat n.toNat) = some n := by
  have small : n.toNat < UInt64.size := n.toNat_lt
  simp [natural64?, ofNat, Number.natural64?, Number.ofNat, small]

/-! ## Fields -/

section Object

variable {names : List String} {members : List (String × Json)}

/-- **Fields in order** are all there, and nothing else is. -/
theorem fields?_object (order : (members.map Prod.fst).Sublist names) (nodup : names.Nodup) :
    (Json.object members).fields? names = some members := by
  have given : members.filter (fun member => names.contains member.1) = members := by
    refine List.filter_eq_self.mpr fun member hmember => ?_
    exact List.contains_iff_mem.mpr (order.subset (List.mem_map_of_mem hmember))
  show (if _ then some _ else none) = _
  rw [given, if_pos (order.nodup nodup)]

/-- A member of another name is passed over. -/
theorem fields?_cons_of_notMem {name : String} (value : Json) (other : name ∉ names) :
    (Json.object ((name, value) :: members)).fields? names =
      (Json.object members).fields? names := by
  simp only [fields?]
  rw [List.filter_cons_of_neg (by simpa using other)]

theorem lookup_singleton (name key : String) (value : Json) :
    [(name, value)].lookup key = if key = name then some value else none := by
  rcases eq_or_ne key name with rfl | other
  · simp
  · simp [List.lookup_cons, beq_eq_false_iff_ne.mpr other, other]

end Object

/-! ## Fields that may be left out -/

section Optional

variable {α : Type} {name : String}

theorem names_optional (name : String) (value : Option α) (write : α → Json) :
    ((value.map fun x => (name, write x)).toList.map Prod.fst).Sublist [name] := by
  cases value with
  | none => exact List.nil_sublist _
  | some x => exact List.Sublist.refl _

@[simp] theorem lookup_optional (name key : String) (value : Option α) (write : α → Json) :
    (value.map fun x => (name, write x)).toList.lookup key =
      if key = name then value.map write else none := by
  cases value with
  | none => simp
  | some x => exact lookup_singleton name key (write x)

theorem optional?_eq (fields : List (String × Json)) (absent : α) (read? : Json → Option α) :
    optional? fields name absent read? = (fields.lookup name).elim (some absent) read? := by
  unfold optional?
  cases fields.lookup name with
  | none => rfl
  | some value => rfl

/-- **Written where there is a value**, and left out where there is none: it is read as it was. -/
theorem elim_written {readsWritten? : α → Option (Option α)}
    (reads : ∀ x, readsWritten? x = some (some x)) (value : Option α) :
    value.elim (some none) readsWritten? = some value := by
  cases value with
  | none => rfl
  | some x => exact reads x

@[simp] theorem elim_text (text : Option String) :
    text.elim (some none) (nullable? string? ∘ string) = some text :=
  elim_written (fun _ => rfl) text

end Optional

end FacetSearch.Json
