/-
  Muffle.Proofs.JsonForm

  Values that JSON can name, and JSON forms. Reading JSON gives lists, never tuples, and maps with
  texts as keys; whatever is read out of such a value is one again. Such a value is its own JSON
  form, to any depth, so only what the program itself made into a tuple changes its form.
-/

import Muffle.Proofs.Config.SavedFields

namespace Muffle

namespace Value

variable {v x default : Value} {xs : List Value} {fields : List (String × Value)} {name : String}

/-- A value that JSON can name. -/
inductive IsJson : Value → Prop
  | null : IsJson .null
  | bool (b : Bool) : IsJson (.bool b)
  | int (i : Int) : IsJson (.int i)
  | float (x : Binary64) : IsJson (.float x)
  | str (s : String) : IsJson (.str s)
  | list {xs : List Value} (h : ∀ x ∈ xs, IsJson x) : IsJson (.list xs)
  | map {fields : List (String × Value)} (h : ∀ f ∈ fields, IsJson f.2) :
      IsJson (.map (entries fields))

attribute [simp] IsJson.null IsJson.bool IsJson.int IsJson.float IsJson.str

@[simp] theorem isJson_list_iff : IsJson (.list xs) ↔ ∀ x ∈ xs, x.IsJson := by
  refine ⟨fun h => ?_, .list⟩
  cases h with
  | list h => exact h

@[simp] theorem isJson_ofFields_iff : IsJson (.ofFields fields) ↔ ∀ f ∈ fields, f.2.IsJson := by
  refine ⟨fun h f hf => ?_, .map⟩
  generalize hv : ofFields fields = v at h
  cases h with
  | @map fields' h =>
    have hentry : (.str f.1, f.2) ∈ entries fields' := by
      rw [← Value.map.inj hv]
      exact List.mem_map_of_mem hf
    obtain ⟨f', hf', hsame⟩ := List.mem_map.mp hentry
    exact (Prod.mk.inj hsame).2 ▸ h f' hf'
  | _ => cases hv

/-! ## Forms -/

theorem toJsonItems_eq_map (xs : List Value) : toJsonItems xs = xs.map toJson := by
  induction xs with
  | nil => rfl
  | cons x rest ih => rw [toJsonItems, ih, List.map_cons]

theorem toJsonEntries_entries (fields : List (String × Value)) :
    toJsonEntries (entries fields) = entries (fields.map fun f => (f.1, f.2.toJson)) := by
  induction fields with
  | nil => rfl
  | cons f rest ih =>
    have hcons : entries (f :: rest) = (.str f.1, f.2) :: entries rest := rfl
    rw [hcons, toJsonEntries, ih]
    rfl

/-- JSON is its own JSON form. -/
theorem IsJson.toJson_eq (h : v.IsJson) : v.toJson = v := by
  induction h with
  | list _ ih =>
    rw [toJson, toJsonItems_eq_map, List.map_congr_left ih, List.map_id']
  | map _ ih =>
    have hsame : ∀ f ∈ _, ((f.1, f.2.toJson) : String × Value) = f :=
      fun f hf => Prod.ext rfl (ih f hf)
    rw [toJson, toJsonEntries_entries, List.map_congr_left hsame, List.map_id']
  | _ => rfl

/-! ## What is read out of JSON -/

theorem IsJson.of_lookupIn (h : ∀ f ∈ fields, f.2.IsJson)
    (hx : lookupIn (.str name) (entries fields) = some x) : x.IsJson := by
  rw [lookupIn_entries] at hx
  obtain ⟨f, hf, rfl⟩ := Option.map_eq_some_iff.mp hx
  exact h f (List.mem_of_find?_eq_some hf)

theorem IsJson.of_field (h : v.IsJson) (hx : v.field name = .ok x) : x.IsJson := by
  cases h with
  | map h =>
    unfold field at hx
    dsimp only at hx
    split at hx
    · rename_i found hfound
      cases hx
      exact of_lookupIn h hfound
    · cases hx
  | _ => cases hx

theorem IsJson.of_fieldD (h : v.IsJson) (hdefault : default.IsJson)
    (hx : v.fieldD name default = .ok x) : x.IsJson := by
  cases h with
  | @map fields h =>
    cases hx
    cases hfound : lookupIn (.str name) (entries fields) with
    | none => exact hdefault
    | some found => exact of_lookupIn h hfound
  | _ => cases hx

theorem IsJson.of_parts (h : v.IsJson) (hxs : v.parts = .ok xs) : ∀ x ∈ xs, x.IsJson := by
  cases h with
  | list h =>
    cases hxs
    exact h
  | str s =>
    cases hxs
    exact List.forall_mem_map.mpr fun c _ => .str c.toString
  | map h =>
    cases hxs
    rw [entries, List.map_map]
    exact List.forall_mem_map.mpr fun f _ => .str f.1
  | _ => cases hxs

end Value

/-! ## Records -/

/-- The fields of a record in JSON, under their names in camel case. -/
def jsonFields (fields : List Field) : List (String × Value) :=
  fields.map fun f => (String.ofList (Text.camelCase f.1.toList), f.2.toJson)

/-- A record that hides none of its fields has each of them in its form. -/
theorem recordJson_eq {fields : List Field} (h : ((jsonFields fields).map (·.1)).Nodup) :
    recordJson fields [] = .ofFields (jsonFields fields) := by
  have hall : (fields.filter fun f => !([] : List String).contains f.1) = fields :=
    List.filter_eq_self.mpr fun _ _ => rfl
  have hentries : (fields.map fun f => (f.key, f.2.toJson)) =
      Value.entries (jsonFields fields) := by
    rw [Value.entries, jsonFields, List.map_map]
    rfl
  rw [recordJson, hall, hentries, Value.ofEntries_entries h]
  rfl

/-- The JSON form of a diagnostic names its unit by the path and its severity by the word. -/
theorem Diagnostic.toJson_eq (d : Diagnostic) :
    d.toJson = .ofFields
      [("unit", .str d.unit.path), ("position", d.position.toJson),
        ("severity", .str d.severity.word), ("message", d.message.toJson)] := by
  have hkeys : ∀ name ∈ ["unit", "position", "severity", "message"],
      String.ofList (Text.camelCase name.toList) = name := by decide +kernel
  simp only [List.forall_mem_cons] at hkeys
  obtain ⟨hunit, hposition, hseverity, hmessage, -⟩ := hkeys
  have hword : String.ofList (Text.lower d.severity.name.toList) = d.severity.word := by
    cases d.severity <;> decide +kernel
  have hfields : jsonFields d.fields =
      [("unit", .str d.unit.path), ("position", d.position.toJson),
        ("severity", .str d.severity.word), ("message", d.message.toJson)] := by
    simp only [jsonFields, fields, List.map_cons, List.map_nil, FieldValue.toJson, hunit,
      hposition, hseverity, hmessage, hword]
  have hnodup : ((jsonFields d.fields).map (·.1)).Nodup := by
    rw [hfields]
    exact (by decide : ["unit", "position", "severity", "message"].Nodup)
  rw [toJson, recordJson_eq hnodup, hfields]

end Muffle
