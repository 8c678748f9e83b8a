import FramedHttp.Headers

/-!
# Fields of one name

All the values that a collection holds under a name, whatever the spelling. A name that has none is
neither found nor replaced: setting it adds a field at the end. Setting a name that is there gives its first
field the value and takes the name from behind it, and leaves the fields of other names as they are.
-/

set_option autoImplicit false

namespace FramedHttp.Headers

/-- The values of all fields of the name, in order. -/
def values (h : Headers) (name : String) : List String :=
  (h.fields.filter (·.isNamed name)).map Field.value

variable {h : Headers} {name : String}

theorem values_append (h : Headers) (name value other : String) :
    (h.append name value).values other =
      h.values other ++ if sameName name other then [value] else [] := by
  rw [values, fields_append, List.filter_append, List.map_append]
  by_cases hn : sameName name other = true
  · simp [values, Field.isNamed, hn]
  · simp [values, Field.isNamed, hn]

/-- One more field, in the last place. -/
theorem values_snoc (fields : List Field) (f : Field) (name : String) :
    values ⟨fields ++ [f]⟩ name = values ⟨fields⟩ name ++ if f.isNamed name then [f.value] else [] :=
  values_append ⟨fields⟩ f.name f.value name

theorem values_concat (fields rest : List Field) (name : String) :
    values ⟨fields ++ rest⟩ name = values ⟨fields⟩ name ++ values ⟨rest⟩ name := by
  simp [values]

/-- The first one is the one that is found. -/
theorem head?_values (h : Headers) (name : String) : (h.values name).head? = h.get? name := by
  rw [values, List.head?_map, List.head?_filter, get?]

theorem count_eq_length_values (h : Headers) (name : String) : h.count name = (h.values name).length := by
  rw [count, values, List.length_map, List.countP_eq_length_filter]

theorem contains_eq_isSome_get? (h : Headers) (name : String) : h.contains name = (h.get? name).isSome := by
  rw [get?, Option.isSome_map, List.isSome_find?, contains]

/-- Names that are the same name the same fields. -/
theorem isNamed_eq {other : String} (hs : sameName name other = true) :
    (fun f : Field => f.isNamed name) = fun f => f.isNamed other := by
  funext f
  rw [Field.isNamed, Field.isNamed, sameName, sameName, sameName_iff.mp hs]

theorem isNamed_comm (f g : Field) : f.isNamed g.name = g.isNamed f.name :=
  sameName_comm f.name g.name

/-- Names that are the same find the same. -/
theorem get?_congr {other : String} (hs : sameName name other = true) (h : Headers) :
    h.get? name = h.get? other := by
  rw [get?, get?, isNamed_eq hs]

theorem values_eq_nil : h.values name = [] ↔ ∀ f ∈ h.fields, ¬ f.isNamed name = true := by
  rw [values, List.map_eq_nil_iff, List.filter_eq_nil_iff]

theorem contains_eq_false (hv : h.values name = []) : h.contains name = false := by
  rw [contains_eq_isSome_get?, ← head?_values, hv]
  rfl

theorem contains_eq_true (hv : h.values name ≠ []) : h.contains name = true := by
  rw [contains_eq_isSome_get?, ← head?_values, List.isSome_head?]
  exact hv

/-- A name that is there has a first field. -/
theorem first_of_contains (hc : h.contains name = true) :
    ∃ front f back, h.fields = front ++ f :: back ∧ (∀ g ∈ front, g.isNamed name = false) ∧
      f.isNamed name = true := by
  have hs : (h.fields.find? (·.isNamed name)).isSome = true := List.isSome_find?.trans hc
  obtain ⟨f, hf⟩ := Option.isSome_iff_exists.mp hs
  obtain ⟨hn, front, back, hsplit, hfront⟩ := List.find?_eq_some_iff_append.mp hf
  refine ⟨front, f, back, hsplit, ?_, hn⟩
  intro g hg
  exact (Bool.not_eq_true' _).mp (hfront g hg)

/-- Fields of other names in front stay where they are. -/
theorem setIn_append {front : List Field} (hf : ∀ f ∈ front, ¬ f.isNamed name = true) (value : String)
    (rest : List Field) : setIn name value (front ++ rest) = front ++ setIn name value rest := by
  induction front with
  | nil => rfl
  | cons f front ih =>
    have hfront := ih fun g hg => hf g (by simp [hg])
    rw [List.cons_append, setIn, if_neg (hf f (by simp)), hfront]
    rfl

/-- The first field of the name takes the value, and the name is gone behind it. -/
theorem setIn_first {front : List Field} {f : Field} (hfront : ∀ g ∈ front, g.isNamed name = false)
    (hf : f.isNamed name = true) (value : String) (back : List Field) :
    setIn name value (front ++ f :: back) = front ++ ⟨f.name, value⟩ :: back.filter fun g => !g.isNamed name := by
  have hne : ∀ g ∈ front, ¬ g.isNamed name = true := fun g hg => Bool.eq_false_iff.mp (hfront g hg)
  rw [setIn_append hne, setIn, if_pos hf]

theorem setIn_absent {fields : List Field} (hf : ∀ f ∈ fields, ¬ f.isNamed name = true)
    (value : String) : setIn name value fields = fields ++ [⟨name, value⟩] := by
  have hs := setIn_append hf value []
  rwa [List.append_nil] at hs

/-- Setting a name that is not there yet adds a field at the end. -/
theorem set_absent (hv : h.values name = []) (value : String) : h.set name value = h.append name value := by
  have hs := setIn_absent (values_eq_nil.mp hv) value
  exact congrArg Headers.mk hs

theorem values_cons (f : Field) (rest : List Field) (name : String) :
    values ⟨f :: rest⟩ name = if f.isNamed name then f.value :: values ⟨rest⟩ name else values ⟨rest⟩ name := by
  by_cases hf : f.isNamed name = true <;> simp [values, hf]

/-- Without the fields of one name those of another stay. -/
theorem values_filter_not_isNamed {other : String} (hne : sameName name other = false) (fields : List Field) :
    values ⟨fields.filter fun g => !g.isNamed name⟩ other = values ⟨fields⟩ other := by
  have hkept : ∀ f ∈ fields, (f.isNamed other && !f.isNamed name) = f.isNamed other := by
    intro f _
    cases ho : f.isNamed other with
    | false => rfl
    | true =>
      have hn : f.isNamed name = false := (Field.isNamed_congr ho).symm.trans ((sameName_comm other name).trans hne)
      rw [hn]
      rfl
  rw [values, values, List.filter_filter, List.filter_congr hkept]

/-- Setting a name leaves the fields of other names as they are. -/
theorem filter_setIn (name value : String) (fields : List Field) :
    (setIn name value fields).filter (fun g => !g.isNamed name) = fields.filter fun g => !g.isNamed name := by
  induction fields with
  | nil => simp [setIn, Field.isNamed]
  | cons f rest ih =>
    by_cases hf : f.isNamed name = true
    · have hg : Field.isNamed ⟨f.name, value⟩ name = true := hf
      rw [setIn, if_pos hf, List.filter_cons_of_neg (by simp [hg]), List.filter_cons_of_neg (by simp [hf]),
        List.filter_filter]
      simp
    · rw [setIn, if_neg hf, List.filter_cons_of_pos (by simp [hf]), List.filter_cons_of_pos (by simp [hf]), ih]

theorem values_setIn_self (name value : String) (fields : List Field) :
    values ⟨setIn name value fields⟩ name = [value] := by
  induction fields with
  | nil => simp [setIn, values, Field.isNamed]
  | cons f rest ih =>
    by_cases hf : f.isNamed name = true
    · have hg : Field.isNamed ⟨f.name, value⟩ name = true := hf
      have hrest : values ⟨rest.filter fun g => !g.isNamed name⟩ name = [] := by simp [values]
      rw [setIn, if_pos hf, values_cons, if_pos hg, hrest]
    · rw [setIn, if_neg hf, values_cons, if_neg hf]
      exact ih

/-- A field is there since before a name was set, or it has that name and what was set. -/
theorem mem_setIn {value : String} {fields : List Field} {f : Field} (h : f ∈ setIn name value fields) :
    f ∈ fields ∨ f.isNamed name = true ∧ f.value = value := by
  induction fields with
  | nil =>
    rw [List.mem_singleton.mp h]
    exact .inr ⟨sameName_refl name, rfl⟩
  | cons g rest ih =>
    unfold setIn at h
    split at h
    · next hg =>
      rcases List.mem_cons.mp h with rfl | h
      · exact .inr ⟨hg, rfl⟩
      · exact .inl (List.mem_cons_of_mem g (List.mem_filter.mp h).1)
    · rcases List.mem_cons.mp h with rfl | h
      · exact .inl List.mem_cons_self
      · exact (ih h).imp_left (List.mem_cons_of_mem g)

/-- What was set is the only value of its name. -/
theorem values_set_self (h : Headers) (name value : String) : (h.set name value).values name = [value] :=
  values_setIn_self name value h.fields

theorem values_set_of_ne {other : String} (hne : sameName name other = false) (h : Headers) (value : String) :
    (h.set name value).values other = h.values other := by
  calc values ⟨setIn name value h.fields⟩ other
    _ = values ⟨(setIn name value h.fields).filter fun g => !g.isNamed name⟩ other :=
      (values_filter_not_isNamed hne _).symm
    _ = values ⟨h.fields.filter fun g => !g.isNamed name⟩ other := by rw [filter_setIn]
    _ = h.values other := values_filter_not_isNamed hne h.fields

/-- What was set is what is found. -/
@[simp] theorem get?_set_self (h : Headers) (name value : String) : (h.set name value).get? name = some value := by
  rw [← head?_values, values_set_self]
  rfl

theorem get?_set_of_ne {other : String} (hne : sameName name other = false) (h : Headers) (value : String) :
    (h.set name value).get? other = h.get? other := by
  rw [← head?_values, values_set_of_ne hne, head?_values]

end FramedHttp.Headers
