import FramedHttp.Proofs.Headers

/-!
# Setting a field

Setting a name leaves one field of it: where the first one stood and spelled as it was, or at the end if there
was none. The fields of other names are not touched, and of several values that are set under one name only the
last one counts.

The removal is given by places as well: the value is written where the first field of the name stands, and of
what stands behind that place the other names are kept.
-/

set_option autoImplicit false

namespace FramedHttp.Headers

/-- The fields up to the place `first`, and of those behind it the ones of other names. -/
def clearBehind (first : Nat) (name : String) (fields : List Field) : List Field :=
  (fields.zipIdx.filter fun f => decide (f.2 ≤ first) || !f.1.isNamed name).map Prod.fst

/-- The value is written where the first field of the name stands and the name is cleared behind it; where there is
none, a field is added. -/
def setByPlace (h : Headers) (name value : String) : Headers :=
  match h.fields.findIdx? (·.isNamed name) with
  | some first => ⟨clearBehind first name (h.fields.modify first fun f => ⟨f.name, value⟩)⟩
  | none => h.append name value

variable {name : String} {front : List Field}

theorem fields_set_absent {h : Headers} (hc : h.contains name = false) (value : String) :
    (h.set name value).fields = h.fields ++ [⟨name, value⟩] :=
  setIn_absent (List.any_eq_false.mp hc) value

/-- A name that is set again, however it is spelled then, has the last value under its first spelling. -/
theorem setIn_setIn {again : String} (hs : sameName name again = true) (value last : String)
    (fields : List Field) : setIn again last (setIn name value fields) = setIn name last fields := by
  have hnamed : (fun g : Field => g.isNamed name) = fun g => g.isNamed again := isNamed_eq hs
  induction fields with
  | nil =>
    have hg : Field.isNamed ⟨name, value⟩ again = true := hs
    rw [setIn, setIn]
    exact if_pos hg
  | cons f rest ih =>
    have hf : f.isNamed name = f.isNamed again := congrFun hnamed f
    by_cases hn : f.isNamed name = true
    · have hg : Field.isNamed ⟨f.name, value⟩ again = true := hf.symm.trans hn
      have hrest : (rest.filter fun g => !g.isNamed name).filter (fun g => !g.isNamed again) =
          rest.filter fun g => !g.isNamed name := by
        simp [← congrFun hnamed]
      rw [setIn, if_pos hn, setIn, if_pos hg, hrest, setIn, if_pos hn]
    · have ha : ¬ f.isNamed again = true := hf ▸ hn
      rw [setIn, if_neg hn, setIn, if_neg ha, ih, setIn, if_neg hn]

/-- The fields in front, which end at the place `first`, stay, and the name is cleared behind them. -/
theorem clearBehind_append {first : Nat} (hlen : front.length = first + 1) (name : String) (back : List Field) :
    clearBehind first name (front ++ back) = front ++ back.filter fun g => !g.isNamed name := by
  have hkept : (front.zipIdx.filter fun f => decide (f.2 ≤ first) || !f.1.isNamed name) = front.zipIdx := by
    refine List.filter_eq_self.mpr fun f hf => ?_
    obtain ⟨_, hlt, _⟩ := List.mem_zipIdx hf
    have hle : f.2 ≤ first := by omega
    simp [hle]
  have hcleared : ((back.zipIdx (0 + front.length)).filter fun f => decide (f.2 ≤ first) || !f.1.isNamed name) =
      (back.zipIdx (0 + front.length)).filter ((fun g => !g.isNamed name) ∘ Prod.fst) := by
    refine List.filter_congr fun f hf => ?_
    obtain ⟨hle, _, _⟩ := List.mem_zipIdx hf
    have hgt : ¬ f.2 ≤ first := by omega
    simp [hgt]
  rw [clearBehind, List.zipIdx_append, List.filter_append, List.map_append, hkept, hcleared, ← List.filter_map,
    List.zipIdx_map_fst, List.zipIdx_map_fst]

/-- Both ways to set a name leave the same fields. -/
theorem set_eq_setByPlace (h : Headers) (name value : String) : h.set name value = h.setByPlace name value := by
  cases hc : h.contains name with
  | false =>
    have hnone : h.fields.findIdx? (·.isNamed name) = none :=
      List.findIdx?_eq_none_iff.mpr fun f hf => Bool.eq_false_iff.mpr (List.any_eq_false.mp hc f hf)
    rw [setByPlace, hnone]
    exact congrArg Headers.mk (fields_set_absent hc value)
  | true =>
    obtain ⟨front, f, back, hsplit, hfront, hf⟩ := first_of_contains hc
    have hfirst : h.fields.findIdx? (·.isNamed name) = some front.length := by
      rw [hsplit, List.findIdx?_append, List.findIdx?_eq_none_iff.mpr hfront, List.findIdx?_cons, if_pos hf]
      simp
    have hwritten : h.fields.modify front.length (fun f => ⟨f.name, value⟩) =
        front ++ [⟨f.name, value⟩] ++ back := by
      rw [hsplit, List.modify_eq_take_cons_drop (by simp)]
      simp
    rw [setByPlace, hfirst]
    apply congrArg Headers.mk
    calc setIn name value h.fields
      _ = front ++ ⟨f.name, value⟩ :: back.filter (fun g => !g.isNamed name) := by
        rw [hsplit, setIn_first hfront hf]
      _ = front ++ [⟨f.name, value⟩] ++ back.filter (fun g => !g.isNamed name) := List.append_cons _ _ _
      _ = clearBehind front.length name (h.fields.modify front.length fun f => ⟨f.name, value⟩) := by
        rw [hwritten, clearBehind_append List.length_append]

/-- Whatever fields there are, setting a name leaves exactly one field of it, with the value that was set. If the
name was there, that is its first field, in its place and as it was spelled, and the later ones are gone; else it
is a new field at the end. All fields of other names stay, in their order, so every other name is found as before.
Setting the name again, in any spelling, leaves what setting the last value alone would have left. That is also
what the removal by places leaves. -/
theorem field_replaced (h : Headers) (name value : String) :
    let after := h.set name value
    (after.count name = 1 ∧ after.get? name = some value) ∧
    (h.contains name = true → ∃ front f back, h.fields = front ++ f :: back ∧
      (∀ g ∈ front, g.isNamed name = false) ∧ f.isNamed name = true ∧
      after.fields = front ++ ⟨f.name, value⟩ :: back.filter fun g => !g.isNamed name) ∧
    (h.contains name = false → after.fields = h.fields ++ [⟨name, value⟩]) ∧
    (after.fields.filter fun g => !g.isNamed name) = (h.fields.filter fun g => !g.isNamed name) ∧
    (∀ other, sameName name other = false →
      after.get? other = h.get? other ∧ after.contains other = h.contains other) ∧
    (∀ again last, sameName name again = true → after.set again last = h.set name last) ∧
    after = h.setByPlace name value := by
  intro after
  refine ⟨⟨?_, ?_⟩, ?_, ?_, ?_, ?_, ?_, ?_⟩
  · rw [count_eq_length_values, values_set_self]
    rfl
  · exact get?_set_self h name value
  · intro hc
    obtain ⟨front, f, back, hsplit, hfront, hf⟩ := first_of_contains hc
    refine ⟨front, f, back, hsplit, hfront, hf, ?_⟩
    rw [← setIn_first hfront hf, ← hsplit]
    rfl
  · intro hc
    exact fields_set_absent hc value
  · exact filter_setIn name value h.fields
  · intro other hne
    have hget : after.get? other = h.get? other := get?_set_of_ne hne h value
    refine ⟨hget, ?_⟩
    rw [contains_eq_isSome_get?, contains_eq_isSome_get?, hget]
  · intro again last hs
    exact congrArg Headers.mk (setIn_setIn hs value last h.fields)
  · exact set_eq_setByPlace h name value

/-- The second of two fields of one name goes, a name that is not there is added, and the rest stays. -/
theorem duplicate_replaced :
    let h := Headers.ofPairs [("a", "1"), ("X-Dup", "first"), ("b", "2"), ("x-dup", "second")]
    let after := h.set "x-dup" "only"
    after.fields = [⟨"a", "1"⟩, ⟨"X-Dup", "only"⟩, ⟨"b", "2"⟩] ∧
      (∃ front f back, h.fields = front ++ f :: back ∧
        after.fields = front ++ ⟨f.name, "only"⟩ :: back.filter fun g => !g.isNamed "x-dup") ∧
      (h.set "host" "c").fields = h.fields ++ [⟨"host", "c"⟩] ∧
      after.get? "B" = h.get? "B" ∧ after.contains "B" = h.contains "B" ∧
      after.set "X-DUP" "last" = h.set "x-dup" "last" := by
  intro h after
  obtain ⟨_, hthere, _, _, hother, hagain, _⟩ := field_replaced h "x-dup" "only"
  obtain ⟨_, _, hnew, _⟩ := field_replaced h "host" "c"
  obtain ⟨front, f, back, hsplit, _, _, hafter⟩ := hthere (by decide +kernel)
  obtain ⟨hget, hcontains⟩ := hother "B" (by decide +kernel)
  exact ⟨by decide +kernel, ⟨front, f, back, hsplit, hafter⟩, hnew (by decide +kernel), hget, hcontains,
    hagain "X-DUP" "last" (by decide +kernel)⟩

end FramedHttp.Headers
