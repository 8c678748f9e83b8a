import FramedHttp.Frame.Reply
import FramedHttp.Proofs.Headers
import Mathlib.Data.List.Sort

/-!
# The names in a reply

Fields that are set one after the other are collected: every name stands once, where it came first and as it
was spelled there, with the value that came last. A sequence of fields has only one such collection. The fields
of a reply are the collection of its status, its version and the fields of its head.
-/

set_option autoImplicit false

namespace FramedHttp

namespace Headers

/-- How many fields stand before the first one of a name. -/
def place (fields : List Field) (name : String) : Nat :=
  fields.findIdx (·.isNamed name)

/-- The fields hold every name of a sequence once: in the order in which the names come first, as they are spelled
there, with their last values. -/
structure Collects (seq fields : List Field) : Prop where
  distinct : fields.Pairwise fun f g => sameName f.name g.name = false
  once : ∀ f ∈ seq, fields.countP (·.isNamed f.name) = 1
  order : fields.Pairwise fun f g => place seq f.name < place seq g.name
  spelled : ∀ f ∈ fields, (seq.find? (·.isNamed f.name)).map Field.name = some f.name
  value : ∀ f ∈ fields, (values ⟨seq⟩ f.name).getLast? = some f.value

variable {seq fields : List Field} {f g : Field} {name : String}

/-- A name that is there has its place, whatever comes behind. -/
theorem place_append (h : ∃ f ∈ seq, f.isNamed name = true) (rest : List Field) :
    place (seq ++ rest) name = place seq name := by
  rw [place, List.findIdx_append, if_pos (List.findIdx_lt_length_of_exists h)]
  rfl

theorem find?_append_of_found (h : ∃ f ∈ seq, f.isNamed name = true) (rest : List Field) :
    (seq ++ rest).find? (·.isNamed name) = seq.find? (·.isNamed name) := by
  have hs : (seq.find? (·.isNamed name)).isSome = true := List.find?_isSome.mpr h
  rw [List.find?_append]
  exact Option.or_of_isSome hs

/-- Setting a name that stands once changes the value there and nothing else. -/
theorem setIn_present (hd : fields.Pairwise fun f g => sameName f.name g.name = false)
    (h : ∃ f ∈ fields, f.isNamed name = true) (value : String) :
    setIn name value fields = fields.map fun f => if f.isNamed name then ⟨f.name, value⟩ else f := by
  obtain ⟨front, f, back, rfl, hfront, hf⟩ := first_of_contains (h := ⟨fields⟩) (contains_iff.mpr h)
  have hback : ∀ g ∈ back, g.isNamed name = false := by
    intro g hg
    have hfg := (List.pairwise_cons.mp (List.pairwise_append.mp hd).2.1).1 g hg
    rwa [sameName, sameName_iff.mp hf, ← sameName, sameName_comm] at hfg
  have hkept : back.filter (fun g => !g.isNamed name) = back :=
    List.filter_eq_self.mpr fun g hg => by simp [hback g hg]
  have hsame : ∀ rest : List Field, (∀ g ∈ rest, g.isNamed name = false) →
      rest.map (fun g => if g.isNamed name then ⟨g.name, value⟩ else g) = rest := by
    intro rest hrest
    have hid : rest.map (fun g => if g.isNamed name then ⟨g.name, value⟩ else g) = rest.map id :=
      List.map_congr_left fun g hg => by simp [hrest g hg]
    rw [hid, List.map_id]
  rw [setIn_first hfront hf, hkept, List.map_append, List.map_cons, if_pos hf, hsame front hfront, hsame back hback]

namespace Collects

variable (h : Collects seq fields)
include h

/-- A name of the collection is one of the sequence. -/
theorem found (hf : f ∈ fields) : ∃ g ∈ seq, g.isNamed f.name = true := by
  obtain ⟨g, hg, _⟩ := Option.map_eq_some_iff.mp (h.spelled f hf)
  have hname := List.find?_some hg
  exact ⟨g, List.mem_of_find?_eq_some hg, hname⟩

theorem held (hg : g ∈ seq) : ∃ f ∈ fields, f.isNamed g.name = true := by
  apply List.countP_pos_iff.mp
  rw [h.once g hg]
  exact Nat.one_pos

/-- A name that the collection does not have is none of the sequence. -/
theorem absent (hn : ∀ f ∈ fields, ¬ f.isNamed name = true) : ∀ g ∈ seq, ¬ g.isNamed name = true := by
  intro g hg hname
  obtain ⟨f, hf, hfg⟩ := h.held hg
  exact hn f hf ((congrFun (isNamed_eq hname) f).symm.trans hfg)

/-- A field of a new name is collected at the end. -/
theorem snoc_new (hn : ∀ f ∈ fields, ¬ f.isNamed g.name = true) : Collects (seq ++ [g]) (fields ++ [g]) := by
  have hself : g.isNamed g.name = true := sameName_refl g.name
  have hother : ∀ f ∈ fields, ¬ g.isNamed f.name = true := by
    intro f hf
    rw [isNamed_comm]
    exact hn f hf
  have hseq : ∀ f ∈ seq, f.isNamed g.name = false := fun f hf => Bool.eq_false_iff.mpr (h.absent hn f hf)
  have hlast : place (seq ++ [g]) g.name = seq.length := by
    have hnone : seq.findIdx (·.isNamed g.name) = seq.length := List.findIdx_eq_length.mpr hseq
    simp [place, List.findIdx_append, hnone, List.findIdx_cons, hself]
  constructor
  · refine List.pairwise_append.mpr ⟨h.distinct, List.pairwise_singleton _ g, ?_⟩
    intro f hf g' hg'
    rw [List.mem_singleton.mp hg']
    exact Bool.eq_false_iff.mpr (hn f hf)
  · intro f hf
    rw [List.countP_append]
    rcases List.mem_append.mp hf with hf | hf
    · have hgf : g.isNamed f.name = false := (isNamed_comm g f).trans (hseq f hf)
      simp [h.once f hf, hgf]
    · have hnone : fields.countP (·.isNamed g.name) = 0 := List.countP_eq_zero.mpr hn
      rw [List.mem_singleton.mp hf, hnone]
      simp [hself]
  · refine List.pairwise_append.mpr ⟨?_, List.pairwise_singleton _ g, ?_⟩
    · refine h.order.imp_of_mem fun hf hg hlt => ?_
      rwa [place_append (h.found hf), place_append (h.found hg)]
    · intro f hf g' hg'
      rw [List.mem_singleton.mp hg', hlast, place_append (h.found hf)]
      exact List.findIdx_lt_length_of_exists (h.found hf)
  · intro f hf
    rcases List.mem_append.mp hf with hf | hf
    · rw [find?_append_of_found (h.found hf)]
      exact h.spelled f hf
    · have hnone : seq.find? (·.isNamed g.name) = none := List.find?_eq_none.mpr (h.absent hn)
      rw [List.mem_singleton.mp hf, List.find?_append, hnone]
      simp [hself]
  · intro f hf
    rw [values_snoc]
    rcases List.mem_append.mp hf with hf | hf
    · rw [if_neg (hother f hf), List.append_nil]
      exact h.value f hf
    · rw [List.mem_singleton.mp hf, if_pos hself]
      exact List.getLast?_concat

/-- A field of a name that is there gives it a new value. -/
theorem snoc_again (hn : ∃ f ∈ fields, f.isNamed g.name = true) : Collects (seq ++ [g])
    (fields.map fun f => if f.isNamed g.name then ⟨f.name, g.value⟩ else f) := by
  have hname : ∀ f : Field, (if f.isNamed g.name then (⟨f.name, g.value⟩ : Field) else f).name = f.name := by
    intro f
    split <;> rfl
  have hcount : ∀ name, (fields.map fun f => if f.isNamed g.name then (⟨f.name, g.value⟩ : Field) else f).countP
      (·.isNamed name) = fields.countP (·.isNamed name) := by
    intro name
    have hcomp : (fun f : Field => f.isNamed name) ∘
        (fun f : Field => if f.isNamed g.name then ⟨f.name, g.value⟩ else f) = fun f => f.isNamed name :=
      funext fun f => congrArg (sameName · name) (hname f)
    rw [List.countP_map, hcomp]
  constructor
  · rw [List.pairwise_map]
    simpa only [hname] using h.distinct
  · intro f hf
    rw [hcount]
    rcases List.mem_append.mp hf with hf | hf
    · exact h.once f hf
    · -- The new field counts under the spelling that its name has in the sequence.
      obtain ⟨f', hf', hfg⟩ := hn
      obtain ⟨s, hs, hsf⟩ := h.found hf'
      rw [List.mem_singleton.mp hf, ← isNamed_eq hfg, ← isNamed_eq hsf]
      exact h.once s hs
  · rw [List.pairwise_map]
    refine h.order.imp_of_mem fun hf hg hlt => ?_
    rwa [hname, hname, place_append (h.found hf), place_append (h.found hg)]
  · intro f' hf'
    obtain ⟨f, hf, rfl⟩ := List.mem_map.mp hf'
    rw [hname, find?_append_of_found (h.found hf)]
    exact h.spelled f hf
  · intro f' hf'
    obtain ⟨f, hf, rfl⟩ := List.mem_map.mp hf'
    rw [hname, values_snoc, isNamed_comm]
    by_cases hfg : f.isNamed g.name = true
    · rw [if_pos hfg, if_pos hfg]
      exact List.getLast?_concat
    · rw [if_neg hfg, if_neg hfg, List.append_nil]
      exact h.value f hf

/-- Setting one more field collects it. -/
theorem snoc (g : Field) : Collects (seq ++ [g]) (setIn g.name g.value fields) := by
  by_cases hn : ∃ f ∈ fields, f.isNamed g.name = true
  · rw [setIn_present h.distinct hn]
    exact h.snoc_again hn
  · have hn : ∀ f ∈ fields, ¬ f.isNamed g.name = true := fun f hf hfg => hn ⟨f, hf, hfg⟩
    rw [setIn_absent hn]
    exact h.snoc_new hn

theorem append (rest : List Field) :
    Collects (seq ++ rest) (rest.foldl (fun h f => h.set f.name f.value) (⟨fields⟩ : Headers)).fields := by
  induction rest generalizing seq fields with
  | nil =>
    rw [List.append_nil]
    exact h
  | cons g rest ih =>
    have hrest := ih (h.snoc g)
    rw [List.append_assoc] at hrest
    exact hrest

theorem field_eq {fields' : List Field} (h' : Collects seq fields') {f g : Field} (hf : f ∈ fields) (hg : g ∈ fields')
    (hn : sameName f.name g.name = true) : f = g := by
  have hname : some f.name = some g.name := by
    rw [← h.spelled f hf, ← h'.spelled g hg, isNamed_eq hn]
  have hvalue : some f.value = some g.value := by
    rw [← h.value f hf, ← h'.value g hg, Option.some.inj hname]
  obtain ⟨_, _⟩ := f
  obtain ⟨_, _⟩ := g
  rw [Field.mk.injEq]
  exact ⟨Option.some.inj hname, Option.some.inj hvalue⟩

theorem subset {fields' : List Field} (h' : Collects seq fields') : fields ⊆ fields' := by
  intro f hf
  obtain ⟨s, hs, hsf⟩ := h.found hf
  obtain ⟨g, hg, hgs⟩ := h'.held hs
  have hfg : sameName f.name g.name = true := by
    rw [sameName_comm]
    exact (congrFun (isNamed_eq hsf) g).symm.trans hgs
  rw [h.field_eq h' hf hg hfg]
  exact hg

/-- A sequence of fields has one collection only. -/
theorem unique {fields' : List Field} (h' : Collects seq fields') : fields = fields' := by
  have : Std.Antisymm fun f g : Field => place seq f.name < place seq g.name :=
    ⟨fun f g hfg hgf => absurd hgf (Nat.lt_asymm hfg)⟩
  have : Std.Irrefl fun f g : Field => place seq f.name < place seq g.name :=
    ⟨fun f => Nat.lt_irrefl _⟩
  exact List.Subset.antisymm_of_pairwise h.order h'.order (h.subset h') (h'.subset h)

end Collects

theorem collects_nil : Collects [] [] :=
  ⟨.nil, nofun, .nil, nofun, nofun⟩

end Headers

open Headers

theorem replyHeaders_collects (head : ResponseHead) (version : Version) :
    Collects (⟨"status", head.statusLine⟩ :: ⟨"version", version.name⟩ :: head.headers.fields)
      (replyHeaders head version).fields := by
  have hnew : ∀ f ∈ [(⟨"status", head.statusLine⟩ : Field)], ¬ f.isNamed "version" = true := by
    intro f hf
    have hd : ¬ sameName "status" "version" = true := by decide
    rw [List.mem_singleton.mp hf]
    exact hd
  have hfront : Collects [⟨"status", head.statusLine⟩, ⟨"version", version.name⟩]
      [⟨"status", head.statusLine⟩, ⟨"version", version.name⟩] :=
    (collects_nil.snoc_new (g := ⟨"status", head.statusLine⟩) nofun).snoc_new (g := ⟨"version", version.name⟩) hnew
  exact hfront.append head.headers.fields

/-- The fields of a reply are the collection of its status line, its version and the fields of the head, in this
order: no name stands twice, each stands where and as it came first and has the value that came last, and there
is nothing else. -/
theorem reply_names (head : ResponseHead) (version : Version) (fields : List Field) :
    fields = (replyHeaders head version).fields ↔
      Collects (⟨"status", head.statusLine⟩ :: ⟨"version", version.name⟩ :: head.headers.fields) fields := by
  have hreply := replyHeaders_collects head version
  constructor
  · rintro rfl
    exact hreply
  · intro h
    exact h.unique hreply

-- A field named `STATUS` tells in place of the status line, where that stood and as it was spelled.
example :
    let headers := Headers.ofPairs [("X-A", "1"), ("STATUS", "404 Not Found"), ("x-a", "2")]
    (replyHeaders { headers := headers } .http11).fields =
      [⟨"status", "404 Not Found"⟩, ⟨"version", "HTTP/1.1"⟩, ⟨"X-A", "2"⟩] := by
  decide +kernel

end FramedHttp
