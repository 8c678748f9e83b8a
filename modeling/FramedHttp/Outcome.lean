/-!
# Outcomes

A call answers with nothing or an error and always leaves a state behind, also when it fails.
`andThen` goes on from that state unless the call before it failed.
-/

set_option autoImplicit false

namespace FramedHttp

abbrev Outcome (ε σ : Type) := Except ε Unit × σ

namespace Outcome

variable {ε δ σ τ : Type}

def andThen (r : Outcome ε σ) (next : σ → Outcome ε σ) : Outcome ε σ :=
  match r with
  | (.ok _, s) => next s
  | (.error e, s) => (.error e, s)

def mapError (f : ε → δ) (r : Outcome ε σ) : Outcome δ σ :=
  match r with
  | (.ok _, s) => (.ok (), s)
  | (.error e, s) => (.error (f e), s)

def mapState (f : σ → τ) (r : Outcome ε σ) : Outcome ε τ :=
  (r.1, f r.2)

@[simp] theorem andThen_ok (s : σ) (next : σ → Outcome ε σ) :
    andThen (.ok (), s) next = next s := rfl

@[simp] theorem andThen_error (e : ε) (s : σ) (next : σ → Outcome ε σ) :
    andThen (.error e, s) next = (.error e, s) := rfl

theorem andThen_assoc (r : Outcome ε σ) (f g : σ → Outcome ε σ) :
    (r.andThen f).andThen g = r.andThen fun s => (f s).andThen g := by
  obtain ⟨_ | _, _⟩ := r <;> rfl

/-- What holds of a failure and of going on holds of the sequence. -/
theorem andThen_cases {P : Outcome ε σ → Prop} {r : Outcome ε σ} {next : σ → Outcome ε σ}
    (herr : ∀ e, r.1 = .error e → P (.error e, r.2)) (hok : r.1 = .ok () → P (next r.2)) :
    P (r.andThen next) := by
  obtain ⟨e | _, s⟩ := r
  · exact herr e rfl
  · exact hok rfl

/-- What both halves keep, the sequence keeps, whether or not it fails on the way. -/
theorem andThen_keeps {P : σ → Prop} {r : Outcome ε σ} {next : σ → Outcome ε σ} (hr : P r.2)
    (hn : ∀ s, P s → P (next s).2) : P (r.andThen next).2 :=
  andThen_cases (P := fun r => P r.2) (fun _ _ => hr) fun _ => hn r.2 hr

theorem mapState_andThen {f : σ → τ} {r : Outcome ε σ} {next : σ → Outcome ε σ} {next' : τ → Outcome ε τ}
    (h : ∀ s, (next s).mapState f = next' (f s)) :
    (r.andThen next).mapState f = (r.mapState f).andThen next' := by
  obtain ⟨_ | _, s⟩ := r
  · rfl
  · exact h s

@[simp] theorem mapError_snd (f : ε → δ) (r : Outcome ε σ) : (r.mapError f).2 = r.2 := by
  obtain ⟨_ | _, _⟩ := r <;> rfl

@[simp] theorem mapError_self (r : Outcome ε σ) : (r.mapError fun e => e) = r := by
  obtain ⟨_ | _, _⟩ := r <;> rfl

@[simp] theorem mapState_fst (f : σ → τ) (r : Outcome ε σ) : (r.mapState f).1 = r.1 := rfl

@[simp] theorem mapState_snd (f : σ → τ) (r : Outcome ε σ) : (r.mapState f).2 = f r.2 := rfl

end Outcome

end FramedHttp
