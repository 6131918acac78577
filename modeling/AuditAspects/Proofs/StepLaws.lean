import AuditAspects.Step

/-!
# Laws of sequences of steps

*One run.*  `Leads` says what holds after a step, of its result and of the state, if it
goes through and if it fails.  A sequence leads on from where its first step leads
(`Leads.bind`).

*Pairs of runs.*  Two steps are `Related` if from related states they fail with one fault
or give related results, and leave related states either way.  Sequences of related steps
are related (`Related.bind`).
-/

namespace AuditAspects.Step

variable {σ τ α β γ δ : Type}

/-! ## How a sequence ends -/

theorem bind_eq_ok {x : Step σ α} {k : α → Step σ β} {s : σ} {b : β}
    (h : result (x >>= k) s = .ok b) :
    ∃ a, x.result s = .ok a ∧ (k a).result (x.after s) = .ok b := by
  rw [result_bind] at h
  cases hx : x.result s with
  | ok a =>
      rw [hx] at h
      exact ⟨a, rfl, h⟩
  | error f =>
      rw [hx] at h
      cases h

/-- A sequence fails in its first step, or goes through that and fails in the second. -/
theorem bind_eq_error {x : Step σ α} {k : α → Step σ β} {s : σ} {f : Fault}
    (h : result (x >>= k) s = .error f) :
    x.result s = .error f ∨
      ∃ a, x.result s = .ok a ∧ (k a).result (x.after s) = .error f := by
  rw [result_bind] at h
  cases hx : x.result s with
  | ok a =>
      rw [hx] at h
      exact .inr ⟨a, rfl, h⟩
  | error g =>
      rw [hx] at h
      cases h
      exact .inl rfl

theorem after_bind_of_ok {x : Step σ α} (k : α → Step σ β) {s : σ} {a : α}
    (h : x.result s = .ok a) : after (x >>= k) s = (k a).after (x.after s) := by
  rw [after_bind, h]

theorem result_bind_of_ok {x : Step σ α} (k : α → Step σ β) {s : σ} {a : α}
    (h : x.result s = .ok a) : result (x >>= k) s = (k a).result (x.after s) := by
  rw [result_bind, h]

theorem after_bind_of_error {x : Step σ α} (k : α → Step σ β) {s : σ} {f : Fault}
    (h : x.result s = .error f) : after (x >>= k) s = x.after s := by
  rw [after_bind, h]

theorem result_bind_of_error {x : Step σ α} (k : α → Step σ β) {s : σ} {f : Fault}
    (h : x.result s = .error f) : result (x >>= k) s = .error f := by
  rw [result_bind, h]

/-! ## What a step leads to -/

/-- From a state with a property, a step leads to a result and a state with another one,
or else it fails in a state with a third. -/
def Leads (P : σ → Prop) (x : Step σ α) (Q : α → σ → Prop) (E : σ → Prop) : Prop :=
  ∀ s, P s →
    match x.result s with
    | .ok a => Q a (x.after s)
    | .error _ => E (x.after s)

section Leads

variable {P E : σ → Prop} {Q : α → σ → Prop} {Q' : β → σ → Prop}

theorem leads_pure {a : α} (h : ∀ s, P s → Q a s) : Leads P (pure a) Q E := h

theorem leads_throw {f : Fault} (h : ∀ s, P s → E s) : Leads P (throw f) Q E := h

/-- A step that changes nothing leads back to where it started. -/
theorem leads_ofExcept (e : Except Fault α) (h : ∀ s, P s → E s) :
    Leads P (ofExcept e) (fun _ => P) E := by
  intro s hs
  rw [result_ofExcept, after_ofExcept]
  cases e with
  | ok a => exact hs
  | error f => exact h s hs

/-- A sequence leads on from where its first step leads. -/
theorem Leads.bind {x : Step σ α} {k : α → Step σ β} (hx : Leads P x Q E)
    (hk : ∀ a, Leads (Q a) (k a) Q' E) : Leads P (x >>= k) Q' E := by
  intro s hs
  have hfirst := hx s hs
  rw [after_bind, result_bind]
  cases h : x.result s with
  | ok a =>
      rw [h] at hfirst
      exact hk a _ hfirst
  | error f =>
      rw [h] at hfirst
      exact hfirst

/-- Where both endings lead, the state is led. -/
theorem Leads.after {x : Step σ α} (hx : Leads P x (fun _ => E) E) {s : σ} (hs : P s) :
    E (x.after s) := by
  have hend := hx s hs
  cases h : x.result s with
  | ok a =>
      rw [h] at hend
      exact hend
  | error f =>
      rw [h] at hend
      exact hend

end Leads

/-! ## Pairs of runs -/

/-- Two endings match: one fault, or results in a relation. -/
def Matches (V : α → β → Prop) : Except Fault α → Except Fault β → Prop
  | .ok a, .ok b => V a b
  | .error f, .error g => f = g
  | _, _ => False

/-- Two steps match in how they end and in what they leave, from related states. -/
def Related (R : σ → τ → Prop) (V : α → β → Prop) (x : Step σ α) (y : Step τ β) : Prop :=
  ∀ s t, R s t → Matches V (x.result s) (y.result t) ∧ R (x.after s) (y.after t)

section Related

variable {R : σ → τ → Prop} {V : α → β → Prop} {W : γ → δ → Prop}

theorem related_pure {a : α} {b : β} (h : V a b) :
    Related R V (pure a : Step σ α) (pure b : Step τ β) :=
  fun _ _ hst => ⟨h, hst⟩

theorem related_throw (f : Fault) : Related R V (throw f : Step σ α) (throw f : Step τ β) :=
  fun _ _ hst => ⟨rfl, hst⟩

/-- Steps that change nothing are related if their endings match. -/
theorem related_ofExcept {e : Except Fault α} {e' : Except Fault β} (h : Matches V e e') :
    Related R V (ofExcept e : Step σ α) (ofExcept e' : Step τ β) := by
  intro s t hst
  rw [result_ofExcept, result_ofExcept, after_ofExcept, after_ofExcept]
  exact ⟨h, hst⟩

theorem matches_refl (e : Except Fault α) : Matches Eq e e := by
  cases e with
  | ok a => exact rfl
  | error f => exact rfl

/-- Endings match in one fault or in related results. -/
theorem matches_iff {e : Except Fault α} {e' : Except Fault β} :
    Matches V e e' ↔
      (∃ f, e = .error f ∧ e' = .error f) ∨ ∃ a b, e = .ok a ∧ e' = .ok b ∧ V a b := by
  cases e with
  | ok a => cases e' <;> simp [Matches]
  | error f => cases e' <;> simp [Matches, eq_comm]

theorem matches_eq_iff {e e' : Except Fault α} : Matches Eq e e' ↔ e = e' := by
  constructor
  · intro h
    rcases matches_iff.mp h with ⟨f, he, he'⟩ | ⟨a, b, he, he', hab⟩
    · rw [he, he']
    · rw [he, he', hab]
  · rintro rfl
    exact matches_refl e

theorem Related.bind {x : Step σ α} {y : Step τ β} {k : α → Step σ γ} {l : β → Step τ δ}
    (hxy : Related R V x y) (hkl : ∀ a b, V a b → Related R W (k a) (l b)) :
    Related R W (x >>= k) (y >>= l) := by
  intro s t hst
  obtain ⟨hend, hleft⟩ := hxy s t hst
  rcases matches_iff.mp hend with ⟨f, hx, hy⟩ | ⟨a, b, hx, hy, hab⟩
  · rw [result_bind_of_error _ hx, result_bind_of_error _ hy, after_bind_of_error _ hx,
      after_bind_of_error _ hy]
    exact ⟨rfl, hleft⟩
  · rw [result_bind_of_ok _ hx, result_bind_of_ok _ hy, after_bind_of_ok _ hx,
      after_bind_of_ok _ hy]
    exact hkl a b hab _ _ hleft

end Related

end AuditAspects.Step
