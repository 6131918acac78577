import AuditAspects.Fault

/-!
# Steps

A step changes a state and then fails or gives a result.  A step that fails
keeps what it changed before.  `after` is the state that a step leaves and
`result` is how it ended; the equations below say how both pass through a
sequence of steps (`after_bind`, `result_bind`).
-/

namespace AuditAspects

/-- A step that changes a state, and then fails or gives a result. -/
abbrev Step (σ α : Type) := EStateM Fault σ α

namespace Step

variable {σ α β : Type}

/-- A step that changes nothing. -/
def ofExcept : Except Fault α → Step σ α
  | .ok a => pure a
  | .error f => throw f

/-- A step that changes nothing, and fails if there is a reason to. -/
def refuse : Option Fault → Step σ Unit
  | none => pure ()
  | some f => throw f

/-- The state that a step leaves. -/
def after (x : Step σ α) (s : σ) : σ :=
  match x.run s with
  | .ok _ s' => s'
  | .error _ s' => s'

/-- How a step ends. -/
def result (x : Step σ α) (s : σ) : Except Fault α :=
  match x.run s with
  | .ok a _ => .ok a
  | .error f _ => .error f

@[simp] theorem after_pure (a : α) (s : σ) : after (pure a : Step σ α) s = s := rfl

@[simp] theorem result_pure (a : α) (s : σ) : result (pure a : Step σ α) s = .ok a := rfl

@[simp] theorem after_throw (f : Fault) (s : σ) : after (throw f : Step σ α) s = s := rfl

@[simp] theorem result_throw (f : Fault) (s : σ) : result (throw f : Step σ α) s = .error f := rfl

@[simp] theorem after_get (s : σ) : after (get : Step σ σ) s = s := rfl

@[simp] theorem result_get (s : σ) : result (get : Step σ σ) s = .ok s := rfl

@[simp] theorem after_set (s' s : σ) : after (set s' : Step σ PUnit) s = s' := rfl

@[simp] theorem result_set (s' s : σ) : result (set s' : Step σ PUnit) s = .ok ⟨⟩ := rfl

@[simp] theorem after_modify (f : σ → σ) (s : σ) : after (modify f : Step σ PUnit) s = f s := rfl

@[simp] theorem result_modify (f : σ → σ) (s : σ) :
    result (modify f : Step σ PUnit) s = .ok ⟨⟩ := rfl

@[simp] theorem after_ofExcept (e : Except Fault α) (s : σ) : after (ofExcept e) s = s := by
  cases e <;> rfl

@[simp] theorem result_ofExcept (e : Except Fault α) (s : σ) : result (ofExcept e) s = e := by
  cases e <;> rfl

@[simp] theorem after_refuse (f? : Option Fault) (s : σ) : after (refuse f?) s = s := by
  cases f? <;> rfl

@[simp] theorem result_refuse_none (s : σ) : result (refuse none) s = .ok () := rfl

@[simp] theorem result_refuse_some (f : Fault) (s : σ) :
    result (refuse (some f)) s = .error f := rfl

/-- A sequence goes on from where its first step leaves, unless that fails. -/
theorem after_bind (x : Step σ α) (k : α → Step σ β) (s : σ) :
    after (x >>= k) s =
      match result x s with
      | .ok a => after (k a) (after x s)
      | .error _ => after x s := by
  simp only [after, result, EStateM.run, bind, EStateM.bind]
  cases x s <;> rfl

/-- A sequence ends as its last step does, unless its first step fails. -/
theorem result_bind (x : Step σ α) (k : α → Step σ β) (s : σ) :
    result (x >>= k) s =
      match result x s with
      | .ok a => result (k a) (after x s)
      | .error f => .error f := by
  simp only [after, result, EStateM.run, bind, EStateM.bind]
  cases x s <;> rfl

end Step

end AuditAspects
