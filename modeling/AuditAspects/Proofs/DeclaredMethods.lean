import AuditAspects.Contract
import AuditAspects.Entries
import AuditAspects.Proofs.AuditProduction

/-!
# Methods declared by name

A body declares a method if the name of the method is bound to a function in the end
(`Body.mem_writtenMethods_iff`).  Options declare methods by their names if they give a text
or a list of texts (`Declares`).  A class that no body answers for declares the methods of
both (`Contract.declares_of_texts`), and a production adds the getters that it does not declare
(`Contract.result_produce_of_texts`).
-/

namespace AuditAspects

/-! ## Written methods -/

namespace Body

theorem binding?_without {body : Body} {name other : String} (h : name ≠ other) :
    binding? (body.without other) name = body.binding? name := by
  rw [binding?, binding?, without, ← List.filter_reverse]
  induction body.reverse with
  | nil => rfl
  | cons e es ih =>
      obtain ⟨key, b⟩ := e
      by_cases hkey : key = other
      · rw [List.filter_cons_of_neg (by simp [hkey]), ih, List.lookup_cons,
          beq_false_of_ne (hkey ▸ h)]
      · rw [List.filter_cons_of_pos (by simp [hkey]), List.lookup_cons, List.lookup_cons, ih]

/-- A method is written if its name is bound to a function in the end. -/
theorem mem_writtenMethods_iff {body : Body} {name : String} (h : isPublicName name = true) :
    name ∈ body.writtenMethods ↔ ∃ b, body.binding? name = some b ∧ b.isWritten = true := by
  have hbound : ∀ b, body.binding? name = some b → name ∈ body.map Prod.fst := by
    intro b hb
    have hmem : (name, b) ∈ body.reverse := Entries.mem_of_lookup hb
    exact List.mem_map_of_mem (List.mem_reverse.mp hmem)
  rw [writtenMethods, List.mem_filter, List.mem_eraseDups, h, Bool.true_and, Option.any_eq_true]
  constructor
  · rintro ⟨-, b, hb, hwritten⟩
    exact ⟨b, hb, hwritten⟩
  · rintro ⟨b, hb, hwritten⟩
    exact ⟨hbound b hb, b, hb, hwritten⟩

end Body

/-- The getters of auditing are meant to be seen. -/
theorem isPublicName_of_mem_auditGetters :
    ∀ name ∈ auditGetters, Body.isPublicName name = true ∧ name ≠ optionsName := by
  decide +kernel

/-! ## Given methods -/

/-- A value declares methods by their names, one of them or several. -/
inductive Declares : Value → List String → Prop
  /-- A text is one method. -/
  | one (name : String) : Declares (.text name) [name]
  /-- A list of texts is several. -/
  | several (names : List String) : Declares (.list (names.map .text)) names

/-- Declared names are listed as they stand. -/
theorem Declares.listMethods_eq {v : Value} {names : List String} (h : Declares v names) :
    Contract.listMethods v = .ok (names.map .text) := by
  cases h with
  | one name => rfl
  | several names => rfl

/-! ## Methods of a class -/

theorem Value.eraseDupsBy_texts : ∀ names : List String,
    (names.map Value.text).eraseDupsBy Value.sameItem = names.eraseDups.map Value.text
  | [] => rfl
  | name :: names => by
      have hsame : (fun v => decide (Value.sameItem v (.text name) = false)) ∘ Value.text =
          fun other => !other == name := by
        funext other
        simp [Value.sameItem, Value.same, Value.isUndefined]
      rw [List.map_cons, List.eraseDupsBy_cons, List.eraseDups_cons, List.map_cons,
        List.filter_map, hsame, eraseDupsBy_texts]
termination_by names => names.length
decreasing_by exact Nat.lt_succ_of_le (List.length_filter_le ..)

theorem Value.any_same_texts (name : String) (names : List String) :
    (names.map Value.text).any (Value.same (.text name)) = decide (name ∈ names) := by
  have hsame : Value.same (.text name) ∘ Value.text = fun other => name == other := by
    funext other
    simp [Value.same]
  rw [List.any_map, hsame, List.any_beq]
  simp

namespace Contract

variable {c : Contract} {names : List String}

/-- Methods given by name are collected with those of the body, each once. -/
theorem collectedMethods_of_texts (h : c.givenMethods = names.map .text) :
    c.collectedMethods = .ok ((c.bodyMethods ++ names).eraseDups.map .text) := by
  have hall : (c.givenMethods.find? fun v => !v.isCollectable) = none := by
    rw [h, List.find?_eq_none]
    intro v hv
    obtain ⟨name, -, rfl⟩ := List.mem_map.mp hv
    simp [Value.isCollectable]
  rw [collectedMethods, hall, h, ← List.map_append, Value.eraseDupsBy_texts]

/-- Where no body answers for it, a class declares the methods that it has written or given. -/
theorem declares_of_texts (hanswer : c.answers.lookup .methods = none)
    (h : c.givenMethods = names.map .text) (name : String) :
    c.target.declares name = .ok (decide (name ∈ c.bodyMethods ∨ name ∈ names)) := by
  have hmethods : c.methods = .ok (.list ((c.bodyMethods ++ names).eraseDups.map .text)) := by
    rw [methods, answer?, hanswer, collectedMethods_of_texts h]
    rfl
  simp only [target, hmethods, bind, Except.bind, Value.holds, Value.any_same_texts,
    List.mem_eraseDups, List.mem_append]

end Contract

/-! ## What a production leaves out -/

theorem name_mem_auditBundle_iff (columns : FieldSpec → Option String) (declared : String → Bool)
    (name : String) :
    name ∈ (auditBundle columns declared).methods.map Method.name ↔
      name ∈ auditGetters ∧ declared name = false := by
  simp only [auditBundle, auditGetters, List.map_map, List.mem_map, List.mem_filter,
    Function.comp_apply, Bool.not_eq_true']
  constructor
  · rintro ⟨spec, ⟨hspec, hdeclared⟩, rfl⟩
    exact ⟨⟨spec, hspec, rfl⟩, hdeclared⟩
  · rintro ⟨⟨spec, hspec, rfl⟩, hdeclared⟩
    exact ⟨spec, ⟨hspec, hdeclared⟩, rfl⟩

/-- A class that declares its methods by name gets the getters that it does not declare. -/
theorem Contract.result_produce_of_texts {c : Contract} {names : List String}
    (hanswer : c.answers.lookup .methods = none) (h : c.givenMethods = names.map .text)
    (config : Config) (log : List Record) :
    ∃ bundle, (produce (.proper c.target) (.proper config)).result log = .ok bundle ∧
      ∀ g ∈ auditGetters, g ∈ bundle.methods.map Method.name ↔ g ∉ c.bodyMethods ∧ g ∉ names := by
  have hdeclares := c.declares_of_texts hanswer h
  have hanswers : c.target.firstFault auditGetters = none :=
    Target.firstFault_eq_none_iff.mpr fun g _ => ⟨_, hdeclares g⟩
  refine ⟨auditBundle (·.column config) c.target.affirms, ?_, fun g hg => ?_⟩
  · rw [result_produce, hanswers]
  · rw [name_mem_auditBundle_iff, Target.affirms, hdeclares, decide_eq_false_iff_not, not_or]
    exact and_iff_right hg

end AuditAspects
