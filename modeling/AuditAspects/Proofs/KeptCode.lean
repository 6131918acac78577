import AuditAspects.Project.Scan
import AuditAspects.Proofs.StepLaws

/-!
# Loading modules

A module that is loaded has its code kept, if code is kept at all and there is a file to load.
Entity modules are loaded up to the first that fails.  To the store this does what running
and collecting them does, and apart from that their code is kept and nothing else changes
(`loadModules_ends`).
-/

namespace AuditAspects

namespace Session

open Step

/-- Those of several modules that have their code kept when they are loaded. -/
def keptOf (s : Session) (modules : List Location) : List Location :=
  if s.keepsCode then modules.filter fun l => (s.tree.read? l).isSome else []

/-- A session that has loaded modules. -/
def keeping (s : Session) (modules : List Location) : Session :=
  { s with kept := s.kept ++ s.keptOf modules }

/-- A module of the project: that of the settings, or one of entities. -/
def IsModule (s : Session) (l : Location) : Prop :=
  l = s.settingsFile ∨ ∃ e ∈ s.entityModules, l = s.entitiesDir.child e.1

section Keeping

variable (s : Session)

@[simp] theorem keptOf_nil : s.keptOf [] = [] := by
  rw [keptOf]
  split <;> rfl

@[simp] theorem keeping_nil : s.keeping [] = s := by
  rw [keeping, keptOf_nil, List.append_nil]

/-- What is kept of several modules is kept module by module. -/
theorem keptOf_append (ls ms : List Location) :
    s.keptOf (ls ++ ms) = s.keptOf ls ++ s.keptOf ms := by
  rw [keptOf, keptOf, keptOf]
  split
  · exact List.filter_append ..
  · rfl

theorem keeping_append (ls ms : List Location) :
    (s.keeping ls).keeping ms = s.keeping (ls ++ ms) := by
  have hsame : (s.keeping ls).keptOf ms = s.keptOf ms := rfl
  rw [keeping, hsame, keeping, keeping, keptOf_append, List.append_assoc]

@[simp] theorem result_keepCode (l : Location) : (keepCode l).result s = .ok () := rfl

@[simp] theorem after_keepCode (l : Location) : (keepCode l).after s = s.keeping [l] := by
  have hkept : (if s.keepsCode && (s.tree.read? l).isSome then s.kept ++ [l] else s.kept) =
      s.kept ++ s.keptOf [l] := by
    rw [keptOf]
    cases s.keepsCode with
    | false => exact (List.append_nil _).symm
    | true =>
        cases hfile : (s.tree.read? l).isSome with
        | false => simp [hfile]
        | true => simp [hfile]
  rw [keepCode, after_modify, keeping, hkept]

end Keeping

/-- Modules are loaded as far as they are run and collected, and have their code kept. -/
theorem loadModules_ends (dir : Location) (files : List (String × List ModuleItem))
    (s : Session) :
    (loadModules dir files).result s = (scanModules s.shared files).result s.store ∧
      ∃ loaded, loaded <+: files.map (fun e => dir.child e.1) ∧
        (loadModules dir files).after s =
          { s.keeping loaded with store := (scanModules s.shared files).after s.store } := by
  induction files generalizing s with
  | nil => exact ⟨rfl, [], List.prefix_rfl, by rw [keeping_nil]; rfl⟩
  | cons e files ih =>
      obtain ⟨file, items⟩ := e
      simp only [loadModules, scanModules, result_bind, after_bind, result_keepCode, after_keepCode,
        result_get, after_get, result_onStore, after_onStore]
      have hshared : (s.keeping [dir.child file]).shared = s.shared := rfl
      have hstore : (s.keeping [dir.child file]).store = s.store := rfl
      rw [hshared, hstore]
      cases (scanModule s.shared file items).result s.store with
      | error f => exact ⟨rfl, [dir.child file], ⟨_, rfl⟩, rfl⟩
      | ok _ =>
          obtain ⟨hresult, loaded, hinitial, hafter⟩ := ih
            { s.keeping [dir.child file] with
              store := (scanModule s.shared file items).after s.store }
          refine ⟨hresult, dir.child file :: loaded, ?_, hafter.trans ?_⟩
          · exact List.cons_prefix_cons.mpr ⟨rfl, hinitial⟩
          · have hkept := s.keeping_append [dir.child file] loaded
            exact congrArg (fun t : Session => { t with
              store := (scanModules s.shared files).after
                ((scanModule s.shared file items).after s.store) }) hkept

end Session

end AuditAspects
