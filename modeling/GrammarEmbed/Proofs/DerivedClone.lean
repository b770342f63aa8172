import GrammarEmbed.Proofs.Identifiers
import GrammarEmbed.Proofs.InjectionReport
import GrammarEmbed.Proofs.RecordedRun

namespace GrammarEmbed

open Ast

def IsExportKey (name : String) : Prop :=
  keyPrefix.toList <+: name.toList

instance (name : String) : Decidable (IsExportKey name) :=
  inferInstanceAs (Decidable (keyPrefix.toList <+: name.toList))

namespace Clone

theorem isKey_iff (name : String) : isKey name = true ↔ IsExportKey name :=
  List.isPrefixOf_iff_prefix

variable (format : ModuleFormat) (key : String)

theorem isDirective_creation : isDirective (creation format key) = false := by
  cases format <;> rfl

theorem createsMap_creation : createsMap (creation format key) = isKey key := by
  cases format with
  | esModule => exact Bool.or_false _
  | commonJs => rfl

theorem declaresModule_creation :
    ModuleFormat.declaresModule (creation format key) = (format == .esModule) := by
  cases format <;> rfl

/-- A registration is a statement, so it does not make its item more of a module. -/
theorem any_registered (aliases : Aliases) (item : Item) :
    (registered aliases format key item).any ModuleFormat.declaresModule =
      ModuleFormat.declaresModule item := by
  unfold registered
  split
  · simp [registration, ModuleFormat.declaresModule]
  · simp

variable (program : Program) (aliases : Aliases)

/-- The first item of a clone behind its directives is the one that creates the export map. -/
theorem find_creation :
    (Clone.of program aliases key).program.items.find? (fun item => !isDirective item) =
      some (creation (ModuleFormat.of program) key) := by
  have skipped : (program.items.takeWhile isDirective).find? (fun item => !isDirective item) =
      none := by
    apply List.find?_eq_none.mpr
    intro item member
    simpa using List.all_eq_true.mp List.all_takeWhile item member
  simp [Clone.of, List.find?_append, skipped, isDirective_creation]

theorem isClone_of : (Clone.of program aliases key).program.isClone = isKey key := by
  rw [Program.isClone, find_creation]
  exact createsMap_creation _ key

theorem any_declaresModule_of :
    (Clone.of program aliases key).program.items.any ModuleFormat.declaresModule =
      (ModuleFormat.of program == .esModule || program.items.any ModuleFormat.declaresModule) := by
  have split : program.items.any ModuleFormat.declaresModule =
      ((program.items.takeWhile isDirective).any ModuleFormat.declaresModule ||
        (program.items.dropWhile isDirective).any ModuleFormat.declaresModule) := by
    rw [← List.any_append, List.takeWhile_append_dropWhile]
  simp only [Clone.of, List.any_append, List.any_cons, List.any_flatMap, any_registered,
    declaresModule_creation, split]
  exact Bool.or_left_comm _ _ _

theorem format_of :
    ModuleFormat.of (Clone.of program aliases key).program =
      (Clone.of program aliases key).format := by
  have declares := any_declaresModule_of key program aliases
  have kind : (Clone.of program aliases key).program.kind = program.kind := rfl
  have format : (Clone.of program aliases key).format = ModuleFormat.of program := rfl
  rw [format, ModuleFormat.of, kind, declares]
  unfold ModuleFormat.of
  cases program.kind with
  | script => rfl
  | module => cases program.items.any ModuleFormat.declaresModule <;> rfl

/-- Whatever creates an export map has an identifier that starts like a key. -/
theorem createsMap_identifier {item : Item} (creates : createsMap item = true) :
    ∃ name ∈ item.identifiers, IsExportKey name := by
  unfold createsMap at creates
  split at creates
  · obtain ⟨declarator, member, declares⟩ := List.any_eq_true.mp creates
    unfold declaresKey at declares
    split at declares
    · rename_i declaratorSpan id init
      have named : id.name ∈ (Declarator.mk declaratorSpan (.ident id) init).identifiers :=
        List.mem_cons_self
      refine ⟨id.name, ?_, (isKey_iff _).mp declares⟩
      exact mem_declaratorIdentifiers member named
    · cases declares
  · rename_i object key value
    obtain ⟨-, keyed⟩ := Bool.and_eq_true_iff.mp creates
    have named : key.name ∈ [object.name, key.name] ++ value.identifiers := by simp
    exact ⟨key.name, named, (isKey_iff _).mp keyed⟩
  · cases creates

end Clone

theorem Ast.Program.isClone_identifier {program : Program} (tagged : program.isClone = true) :
    ∃ name ∈ program.identifiers, IsExportKey name := by
  unfold isClone at tagged
  split at tagged
  · rename_i item found
    obtain ⟨name, named, keyed⟩ := Clone.createsMap_identifier tagged
    exact ⟨name, mem_identifiers (List.mem_of_find?_eq_some found) named, keyed⟩
  · cases tagged

namespace Precompiler

/-- A clone is recognized exactly if its key starts like an export key, and its format can be read
off it. A run over such a clone hands it back as it is and loads nothing, whatever the
configuration and the runtime. A program without an identifier that starts like a key is no
clone. -/
theorem clone_recognized {σ : Type} (runtime : Runtime (StateM σ)) (config : Config)
    (filename : String) (world : σ) (program : Program) (aliases : Aliases) (key : String) :
    let clone := Clone.of program aliases key
    (clone.program.isClone = true ↔ IsExportKey key) ∧
    ModuleFormat.of clone.program = clone.format ∧
    (IsExportKey key → recordedInPlace runtime config filename clone.program world =
      ((clone.program, .ok (.skipped .derivedClone)), [])) ∧
    ((∀ name ∈ program.identifiers, ¬ IsExportKey name) → program.isClone = false) := by
  intro clone
  have recognized : clone.program.isClone = true ↔ IsExportKey key := by
    rw [Clone.isClone_of, Clone.isKey_iff]
  refine ⟨recognized, Clone.format_of key program aliases, ?_, ?_⟩
  · intro keyed
    have step := ran_recorded runtime config filename clone.program .detached world
    obtain ⟨done, loads⟩ := step.of_clone (recognized.mpr keyed)
    rw [recordedInPlace_eq, done, loads]
  · intro plain
    apply Bool.eq_false_iff.mpr
    intro tagged
    obtain ⟨name, member, keyed⟩ := program.isClone_identifier tagged
    exact plain name member keyed

/-- A script of a directive only: its clone starts with the directive and is recognized, while the
script itself is not. -/
theorem clone_recognized_directiveOnly :
    let program : Program :=
      ⟨.none, .script, none, [.stmt (.expr .none (.madeString "use strict"))]⟩
    let clone := Clone.of program ⟨[]⟩ (exportKey "k")
    IsExportKey (exportKey "k") ∧ clone.program.isClone = true ∧
    recordedInPlace (.answering (.ok none)) {} "p.js" clone.program 0 =
      ((clone.program, .ok (.skipped .derivedClone)), []) ∧
    (∀ name ∈ program.identifiers, ¬ IsExportKey name) ∧ program.isClone = false := by
  intro program clone
  have keyed : IsExportKey (exportKey "k") := by decide
  have plain : ∀ name ∈ program.identifiers, ¬ IsExportKey name := by decide
  obtain ⟨recognized, -, skipped, other⟩ :=
    clone_recognized (.answering (.ok none)) {} "p.js" 0 program ⟨[]⟩ (exportKey "k")
  exact ⟨keyed, recognized.mpr keyed, skipped keyed, plain, other plain⟩

end Precompiler

end GrammarEmbed
