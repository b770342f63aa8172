import GrammarEmbed.Proofs.ExtractedGrammars
import GrammarEmbed.Proofs.InjectionReport

namespace GrammarEmbed

open Ast

namespace Ast

variable {α β : Type} (first : Ident → ClassDef → ClassDef × α)
  (second : Ident → ClassDef → ClassDef × β)

/-- Two changes one after the other are one change of each class. -/
theorem Item.updateClass_comp (item : Item) :
    (item.updateClass first).1.updateClass second =
      item.updateClass fun name cls => second name (first name cls).1 := by
  cases declared : item.class? with
  | none =>
    rw [updateClass_of_none first declared, updateClass_of_none _ declared,
      updateClass_of_none _ declared]
  | some found =>
    obtain ⟨declare, rfl, -, updates⟩ := exists_declaration declared
    rw [updates, updates, updates]

theorem Program.updateClasses_comp (program : Program) :
    (program.updateClasses first).1.updateClasses second =
      program.updateClasses fun name cls => second name (first name cls).1 := by
  have items (item : Item) := item.updateClass_comp first second
  simp only [updateClasses, List.map_map, Function.comp_def, items]

variable {first second}

/-- What becomes of an item depends on what becomes of its class, not on what is reported. -/
theorem Item.updateClass_fst_congr {item : Item}
    (same : ∀ found, item.class? = some found →
      (first found.name found.cls).1 = (second found.name found.cls).1) :
    (item.updateClass first).1 = (item.updateClass second).1 := by
  cases declared : item.class? with
  | none => rw [updateClass_of_none first declared, updateClass_of_none second declared]
  | some found =>
    obtain ⟨declare, rfl, declares, updates⟩ := exists_declaration declared
    rw [updates, updates, same found (declares _)]

theorem Program.updateClasses_fst_congr (program : Program)
    (same : ∀ found ∈ program.classes,
      (first found.name found.cls).1 = (second found.name found.cls).1) :
    (program.updateClasses first).1 = (program.updateClasses second).1 := by
  have items : (program.items.map (Item.updateClass first)).map Prod.fst =
      (program.items.map (Item.updateClass second)).map Prod.fst := by
    rw [List.map_map, List.map_map]
    apply List.map_congr_left
    intro item member
    apply Item.updateClass_fst_congr
    intro found declared
    exact same found (List.mem_filterMap.mpr ⟨item, member, declared⟩)
  simp only [updateClasses, items]

end Ast

namespace Injector

variable (injector : Injector) {aliases : Aliases} {first second union : Grammars}

theorem treat_congr {found : NamedClass}
    (same : first.get? found.name.name = second.get? found.name.name) :
    injector.treat first found = injector.treat second found := by
  simp only [treat, same]

/-- A class that has no grammar in the first run goes into the second one as it was. -/
theorem treat_treat_of_none {found : NamedClass} (absent : first.get? found.name.name = none) :
    injector.treat second ⟨found.name, (injector.treat first found).1⟩ =
      injector.treat second found := by
  rw [injector.treat_of_none absent]

/-- Of two runs of which one has no grammar for a class, the other one decides. -/
theorem treat_treat (disjoint : ∀ name, first.get? name = none ∨ second.get? name = none)
    (joined : ∀ name, union.get? name = (first.get? name).or (second.get? name))
    (found : NamedClass) :
    (injector.treat second ⟨found.name, (injector.treat first found).1⟩).1 =
      (injector.treat union found).1 := by
  have known := joined found.name.name
  rcases disjoint found.name.name with absent | absent
  · rw [absent, Option.none_or] at known
    rw [injector.treat_treat_of_none absent, injector.treat_congr known]
  · rw [absent, Option.or_none] at known
    have kept : injector.treat second ⟨found.name, (injector.treat first found).1⟩ =
        ((injector.treat first found).1, .skipped .noGrammar) := injector.treat_of_none absent
    rw [kept, injector.treat_congr known]

/-- A run after a run is one run with the grammars of both. -/
theorem inject_inject (disjoint : ∀ name, first.get? name = none ∨ second.get? name = none)
    (joined : ∀ name, union.get? name = (first.get? name).or (second.get? name))
    (program : Program) :
    (injector.inject aliases second (injector.inject aliases first program).1).1 =
      (injector.inject aliases union program).1 := by
  simp only [inject, Program.updateClasses_comp]
  apply program.updateClasses_fst_congr
  intro found _
  rw [visit_eq, inherits_visit]
  by_cases parser : found.cls.inherits aliases = true
  · simp only [visit_eq, parser, if_true]
    exact injector.treat_treat disjoint joined found
  · simp [visit_eq, parser]

variable {program : Program} {index : Nat} {found : NamedClass}

/-- The entry of a later run for a class that had no grammar in the run before it. -/
theorem entry_inject_inject (place : (program.parserClasses aliases)[index]? = some found)
    (absent : first.get? found.name.name = none) :
    (injector.inject aliases second (injector.inject aliases first program).1).2[index]? =
      some ⟨found.name.name, (injector.treat second found).2⟩ := by
  rw [injector.entry_inject second (injector.class_inject first place),
    injector.treat_treat_of_none absent]

/-- Grammars of disjoint sets of classes compose and commute. Two runs lead to the same program in
either order, and so does one run with the grammars of both. In that one run a class has the entry
that it has in the run which brings its grammar, alone or after the other run, and a class without a
grammar is reported as such. -/
theorem disjoint_grammars_commute (injector : Injector) (aliases : Aliases)
    (first second union : Grammars)
    (disjoint : ∀ name, first.get? name = none ∨ second.get? name = none)
    (joined : ∀ name, union.get? name = (first.get? name).or (second.get? name))
    (program : Program) :
    let afterFirst := injector.inject aliases first program
    let afterSecond := injector.inject aliases second program
    let once := injector.inject aliases union program
    (injector.inject aliases second afterFirst.1).1 = once.1 ∧
    (injector.inject aliases first afterSecond.1).1 = once.1 ∧
    once.2.length = (program.parserClasses aliases).length ∧
    ∀ (index : Nat) (found : NamedClass), (program.parserClasses aliases)[index]? = some found →
      ∃ entry, entry.className = found.name.name ∧ once.2[index]? = some entry ∧
        ((first.get? found.name.name).isSome = true → afterFirst.2[index]? = some entry ∧
          (injector.inject aliases first afterSecond.1).2[index]? = some entry) ∧
        ((second.get? found.name.name).isSome = true → afterSecond.2[index]? = some entry ∧
          (injector.inject aliases second afterFirst.1).2[index]? = some entry) ∧
        (first.get? found.name.name = none → second.get? found.name.name = none →
          entry.outcome = .skipped .noGrammar) := by
  intro afterFirst afterSecond once
  have swapped (name : String) : union.get? name = (second.get? name).or (first.get? name) := by
    rw [joined]
    rcases disjoint name with absent | absent <;> simp [absent]
  have reversed (name : String) : second.get? name = none ∨ first.get? name = none :=
    (disjoint name).symm
  refine ⟨injector.inject_inject disjoint joined program,
    injector.inject_inject reversed swapped program, ?_, ?_⟩
  · rw [inject_report, List.length_map]
  · intro index found place
    refine ⟨_, rfl, injector.entry_inject union place, ?_, ?_, ?_⟩
    · intro given
      have absent := (disjoint found.name.name).resolve_left (Option.isSome_iff_ne_none.mp given)
      have known := joined found.name.name
      rw [absent, Option.or_none] at known
      rw [injector.treat_congr known]
      exact ⟨injector.entry_inject first place, injector.entry_inject_inject place absent⟩
    · intro given
      have absent := (disjoint found.name.name).resolve_right (Option.isSome_iff_ne_none.mp given)
      have known := joined found.name.name
      rw [absent, Option.none_or] at known
      rw [injector.treat_congr known]
      exact ⟨injector.entry_inject second place, injector.entry_inject_inject place absent⟩
    · intro absent missing
      have unknown : union.get? found.name.name = none := by
        rw [joined, absent, missing, Option.or_none]
      rw [injector.treat_of_none unknown]

/-- One run brings a grammar for `P` and one for `R`, the other one for `Q`. -/
theorem disjoint_grammars_commute_threeParsers :
    let injector : Injector := ⟨"serializedGrammar", .append⟩
    let first : Grammars := ⟨[("P", .null), ("R", .null)]⟩
    let second : Grammars := ⟨[("Q", .bool true)]⟩
    let once := injector.inject ⟨["Parser"]⟩ ⟨first.entries ++ second.entries⟩ threeParsers
    once.2 = [⟨"P", .injected⟩, ⟨"Q", .injected⟩, ⟨"R", .skipped .noConstructor⟩] ∧
    (injector.inject ⟨["Parser"]⟩ second
      (injector.inject ⟨["Parser"]⟩ first threeParsers).1).1 = once.1 ∧
    (injector.inject ⟨["Parser"]⟩ first
      (injector.inject ⟨["Parser"]⟩ second threeParsers).1).1 = once.1 := by
  intro injector first second once
  have disjoint (name : String) : first.get? name = none ∨ second.get? name = none := by
    by_cases other : name = "Q"
    · subst other
      exact .inl (by decide)
    · exact .inr (Table.lookup_cons_other other _ _)
  have joined (name : String) : Table.get? ⟨first.entries ++ second.entries⟩ name =
      (first.get? name).or (second.get? name) := List.lookup_append
  obtain ⟨forth, back, -, -⟩ := disjoint_grammars_commute injector ⟨["Parser"]⟩ first second
    ⟨first.entries ++ second.entries⟩ disjoint joined threeParsers
  exact ⟨rfl, forth, back⟩

end Injector

end GrammarEmbed
