import GrammarEmbed.Clone
import GrammarEmbed.Gate

namespace GrammarEmbed

open Ast

namespace Ast

variable {α : Type} (change : Ident → ClassDef → ClassDef × α)

def NamedClass.update (found : NamedClass) : NamedClass :=
  ⟨found.name, (change found.name found.cls).1⟩

namespace Item

/-- A named class at the top level is declared on its own, exported, or the default export. -/
theorem class_eq_some_iff {item : Item} {found : NamedClass} :
    item.class? = some found ↔
      item = .stmt (.decl (.class found.name found.cls)) ∨
        (∃ span, item = .exportDecl span (.class found.name found.cls)) ∨
        ∃ span, item = .exportDefaultClass span (some found.name) found.cls := by
  constructor
  · intro declared
    unfold class? at declared
    split at declared <;> cases declared
    case h_1 => exact .inl rfl
    case h_2 span _ _ => exact .inr (.inl ⟨span, rfl⟩)
    case h_3 span _ _ => exact .inr (.inr ⟨span, rfl⟩)
  · rintro (rfl | ⟨span, rfl⟩ | ⟨span, rfl⟩) <;> rfl

theorem updateClass_of_none {item : Item} (none : item.class? = none) :
    item.updateClass change = (item, Option.none) := by
  unfold class? at none
  split at none
  case h_4 other => rw [updateClass] <;> assumption
  all_goals cases none

theorem exists_declaration {item : Item} {found : NamedClass}
    (declared : item.class? = some found) :
    ∃ declare : ClassDef → Item, item = declare found.cls ∧
      (∀ cls, (declare cls).class? = some ⟨found.name, cls⟩) ∧
      ∀ {α : Type} (change : Ident → ClassDef → ClassDef × α) (cls : ClassDef),
        (declare cls).updateClass change =
          (declare (change found.name cls).1, some (change found.name cls).2) := by
  rcases class_eq_some_iff.mp declared with rfl | ⟨span, rfl⟩ | ⟨span, rfl⟩
  · exact ⟨fun cls => .stmt (.decl (.class found.name cls)), rfl, fun _ => rfl, fun _ _ => rfl⟩
  · exact ⟨fun cls => .exportDecl span (.class found.name cls), rfl, fun _ => rfl, fun _ _ => rfl⟩
  · exact ⟨.exportDefaultClass span (some found.name), rfl, fun _ => rfl, fun _ _ => rfl⟩

theorem class_updateClass (item : Item) :
    (item.updateClass change).1.class? = item.class?.map (NamedClass.update change) := by
  cases found : item.class? with
  | none => rw [updateClass_of_none change found, found, Option.map_none]
  | some named =>
    obtain ⟨declare, rfl, declares, updates⟩ := exists_declaration found
    rw [updates, declares]
    rfl

theorem result_updateClass (item : Item) :
    (item.updateClass change).2 = item.class?.map fun found => (change found.name found.cls).2 := by
  cases found : item.class? with
  | none => rw [updateClass_of_none change found, Option.map_none]
  | some named =>
    obtain ⟨declare, rfl, _, updates⟩ := exists_declaration found
    rw [updates]
    rfl

theorem isDirective_updateClass (item : Item) :
    Clone.isDirective (item.updateClass change).1 = Clone.isDirective item := by
  unfold updateClass
  split <;> rfl

theorem createsMap_updateClass (item : Item) :
    Clone.createsMap (item.updateClass change).1 = Clone.createsMap item := by
  unfold updateClass
  split <;> rfl

theorem addItem_updateClass (base : BaseClass) (aliases : Aliases) (item : Item) :
    base.addItem aliases (item.updateClass change).1 = base.addItem aliases item := by
  unfold updateClass
  split <;> rfl

theorem isDirective_of_class {item : Item} (declared : item.class?.isSome) :
    Clone.isDirective item = false := by
  unfold class? at declared
  split at declared
  case h_4 => cases declared
  all_goals rfl

theorem updateClass_self {item : Item}
    (same : ∀ found, item.class? = some found → (change found.name found.cls).1 = found.cls) :
    (item.updateClass change).1 = item := by
  cases found : item.class? with
  | none => rw [updateClass_of_none change found]
  | some named =>
    obtain ⟨declare, rfl, declares, updates⟩ := exists_declaration found
    rw [updates, same named (declares _)]

/-- A change that repeats itself on every class repeats itself on every item. -/
theorem updateClass_updateClass {again : α → α}
    (stable : ∀ name cls, change name (change name cls).1 =
      ((change name cls).1, again (change name cls).2)) (item : Item) :
    (item.updateClass change).1.updateClass change =
      ((item.updateClass change).1, (item.updateClass change).2.map again) := by
  cases found : item.class? with
  | none =>
    rw [updateClass_of_none change found]
    exact updateClass_of_none change found
  | some named =>
    obtain ⟨declare, rfl, _, updates⟩ := exists_declaration found
    rw [updates, updates, stable]
    rfl

end Item

namespace Program

variable (program : Program)

theorem classes_updateClasses :
    (program.updateClasses change).1.classes = program.classes.map (NamedClass.update change) := by
  simp only [updateClasses, classes, List.filterMap_map, List.map_filterMap]
  congr 1
  funext item
  exact Item.class_updateClass change item

theorem results_updateClasses :
    (program.updateClasses change).2 =
      program.classes.map fun found => (change found.name found.cls).2 := by
  simp only [updateClasses, classes, List.filterMap_map, List.map_filterMap]
  congr 1
  funext item
  exact Item.result_updateClass change item

theorem updateClasses_self
    (same : ∀ found ∈ program.classes, (change found.name found.cls).1 = found.cls) :
    (program.updateClasses change).1 = program := by
  have items : (program.items.map (Item.updateClass change)).map Prod.fst = program.items := by
    rw [List.map_map]
    refine Eq.trans (List.map_congr_left ?_) (List.map_id _)
    intro item member
    refine Item.updateClass_self change fun found declared => same found ?_
    exact List.mem_filterMap.mpr ⟨item, member, declared⟩
  simp only [updateClasses, items]

theorem updateClasses_updateClasses {again : α → α}
    (stable : ∀ name cls, change name (change name cls).1 =
      ((change name cls).1, again (change name cls).2)) :
    (program.updateClasses change).1.updateClasses change =
      ((program.updateClasses change).1, (program.updateClasses change).2.map again) := by
  have repeated := Item.updateClass_updateClass change stable
  simp only [updateClasses, List.map_map, List.filterMap_map, List.map_filterMap]
  simp only [Function.comp_def, repeated]

theorem isClone_updateClasses :
    (program.updateClasses change).1.isClone = program.isClone := by
  simp only [isClone, updateClasses, List.map_map, List.find?_map, Function.comp_def,
    Item.isDirective_updateClass]
  cases program.items.find? fun item => !Clone.isDirective item with
  | none => rfl
  | some item => exact Item.createsMap_updateClass change item

theorem aliases_updateClasses (base : BaseClass) :
    base.aliases (program.updateClasses change).1 = base.aliases program := by
  simp only [BaseClass.aliases, updateClasses, List.foldl_map, Item.addItem_updateClass]

variable {change} in
theorem parserClasses_updateClasses {aliases : Aliases}
    (kept : ∀ name cls, (change name cls).1.inherits aliases = cls.inherits aliases) :
    (program.updateClasses change).1.parserClasses aliases =
      (program.parserClasses aliases).map (NamedClass.update change) := by
  rw [parserClasses, classes_updateClasses, List.filter_map, parserClasses]
  congr 2
  funext found
  exact kept found.name found.cls

variable {change} in
/-- The gate sees the program as before if no class changes its superclass. -/
theorem gate_updateClasses (config : Config)
    (kept : ∀ name cls, (change name cls).1.inherits (config.base.aliases program) =
      cls.inherits (config.base.aliases program)) :
    config.gate (program.updateClasses change).1 = config.gate program := by
  simp only [Config.gate, aliases_updateClasses, parserClasses_updateClasses program kept,
    List.map_map]
  rfl

end Program

end Ast

theorem Config.gate_proceed {config : Config} {program : Program} {aliases : Aliases}
    {names : List String} (passed : config.gate program = .proceed aliases names) :
    aliases = config.base.aliases program ∧
      names = (program.parserClasses aliases).map fun found => found.name.name := by
  simp only [gate] at passed
  split at passed
  · cases passed
  · split at passed
    · cases passed
    · cases passed
      exact ⟨rfl, rfl⟩

end GrammarEmbed
