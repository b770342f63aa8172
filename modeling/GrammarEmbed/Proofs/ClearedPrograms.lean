import GrammarEmbed.Proofs.ClassWalkers
import GrammarEmbed.Proofs.DetachedText

namespace GrammarEmbed

open Ast

namespace Ast

section Lists

theorem clearedDeclarators_eq (declarators : List Declarator) :
    clearedDeclarators declarators = declarators.map Declarator.cleared := by
  induction declarators with
  | nil => rfl
  | cons declarator rest ih => exact congrArg (declarator.cleared :: ·) ih

theorem clearedPatternProperties_eq (properties : List PatternProperty) :
    clearedPatternProperties properties = properties.map PatternProperty.cleared := by
  induction properties with
  | nil => rfl
  | cons property rest ih => exact congrArg (property.cleared :: ·) ih

end Lists

theorem PropertyKey.spells_cleared (key : PropertyKey) (name : String) :
    key.cleared.spells name = key.spells name := by
  cases key <;> rfl

theorem ClassDef.inherits_cleared (aliases : Aliases) (cls : ClassDef) :
    cls.cleared.inherits aliases = cls.inherits aliases := by
  obtain ⟨span, superclass, members⟩ := cls
  cases superclass with
  | none => rfl
  | some e =>
    cases e with
    | member _ object key => cases object <;> cases key <;> rfl
    | _ => rfl

def NamedClass.cleared (found : NamedClass) : NamedClass :=
  ⟨found.name.cleared, found.cls.cleared⟩

theorem Item.class_cleared (item : Item) :
    item.cleared.class? = item.class?.map NamedClass.cleared := by
  cases item with
  | stmt s =>
    cases s with
    | decl d => cases d <;> rfl
    | ifElse _ _ _ alternate => cases alternate <;> rfl
    | _ => rfl
  | exportDecl _ d => cases d <;> rfl
  | exportDefaultClass _ name _ => cases name <;> rfl
  | _ => rfl

theorem Item.parserName_cleared (aliases : Aliases) (item : Item) :
    item.cleared.parserName? aliases = item.parserName? aliases := by
  unfold parserName?
  rw [class_cleared]
  cases item.class? with
  | none => rfl
  | some found =>
    simp only [Option.map_some, NamedClass.cleared, ClassDef.inherits_cleared]
    rfl

end Ast

namespace BaseClass

variable (base : BaseClass)

theorem addSpecifier_cleared (aliases : Aliases) (specifier : ImportSpecifier) :
    base.addSpecifier aliases specifier.cleared = base.addSpecifier aliases specifier := by
  cases specifier with
  | named _ _ imported =>
    cases imported with
    | none => rfl
    | some name => cases name <;> rfl
  | _ => rfl

theorem isRequire_cleared (e : Expr) : base.isRequire e.cleared = base.isRequire e := by
  cases e with
  | call _ callee args =>
    cases callee with
    | ident _ =>
      cases args with
      | nil => rfl
      | cons arg rest =>
        obtain ⟨dots, value⟩ := arg
        cases dots with
        | some => rfl
        | none =>
          cases value with
          | literal lit => cases lit <;> rfl
          | _ => rfl
    | _ => rfl
  | _ => rfl

theorem destructured_cleared (property : PatternProperty) :
    base.destructured? property.cleared = base.destructured? property := by
  cases property with
  | keyValue key value =>
    simp only [PatternProperty.cleared, destructured?, PropertyKey.spells_cleared]
    cases value with
    | assign _ left _ => cases left <;> rfl
    | _ => rfl
  | _ => rfl

theorem addDeclarator_cleared (aliases : Aliases) (declarator : Declarator) :
    base.addDeclarator aliases declarator.cleared = base.addDeclarator aliases declarator := by
  obtain ⟨span, target, init⟩ := declarator
  cases init with
  | none => rfl
  | some value =>
    simp only [Declarator.cleared, clearedOptional, addDeclarator, isRequire_cleared]
    cases target with
    | object _ properties =>
      simp only [Pattern.cleared, clearedPatternProperties_eq, List.filterMap_map,
        Function.comp_def, destructured_cleared]
    | _ => rfl

theorem addVar_cleared (aliases : Aliases) (var : VarDecl) :
    base.addVar aliases var.cleared = base.addVar aliases var := by
  obtain ⟨span, kind, declarators⟩ := var
  simp only [VarDecl.cleared, addVar, clearedDeclarators_eq, List.foldl_map,
    addDeclarator_cleared]

theorem addItem_cleared (aliases : Aliases) (item : Item) :
    base.addItem aliases item.cleared = base.addItem aliases item := by
  cases item with
  | stmt s =>
    cases s with
    | decl d =>
      cases d with
      | var var => exact base.addVar_cleared aliases var
      | _ => rfl
    | ifElse _ _ _ alternate => cases alternate <;> rfl
    | _ => rfl
  | importDecl _ phase specifiers source =>
    simp only [Item.cleared, addItem, StringLit.cleared, List.foldl_map, addSpecifier_cleared]
  | exportDecl _ d =>
    cases d with
    | var var => exact base.addVar_cleared aliases var
    | _ => rfl
  | _ => rfl

theorem aliases_cleared (program : Program) :
    base.aliases program.cleared = base.aliases program := by
  simp only [aliases, Program.cleared, List.foldl_map, addItem_cleared]

end BaseClass

theorem Config.gate_cleared (config : Config) (program : Program) :
    config.gate program.cleared = config.gate program := by
  unfold gate
  simp only [BaseClass.aliases_cleared, ← Program.parserNames_eq]
  simp only [Program.cleared, List.filterMap_map, Function.comp_def, Item.parserName_cleared]

theorem ModuleFormat.of_cleared (program : Program) :
    ModuleFormat.of program.cleared = ModuleFormat.of program := by
  have same (item : Item) : declaresModule item.cleared = declaresModule item := by
    cases item <;> rfl
  simp only [ModuleFormat.of, Program.cleared, List.any_map, Function.comp_def, same]

namespace Clone

theorem isDirective_cleared (item : Item) : isDirective item.cleared = isDirective item := by
  cases item with
  | stmt s =>
    cases s with
    | expr _ value =>
      cases value with
      | literal lit => cases lit <;> rfl
      | _ => rfl
    | ifElse _ _ _ alternate => cases alternate <;> rfl
    | _ => rfl
  | _ => rfl

theorem declaresKey_cleared (declarator : Declarator) :
    declaresKey declarator.cleared = declaresKey declarator := by
  obtain ⟨span, target, init⟩ := declarator
  cases target <;> rfl

theorem createsMap_cleared (item : Item) : createsMap item.cleared = createsMap item := by
  cases item with
  | stmt s =>
    cases s with
    | expr _ value =>
      cases value with
      | assign _ _ target _ =>
        cases target with
        | expr e =>
          cases e with
          | member _ object key => cases object <;> cases key <;> rfl
          | _ => rfl
        | _ => rfl
      | _ => rfl
    | ifElse _ _ _ alternate => cases alternate <;> rfl
    | _ => rfl
  | exportDecl _ d =>
    cases d with
    | var var =>
      obtain ⟨span, kind, declarators⟩ := var
      simp only [Item.cleared, Decl.cleared, VarDecl.cleared, createsMap, clearedDeclarators_eq,
        List.any_map, Function.comp_def, declaresKey_cleared]
    | _ => rfl
  | _ => rfl

theorem creation_cleared (format : ModuleFormat) (key : String) :
    (creation format key).cleared = creation format key := by
  cases format <;> rfl

theorem registered_cleared (aliases : Aliases) (format : ModuleFormat) (key : String)
    (item : Item) :
    registered aliases format key item.cleared =
      (registered aliases format key item).map Item.cleared := by
  unfold registered
  rw [Item.parserName_cleared]
  cases item.parserName? aliases with
  | none => rfl
  | some name => cases format <;> rfl

/-- The clone of a cleared program is the cleared clone: the nodes that are added have no place. -/
theorem of_cleared (program : Program) (aliases : Aliases) (key : String) :
    Clone.of program.cleared aliases key =
      { Clone.of program aliases key with
        program := (Clone.of program aliases key).program.cleared } := by
  unfold Clone.of
  simp only [ModuleFormat.of_cleared]
  simp only [Program.cleared, List.takeWhile_map, List.dropWhile_map, Function.comp_def,
    isDirective_cleared, List.map_append, List.map_cons, creation_cleared, List.flatMap_map,
    registered_cleared, List.map_flatMap, List.filterMap_map, Item.parserName_cleared]

end Clone

theorem Ast.Program.isClone_cleared (program : Program) :
    program.cleared.isClone = program.isClone := by
  unfold isClone
  simp only [cleared, List.find?_map, Function.comp_def, Clone.isDirective_cleared]
  cases program.items.find? fun item => !Clone.isDirective item with
  | none => rfl
  | some item => exact Clone.createsMap_cleared item

def CompiledModule.renamed (filename : String) (compiled : CompiledModule) : CompiledModule :=
  { compiled with filename }

namespace Precompiler

/-- The module that a run in place asks the runtime to load, if it gets that far. -/
def handedOver (config : Config) (filename key : String) (program : Program) :
    Option CompiledModule :=
  if program.isClone then none
  else
    match config.gate program with
    | .skip _ => none
    | .proceed aliases _ =>
      some (compile (Clone.of program aliases (exportKey key)) filename .detached).1

theorem loads_recordedInPlace {σ : Type} (runtime : Runtime (StateM σ)) (config : Config)
    (filename : String) (program : Program) (world : σ) :
    (recordedInPlace runtime config filename program world).2.map Load.compiled =
      (handedOver config filename (StateT.run runtime.fresh world).1 program).toList := by
  rw [recordedInPlace_eq]
  unfold recorded run handedOver
  cases program.isClone with
  | true => rfl
  | false => cases config.gate program <;> rfl

theorem compile_cleared (program : Program) (aliases : Aliases) (key filename : String) :
    (compile (Clone.of program.cleared aliases key) filename .detached).1 =
      (compile (Clone.of program aliases key) filename .detached).1 := by
  have text := (Clone.of program aliases key).program.cleared.printDetached_eq_print
  rw [Clone.of_cleared]
  exact congrArg (fun code => CompiledModule.mk code filename (Clone.of program aliases key).format
    key (Clone.of program aliases key).classNames) text

theorem handedOver_cleared (config : Config) (filename key : String) (program : Program) :
    handedOver config filename key program.cleared = handedOver config filename key program := by
  unfold handedOver
  simp only [Program.isClone_cleared, Config.gate_cleared, compile_cleared]

theorem handedOver_rename (config : Config) (filename other key : String) (program : Program) :
    (handedOver config filename key program).map (.renamed other) =
      handedOver config other key program := by
  unfold handedOver
  cases program.isClone with
  | true => rfl
  | false => cases config.gate program <;> rfl

/-- Printing without a source is printing the cleared program, which has the text of the program
printed without comments, so two programs that differ in positions only have the same text. A run in
place hands the runtime the same module for both, but for the name of the file, if the key is the
same, whatever the two runtimes then do with it. -/
theorem clone_code_ignores_positions {σ τ : Type} (runtime : Runtime (StateM σ))
    (other : Runtime (StateM τ)) (config : Config) (filename otherName : String)
    (first second : Program) (world : σ) (elsewhere : τ)
    (same : first.cleared = second.cleared)
    (key : (StateT.run runtime.fresh world).1 = (StateT.run other.fresh elsewhere).1) :
    first.printDetached = (first.cleared.print {}).1 ∧
    first.printDetached = (first.print {}).1 ∧
    first.printDetached = second.printDetached ∧
    ((recordedInPlace runtime config filename first world).2.map Load.compiled).map
        (.renamed otherName) =
      (recordedInPlace other config otherName second elsewhere).2.map Load.compiled := by
  refine ⟨rfl, first.printDetached_eq_print, ?_, ?_⟩
  · rw [Program.printDetached, same]
    rfl
  · calc ((recordedInPlace runtime config filename first world).2.map Load.compiled).map
          (.renamed otherName)
      _ = ((handedOver config filename (StateT.run runtime.fresh world).1 first).map
            (.renamed otherName)).toList := by
          rw [Option.toList_map, ← loads_recordedInPlace]
      _ = (handedOver config otherName (StateT.run other.fresh elsewhere).1 second).toList := by
          rw [handedOver_rename, key, ← handedOver_cleared, same, handedOver_cleared]
      _ = (recordedInPlace other config otherName second elsewhere).2.map Load.compiled :=
          (loads_recordedInPlace ..).symm

def parserBehind (length : Nat) : Program where
  span := ⟨length + 1, length + 60⟩
  kind := .module
  shebang := none
  items :=
    [.importDecl ⟨length + 1, length + 38⟩ .evaluation
      [.named ⟨length + 10, length + 16⟩ ⟨⟨length + 10, length + 16⟩, "Parser"⟩ none]
      ⟨⟨length + 25, length + 37⟩, "chevrotain", none⟩,
    .stmt (.decl (.class ⟨⟨length + 45, length + 46⟩, "P"⟩
      (.mk ⟨length + 39, length + 60⟩ (some (.ident ⟨⟨length + 55, length + 61⟩, "Parser"⟩)) [])))]

theorem clone_code_ignores_positions_moved :
    let runtime := Runtime.answering (.ok none)
    (parserBehind 0).cleared = (parserBehind 20).cleared ∧
    (parserBehind 0).printDetached = (parserBehind 20).printDetached ∧
    ∃ compiled,
      (recordedInPlace runtime {} "p.js" (parserBehind 0) 7).2.map Load.compiled = [compiled] ∧
      (recordedInPlace runtime {} "q.js" (parserBehind 20) 7).2.map Load.compiled =
        [compiled.renamed "q.js"] := by
  intro runtime
  have same : (parserBehind 0).cleared = (parserBehind 20).cleared := rfl
  have passed : ({} : Config).gate (parserBehind 0) = .proceed ⟨["Parser"]⟩ ["P"] := by decide
  obtain ⟨-, -, text, handed⟩ := clone_code_ignores_positions runtime runtime {} "p.js" "q.js"
    (parserBehind 0) (parserBehind 20) 7 7 same rfl
  have loaded : (recordedInPlace runtime {} "p.js" (parserBehind 0) 7).2.map Load.compiled =
      [(compile (Clone.of (parserBehind 0) ⟨["Parser"]⟩ (exportKey "7")) "p.js" .detached).1] := by
    rw [loads_recordedInPlace, handedOver, passed]
    rfl
  refine ⟨same, text, _, loaded, ?_⟩
  rw [← handed, loaded]
  rfl

end Precompiler

end GrammarEmbed
