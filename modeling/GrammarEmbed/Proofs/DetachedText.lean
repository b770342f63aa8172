import GrammarEmbed.Proofs.BareLayouts

namespace GrammarEmbed.Ast

open Layout (bare)

section Specifiers

@[simp] theorem ModuleName.bare_cleared (name : ModuleName) :
    name.cleared.layout.bare = name.layout.bare := by
  cases name <;> rfl

@[simp] theorem ImportSpecifier.bare_cleared (specifier : ImportSpecifier) :
    specifier.cleared.layout.bare = specifier.layout.bare := by
  cases specifier with
  | default | «namespace» => rfl
  | named _ _ imported => cases imported <;> simp [cleared, layout]

@[simp] theorem ImportSpecifier.isNamed_cleared (specifier : ImportSpecifier) :
    specifier.cleared.isNamed = specifier.isNamed := by
  cases specifier <;> rfl

@[simp] theorem ExportSpecifier.bare_cleared (specifier : ExportSpecifier) :
    specifier.cleared.layout.bare = specifier.layout.bare := by
  cases specifier with
  | «namespace» => simp [cleared, layout]
  | named _ _ exported => cases exported <;> simp [cleared, layout]

@[simp] theorem ExportSpecifier.isNamed_cleared (specifier : ExportSpecifier) :
    specifier.cleared.isNamed = specifier.isNamed := by
  cases specifier <;> rfl

theorem bare_outerSpecifiers (specifiers : List ImportSpecifier) :
    (outerSpecifiers (specifiers.map ImportSpecifier.cleared)).map bare =
      (outerSpecifiers specifiers).map bare := by
  induction specifiers with
  | nil => rfl
  | cons specifier rest ih =>
    cases specifier with
    | named => exact ih
    | default | «namespace» => exact congrArg (_ :: ·) ih

theorem bare_braces {parts others : List Part} (first second : Span)
    (same : bares parts = bares others) :
    (braces first parts).bare = (braces second others).bare := by
  have empty : parts.isEmpty = others.isEmpty := by
    have lengths := congrArg List.length same
    simp only [bares, List.length_map] at lengths
    cases parts <;> cases others <;> simp_all
  unfold braces
  rw [empty]
  split
  · rfl
  · simp [same]

end Specifiers

section Items

def fromClause : List Layout → Layout
  | [] => .empty
  | parts => commas parts ++ .text " from "

theorem bare_fromClause {parts others : List Layout} (same : parts.map bare = others.map bare) :
    (fromClause parts).bare = (fromClause others).bare := by
  cases parts with
  | nil =>
    cases others with
    | nil => rfl
    | cons => cases same
  | cons part rest =>
    cases others with
    | nil => cases same
    | cons other more => simp only [fromClause, Layout.bare_append, bare_commas, same]

theorem bare_importClause (span : Span) (specifiers : List ImportSpecifier) :
    (importClause .none (specifiers.map ImportSpecifier.cleared)).bare =
      (importClause span specifiers).bare := by
  have named : (specifiers.map ImportSpecifier.cleared).filter ImportSpecifier.isNamed =
      (specifiers.filter ImportSpecifier.isNamed).map ImportSpecifier.cleared := by
    rw [List.filter_map]
    simp only [Function.comp_def, ImportSpecifier.isNamed_cleared]
  refine bare_fromClause ?_
  rw [List.map_append, List.map_append, bare_outerSpecifiers, named, List.isEmpty_map]
  congr 1
  split
  · rfl
  · refine congrArg (· :: []) (bare_braces _ _ ?_)
    simp [bares]

theorem bare_exportClause (span : Span) (specifiers : List ExportSpecifier) :
    (exportClause .none (specifiers.map ExportSpecifier.cleared)).bare =
      (exportClause span specifiers).bare := by
  have named : (specifiers.map ExportSpecifier.cleared).filter ExportSpecifier.isNamed =
      (specifiers.filter ExportSpecifier.isNamed).map ExportSpecifier.cleared := by
    rw [List.filter_map]
    simp only [Function.comp_def, ExportSpecifier.isNamed_cleared]
  have outer : (specifiers.map ExportSpecifier.cleared).filter
        (fun specifier => !specifier.isNamed) =
      (specifiers.filter fun specifier => !specifier.isNamed).map ExportSpecifier.cleared := by
    rw [List.filter_map]
    simp only [Function.comp_def, ExportSpecifier.isNamed_cleared]
  unfold exportClause
  simp only [named, outer, List.isEmpty_map, bare_commas, List.map_append, List.map_map]
  refine congrArg (chained _ _) (congr (congrArg _ ?_) ?_)
  · simp [Function.comp_def]
  · split
    · rfl
    · refine congrArg (· :: []) (bare_braces _ _ ?_)
      simp [bares]

theorem Item.bare_declaration (item : Item) :
    item.cleared.declaration.bare = item.declaration.bare := by
  cases item with
  | stmt s => exact s.bare_cleared
  | importDecl span phase specifiers source =>
    simp [cleared, declaration, bare_importClause span]
  | exportDecl span decl => simp [cleared, declaration, decl.bare_cleared]
  | exportNamed span specifiers source =>
    cases source <;> simp [cleared, declaration, bare_exportClause span]
  | exportAll => rfl
  | exportDefaultFunction span name fn =>
    have same := (Expr.function name fn).bare_cleared
    simp only [Expr.cleared] at same
    simp [cleared, declaration, same]
  | exportDefaultClass span name cls =>
    have same := (Expr.classExpr name cls).bare_cleared
    simp only [Expr.cleared] at same
    simp [cleared, declaration, same]
  | exportDefaultExpr span value => simp [cleared, declaration, value.bare_cleared]

theorem Item.bare_cleared (item : Item) : item.cleared.layout.bare = item.layout.bare := by
  have same := item.bare_declaration
  cases item with
  | stmt s => simp [cleared, layout, s.bare_cleared]
  | _ => simp only [cleared] at same ⊢; simp [layout, same]

theorem Item.bare_scriptLayout (item : Item) :
    item.cleared.scriptLayout.bare = item.scriptLayout.bare := by
  have same := item.bare_cleared
  cases item with
  | stmt s => exact s.bare_cleared
  | _ => exact same

end Items

namespace Program

theorem bare_concat (parts : List Layout) :
    (Layout.concat parts).bare = Layout.concat (parts.map bare) := by
  induction parts with
  | nil => rfl
  | cons part rest ih => simp [Layout.concat, ih]

theorem bare_cleared (program : Program) :
    program.cleared.layout.bare = program.layout.bare := by
  obtain ⟨span, kind, shebang, items⟩ := program
  cases kind with
  | script =>
    simp [cleared, layout, bare_concat, Function.comp_def, Item.bare_scriptLayout]
  | module =>
    simp [cleared, layout, bare_concat, Function.comp_def, Item.bare_cleared]

/-- Without comments, clearing the positions makes no difference to the text. -/
theorem printDetached_eq_print (program : Program) :
    program.printDetached = (program.print {}).1 := by
  have one := Writer.run_bare program.cleared.layout {} rfl
  have other := Writer.run_bare program.layout {} rfl
  rw [bare_cleared, other] at one
  exact (congrArg Writer.written one).symm

end Program

end GrammarEmbed.Ast
