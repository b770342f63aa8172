import GrammarEmbed.Proofs.InjectionReport

/-!
The names that declarations bind, and how far they are seen: `var` in the whole function or program,
out of every block it stands in, all else in the list of statements it stands in. The annex of the
standard for browsers, where functions are also seen out of blocks, is left aside.
-/

namespace GrammarEmbed.Ast

mutual

def Pattern.boundNames : Pattern → List String
  | .ident id => [id.name]
  | .array _ elements => elementBoundNames elements
  | .object _ properties => propertyBoundNames properties
  | .rest _ inner => inner.boundNames
  | .assign _ left _ => left.boundNames
  | .expr _ => []

def elementBoundNames : List (Option Pattern) → List String
  | [] => []
  | none :: rest => elementBoundNames rest
  | some pattern :: rest => pattern.boundNames ++ elementBoundNames rest

def PatternProperty.boundNames : PatternProperty → List String
  | .keyValue _ value => value.boundNames
  | .shorthand _ id _ => [id.name]
  | .rest _ inner => inner.boundNames

def propertyBoundNames : List PatternProperty → List String
  | [] => []
  | property :: rest => property.boundNames ++ propertyBoundNames rest

end

def VarDecl.boundNames : VarDecl → List String
  | .mk _ _ declarators => declarators.flatMap fun (.mk _ target _) => target.boundNames

/-- The names that are seen out of the block of their declaration. -/
def VarDecl.varNames : VarDecl → List String
  | .mk span .var declarators => (VarDecl.mk span .var declarators).boundNames
  | _ => []

def ForHead.varNames : ForHead → List String
  | .decl inner => inner.varNames
  | _ => []

mutual

/-- The names that `var` declares in a statement, at any depth outside of functions. -/
def Stmt.varNames : Stmt → List String
  | .block body => body.varNames
  | .decl (.var decl) => decl.varNames
  | .ifElse _ _ consequent none => consequent.varNames
  | .ifElse _ _ consequent (some alternate) => consequent.varNames ++ alternate.varNames
  | .for _ init _ _ body => init.varNames ++ body.varNames
  | .forIn _ head _ body => head.varNames ++ body.varNames
  | .forOf _ _ head _ body => head.varNames ++ body.varNames
  | .while _ _ body => body.varNames
  | .doWhile _ body _ => body.varNames
  | .try _ body handler finalizer =>
    body.varNames ++ handlerVarNames handler ++ optionalBlockVarNames finalizer
  | .switch _ _ cases => caseVarNames cases
  | .labeled _ _ body => body.varNames
  | .with _ _ body => body.varNames
  | _ => []

def stmtVarNames : List Stmt → List String
  | [] => []
  | stmt :: rest => stmt.varNames ++ stmtVarNames rest

def Block.varNames : Block → List String
  | .mk _ stmts => stmtVarNames stmts

def optionalBlockVarNames : Option Block → List String
  | none => []
  | some body => body.varNames

def handlerVarNames : Option CatchClause → List String
  | none => []
  | some (.mk _ _ body) => body.varNames

def caseVarNames : List SwitchCase → List String
  | [] => []
  | .mk _ _ body :: rest => stmtVarNames body ++ caseVarNames rest

end

def Decl.boundNames : Decl → List String
  | .var decl => decl.boundNames
  | .function name _ => [name.name]
  | .class name _ => [name.name]

def Stmt.declaredNames : Stmt → List String
  | .decl inner => inner.boundNames
  | .labeled _ _ body => body.declaredNames
  | other => other.varNames

def ImportSpecifier.boundName : ImportSpecifier → String
  | .default local_ => local_.name
  | .namespace _ local_ => local_.name
  | .named _ local_ _ => local_.name

def Item.declaredNames : Item → List String
  | .stmt inner => inner.declaredNames
  | .importDecl _ _ specifiers _ => specifiers.map ImportSpecifier.boundName
  | .exportDecl _ decl => decl.boundNames
  | .exportDefaultFunction _ (some name) _ => [name.name]
  | .exportDefaultClass _ (some name) _ => [name.name]
  | _ => []

def Program.declaredNames (program : Program) : List String :=
  program.items.flatMap Item.declaredNames

/-- The names that a constructor declares for the statements of its body. -/
def ClassMember.constructorNames? : ClassMember → Option (List String)
  | .constructor _ _ params (some (.mk _ stmts)) =>
    some (params.flatMap Pattern.boundNames ++ stmts.flatMap Stmt.declaredNames)
  | _ => none

/-- The names that the first constructor with a body declares for the statements of it. -/
def ClassDef.constructorNames (cls : ClassDef) : List String :=
  (cls.members.findSome? ClassMember.constructorNames?).getD []

/-- The names that are bound where a class of a program calls its superclass: those of the program,
the name of the class, and those of its constructor. -/
def Program.namesAtCall (program : Program) (found : NamedClass) : List String :=
  program.declaredNames ++ found.name.name :: found.cls.constructorNames

theorem Item.declaredNames_updateClass {α : Type} (change : Ident → ClassDef → ClassDef × α)
    (item : Item) : (item.updateClass change).1.declaredNames = item.declaredNames := by
  unfold updateClass
  split <;> rfl

/-- No declaration depends on what a class is made of. -/
theorem Program.declaredNames_updateClasses {α : Type}
    (change : Ident → ClassDef → ClassDef × α) (program : Program) :
    (program.updateClasses change).1.declaredNames = program.declaredNames := by
  simp only [declaredNames, updateClasses, List.flatMap_map, Item.declaredNames_updateClass]

theorem BodySite.declaredNames_fill (site : BodySite) (args : List Argument) :
    (site.fill args).flatMap Stmt.declaredNames =
      site.before.flatMap Stmt.declaredNames ++ site.after.flatMap Stmt.declaredNames := by
  rw [fill, List.flatMap_append, List.flatMap_cons]
  rfl

theorem SuperCallSite.constructorNames_fill (site : SuperCallSite) (args : List Argument) :
    (site.fill args).constructorNames = site.params.flatMap Pattern.boundNames ++
      (site.body.before.flatMap Stmt.declaredNames ++
        site.body.after.flatMap Stmt.declaredNames) := by
  have earlier : site.before.findSome? ClassMember.constructorNames? = none := by
    apply List.findSome?_eq_none_iff.mpr
    intro member listed
    have none := site.first member listed
    unfold ClassMember.constructorBody? at none
    unfold ClassMember.constructorNames?
    split at none <;> simp_all
  simp only [ClassDef.constructorNames, fill, ClassDef.members, List.findSome?_append, earlier,
    List.findSome?_cons, ClassMember.constructorNames?, BodySite.declaredNames_fill]
  rfl

end GrammarEmbed.Ast
