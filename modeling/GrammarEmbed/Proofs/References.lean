import GrammarEmbed.Proofs.Scopes

namespace GrammarEmbed

namespace Ast

mutual

def Expr.references : Expr → List String
  | .this _ => []
  | .ident id => [id.name]
  | .literal _ => []
  | .privateName .. => []
  | .array _ elements => elementReferences elements
  | .object _ properties => propertyReferences properties
  | .function _ fn => fn.references
  | .arrow _ _ params body => patternReferences params ++ body.references
  | .classExpr _ cls => cls.references
  | .unary _ _ operand => operand.references
  | .update _ _ _ operand => operand.references
  | .binary _ _ left right => left.references ++ right.references
  | .assign _ _ target value => target.boundNames ++ target.references ++ value.references
  | .member _ object key => object.references ++ key.references
  | .superMember _ _ key => key.references
  | .conditional _ test consequent alternate =>
    test.references ++ consequent.references ++ alternate.references
  | .call _ callee args => callee.references ++ argumentReferences args
  | .superCall _ _ args => argumentReferences args
  | .importCall _ _ _ args => argumentReferences args
  | .new _ callee _ args => callee.references ++ argumentReferences args
  | .sequence _ exprs => exprReferences exprs
  | .template _ _ exprs => exprReferences exprs
  | .taggedTemplate _ tag _ _ exprs => tag.references ++ exprReferences exprs
  | .yield _ _ operand => optionalReferences operand
  | .await _ operand => operand.references
  | .paren _ inner => inner.references
  | .metaProperty .. => []
  | .optionalMember _ _ object key => object.references ++ key.references
  | .optionalCall _ _ callee args => callee.references ++ argumentReferences args

def exprReferences : List Expr → List String
  | [] => []
  | e :: rest => e.references ++ exprReferences rest

def optionalReferences : Option Expr → List String
  | none => []
  | some e => e.references

def elementReferences : List Element → List String
  | [] => []
  | .hole :: rest => elementReferences rest
  | .item arg :: rest => arg.references ++ elementReferences rest

def Argument.references : Argument → List String
  | .mk _ value => value.references

def argumentReferences : List Argument → List String
  | [] => []
  | arg :: rest => arg.references ++ argumentReferences rest

def MemberKey.references : MemberKey → List String
  | .computed _ index => index.references
  | .name _ => []
  | .privateName .. => []

def ArrowBody.references : ArrowBody → List String
  | .block body => body.references
  | .expr body => body.references

def PropertyKey.references : PropertyKey → List String
  | .computed _ index => index.references
  | .name _ => []
  | .str _ => []
  | .num .. => []
  | .bigint .. => []
  | .privateName .. => []

def Property.references : Property → List String
  | .shorthand id => [id.name]
  | .keyValue key value => key.references ++ value.references
  | .initialized _ id value => id.name :: value.references
  | .getter _ key body => key.references ++ body.references
  | .setter _ key param body => key.references ++ param.references ++ body.references
  | .method key fn => key.references ++ fn.references
  | .spread _ value => value.references

def propertyReferences : List Property → List String
  | [] => []
  | property :: rest => property.references ++ propertyReferences rest

def Pattern.references : Pattern → List String
  | .ident _ => []
  | .array _ elements => elementPatternReferences elements
  | .object _ properties => patternPropertyReferences properties
  | .rest _ inner => inner.references
  | .assign _ left right => left.references ++ right.references
  | .expr target => target.references

def patternReferences : List Pattern → List String
  | [] => []
  | pattern :: rest => pattern.references ++ patternReferences rest

def elementPatternReferences : List (Option Pattern) → List String
  | [] => []
  | none :: rest => elementPatternReferences rest
  | some pattern :: rest => pattern.references ++ elementPatternReferences rest

def PatternProperty.references : PatternProperty → List String
  | .keyValue key value => key.references ++ value.references
  | .shorthand _ _ fallback => optionalReferences fallback
  | .rest _ inner => inner.references

def patternPropertyReferences : List PatternProperty → List String
  | [] => []
  | property :: rest => property.references ++ patternPropertyReferences rest

def Func.references : Func → List String
  | .mk _ params body _ _ => patternReferences params ++ body.references

def Block.references : Block → List String
  | .mk _ stmts => stmtReferences stmts

def optionalBlockReferences : Option Block → List String
  | none => []
  | some body => body.references

def ClassDef.references : ClassDef → List String
  | .mk _ superclass members => optionalReferences superclass ++ memberReferences members

def ClassMember.references : ClassMember → List String
  | .constructor _ key params body =>
    key.references ++ patternReferences params ++ optionalBlockReferences body
  | .method _ _ _ key fn => key.references ++ fn.references
  | .field _ _ key value => key.references ++ optionalReferences value
  | .staticBlock _ body => body.references
  | .empty _ => []

def memberReferences : List ClassMember → List String
  | [] => []
  | member :: rest => member.references ++ memberReferences rest

def Declarator.references : Declarator → List String
  | .mk _ target init => target.references ++ optionalReferences init

def declaratorReferences : List Declarator → List String
  | [] => []
  | declarator :: rest => declarator.references ++ declaratorReferences rest

def VarDecl.references : VarDecl → List String
  | .mk _ _ declarators => declaratorReferences declarators

def Decl.references : Decl → List String
  | .var inner => inner.references
  | .function _ fn => fn.references
  | .class _ cls => cls.references

def ForHead.references : ForHead → List String
  | .none => []
  | .decl inner => inner.references
  | .pattern target => target.boundNames ++ target.references

def CatchClause.references : CatchClause → List String
  | .mk _ none body => body.references
  | .mk _ (some param) body => param.references ++ body.references

def handlerReferences : Option CatchClause → List String
  | none => []
  | some clause => clause.references

def SwitchCase.references : SwitchCase → List String
  | .mk _ test body => optionalReferences test ++ stmtReferences body

def caseReferences : List SwitchCase → List String
  | [] => []
  | case :: rest => case.references ++ caseReferences rest

def Stmt.references : Stmt → List String
  | .block body => body.references
  | .empty _ => []
  | .expr _ value => value.references
  | .decl inner => inner.references
  | .ifElse _ test consequent none => test.references ++ consequent.references
  | .ifElse _ test consequent (some alternate) =>
    test.references ++ consequent.references ++ alternate.references
  | .for _ init test update body =>
    init.references ++ optionalReferences test ++ optionalReferences update ++ body.references
  | .forIn _ head object body => head.references ++ object.references ++ body.references
  | .forOf _ _ head iterable body => head.references ++ iterable.references ++ body.references
  | .while _ test body => test.references ++ body.references
  | .doWhile _ body test => body.references ++ test.references
  | .return _ value => optionalReferences value
  | .break .. => []
  | .continue .. => []
  | .throw _ value => value.references
  | .try _ body handler finalizer =>
    body.references ++ handlerReferences handler ++ optionalBlockReferences finalizer
  | .switch _ discriminant cases => discriminant.references ++ caseReferences cases
  | .labeled _ _ body => body.references
  | .with _ object body => object.references ++ body.references
  | .debugger _ => []

def stmtReferences : List Stmt → List String
  | [] => []
  | stmt :: rest => stmt.references ++ stmtReferences rest

end

theorem argumentReferences_cons (dots : Option Span) (value : Expr) (rest : List Argument) :
    argumentReferences (.mk dots value :: rest) = value.references ++ argumentReferences rest := rfl

theorem Expr.references_object (span : Span) (properties : List Property) :
    (Expr.object span properties).references = propertyReferences properties := rfl

theorem propertyReferences_cons (property : Property) (rest : List Property) :
    propertyReferences (property :: rest) = property.references ++ propertyReferences rest := rfl

theorem propertyReferences_append (properties others : List Property) :
    propertyReferences (properties ++ others) =
      propertyReferences properties ++ propertyReferences others := by
  induction properties with
  | nil => rfl
  | cons property rest ih =>
    rw [List.cons_append, propertyReferences_cons, propertyReferences_cons, ih, List.append_assoc]

/-- Of the property that holds a grammar only one name is looked up. -/
theorem Property.references_made (name json : String) :
    (Property.made name (.madeJsonParse json)).references = ["JSON"] := rfl

end Ast

namespace Injector

open Ast

/-- The names that injection writes into a call to be looked up there: a second one stands in for a
missing first argument. -/
def writtenNames (args : List Argument) : List String :=
  if args.isEmpty then ["undefined", "JSON"] else ["JSON"]

/-- What a call no longer looks up: the names of the property that was exchanged, the first one of
the literal that declares the name. -/
inductive Dropped (name : String) : List Property → InjectionOutcome → List String → Prop where
  | nothing (properties : List Property) : Dropped name properties .injected []
  | exchanged {before after : List Property} {old : Property}
      (first : ∀ property ∈ before, ¬property.Declares name) (declared : old.Declares name) :
      Dropped name (before ++ old :: after) .replaced old.references

variable {injector : Injector} {json : String} {outcome : InjectionOutcome}

theorem Placed.references_perm {properties placed : List Property}
    (step : Placed injector (.madeJsonParse json) properties placed outcome)
    (changed : ∀ reason, outcome ≠ .skipped reason) :
    ∃ dropped, Dropped injector.property properties outcome dropped ∧
      (propertyReferences placed ++ dropped).Perm
        ("JSON" :: propertyReferences properties) := by
  cases step with
  | kept => exact absurd rfl (changed _)
  | appended room =>
    refine ⟨[], .nothing properties, ?_⟩
    rw [propertyReferences_append, List.append_nil]
    exact List.perm_append_singleton "JSON" (propertyReferences properties)
  | @exchanged before after old policy first declared =>
    refine ⟨old.references, .exchanged ?_ (declares_iff.mp declared), ?_⟩
    · intro property member declares
      rw [← declares_iff, first property member] at declares
      cases declares
    · apply List.perm_iff_count.mpr
      intro name
      simp only [propertyReferences_append, propertyReferences_cons, Property.references_made,
        List.count_append, List.count_cons, List.count_nil]
      omega

/-- A call that receives a grammar looks up what it did before, but for what an exchanged property
did, and the names that are written. -/
theorem Extended.references_perm {args extended : List Argument}
    (step : Extended injector (.madeJsonParse json) args extended outcome)
    (changed : ∀ reason, outcome ≠ .skipped reason) :
    ∃ dropped, Dropped injector.property ((configuration? args).getD []) outcome dropped ∧
      (argumentReferences extended ++ dropped).Perm
        (writtenNames args ++ argumentReferences args) := by
  cases step with
  | none => exact ⟨[], .nothing _, .refl _⟩
  | one first =>
    refine ⟨[], .nothing _, ?_⟩
    rw [List.append_nil]
    have before : argumentReferences [.mk .none first] = first.references := List.append_nil _
    have after : argumentReferences [.mk .none first,
        .mk .none (.madeObject [.made injector.property (.madeJsonParse json)])] =
          first.references ++ ["JSON"] := rfl
    rw [before, after]
    exact List.perm_append_singleton "JSON" first.references
  | literal first span rest step =>
    obtain ⟨dropped, lost, placed⟩ := step.references_perm changed
    refine ⟨dropped, lost, ?_⟩
    apply List.perm_iff_count.mpr
    intro name
    have literal := placed.count_eq name
    simp only [writtenNames, argumentReferences_cons, Expr.references_object, List.isEmpty_cons,
      Bool.false_eq_true, if_false, List.count_append, List.count_cons, List.count_nil] at literal ⊢
    omega
  | blocked => exact absurd rfl (changed _)

end Injector

end GrammarEmbed
