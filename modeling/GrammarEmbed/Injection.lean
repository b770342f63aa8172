import GrammarEmbed.Classes
import GrammarEmbed.Config
import GrammarEmbed.Extraction
import GrammarEmbed.Json.Writer
import GrammarEmbed.Ast.Build

/-!
Putting grammars into a program. The first `super(…)` statement of a parser class's constructor
receives the grammar as a property of its second argument. A class whose shape does not allow
that is left as it is.
-/

namespace GrammarEmbed

open Ast

/-- Why a class did not receive its grammar. -/
inductive InjectionSkip where
  | noConstructor
  | noSuperCall
  | unsupportedConfigShape
  | alreadyPresent
  | noGrammar
deriving DecidableEq, Repr, Inhabited

def InjectionSkip.message : InjectionSkip → String
  | .noConstructor => "no constructor"
  | .noSuperCall => "no top-level super call in constructor"
  | .unsupportedConfigShape => "config argument is not an object literal"
  | .alreadyPresent => "grammar property already present"
  | .noGrammar => "no serialized grammar"

inductive InjectionOutcome where
  | injected
  | replaced
  | skipped (reason : InjectionSkip)
deriving DecidableEq, Repr, Inhabited

structure ClassInjection where
  className : String
  outcome : InjectionOutcome
deriving DecidableEq, Repr

namespace ClassInjection

/-- Whether the class received its grammar. -/
def changed (injection : ClassInjection) : Bool :=
  match injection.outcome with
  | .skipped _ => false
  | _ => true

end ClassInjection

structure Injector where
  property : String
  policy : DuplicatePolicy
deriving Repr

namespace Injector

/-- Whether a property of an object literal has the given name and a value. -/
def declares (name : String) : Property → Bool
  | .keyValue key _ => key.spells name
  | .shorthand id => id.name == name
  | _ => false

/-- Adds the property to a configuration literal as the policy says. -/
def addProperty (injector : Injector) (value : Expr) (properties : List Property) :
    List Property × InjectionOutcome :=
  let property := Property.made injector.property value
  match properties.findIdx? (declares injector.property), injector.policy with
  | some _, .skip => (properties, .skipped .alreadyPresent)
  | some index, .replace => (properties.set index property, .replaced)
  | none, _ | some _, .append => (properties ++ [property], .injected)

def isSpread : Argument → Bool
  | .mk dots _ => dots.isSome

/-- Adds the property to the second of the arguments. Behind a spread its place is unknown. -/
def addToArguments (injector : Injector) (value : Expr) (args : List Argument) :
    List Argument × InjectionOutcome :=
  let config := Argument.mk none (.madeObject [.made injector.property value])
  if (args.take 2).any isSpread then (args, .skipped .unsupportedConfigShape)
  else match args with
    | [] => ([.mk none .madeUndefined, config], .injected)
    | [first] => ([first, config], .injected)
    | first :: .mk dots (.object span properties) :: rest =>
      let (properties, outcome) := injector.addProperty value properties
      (first :: .mk dots (.object span properties) :: rest, outcome)
    | _ => (args, .skipped .unsupportedConfigShape)

/-- Changes the first `super(…)` statement. -/
def addToBody (injector : Injector) (value : Expr) : List Stmt → List Stmt × InjectionOutcome
  | [] => ([], .skipped .noSuperCall)
  | .expr span (.superCall callSpan superSpan args) :: rest =>
    let (args, outcome) := injector.addToArguments value args
    (.expr span (.superCall callSpan superSpan args) :: rest, outcome)
  | stmt :: rest =>
    let (rest, outcome) := injector.addToBody value rest
    (stmt :: rest, outcome)

/-- Changes the first constructor that has a body. -/
def addToMembers (injector : Injector) (value : Expr) :
    List ClassMember → List ClassMember × InjectionOutcome
  | [] => ([], .skipped .noConstructor)
  | .constructor span key params (some (.mk bodySpan stmts)) :: rest =>
    let (stmts, outcome) := injector.addToBody value stmts
    (.constructor span key params (some (.mk bodySpan stmts)) :: rest, outcome)
  | member :: rest =>
    let (rest, outcome) := injector.addToMembers value rest
    (member :: rest, outcome)

/-- Puts a grammar into a class. -/
def addToClass (injector : Injector) (grammar : Json.Value) :
    ClassDef → ClassDef × InjectionOutcome
  | .mk span superclass members =>
    let (members, outcome) := injector.addToMembers (.madeJsonParse grammar.compact) members
    (.mk span superclass members, outcome)

def visit (injector : Injector) (aliases : Aliases) (grammars : Grammars) (name : Ident)
    (cls : ClassDef) : ClassDef × Option ClassInjection :=
  if cls.inherits aliases then
    match grammars.get? name.name with
    | some grammar =>
      let (cls, outcome) := injector.addToClass grammar cls
      (cls, some ⟨name.name, outcome⟩)
    | none => (cls, some ⟨name.name, .skipped .noGrammar⟩)
  else (cls, none)

/-- Puts grammars into all parser classes of a program, in source order. -/
def inject (injector : Injector) (aliases : Aliases) (grammars : Grammars) (program : Program) :
    Program × List ClassInjection :=
  let (program, results) := program.updateClasses (injector.visit aliases grammars)
  (program, results.filterMap id)

end Injector

end GrammarEmbed
