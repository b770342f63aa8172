import GrammarEmbed.Injection

/-!
The place where a class receives its grammar: the first `super(…)` statement of its first
constructor with a body. A site is a class with a hole for the arguments of that statement.
-/

namespace GrammarEmbed.Ast

def Stmt.superArguments? : Stmt → Option (List Argument)
  | .expr _ (.superCall _ _ args) => some args
  | _ => none

def ClassMember.constructorBody? : ClassMember → Option (List Stmt)
  | .constructor _ _ _ (some (.mk _ stmts)) => some stmts
  | _ => none

namespace ClassDef

/-- The statements of the first constructor that has a body. -/
def constructorBody? (cls : ClassDef) : Option (List Stmt) :=
  cls.members.findSome? ClassMember.constructorBody?

def superArguments? (cls : ClassDef) : Option (List Argument) :=
  cls.constructorBody?.bind fun stmts => stmts.findSome? Stmt.superArguments?

end ClassDef

/-- A body with a hole for the arguments of its first `super(…)` statement. -/
structure BodySite where
  before : List Stmt
  span : Span
  callSpan : Span
  superSpan : Span
  after : List Stmt
  first : ∀ stmt ∈ before, stmt.superArguments? = none

namespace BodySite

def fill (site : BodySite) (args : List Argument) : List Stmt :=
  site.before ++ .expr site.span (.superCall site.callSpan site.superSpan args) :: site.after

theorem superArguments_fill (site : BodySite) (args : List Argument) :
    (site.fill args).findSome? Stmt.superArguments? = some args := by
  have none_before : site.before.findSome? Stmt.superArguments? = none :=
    List.findSome?_eq_none_iff.mpr site.first
  rw [fill, List.findSome?_append, none_before]
  rfl

theorem exists_fill {stmts : List Stmt} {args : List Argument}
    (found : stmts.findSome? Stmt.superArguments? = some args) :
    ∃ site : BodySite, stmts = site.fill args := by
  obtain ⟨before, stmt, after, split, here, first⟩ := List.findSome?_eq_some_iff.mp found
  unfold Stmt.superArguments? at here
  split at here
  · cases here
    exact ⟨⟨before, _, _, _, after, first⟩, split⟩
  · cases here

end BodySite

/-- A class with a hole for the arguments of its first `super(…)` statement. -/
structure SuperCallSite where
  classSpan : Span
  superclass : Option Expr
  before : List ClassMember
  span : Span
  key : PropertyKey
  params : List Pattern
  bodySpan : Span
  body : BodySite
  after : List ClassMember
  first : ∀ member ∈ before, member.constructorBody? = none

namespace SuperCallSite

def fill (site : SuperCallSite) (args : List Argument) : ClassDef :=
  .mk site.classSpan site.superclass
    (site.before ++
      .constructor site.span site.key site.params
        (some (.mk site.bodySpan (site.body.fill args))) :: site.after)

@[simp] theorem superArguments_fill (site : SuperCallSite) (args : List Argument) :
    (site.fill args).superArguments? = some args := by
  have none_before : site.before.findSome? ClassMember.constructorBody? = none :=
    List.findSome?_eq_none_iff.mpr site.first
  have constructed : (site.fill args).constructorBody? = some (site.body.fill args) := by
    rw [ClassDef.constructorBody?, fill, ClassDef.members, List.findSome?_append, none_before]
    rfl
  rw [ClassDef.superArguments?, constructed, Option.bind_some, BodySite.superArguments_fill]

/-- Every class that calls its superclass is a filled site. -/
theorem exists_fill {cls : ClassDef} {args : List Argument}
    (found : cls.superArguments? = some args) : ∃ site : SuperCallSite, cls = site.fill args := by
  obtain ⟨classSpan, superclass, members⟩ := cls
  obtain ⟨stmts, constructed, called⟩ := Option.bind_eq_some_iff.mp found
  obtain ⟨before, member, after, split, here, first⟩ :=
    List.findSome?_eq_some_iff.mp constructed
  obtain ⟨body, rfl⟩ := BodySite.exists_fill called
  unfold ClassMember.constructorBody? at here
  split at here
  · cases here
    exact ⟨⟨classSpan, superclass, before, _, _, _, _, body, after, first⟩,
      congrArg (ClassDef.mk classSpan superclass) split⟩
  · cases here

end SuperCallSite

end GrammarEmbed.Ast

namespace GrammarEmbed.Injector

open Ast

variable (injector : Injector) (value : Expr)

private theorem addToBody_cons_of_none {stmt : Stmt} (none : stmt.superArguments? = none)
    (rest : List Stmt) :
    injector.addToBody value (stmt :: rest) =
      (stmt :: (injector.addToBody value rest).1, (injector.addToBody value rest).2) := by
  rw [addToBody]
  intro span callSpan superSpan args same
  subst same
  cases none

theorem addToBody_fill (site : BodySite) (args : List Argument) :
    injector.addToBody value (site.fill args) =
      (site.fill (injector.addToArguments value args).1,
        (injector.addToArguments value args).2) := by
  obtain ⟨before, span, callSpan, superSpan, after, first⟩ := site
  simp only [BodySite.fill]
  induction before with
  | nil => rfl
  | cons stmt rest ih =>
    have head := first stmt (by simp)
    have tail := ih fun stmt member => first stmt (by simp [member])
    rw [List.cons_append, addToBody_cons_of_none injector value head, tail]
    rfl

theorem addToBody_of_none {stmts : List Stmt}
    (none : stmts.findSome? Stmt.superArguments? = none) :
    injector.addToBody value stmts = (stmts, .skipped .noSuperCall) := by
  induction stmts with
  | nil => rfl
  | cons stmt rest ih =>
    obtain ⟨head, tail⟩ : stmt.superArguments? = Option.none ∧
        rest.findSome? Stmt.superArguments? = Option.none := by
      simpa using none
    rw [addToBody_cons_of_none injector value head, ih tail]

private theorem addToMembers_cons_of_none {member : ClassMember}
    (none : member.constructorBody? = none) (rest : List ClassMember) :
    injector.addToMembers value (member :: rest) =
      (member :: (injector.addToMembers value rest).1, (injector.addToMembers value rest).2) := by
  rw [addToMembers]
  intro span key params bodySpan stmts same
  subst same
  cases none

private theorem addToMembers_append_of_none {before : List ClassMember}
    (none : ∀ member ∈ before, member.constructorBody? = none) (rest : List ClassMember) :
    injector.addToMembers value (before ++ rest) =
      (before ++ (injector.addToMembers value rest).1, (injector.addToMembers value rest).2) := by
  induction before with
  | nil => rfl
  | cons member before ih =>
    have head := none member (by simp)
    have tail := ih fun member found => none member (by simp [found])
    rw [List.cons_append, addToMembers_cons_of_none injector value head, tail]
    rfl

/-- Injection into a class with a `super(…)` statement changes only the arguments of it. -/
theorem addToClass_fill (grammar : Json.Value) (site : SuperCallSite) (args : List Argument) :
    injector.addToClass grammar (site.fill args) =
      (site.fill (injector.addToArguments (.madeJsonParse grammar.compact) args).1,
        (injector.addToArguments (.madeJsonParse grammar.compact) args).2) := by
  simp [addToClass, SuperCallSite.fill, addToMembers_append_of_none injector _ site.first,
    addToMembers, addToBody_fill]

theorem addToClass_of_noConstructor (grammar : Json.Value) {cls : ClassDef}
    (none : cls.constructorBody? = none) :
    injector.addToClass grammar cls = (cls, .skipped .noConstructor) := by
  obtain ⟨classSpan, superclass, members⟩ := cls
  have same := addToMembers_append_of_none injector (.madeJsonParse grammar.compact)
    (List.findSome?_eq_none_iff.mp none) []
  simp_all [addToClass, addToMembers, ClassDef.members]

theorem addToClass_of_noSuperCall (grammar : Json.Value) {cls : ClassDef} {stmts : List Stmt}
    (constructed : cls.constructorBody? = some stmts)
    (none : stmts.findSome? Stmt.superArguments? = none) :
    injector.addToClass grammar cls = (cls, .skipped .noSuperCall) := by
  obtain ⟨classSpan, superclass, members⟩ := cls
  obtain ⟨before, member, after, split, here, first⟩ := List.findSome?_eq_some_iff.mp constructed
  obtain rfl : members = before ++ member :: after := split
  unfold ClassMember.constructorBody? at here
  split at here
  · cases here
    simp [addToClass, addToMembers_append_of_none injector _ first, addToMembers,
      addToBody_of_none injector _ none]
  · cases here

theorem addToClass_of_none (grammar : Json.Value) {cls : ClassDef}
    (none : cls.superArguments? = none) :
    ∃ reason, injector.addToClass grammar cls = (cls, .skipped reason) := by
  cases constructed : cls.constructorBody? with
  | none => exact ⟨_, addToClass_of_noConstructor injector grammar constructed⟩
  | some stmts =>
    have noCall : stmts.findSome? Stmt.superArguments? = Option.none := by
      simpa [ClassDef.superArguments?, constructed] using none
    exact ⟨_, addToClass_of_noSuperCall injector grammar constructed noCall⟩

end GrammarEmbed.Injector
