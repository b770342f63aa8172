import GrammarEmbed.Ast.Cleared
import GrammarEmbed.Layout.Program
import GrammarEmbed.Proofs.CommentSlots

/-!
Layouts without slots. Where there are no comments and no text to look back into, only what is left
of a layout without its slots counts, and that is the same for a tree and for the cleared tree.
-/

namespace GrammarEmbed

namespace Layout

/-- A layout as it is written when there are no comments. -/
def bare : Layout → Layout
  | .empty | .leading _ | .trailing _ | .attached _ | .commaIn .. | .lineIfLeading _ => .empty
  | .text s => .text s
  | .line => .line
  | .indented body => .indented body.bare
  | .append first second => .append first.bare second.bare
  | .guarded _ _ body => .append (.text " ") body.bare

@[simp] theorem bare_append (first second : Layout) :
    (first ++ second).bare = first.bare ++ second.bare :=
  rfl

attribute [simp] bare

end Layout

/-- A writer without comments writes a layout and the bare layout alike. -/
theorem Writer.run_bare (layout : Layout) (w : Writer) (none : w.comments = {}) :
    w.run layout.bare = w.run layout := by
  induction layout generalizing w with
  | empty | text | line => rfl
  | indented body ih =>
    have inner := ih { w with level := w.level + 1 } none
    simp only [Layout.bare, run, inner]
  | append first second ihFirst ihSecond =>
    have left : (w.run first).comments = {} := by
      rw [comments_run, none]
      rfl
    simp only [Layout.bare, run, ihFirst w none, ihSecond _ left]
  | leading pos | trailing pos | attached pos =>
    obtain ⟨written, lineStart, level, comments⟩ := w
    cases none
    rfl
  | commaIn lo hi | lineIfLeading pos =>
    obtain ⟨written, lineStart, level, comments⟩ := w
    cases none
    rfl
  | guarded pos isEnough body ih =>
    have spaced : (w.put " ").comments = {} := by rw [comments_put, none]
    have free : (Comments.at_ pos w.comments.leading).any (fun c => isEnough || breaksLine c) =
        false := by
      rw [none]
      rfl
    simp only [Layout.bare, run, ih _ spaced, free]
    rfl

namespace Ast

open Layout (bare)

section Lists

def chained (last other : Layout → Layout) : List Layout → Layout
  | [] => .empty
  | [only] => last only
  | first :: rest => other first ++ chained last other rest

def bares (parts : List Part) : List Layout :=
  parts.map fun part => part.2.bare

@[simp] theorem bare_partEnd (parent part : Span) : (partEnd parent part).bare = .empty := by
  unfold partEnd
  split <;> rfl

@[simp] theorem bare_followed (body : Layout) (span : Span) :
    (followed body span).bare = body.bare ++ .empty :=
  rfl

@[simp] theorem bare_braced (isEmpty : Bool) (body : Layout) :
    (braced isEmpty body).bare = braced isEmpty body.bare := by
  cases isEmpty <;> rfl

@[simp] theorem bare_lineIfLeading (condition : Prop) [Decidable condition] (pos : Nat) :
    (if condition then Layout.lineIfLeading pos else .empty).bare = .empty := by
  split <;> rfl

@[simp] theorem bare_stacked (parent : Span) (parts : List Part) :
    (stacked parent parts).bare =
      chained (· ++ .empty) (· ++ .empty ++ .text "," ++ .line) (bares parts) := by
  induction parts with
  | nil => rfl
  | cons part rest ih => cases rest <;> simp_all [stacked, bares, chained]

@[simp] theorem bare_inlineThen (parent : Span) (last : Layout) (parts : List Part) :
    (inlineThen parent last parts).bare =
      chained (· ++ .empty ++ last.bare ++ .empty) (· ++ .empty ++ .empty ++ .text ", ")
        (bares parts) := by
  induction parts with
  | nil => rfl
  | cons part rest ih => cases rest <;> simp_all [inlineThen, bares, chained]

@[simp] theorem bare_inline (parent : Span) (parts : List Part) :
    (inline parent parts).bare =
      chained (· ++ .empty ++ .empty ++ .empty) (· ++ .empty ++ .empty ++ .text ", ")
        (bares parts) :=
  bare_inlineThen parent .empty parts

@[simp] theorem bare_lines (parts : List Layout) :
    (lines parts).bare = chained id (· ++ .line) (parts.map bare) := by
  induction parts with
  | nil => rfl
  | cons part rest ih => cases rest <;> simp_all [lines, chained]

@[simp] theorem bare_commas (parts : List Layout) :
    (commas parts).bare = chained id (· ++ .text ", ") (parts.map bare) := by
  induction parts with
  | nil => rfl
  | cons part rest ih => cases rest <;> simp_all [commas, chained]

@[simp] theorem bare_templateBody (piece : Quasi → String) (quasis : List Quasi)
    (exprs : List Layout) :
    (templateBody piece quasis exprs).bare = templateBody piece quasis (exprs.map bare) := by
  induction quasis generalizing exprs with
  | nil => rfl
  | cons quasi rest ih => cases exprs <;> simp_all [templateBody]

/-- The pieces of a template are written as they are, wherever they stood. -/
theorem templateBody_cleared (piece : Quasi → String)
    (same : ∀ quasi, piece quasi.cleared = piece quasi) (quasis : List Quasi)
    (exprs : List Layout) :
    templateBody piece (quasis.map Quasi.cleared) exprs = templateBody piece quasis exprs := by
  induction quasis generalizing exprs with
  | nil => rfl
  | cons quasi rest ih => cases exprs <;> simp [templateBody, same, ih]

end Lists

section Leaves

@[simp] theorem Ident.bare_cleared (id : Ident) : id.cleared.layout.bare = id.layout.bare :=
  rfl

@[simp] theorem StringLit.bare_cleared (lit : StringLit) :
    lit.cleared.layout.bare = lit.layout.bare :=
  rfl

@[simp] theorem Literal.bare_cleared (lit : Literal) :
    lit.cleared.layout.bare = lit.layout.bare := by
  cases lit with
  | bool span value => cases value <;> rfl
  | _ => rfl

@[simp] theorem bare_privateLayout (span : Span) (name : String) :
    (privateLayout span name).bare = .empty ++ .text "#" ++ .text name :=
  rfl

@[simp] theorem needsSignGap_cleared (op : UnaryOp) (operand : Expr) :
    needsSignGap op operand.cleared = needsSignGap op operand := by
  cases operand with
  | unary _ inner => cases op <;> cases inner <;> rfl
  | update _ inner isPrefix => cases op <;> cases inner <;> cases isPrefix <;> rfl
  | _ => cases op <;> rfl

@[simp] theorem isEmpty_clearedElements (elements : List Element) :
    (clearedElements elements).isEmpty = elements.isEmpty := by
  cases elements with
  | nil => rfl
  | cons element => cases element <;> rfl

@[simp] theorem isEmpty_clearedProperties (properties : List Property) :
    (clearedProperties properties).isEmpty = properties.isEmpty := by
  cases properties <;> rfl

@[simp] theorem isEmpty_clearedStmts (stmts : List Stmt) :
    (clearedStmts stmts).isEmpty = stmts.isEmpty := by
  cases stmts <;> rfl

@[simp] theorem Func.keyword_cleared (fn : Func) : fn.cleared.keyword = fn.keyword := by
  cases fn
  rfl

@[simp] theorem Func.star_cleared (fn : Func) : fn.cleared.star = fn.star := by
  cases fn
  rfl

theorem lastHole_cleared (elements : List Element) :
    lastHole (clearedElements elements) = lastHole elements := by
  fun_induction lastHole elements with
  | case1 | case2 => rfl
  | case3 element rest other ih =>
    cases element with
    | hole =>
      cases rest with
      | nil => exact absurd rfl (other rfl)
      | cons next => cases next <;> exact ih
    | item arg =>
      cases rest with
      | nil => rfl
      | cons next => cases next <;> exact ih

theorem lastGap_cleared (elements : List (Option Pattern)) :
    lastGap (clearedGaps elements) = lastGap elements := by
  fun_induction lastGap elements with
  | case1 | case2 => rfl
  | case3 element rest other ih =>
    cases element with
    | none =>
      cases rest with
      | nil => exact absurd rfl (other rfl)
      | cons next => cases next <;> exact ih
    | some arg =>
      cases rest with
      | nil => rfl
      | cons next => cases next <;> exact ih

@[simp] theorem PropertyKey.bare_comments (key : PropertyKey) : key.comments.bare = .empty := by
  cases key <;> rfl

end Leaves

section Cases

@[simp] theorem MemberKey.bare_secondPoint (key : MemberKey) :
    key.cleared.secondPoint.bare = key.secondPoint.bare := by
  cases key <;> rfl

theorem Expr.exists_number_of_cleared {e : Expr} {span : Span} {text : String}
    (number : e.cleared = .literal (.num span text)) :
    ∃ place raw, e = .literal (.num place raw) := by
  cases e with
  | literal lit =>
    cases lit with
    | num place raw => exact ⟨place, raw, rfl⟩
    | _ => cases number
  | _ => cases number

/-- A number has a layout of its own in front of a member. -/
theorem Expr.layout_member {object : Expr} (span : Span) (key : MemberKey)
    (plain : ∀ place raw, object ≠ .literal (.num place raw)) :
    (Expr.member span object key).layout =
      .leading span.lo ++ followed object.layout object.span ++ key.layout := by
  rw [Expr.layout]
  exact plain

def Stmt.gap : Stmt → Layout
  | .block _ => .text " "
  | _ => .empty

theorem Stmt.gap_cleared (stmt : Stmt) : stmt.cleared.gap.bare = stmt.gap.bare := by
  cases stmt with
  | ifElse _ _ _ alternate => cases alternate <;> rfl
  | _ => rfl

theorem Stmt.layout_ifElse (span : Span) (test : Expr) (consequent alternate : Stmt) :
    (Stmt.ifElse span test consequent (some alternate)).layout =
      .leading span.lo ++ .text "if (" ++ followed test.layout test.span ++ .text ") " ++
        consequent.layout ++ consequent.gap ++ .text "else " ++ alternate.layout ++
        .trailing span.hi ++ .line :=
  rfl

end Cases

mutual

theorem Expr.bare_cleared (e : Expr) : e.cleared.layout.bare = e.layout.bare := by
  match e with
  | .this _ => rfl
  | .ident _ => rfl
  | .literal lit => exact lit.bare_cleared
  | .privateName .. => rfl
  | .array _ elements =>
    simp [Expr.cleared, Expr.layout, bares_clearedElements elements, lastHole_cleared]
  | .object _ properties =>
    simp [Expr.cleared, Expr.layout, bares_clearedProperties properties]
  | .function name fn => cases name <;> simp [Expr.cleared, Expr.layout, fn.bare_cleared]
  | .arrow _ isAsync params body =>
    simp [Expr.cleared, Expr.layout, bares_clearedPatterns params, body.bare_cleared]
  | .classExpr name cls => cases name <;> simp [Expr.cleared, Expr.layout, cls.bare_cleared]
  | .unary _ op operand => simp [Expr.cleared, Expr.layout, operand.bare_cleared]
  | .update _ op isPrefix operand =>
    cases isPrefix <;> simp [Expr.cleared, Expr.layout, operand.bare_cleared]
  | .binary _ op left right =>
    simp [Expr.cleared, Expr.layout, left.bare_cleared, right.bare_cleared]
  | .assign _ op target value =>
    simp [Expr.cleared, Expr.layout, target.bare_cleared, value.bare_cleared]
  | .member _ object key =>
    by_cases number : ∃ place raw, object = .literal (.num place raw)
    · obtain ⟨place, raw, rfl⟩ := number
      cases point : needsSecondPoint raw <;>
        simp [Expr.cleared, Literal.cleared, Expr.layout, point, key.bare_cleared]
    · have plain (place : Span) (raw : String) : object ≠ .literal (.num place raw) :=
        fun same => number ⟨place, raw, same⟩
      have cleared (place : Span) (raw : String) : object.cleared ≠ .literal (.num place raw) :=
        fun same => number (Expr.exists_number_of_cleared same)
      rw [Expr.cleared, Expr.layout_member _ _ plain, Expr.layout_member _ _ cleared]
      simp [object.bare_cleared, key.bare_cleared]
  | .superMember _ _ key => simp [Expr.cleared, Expr.layout, key.bare_cleared]
  | .conditional _ test consequent alternate =>
    simp [Expr.cleared, Expr.layout, test.bare_cleared, consequent.bare_cleared,
      alternate.bare_cleared]
  | .call _ callee args =>
    simp [Expr.cleared, Expr.layout, callee.bare_cleared, bares_clearedArguments args]
  | .superCall _ _ args => simp [Expr.cleared, Expr.layout, bares_clearedArguments args]
  | .importCall _ _ phase args => simp [Expr.cleared, Expr.layout, bares_clearedArguments args]
  | .new _ callee hasArgs args =>
    cases hasArgs <;>
      simp [Expr.cleared, Expr.layout, callee.bare_cleared, bares_clearedArguments args]
  | .sequence _ exprs => simp [Expr.cleared, Expr.layout, bare_sequenceLayout exprs]
  | .template _ quasis exprs =>
    simp [Expr.cleared, Expr.layout, bare_exprLayouts exprs, templateBody_cleared
      (fun quasi => String.ofList (normalizeLines quasi.raw.toList)) fun _ => rfl]
  | .taggedTemplate _ tag _ quasis exprs =>
    simp [Expr.cleared, Expr.layout, tag.bare_cleared, bare_exprLayouts exprs,
      templateBody_cleared Quasi.raw fun _ => rfl]
  | .yield _ delegate none => rfl
  | .yield _ delegate (some operand) =>
    simp [Expr.cleared, clearedOptional, Expr.layout, operand.bare_cleared]
  | .await _ operand => simp [Expr.cleared, Expr.layout, operand.bare_cleared]
  | .paren _ inner => simp [Expr.cleared, Expr.layout, inner.bare_cleared]
  | .metaProperty .. => rfl
  | .optionalMember _ isOptional object key =>
    simp [Expr.cleared, Expr.layout, object.bare_cleared, key.bare_chained]
  | .optionalCall _ isOptional callee args =>
    simp [Expr.cleared, Expr.layout, callee.bare_cleared, bares_clearedArguments args]

theorem bare_exprLayouts (exprs : List Expr) :
    (exprLayouts (clearedExprs exprs)).map bare = (exprLayouts exprs).map bare := by
  match exprs with
  | [] => rfl
  | e :: rest => simp [clearedExprs, exprLayouts, e.bare_cleared, bare_exprLayouts rest]

theorem bare_sequenceLayout (exprs : List Expr) :
    (sequenceLayout (clearedExprs exprs)).bare = (sequenceLayout exprs).bare := by
  match exprs with
  | [] => rfl
  | [only] => simp [clearedExprs, sequenceLayout, only.bare_cleared]
  | e :: next :: rest =>
    have ih := bare_sequenceLayout (next :: rest)
    simp only [clearedExprs] at ih
    simp [clearedExprs, sequenceLayout, e.bare_cleared, ih]

theorem bares_clearedElements (elements : List Element) :
    bares (elementParts (clearedElements elements)) = bares (elementParts elements) := by
  match elements with
  | [] => rfl
  | .hole :: rest => simpa [clearedElements, elementParts, bares] using bares_clearedElements rest
  | .item arg :: rest =>
    simpa [clearedElements, elementParts, bares, arg.bare_cleared] using bares_clearedElements rest

theorem Argument.bare_cleared (arg : Argument) : arg.cleared.layout.bare = arg.layout.bare := by
  match arg with
  | .mk none value => simp [Argument.cleared, Argument.layout, value.bare_cleared]
  | .mk (some _) value => simp [Argument.cleared, Argument.layout, value.bare_cleared]

theorem bares_clearedArguments (args : List Argument) :
    bares (argumentParts (clearedArguments args)) = bares (argumentParts args) := by
  match args with
  | [] => rfl
  | arg :: rest =>
    simpa [clearedArguments, argumentParts, bares, arg.bare_cleared] using
      bares_clearedArguments rest

theorem MemberKey.bare_cleared (key : MemberKey) : key.cleared.layout.bare = key.layout.bare := by
  match key with
  | .name _ => rfl
  | .privateName .. => rfl
  | .computed _ index => simp [MemberKey.cleared, MemberKey.layout, index.bare_cleared]

theorem MemberKey.bare_chained (isOptional : Bool) (key : MemberKey) :
    (key.cleared.chained isOptional).bare = (key.chained isOptional).bare := by
  match key with
  | .name _ => rfl
  | .privateName .. => rfl
  | .computed _ index => simp [MemberKey.cleared, MemberKey.chained, index.bare_cleared]

theorem ArrowBody.bare_cleared (body : ArrowBody) :
    body.cleared.layout.bare = body.layout.bare := by
  match body with
  | .block body => simp [ArrowBody.cleared, ArrowBody.layout, body.bare_cleared]
  | .expr body => simp [ArrowBody.cleared, ArrowBody.layout, body.bare_cleared]

theorem PropertyKey.bare_cleared (key : PropertyKey) :
    key.cleared.layout.bare = key.layout.bare := by
  match key with
  | .name _ => rfl
  | .str _ => rfl
  | .num .. => rfl
  | .bigint .. => rfl
  | .computed _ index => simp [PropertyKey.cleared, PropertyKey.layout, index.bare_cleared]
  | .privateName .. => rfl

theorem Property.bare_cleared (property : Property) :
    property.cleared.layout.bare = property.layout.bare := by
  match property with
  | .shorthand _ => rfl
  | .keyValue key value =>
    simp [Property.cleared, Property.layout, key.bare_cleared, value.bare_cleared]
  | .initialized _ id value => simp [Property.cleared, Property.layout, value.bare_cleared]
  | .getter _ key body =>
    simp [Property.cleared, Property.layout, key.bare_cleared, body.bare_cleared]
  | .setter _ key param body =>
    simp [Property.cleared, Property.layout, key.bare_cleared, param.bare_cleared,
      body.bare_cleared]
  | .method key fn => simp [Property.cleared, Property.layout, key.bare_cleared, fn.bare_cleared]
  | .spread _ value => simp [Property.cleared, Property.layout, value.bare_cleared]

theorem bares_clearedProperties (properties : List Property) :
    bares (propertyParts (clearedProperties properties)) = bares (propertyParts properties) := by
  match properties with
  | [] => rfl
  | property :: rest =>
    simpa [clearedProperties, propertyParts, bares, property.bare_cleared] using
      bares_clearedProperties rest

theorem Pattern.bare_cleared (pattern : Pattern) :
    pattern.cleared.layout.bare = pattern.layout.bare := by
  match pattern with
  | .ident _ => rfl
  | .array _ elements =>
    simp [Pattern.cleared, Pattern.layout, bares_clearedGaps elements, lastGap_cleared]
  | .object _ [] => rfl
  | .object _ (property :: rest) =>
    have parts := bares_clearedPatternProperties (property :: rest)
    simp only [clearedPatternProperties] at parts
    simp [Pattern.cleared, clearedPatternProperties, Pattern.layout, parts]
  | .rest _ inner => simp [Pattern.cleared, Pattern.layout, inner.bare_cleared]
  | .assign _ left right =>
    simp [Pattern.cleared, Pattern.layout, left.bare_cleared, right.bare_cleared]
  | .expr target => simp [Pattern.cleared, Pattern.layout, target.bare_cleared]

theorem bares_clearedPatterns (patterns : List Pattern) :
    bares (patternParts (clearedPatterns patterns)) = bares (patternParts patterns) := by
  match patterns with
  | [] => rfl
  | pattern :: rest =>
    simpa [clearedPatterns, patternParts, bares, pattern.bare_cleared] using
      bares_clearedPatterns rest

theorem bares_clearedGaps (elements : List (Option Pattern)) :
    bares (optionalParts (clearedGaps elements)) = bares (optionalParts elements) := by
  match elements with
  | [] => rfl
  | none :: rest => simpa [clearedGaps, optionalParts, bares] using bares_clearedGaps rest
  | some pattern :: rest =>
    simpa [clearedGaps, optionalParts, bares, pattern.bare_cleared] using bares_clearedGaps rest

theorem PatternProperty.bare_cleared (property : PatternProperty) :
    property.cleared.layout.bare = property.layout.bare := by
  match property with
  | .keyValue key value =>
    simp [PatternProperty.cleared, PatternProperty.layout, key.bare_cleared, value.bare_cleared]
  | .shorthand _ _ none => rfl
  | .shorthand _ _ (some fallback) =>
    simp [PatternProperty.cleared, clearedOptional, PatternProperty.layout, fallback.bare_cleared]
  | .rest _ inner => simp [PatternProperty.cleared, PatternProperty.layout, inner.bare_cleared]

theorem bares_clearedPatternProperties (properties : List PatternProperty) :
    bares (patternPropertyParts (clearedPatternProperties properties)) =
      bares (patternPropertyParts properties) := by
  match properties with
  | [] => rfl
  | property :: rest =>
    simpa [clearedPatternProperties, patternPropertyParts, bares, property.bare_cleared] using
      bares_clearedPatternProperties rest

theorem Func.bare_cleared (fn : Func) : fn.cleared.layout.bare = fn.layout.bare := by
  match fn with
  | .mk _ params body _ _ =>
    simp [Func.cleared, Func.layout, bares_clearedPatterns params, body.bare_cleared]

theorem Block.bare_cleared (body : Block) : body.cleared.layout.bare = body.layout.bare := by
  match body with
  | .mk _ stmts =>
    cases empty : stmts.isEmpty <;>
      simp [Block.cleared, Block.layout, empty, bare_stmtLayouts stmts]

theorem ClassDef.bare_cleared (cls : ClassDef) : cls.cleared.layout.bare = cls.layout.bare := by
  match cls with
  | .mk _ none members =>
    simp [ClassDef.cleared, clearedOptional, ClassDef.layout, bare_memberLayouts members]
  | .mk _ (some superclass) members =>
    simp [ClassDef.cleared, clearedOptional, ClassDef.layout, superclass.bare_cleared,
      bare_memberLayouts members]

theorem bare_memberLayouts (members : List ClassMember) :
    (memberLayouts (clearedMembers members)).map bare = (memberLayouts members).map bare := by
  match members with
  | [] => rfl
  | member :: rest =>
    simp [clearedMembers, memberLayouts, member.bare_cleared, bare_memberLayouts rest]

theorem ClassMember.bare_cleared (member : ClassMember) :
    member.cleared.layout.bare = member.layout.bare := by
  match member with
  | .constructor _ _ params none =>
    simp [ClassMember.cleared, clearedBody, ClassMember.layout, bares_clearedPatterns params]
  | .constructor _ _ params (some body) =>
    simp [ClassMember.cleared, clearedBody, ClassMember.layout, bares_clearedPatterns params,
      body.bare_cleared]
  | .method _ isStatic kind key fn =>
    cases isStatic <;> cases kind <;>
      simp [ClassMember.cleared, ClassMember.layout, key.bare_cleared, fn.bare_cleared]
  | .field _ isStatic key none =>
    cases isStatic <;>
      simp [ClassMember.cleared, clearedOptional, ClassMember.layout, key.bare_cleared]
  | .field _ isStatic key (some value) =>
    cases isStatic <;>
      simp [ClassMember.cleared, clearedOptional, ClassMember.layout, key.bare_cleared,
        value.bare_cleared]
  | .staticBlock _ body => simp [ClassMember.cleared, ClassMember.layout, body.bare_cleared]
  | .empty _ => rfl

theorem Declarator.bare_cleared (declarator : Declarator) :
    declarator.cleared.layout.bare = declarator.layout.bare := by
  match declarator with
  | .mk _ target none =>
    simp [Declarator.cleared, clearedOptional, Declarator.layout, target.bare_cleared]
  | .mk _ target (some init) =>
    simp [Declarator.cleared, clearedOptional, Declarator.layout, target.bare_cleared,
      init.bare_cleared]

theorem bares_clearedDeclarators (declarators : List Declarator) :
    bares (declaratorParts (clearedDeclarators declarators)) =
      bares (declaratorParts declarators) := by
  match declarators with
  | [] => rfl
  | declarator :: rest =>
    simpa [clearedDeclarators, declaratorParts, bares, declarator.bare_cleared] using
      bares_clearedDeclarators rest

theorem VarDecl.bare_cleared (decl : VarDecl) : decl.cleared.layout.bare = decl.layout.bare := by
  match decl with
  | .mk _ kind declarators =>
    simp [VarDecl.cleared, VarDecl.layout, bares_clearedDeclarators declarators]

theorem Decl.bare_cleared (decl : Decl) : decl.cleared.layout.bare = decl.layout.bare := by
  match decl with
  | .var d => simp [Decl.cleared, Decl.layout, d.bare_cleared]
  | .function _ fn => simp [Decl.cleared, Decl.layout, fn.bare_cleared]
  | .class _ cls => simp [Decl.cleared, Decl.layout, cls.bare_cleared]

theorem ForHead.bare_cleared (head : ForHead) : head.cleared.layout.bare = head.layout.bare := by
  match head with
  | .none => rfl
  | .decl d => simp [ForHead.cleared, ForHead.layout, d.bare_cleared]
  | .pattern target => simp [ForHead.cleared, ForHead.layout, target.bare_cleared]

theorem CatchClause.bare_cleared (clause : CatchClause) :
    clause.cleared.layout.bare = clause.layout.bare := by
  match clause with
  | .mk _ none body => simp [CatchClause.cleared, CatchClause.layout, body.bare_cleared]
  | .mk _ (some param) body =>
    simp [CatchClause.cleared, CatchClause.layout, param.bare_cleared, body.bare_cleared]

theorem SwitchCase.bare_cleared (case : SwitchCase) :
    case.cleared.layout.bare = case.layout.bare := by
  match case with
  | .mk _ none body =>
    simp [SwitchCase.cleared, clearedOptional, SwitchCase.layout, bare_stmtLayouts body]
  | .mk _ (some test) body =>
    simp [SwitchCase.cleared, clearedOptional, SwitchCase.layout, test.bare_cleared,
      bare_stmtLayouts body]

theorem bare_caseLayouts (cases : List SwitchCase) :
    (caseLayouts (clearedCases cases)).map bare = (caseLayouts cases).map bare := by
  match cases with
  | [] => rfl
  | case :: rest => simp [clearedCases, caseLayouts, case.bare_cleared, bare_caseLayouts rest]

theorem bare_stmtLayouts (stmts : List Stmt) :
    (stmtLayouts (clearedStmts stmts)).map bare = (stmtLayouts stmts).map bare := by
  match stmts with
  | [] => rfl
  | stmt :: rest => simp [clearedStmts, stmtLayouts, stmt.bare_cleared, bare_stmtLayouts rest]

theorem Stmt.bare_cleared (stmt : Stmt) : stmt.cleared.layout.bare = stmt.layout.bare := by
  match stmt with
  | .block body => simp [Stmt.cleared, Stmt.layout, body.bare_cleared]
  | .empty _ => rfl
  | .expr _ value => simp [Stmt.cleared, Stmt.layout, value.bare_cleared]
  | .decl d => simp [Stmt.cleared, Stmt.layout, d.bare_cleared]
  | .ifElse _ test consequent none =>
    simp [Stmt.cleared, Stmt.layout, test.bare_cleared, consequent.bare_cleared]
  | .ifElse _ test consequent (some alternate) =>
    simp [Stmt.cleared, Stmt.layout_ifElse, test.bare_cleared, consequent.bare_cleared,
      consequent.gap_cleared, alternate.bare_cleared]
  | .for _ init test update body =>
    simp [Stmt.cleared, Stmt.layout, init.bare_cleared, bare_spacedLayout test,
      bare_spacedLayout update, body.bare_cleared]
  | .forIn _ head object body =>
    simp [Stmt.cleared, Stmt.layout, head.bare_cleared, object.bare_cleared, body.bare_cleared]
  | .forOf _ isAwait head iterable body =>
    simp [Stmt.cleared, Stmt.layout, head.bare_cleared, iterable.bare_cleared, body.bare_cleared]
  | .while _ test body => simp [Stmt.cleared, Stmt.layout, test.bare_cleared, body.bare_cleared]
  | .doWhile _ body test => simp [Stmt.cleared, Stmt.layout, test.bare_cleared, body.bare_cleared]
  | .return _ none => rfl
  | .return _ (some value) =>
    simp [Stmt.cleared, clearedOptional, Stmt.layout, value.bare_cleared]
  | .break _ label => cases label <;> rfl
  | .continue _ label => cases label <;> rfl
  | .throw _ value => simp [Stmt.cleared, Stmt.layout, value.bare_cleared]
  | .try _ body handler finalizer =>
    simp [Stmt.cleared, Stmt.layout, body.bare_cleared, bare_handlerLayout handler,
      bare_finalizerLayout finalizer]
  | .switch _ discriminant cases =>
    simp [Stmt.cleared, Stmt.layout, discriminant.bare_cleared, bare_caseLayouts cases]
  | .labeled _ label body => simp [Stmt.cleared, Stmt.layout, body.bare_cleared]
  | .with _ object body => simp [Stmt.cleared, Stmt.layout, object.bare_cleared, body.bare_cleared]
  | .debugger _ => rfl

theorem bare_spacedLayout (value : Option Expr) :
    (spacedLayout (clearedOptional value)).bare = (spacedLayout value).bare := by
  match value with
  | none => rfl
  | some e => simp [clearedOptional, spacedLayout, e.bare_cleared]

theorem bare_handlerLayout (handler : Option CatchClause) :
    (handlerLayout (clearedHandler handler)).bare = (handlerLayout handler).bare := by
  match handler with
  | none => rfl
  | some clause => simp [clearedHandler, handlerLayout, clause.bare_cleared]

theorem bare_finalizerLayout (finalizer : Option Block) :
    (finalizerLayout (clearedBody finalizer)).bare = (finalizerLayout finalizer).bare := by
  match finalizer with
  | none => rfl
  | some body => simp [clearedBody, finalizerLayout, body.bare_cleared]

end

end Ast

end GrammarEmbed
