import GrammarEmbed.Layout.Program
import GrammarEmbed.Proofs.Bookkeeping
import GrammarEmbed.Proofs.CommentSlots

namespace GrammarEmbed

open Ast

def Slot.IsMade (slot : Slot) : Prop :=
  slot = .leading 0 ∨ slot = .trailing 0

namespace Ast

section Lists

theorem slots_lines (parts : List Layout) : (lines parts).slots = parts.flatMap Layout.slots := by
  induction parts with
  | nil => rfl
  | cons part rest ih =>
    cases rest with
    | nil => simp [lines]
    | cons => simp [lines, ih, Layout.slots]

theorem slots_inline (parent : Span) (parts : List Part) :
    (inline parent parts).slots = parts.flatMap fun part =>
      part.2.slots ++ .trailing part.1.hi :: (partEnd parent part.1).slots := by
  unfold inline
  induction parts with
  | nil => rfl
  | cons part rest ih =>
    cases rest with
    | nil => simp [inlineThen, Layout.slots]
    | cons => simp [inlineThen, ih, Layout.slots]

theorem slots_stacked (parent : Span) (parts : List Part) :
    (stacked parent parts).slots =
      parts.flatMap fun part => part.2.slots ++ (partEnd parent part.1).slots := by
  induction parts with
  | nil => rfl
  | cons part rest ih =>
    cases rest with
    | nil => simp [stacked]
    | cons => simp [stacked, ih, Layout.slots]

theorem slots_braced (isEmpty : Bool) (body : Layout) :
    (braced isEmpty body).slots = if isEmpty then [] else body.slots := by
  unfold braced
  split <;> simp [Layout.slots]

theorem memberLayouts_eq (members : List ClassMember) :
    memberLayouts members = members.map ClassMember.layout := by
  induction members with
  | nil => rfl
  | cons member rest ih => exact congrArg (member.layout :: ·) ih

theorem stmtLayouts_eq (stmts : List Stmt) : stmtLayouts stmts = stmts.map Stmt.layout := by
  induction stmts with
  | nil => rfl
  | cons stmt rest ih => exact congrArg (stmt.layout :: ·) ih

theorem argumentParts_eq (args : List Argument) :
    argumentParts args = args.map fun arg => (arg.span, arg.layout) := by
  induction args with
  | nil => rfl
  | cons arg rest ih => exact congrArg ((arg.span, arg.layout) :: ·) ih

theorem propertyParts_eq (properties : List Property) :
    propertyParts properties = properties.map fun property => (property.span, property.layout) := by
  induction properties with
  | nil => rfl
  | cons property rest ih => exact congrArg ((property.span, property.layout) :: ·) ih

end Lists

def argumentSlots (call : Span) (arg : Argument) : List Slot :=
  arg.layout.slots ++ .trailing arg.span.hi :: (partEnd call arg.span).slots

def propertySlots (literal : Span) (property : Property) : List Slot :=
  property.layout.slots ++ (partEnd literal property.span).slots

theorem slots_arguments (call : Span) (args : List Argument) :
    (inline call (argumentParts args)).slots = args.flatMap (argumentSlots call) := by
  rw [slots_inline, argumentParts_eq, List.flatMap_map]
  rfl

theorem slots_literal (span : Span) (properties : List Property) :
    (Expr.object span properties).layout.slots =
      .leading span.lo :: properties.flatMap (propertySlots span) := by
  have body : (braced properties.isEmpty (stacked span (propertyParts properties))).slots =
      properties.flatMap (propertySlots span) := by
    rw [slots_braced, slots_stacked, propertyParts_eq, List.flatMap_map]
    cases properties <;> rfl
  have gap : (if properties.isEmpty then Layout.lineIfLeading (span.hi - 1) else .empty).slots =
      [] := by
    split <;> rfl
  have parts : (Expr.object span properties).layout =
      .leading span.lo ++ .text "\x7b" ++
        (if properties.isEmpty then Layout.lineIfLeading (span.hi - 1) else .empty) ++
        braced properties.isEmpty (stacked span (propertyParts properties)) ++ .text "\x7d" := rfl
  simp only [parts, Layout.slots_append, gap, body, Layout.slots]
  simp

theorem slots_superCall (span call keyword : Span) (args : List Argument) :
    (Stmt.expr span (.superCall call keyword args)).layout.slots =
      [.leading span.lo, .leading call.lo, .leading keyword.lo] ++
        args.flatMap (argumentSlots call) ++ [.trailing call.hi, .trailing span.hi] := by
  have parts : (Stmt.expr span (.superCall call keyword args)).layout =
      .leading span.lo ++ followed (.leading call.lo ++ .leading keyword.lo ++ .text "super" ++
        .text "(" ++ inline call (argumentParts args) ++ .text ")") call ++ .text ";" ++
        .trailing span.hi ++ .line := rfl
  simp only [parts, followed, Layout.slots_append, slots_arguments, Layout.slots]
  simp

theorem slots_constructor (span : Span) (key : PropertyKey) (params : List Pattern)
    (bodySpan : Span) :
    ∃ front back, ∀ stmts,
      (ClassMember.constructor span key params (some (.mk bodySpan stmts))).layout.slots =
        front ++ stmts.flatMap (fun stmt => stmt.layout.slots) ++ back := by
  refine ⟨.leading span.lo :: (inline span (patternParts params)).slots ++ [.leading bodySpan.lo],
    [.leading (bodySpan.hi - 1)], ?_⟩
  intro stmts
  have body : (braced stmts.isEmpty (lines (stmtLayouts stmts))).slots =
      stmts.flatMap fun stmt => stmt.layout.slots := by
    rw [slots_braced, slots_lines, stmtLayouts_eq, List.flatMap_map]
    cases stmts <;> rfl
  have gap : (if stmts.isEmpty then Layout.lineIfLeading (bodySpan.hi - 1) else .empty).slots =
      [] := by
    split <;> rfl
  have parts : (ClassMember.constructor span key params (some (.mk bodySpan stmts))).layout =
      .leading span.lo ++ .text "constructor(" ++ inline span (patternParts params) ++ .text ")" ++
        (.leading bodySpan.lo ++ .text "\x7b" ++
          (if stmts.isEmpty then Layout.lineIfLeading (bodySpan.hi - 1) else .empty) ++
          braced stmts.isEmpty (lines (stmtLayouts stmts)) ++ .leading (bodySpan.hi - 1) ++
          .text "\x7d") := rfl
  simp only [parts, Layout.slots_append, gap, body, Layout.slots]
  simp

theorem slots_class (span : Span) (superclass : Option Expr) :
    ∃ front, ∀ members, (ClassDef.mk span superclass members).layout.slots =
      front ++ members.flatMap fun member => member.layout.slots := by
  have body (members : List ClassMember) : (lines (memberLayouts members)).slots =
      members.flatMap fun member => member.layout.slots := by
    rw [slots_lines, memberLayouts_eq, List.flatMap_map]
  cases superclass with
  | none =>
    refine ⟨[], fun members => ?_⟩
    have parts : (ClassDef.mk span none members).layout =
        .text " \x7b" ++ .line ++ .indented (lines (memberLayouts members)) ++ .line ++
          .text "\x7d" := rfl
    simp only [parts, Layout.slots_append, Layout.slots, body]
    simp
  | some superclass =>
    refine ⟨(followed superclass.layout superclass.span).slots, fun members => ?_⟩
    have parts : (ClassDef.mk span (some superclass) members).layout =
        .text " extends " ++ followed superclass.layout superclass.span ++ .text " \x7b" ++ .line ++
          .indented (lines (memberLayouts members)) ++ .line ++ .text "\x7d" := rfl
    simp only [parts, Layout.slots_append, Layout.slots, body]
    simp

theorem slots_fill (site : SuperCallSite) :
    ∃ front back, ∀ args, (site.fill args).layout.slots =
      front ++ args.flatMap (argumentSlots site.body.callSpan) ++ back := by
  obtain ⟨header, header_eq⟩ := slots_class site.classSpan site.superclass
  obtain ⟨front, back, constructor_eq⟩ :=
    slots_constructor site.span site.key site.params site.bodySpan
  refine ⟨header ++ site.before.flatMap (fun member => member.layout.slots) ++ front ++
      site.body.before.flatMap (fun stmt => stmt.layout.slots) ++ [.leading site.body.span.lo,
        .leading site.body.callSpan.lo, .leading site.body.superSpan.lo],
    [.trailing site.body.callSpan.hi, .trailing site.body.span.hi] ++
      site.body.after.flatMap (fun stmt => stmt.layout.slots) ++ back ++
      site.after.flatMap (fun member => member.layout.slots), fun args => ?_⟩
  rw [SuperCallSite.fill, header_eq, List.flatMap_append, List.flatMap_cons, constructor_eq,
    BodySite.fill, List.flatMap_append, List.flatMap_cons, slots_superCall]
  simp only [List.append_assoc]

section Made

theorem mem_of_made {slots : List Slot} (only : slots.eraseDups = [.leading 0, .trailing 0])
    (slot : Slot) : slot ∈ slots ↔ slot.IsMade := by
  rw [← List.mem_eraseDups, only]
  simp [Slot.IsMade]

theorem isMade_of_partEnd {parent part : Span} (made : part = .none) {slot : Slot}
    (member : slot ∈ (partEnd parent part).slots) : slot.IsMade := by
  subst made
  unfold partEnd at member
  split at member
  · cases member
  · exact .inl (List.mem_singleton.mp member)

/-- A property that was written into a literal has the slots of made nodes, and all of these. -/
theorem mem_propertySlots_made (literal : Span) (name json : String) (slot : Slot) :
    slot ∈ propertySlots literal (.made name (.madeJsonParse json)) ↔ slot.IsMade := by
  rw [propertySlots, List.mem_append, mem_of_made rfl]
  exact or_iff_left_of_imp (isMade_of_partEnd rfl)

end Made

theorem mem_argumentSlots_literal (call span : Span) (properties : List Property) (slot : Slot) :
    slot ∈ argumentSlots call (.mk none (.object span properties)) ↔
      slot ∈ properties.flatMap (propertySlots span) ∨ slot = .leading span.lo ∨
        slot = .trailing span.hi ∨ slot ∈ (partEnd call span).slots := by
  have parts : (Argument.mk none (.object span properties)).layout.slots =
      (Expr.object span properties).layout.slots ++ [.trailing span.hi] := rfl
  have place : (Argument.mk none (.object span properties)).span = span := rfl
  rw [argumentSlots, parts, slots_literal, place]
  simp only [List.mem_append, List.mem_cons, List.not_mem_nil, or_false]
  constructor
  · rintro (((lead | inner) | trail) | trail | behind)
    · exact .inr (.inl lead)
    · exact .inl inner
    · exact .inr (.inr (.inl trail))
    · exact .inr (.inr (.inl trail))
    · exact .inr (.inr (.inr behind))
  · rintro (inner | lead | trail | behind)
    · exact .inl (.inl (.inr inner))
    · exact .inl (.inl (.inl lead))
    · exact .inr (.inl trail)
    · exact .inr (.inr behind)

end Ast

namespace Injector

variable {injector : Injector} {json : String} {outcome : InjectionOutcome}

/-- A step on a literal adds the slots of made nodes only. -/
theorem Placed.mem_slots {properties placed : List Property} (span : Span) {slot : Slot}
    (step : Placed injector (.madeJsonParse json) properties placed outcome)
    (member : slot ∈ placed.flatMap (propertySlots span)) :
    slot ∈ properties.flatMap (propertySlots span) ∨ slot.IsMade := by
  obtain ⟨property, found, here⟩ := List.mem_flatMap.mp member
  have old (among : property ∈ properties) :
      slot ∈ properties.flatMap (propertySlots span) ∨ slot.IsMade :=
    .inl (List.mem_flatMap.mpr ⟨property, among, here⟩)
  cases step with
  | appended room =>
    rcases List.mem_append.mp found with among | last
    · exact old among
    · obtain rfl := List.mem_singleton.mp last
      exact .inr ((mem_propertySlots_made span _ json slot).mp here)
  | exchanged policy first declared =>
    rcases List.mem_append.mp found with before | rest
    · exact old (List.mem_append_left _ before)
    · rcases List.mem_cons.mp rest with rfl | after
      · exact .inr ((mem_propertySlots_made span _ json slot).mp here)
      · exact old (List.mem_append_right _ (List.mem_cons_of_mem _ after))
  | kept policy present => exact old found

/-- A property that is added keeps the slots that there were. -/
theorem Placed.mem_slots_injected {properties placed : List Property} (span : Span) {slot : Slot}
    (step : Placed injector (.madeJsonParse json) properties placed .injected)
    (member : slot ∈ properties.flatMap (propertySlots span) ∨ slot.IsMade) :
    slot ∈ placed.flatMap (propertySlots span) := by
  cases step with
  | appended room =>
    rw [List.flatMap_append, List.mem_append, List.flatMap_singleton, mem_propertySlots_made]
    exact member

theorem mem_undefinedSlots (call : Span) (slot : Slot) :
    slot ∈ argumentSlots call (.mk none .madeUndefined) ↔ slot.IsMade := by
  have place : (Argument.mk none .madeUndefined).span = .none := rfl
  rw [argumentSlots, List.mem_append, mem_of_made rfl, List.mem_cons, place]
  constructor
  · rintro (own | rfl | behind)
    · exact own
    · exact .inr rfl
    · exact isMade_of_partEnd rfl behind
  · exact .inl

theorem mem_madeLiteralSlots (call : Span) (name json : String) (slot : Slot) :
    slot ∈ argumentSlots call (.mk none (.madeObject [.made name (.madeJsonParse json)])) ↔
      slot.IsMade := by
  rw [Expr.madeObject, mem_argumentSlots_literal, List.flatMap_singleton, mem_propertySlots_made]
  constructor
  · rintro (made | rfl | rfl | behind)
    · exact made
    · exact .inl rfl
    · exact .inr rfl
    · exact isMade_of_partEnd rfl behind
  · exact .inl

theorem Extended.mem_slots {args extended : List Argument} (call : Span) {slot : Slot}
    (step : Extended injector (.madeJsonParse json) args extended outcome)
    (member : slot ∈ extended.flatMap (argumentSlots call)) :
    slot ∈ args.flatMap (argumentSlots call) ∨ slot.IsMade := by
  cases step with
  | none =>
    simp only [List.flatMap_cons, List.flatMap_nil, List.mem_append, mem_undefinedSlots,
      mem_madeLiteralSlots, List.not_mem_nil, or_false, or_self] at member
    exact .inr member
  | one first =>
    simpa only [List.flatMap_cons, List.flatMap_nil, List.mem_append, mem_madeLiteralSlots,
      List.not_mem_nil, or_false] using member
  | literal first span rest step =>
    simp only [List.flatMap_cons, List.mem_append, mem_argumentSlots_literal] at member ⊢
    rcases member with front | (inner | frame) | behind
    · exact .inl (.inl front)
    · rcases step.mem_slots span inner with old | made
      · exact .inl (.inr (.inl (.inl old)))
      · exact .inr made
    · exact .inl (.inr (.inl (.inr frame)))
    · exact .inl (.inr (.inr behind))
  | blocked => exact .inl member

theorem Extended.mem_slots_injected {args extended : List Argument} (call : Span) {slot : Slot}
    (step : Extended injector (.madeJsonParse json) args extended .injected)
    (member : slot ∈ args.flatMap (argumentSlots call) ∨ slot.IsMade) :
    slot ∈ extended.flatMap (argumentSlots call) := by
  cases step with
  | none =>
    rcases member with nothing | made
    · cases nothing
    · simp only [List.flatMap_cons, List.mem_append, mem_undefinedSlots]
      exact .inl made
  | one first =>
    simpa only [List.flatMap_cons, List.flatMap_nil, List.mem_append, mem_madeLiteralSlots,
      List.not_mem_nil, or_false] using member
  | literal first span rest step =>
    simp only [List.flatMap_cons, List.mem_append, mem_argumentSlots_literal] at member ⊢
    rcases member with (front | (inner | frame) | behind) | made
    · exact .inl front
    · exact .inr (.inl (.inl (step.mem_slots_injected span (.inl inner))))
    · exact .inr (.inl (.inr frame))
    · exact .inr (.inr behind)
    · exact .inr (.inl (.inl (step.mem_slots_injected span (.inr made))))

variable (injector) (grammar : Json.Value) (cls : ClassDef) {slot : Slot}

theorem mem_slots_addToClass
    (member : slot ∈ (injector.addToClass grammar cls).1.layout.slots) :
    slot ∈ cls.layout.slots ∨ slot.IsMade := by
  cases called : cls.superArguments? with
  | none =>
    obtain ⟨reason, same⟩ := addToClass_of_none injector grammar called
    rw [same] at member
    exact .inl member
  | some args =>
    obtain ⟨site, rfl⟩ := SuperCallSite.exists_fill called
    obtain ⟨front, back, slots⟩ := slots_fill site
    rw [addToClass_fill] at member
    simp only [slots, List.mem_append] at member ⊢
    rcases member with (before | inner) | after
    · exact .inl (.inl (.inl before))
    · have step := addToArguments_extended injector (.madeJsonParse grammar.compact) args
      rcases step.mem_slots site.body.callSpan inner with old | made
      · exact .inl (.inl (.inr old))
      · exact .inr made
    · exact .inl (.inr after)

theorem mem_slots_of_injected (injected : (injector.addToClass grammar cls).2 = .injected)
    (member : slot ∈ cls.layout.slots ∨ slot.IsMade) :
    slot ∈ (injector.addToClass grammar cls).1.layout.slots := by
  cases called : cls.superArguments? with
  | none =>
    obtain ⟨reason, same⟩ := addToClass_of_none injector grammar called
    rw [same] at injected
    cases injected
  | some args =>
    obtain ⟨site, rfl⟩ := SuperCallSite.exists_fill called
    obtain ⟨front, back, slots⟩ := slots_fill site
    have step := addToArguments_extended injector (.madeJsonParse grammar.compact) args
    rw [addToClass_fill] at injected ⊢
    rw [injected] at step
    have inner (kept : slot ∈ args.flatMap (argumentSlots site.body.callSpan) ∨ slot.IsMade) :=
      step.mem_slots_injected site.body.callSpan kept
    simp only [slots, List.mem_append] at member ⊢
    rcases member with ((before | old) | after) | made
    · exact .inl (.inl before)
    · exact .inl (.inr (inner (.inl old)))
    · exact .inr after
    · exact .inl (.inr (inner (.inr made)))

theorem span_addToClass : (injector.addToClass grammar cls).1.span = cls.span := by
  cases cls
  rfl

variable (grammars : Grammars) (found : NamedClass)

theorem span_treat : (injector.treat grammars found).1.span = found.cls.span := by
  unfold treat
  split
  · exact injector.span_addToClass _ found.cls
  · rfl

theorem mem_slots_treat (member : slot ∈ (injector.treat grammars found).1.layout.slots) :
    slot ∈ found.cls.layout.slots ∨ slot.IsMade := by
  unfold treat at member
  split at member
  · exact injector.mem_slots_addToClass _ found.cls member
  · exact .inl member

theorem mem_slots_treat_injected (injected : (injector.treat grammars found).2 = .injected)
    (member : slot ∈ found.cls.layout.slots ∨ slot.IsMade) :
    slot ∈ (injector.treat grammars found).1.layout.slots := by
  unfold treat at injected ⊢
  split at injected
  · exact injector.mem_slots_of_injected _ found.cls injected member
  · cases injected

end Injector

namespace Ast

def itemLayout : ProgramKind → Item → Layout
  | .module => Item.layout
  | .script => Item.scriptLayout

def itemSlots (kind : ProgramKind) (item : Item) : List Slot :=
  (itemLayout kind item).slots

theorem mem_slots_program (program : Program) (slot : Slot) :
    slot ∈ program.layout.slots ↔ slot = .leading program.span.lo ∨
      slot ∈ program.items.flatMap (itemSlots program.kind) ∨
      slot = .trailing program.span.hi := by
  obtain ⟨span, kind, shebang, items⟩ := program
  have parts : (Program.mk span kind shebang items).layout.slots =
      .leading span.lo :: (Layout.concat (items.map (itemLayout kind))).slots ++
        [.trailing span.hi] := by
    cases shebang <;> cases kind <;> rfl
  have inner : (Layout.concat (items.map (itemLayout kind))).slots =
      items.flatMap (itemSlots kind) := by
    rw [Layout.slots_concat, List.flatMap_map]
    rfl
  simp only [parts, inner, List.cons_append, List.mem_cons, List.mem_append, List.not_mem_nil,
    or_false]

section Declarations

variable (kind : ProgramKind) (span : Span) (name : Ident) (cls : ClassDef) (slot : Slot)

theorem mem_slots_class :
    slot ∈ itemSlots kind (.stmt (.decl (.class name cls))) ↔
      slot ∈ [.leading cls.span.lo, .leading name.span.lo, .trailing cls.span.hi] ∨
        slot ∈ cls.layout.slots := by
  have script : itemLayout .script (.stmt (.decl (.class name cls))) =
      .leading cls.span.lo ++ .text "class " ++ (.leading name.span.lo ++ .text name.name) ++
        cls.layout ++ .trailing cls.span.hi ++ .line := rfl
  have module : itemLayout .module (.stmt (.decl (.class name cls))) =
      .leading cls.span.lo ++ itemLayout .script (.stmt (.decl (.class name cls))) ++
        .trailing cls.span.hi := rfl
  -- A module writes the class slots a second time around the statement.
  cases kind <;>
    simp only [itemSlots, module, script, Layout.slots_append, Layout.slots, List.mem_append,
      List.mem_cons, List.not_mem_nil] <;>
    grind

theorem mem_slots_exportedClass :
    slot ∈ itemSlots kind (.exportDecl span (.class name cls)) ↔
      slot ∈ [.leading span.lo, .leading cls.span.lo, .leading name.span.lo, .trailing span.hi] ∨
        slot ∈ cls.layout.slots := by
  have parts : itemLayout kind (.exportDecl span (.class name cls)) =
      .leading span.lo ++ (.text "export " ++ (.leading cls.span.lo ++ .text "class " ++
        (.leading name.span.lo ++ .text name.name) ++ cls.layout)) ++ .trailing span.hi ++
        .line := by
    cases kind <;> rfl
  simp only [itemSlots, parts, Layout.slots_append, Layout.slots, List.mem_append, List.mem_cons,
    List.not_mem_nil]
  grind

theorem mem_slots_defaultClass :
    slot ∈ itemSlots kind (.exportDefaultClass span (some name) cls) ↔
      slot ∈ [.leading span.lo, .leading cls.span.lo, .leading name.span.lo, .trailing span.hi] ∨
        slot ∈ cls.layout.slots := by
  have parts : itemLayout kind (.exportDefaultClass span (some name) cls) =
      .leading span.lo ++ (.text "export default " ++ (.leading cls.span.lo ++ .text "class" ++
        (.text " " ++ (.leading name.span.lo ++ .text name.name)) ++ cls.layout)) ++
        .trailing span.hi ++ .line := by
    cases kind <;> rfl
  simp only [itemSlots, parts, Layout.slots_append, Layout.slots, List.mem_append, List.mem_cons,
    List.not_mem_nil]
  grind

end Declarations

theorem exists_frame {item : Item} {found : NamedClass} (kind : ProgramKind)
    (declared : item.class? = some found) :
    ∃ frame : List Slot,
      (∀ slot, slot ∈ itemSlots kind item ↔ slot ∈ frame ∨ slot ∈ found.cls.layout.slots) ∧
      ∀ {α : Type} (change : Ident → ClassDef → ClassDef × α),
        (change found.name found.cls).1.span = found.cls.span →
        ∀ slot, slot ∈ itemSlots kind (item.updateClass change).1 ↔
          slot ∈ frame ∨ slot ∈ (change found.name found.cls).1.layout.slots := by
  unfold Item.class? at declared
  split at declared <;> cases declared
  case h_1 name cls =>
    refine ⟨_, mem_slots_class kind name cls, fun change same slot => ?_⟩
    rw [← same]
    exact mem_slots_class kind name (change name cls).1 slot
  case h_2 span name cls =>
    refine ⟨_, mem_slots_exportedClass kind span name cls, fun change same slot => ?_⟩
    rw [← same]
    exact mem_slots_exportedClass kind span name (change name cls).1 slot
  case h_3 span name cls =>
    refine ⟨_, mem_slots_defaultClass kind span name cls, fun change same slot => ?_⟩
    rw [← same]
    exact mem_slots_defaultClass kind span name (change name cls).1 slot

end Ast

namespace Injector

variable (injector : Injector) (aliases : Aliases) (grammars : Grammars) {slot : Slot}

theorem span_visit (name : Ident) (cls : ClassDef) :
    (injector.visit aliases grammars name cls).1.span = cls.span := by
  rw [visit_eq]
  split
  · exact injector.span_treat grammars ⟨name, cls⟩
  · rfl

theorem mem_slots_item {kind : ProgramKind} {item : Item}
    (member : slot ∈ itemSlots kind (item.updateClass (injector.visit aliases grammars)).1) :
    slot ∈ itemSlots kind item ∨ slot.IsMade := by
  cases declared : item.class? with
  | none =>
    rw [Item.updateClass_of_none _ declared] at member
    exact .inl member
  | some found =>
    obtain ⟨frame, before, after⟩ := exists_frame kind declared
    rw [after _ (injector.span_visit aliases grammars found.name found.cls), visit_eq] at member
    rw [before]
    rcases member with around | inner
    · exact .inl (.inl around)
    · split at inner
      · rcases injector.mem_slots_treat grammars found inner with old | made
        · exact .inl (.inr old)
        · exact .inr made
      · exact .inl (.inr inner)

/-- Injection adds the slots of made nodes only. -/
theorem mem_slots_inject {program : Program}
    (member : slot ∈ (injector.inject aliases grammars program).1.layout.slots) :
    slot ∈ program.layout.slots ∨ slot.IsMade := by
  have items := injector.items_inject aliases grammars program
  rw [mem_slots_program, items, List.flatMap_map] at member
  rw [mem_slots_program]
  rcases member with first | inner | last
  · exact .inl (.inl first)
  · obtain ⟨item, listed, here⟩ := List.mem_flatMap.mp inner
    rcases injector.mem_slots_item aliases grammars here with old | made
    · exact .inl (.inr (.inl (List.mem_flatMap.mpr ⟨item, listed, old⟩)))
    · exact .inr made
  · exact .inl (.inr (.inr last))

variable {injector aliases grammars}

/-- The slots of an item stay if none of its properties is exchanged. -/
theorem mem_slots_item_kept {kind : ProgramKind} {item : Item}
    (kept : ∀ found, item.class? = some found → found.cls.inherits aliases = true →
      (injector.treat grammars found).2 ≠ .replaced)
    (member : slot ∈ itemSlots kind item) :
    slot ∈ itemSlots kind (item.updateClass (injector.visit aliases grammars)).1 := by
  cases declared : item.class? with
  | none => rwa [Item.updateClass_of_none _ declared]
  | some found =>
    obtain ⟨frame, before, after⟩ := exists_frame kind declared
    rw [after _ (injector.span_visit aliases grammars found.name found.cls), visit_eq]
    rw [before] at member
    rcases member with around | inner
    · exact .inl around
    · refine .inr ?_
      split
      · rename_i parser
        cases outcome : (injector.treat grammars found).2 with
        | injected => exact injector.mem_slots_treat_injected grammars found outcome (.inl inner)
        | replaced => exact absurd outcome (kept found declared parser)
        | skipped reason => rwa [injector.treat_of_skipped grammars outcome]
      · exact inner

/-- The slots of made nodes stand in every item that receives a property. -/
theorem mem_slots_item_made {kind : ProgramKind} {item : Item} {found : NamedClass}
    (declared : item.class? = some found) (parser : found.cls.inherits aliases = true)
    (injected : (injector.treat grammars found).2 = .injected) (made : slot.IsMade) :
    slot ∈ itemSlots kind (item.updateClass (injector.visit aliases grammars)).1 := by
  obtain ⟨frame, -, after⟩ := exists_frame kind declared
  rw [after _ (injector.span_visit aliases grammars found.name found.cls), visit_eq, if_pos parser]
  exact .inr (injector.mem_slots_treat_injected grammars found injected (.inr made))

/-- A program keeps its slots if no property is exchanged, and has those of made nodes if a
property is added. -/
theorem mem_slots_inject_kept {program : Program}
    (kept : ∀ entry ∈ (injector.inject aliases grammars program).2, entry.outcome ≠ .replaced)
    (added : ∃ entry ∈ (injector.inject aliases grammars program).2, entry.outcome = .injected)
    (member : slot ∈ program.layout.slots ∨ slot.IsMade) :
    slot ∈ (injector.inject aliases grammars program).1.layout.slots := by
  have items := injector.items_inject aliases grammars program
  rw [inject_report] at kept added
  have inside (item : Item) (listed : item ∈ program.items)
      (here : slot ∈ itemSlots program.kind
        (item.updateClass (injector.visit aliases grammars)).1) :
      slot ∈ (injector.inject aliases grammars program).1.layout.slots := by
    rw [mem_slots_program, items, List.flatMap_map]
    exact .inr (.inl (List.mem_flatMap.mpr ⟨item, listed, here⟩))
  rcases member with old | made
  · rcases (mem_slots_program program slot).mp old with first | inner | last
    · exact (mem_slots_program _ slot).mpr (.inl first)
    · obtain ⟨item, listed, here⟩ := List.mem_flatMap.mp inner
      refine inside item listed (mem_slots_item_kept ?_ here)
      intro found declared parser
      exact kept _ (List.mem_map.mpr ⟨found, List.mem_filter.mpr
        ⟨List.mem_filterMap.mpr ⟨item, listed, declared⟩, parser⟩, rfl⟩)
    · exact (mem_slots_program _ slot).mpr (.inr (.inr last))
  · obtain ⟨entry, reported, injected⟩ := added
    obtain ⟨found, listed, rfl⟩ := List.mem_map.mp reported
    obtain ⟨among, parser⟩ := List.mem_filter.mp listed
    obtain ⟨item, stands, declared⟩ := List.mem_filterMap.mp among
    exact inside item stands (mem_slots_item_made declared parser injected made)

end Injector

namespace Clone

theorem mem_slots_madeAssign (kind : ProgramKind) {target value : Expr} (made : value.span = .none)
    (targets : ∀ slot ∈ target.layout.slots, slot.IsMade)
    (values : ∀ slot ∈ value.layout.slots, slot.IsMade) (slot : Slot) :
    slot ∈ itemSlots kind (.stmt (.madeAssign target value)) ↔ slot.IsMade := by
  have script : itemLayout .script (.stmt (.madeAssign target value)) =
      .leading 0 ++ followed (.leading 0 ++ target.layout ++ .text " " ++ .text "=" ++ .text " " ++
        followed value.layout value.span) .none ++ .text ";" ++ .trailing 0 ++ .line := rfl
  have module : itemLayout .module (.stmt (.madeAssign target value)) =
      .leading 0 ++ itemLayout .script (.stmt (.madeAssign target value)) ++ .trailing 0 := rfl
  have nowhere : Span.none.hi = 0 := rfl
  have target := targets slot
  have value := values slot
  cases kind <;>
    simp only [itemSlots, module, script, followed, made, nowhere, Layout.slots_append,
      Layout.slots, List.mem_append, List.mem_cons, List.not_mem_nil, Slot.IsMade]
      at target value ⊢ <;>
    grind

theorem isMade_of_madeMember (object name : String) :
    ∀ slot ∈ (Expr.madeMember (.madeIdent object) name).layout.slots, slot.IsMade := by
  have slots : (Expr.madeMember (.madeIdent object) name).layout.slots =
      [.leading 0, .leading 0, .trailing 0, .leading 0, .leading 0] := rfl
  simp [slots, Slot.IsMade]

theorem isMade_of_mapMember (format : ModuleFormat) (key name : String) :
    ∀ slot ∈ (Expr.madeMember (map format key) name).layout.slots, slot.IsMade := by
  cases format with
  | esModule => exact isMade_of_madeMember key name
  | commonJs =>
    have slots : (Expr.madeMember (map .commonJs key) name).layout.slots =
        .leading 0 :: (Expr.madeMember (.madeIdent "exports") key).layout.slots ++
          [.trailing 0, .leading 0, .leading 0] := rfl
    have inner := isMade_of_madeMember "exports" key
    intro slot member
    rw [slots, List.cons_append, List.mem_cons, List.mem_append] at member
    rcases member with rfl | here | behind
    · exact .inl rfl
    · exact inner slot here
    · simpa [Slot.IsMade, or_comm] using behind

theorem mem_slots_creation (kind : ProgramKind) (format : ModuleFormat) (key : String)
    (slot : Slot) : slot ∈ itemSlots kind (creation format key) ↔ slot.IsMade := by
  cases format with
  | esModule => cases kind <;> exact mem_of_made rfl slot
  | commonJs =>
    apply mem_slots_madeAssign kind rfl (isMade_of_madeMember "exports" key)
    simp [Expr.madeObject, slots_literal, Slot.IsMade, Span.none]

theorem mem_slots_registration (kind : ProgramKind) (format : ModuleFormat) (key name : String)
    (slot : Slot) : slot ∈ itemSlots kind (registration format key name) ↔ slot.IsMade := by
  have value : (Expr.madeIdent name).layout.slots = [.leading 0] := rfl
  apply mem_slots_madeAssign kind rfl (isMade_of_mapMember format key name)
  simp [value, Slot.IsMade]

/-- The slots of a clone are those of its program and those of made nodes. -/
theorem mem_slots_clone (program : Program) (aliases : Aliases) (key : String) (slot : Slot) :
    slot ∈ (Clone.of program aliases key).program.layout.slots ↔
      slot ∈ program.layout.slots ∨ slot.IsMade := by
  have bookkept := bookkept_entriesOf aliases program.items
  have inner : slot ∈ (Clone.of program aliases key).program.items.flatMap
        (itemSlots program.kind) ↔
      slot ∈ program.items.flatMap (itemSlots program.kind) ∨ slot.IsMade := by
    rw [items_of, List.flatMap_map, List.mem_flatMap]
    constructor
    · rintro ⟨entry, listed, here⟩
      cases entry with
      | kept item =>
        have stands : item ∈ program.items := by
          rw [← bookkept.restored]
          exact List.mem_filterMap.mpr ⟨_, listed, rfl⟩
        exact .inl (List.mem_flatMap.mpr ⟨item, stands, here⟩)
      | creation =>
        rw [Entry.item_creation, mem_slots_creation] at here
        exact .inr here
      | registration name =>
        rw [Entry.item_registration, mem_slots_registration] at here
        exact .inr here
    · rintro (old | made)
      · obtain ⟨item, stands, here⟩ := List.mem_flatMap.mp old
        rw [← bookkept.restored] at stands
        obtain ⟨entry, listed, kept⟩ := List.mem_filterMap.mp stands
        cases entry <;> cases kept
        exact ⟨_, listed, here⟩
      · refine ⟨.creation, List.mem_append_right _ List.mem_cons_self, ?_⟩
        rw [Entry.item_creation, mem_slots_creation]
        exact made
  have kind : (Clone.of program aliases key).program.kind = program.kind := rfl
  rw [mem_slots_program, mem_slots_program, kind, inner]
  constructor
  · rintro (first | (old | made) | last)
    · exact .inl (.inl first)
    · exact .inl (.inr (.inl old))
    · exact .inr made
    · exact .inl (.inr (.inr last))
  · rintro ((first | old | last) | made)
    · exact .inl first
    · exact .inr (.inl (.inl old))
    · exact .inr (.inr last)
    · exact .inr (.inl (.inr made))

end Clone

end GrammarEmbed
