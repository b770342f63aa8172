import GrammarEmbed.Proofs.InjectionVerdict
import GrammarEmbed.Proofs.LastDefinition

/-!
What `skip` does to a property that the author of a class has written. A definition that gives a
value is seen and respected; a method or an accessor of the same name is not seen, and the grammar
that is written behind it takes its place.
-/

namespace GrammarEmbed

open Ast

/-- A property that gives a function to a name: a method, or one that is called when the name is
read or set. -/
inductive Ast.Property.DefinesFunction (name : String) : Property → Prop where
  | getter (span : Span) {key : PropertyKey} (body : Block) (spelled : key.spells name = true) :
      DefinesFunction name (.getter span key body)
  | setter (span : Span) {key : PropertyKey} (param : Pattern) (body : Block)
      (spelled : key.spells name = true) : DefinesFunction name (.setter span key param body)
  | method {key : PropertyKey} (fn : Func) (spelled : key.spells name = true) :
      DefinesFunction name (.method key fn)

/-- A name is defined by a value or by a function. -/
theorem Ast.Property.defines_iff {name : String} {property : Property} :
    property.defines name = true ↔ property.Declares name ∨ property.DefinesFunction name := by
  rw [← Injector.declares_iff]
  constructor
  · intro defined
    cases property with
    | shorthand | keyValue => exact .inl defined
    | getter span key body => exact .inr (.getter span body defined)
    | setter span key param body => exact .inr (.setter span param body defined)
    | method key fn => exact .inr (.method fn defined)
    | initialized | spread => cases defined
  · rintro (declared | function)
    · cases property with
      | shorthand | keyValue => exact declared
      | initialized | getter | setter | method | spread => cases declared
    · cases function <;> assumption

namespace Injector

variable {property : String} {value : Expr} {properties : List Property}

theorem addProperty_of_present
    (present : ∃ definition ∈ properties, definition.Declares property) :
    (Injector.mk property .skip).addProperty value properties =
      (properties, .skipped .alreadyPresent) := by
  have step := addProperty_placed ⟨property, .skip⟩ value properties
  have outcome := (step.outcome_of_present present).1 rfl
  rw [outcome] at step
  refine Prod.ext ?_ outcome
  generalize ((Injector.mk property .skip).addProperty value properties).1 = placed at step
  cases step
  rfl

theorem addProperty_of_absent
    (absent : ∀ definition ∈ properties, ¬definition.Declares property) :
    (Injector.mk property .skip).addProperty value properties =
      (properties ++ [.made property value], .injected) := by
  have step := addProperty_placed ⟨property, .skip⟩ value properties
  have outcome := step.injected_iff_room.mpr (.inr absent)
  rw [outcome] at step
  refine Prod.ext ?_ outcome
  generalize ((Injector.mk property .skip).addProperty value properties).1 = placed at step
  cases step
  rfl

/-- The class of a call with a literal is treated as its literal is. -/
theorem treat_of_literal (injector : Injector) {grammars : Grammars} {found : NamedClass}
    {grammar : Json.Value} {site : SuperCallSite} {first : Expr} {span : Span}
    {rest : List Argument} (known : grammars.get? found.name.name = some grammar)
    (called : found.cls =
      site.fill (.mk none first :: .mk none (.object span properties) :: rest)) :
    let step := injector.addProperty (.madeJsonParse grammar.compact) properties
    injector.treat grammars found =
      (site.fill (.mk none first :: .mk none (.object span step.1) :: rest), step.2) := by
  simp [treat, known, called, addToClass_fill, addToArguments, isSpread]

/-- With `skip`, a class whose literal already defines the property stays as it is, and is reported
so, exactly if one of the definitions gives it a value. Otherwise all of them are methods and
accessors; then the class is reported as injected, and the grammar behind them is the definition
that counts. -/
theorem skip_respects_values_only (property : String) (aliases : Aliases) (grammars : Grammars)
    (program : Program) (index : Nat) {found : NamedClass} {grammar : Json.Value} {first : Expr}
    {span : Span} {properties : List Property} {rest : List Argument}
    (place : (program.parserClasses aliases)[index]? = some found)
    (known : grammars.get? found.name.name = some grammar)
    (called : found.cls.superArguments? =
      some (.mk none first :: .mk none (.object span properties) :: rest))
    (authored : ∃ definition ∈ properties, definition.defines property = true) :
    let done := (Injector.mk property .skip).inject aliases grammars program
    let written := Property.made property (.madeJsonParse grammar.compact)
    written.IsGrammar property grammar.compact ∧
    ((done.1.parserClasses aliases)[index]? = some found ∧
        done.2[index]? = some ⟨found.name.name, .skipped .alreadyPresent⟩ ↔
      ∃ definition ∈ properties, definition.Declares property) ∧
    ((∀ definition ∈ properties, ¬definition.Declares property) →
      (∃ definition ∈ properties, definition.DefinesFunction property) ∧
      done.2[index]? = some ⟨found.name.name, .injected⟩ ∧
      ∃ after, (done.1.parserClasses aliases)[index]? = some ⟨found.name, after⟩ ∧
        after.superArguments? =
          some (.mk none first :: .mk none (.object span (properties ++ [written])) :: rest) ∧
        lastDefinition? property (properties ++ [written]) = some written) := by
  intro done written
  obtain ⟨site, filled⟩ := SuperCallSite.exists_fill called
  have treated := treat_of_literal ⟨property, .skip⟩ known filled
  have entry := (Injector.mk property .skip).entry_inject grammars place
  have moved := (Injector.mk property .skip).class_inject grammars place
  refine ⟨Property.isGrammar_made _ _, ⟨?_, ?_⟩, ?_⟩
  -- without a value among the definitions the class is reported as injected
  · rintro ⟨-, reported⟩
    apply Classical.byContradiction
    intro none
    have absent : ∀ definition ∈ properties, ¬definition.Declares property :=
      fun definition member declared => none ⟨definition, member, declared⟩
    rw [addProperty_of_absent absent] at treated
    rw [treated] at entry
    cases entry.symm.trans reported
  · intro present
    rw [addProperty_of_present present] at treated
    rw [treated] at entry moved
    rw [← filled] at moved
    exact ⟨moved, entry⟩
  · intro absent
    rw [addProperty_of_absent absent] at treated
    rw [treated] at entry moved
    refine ⟨?_, entry, _, moved, site.superArguments_fill _, lastDefinition_of_later _ nofun⟩
    obtain ⟨definition, member, defined⟩ := authored
    exact ⟨definition, member, (Property.defines_iff.mp defined).resolve_left (absent _ member)⟩

/-- `get serializedGrammar() {}` -/
def grammarGetter : Property :=
  .getter .none (.name (.made "serializedGrammar")) (.mk .none [])

/-- Two parsers that define the property: one by an accessor and by a value with a quoted key, one
by an accessor alone. -/
def authoredParsers : Program where
  span := .none
  kind := .script
  shebang := none
  items :=
    [madeParser "P" [madeConstructor [.mk none .madeUndefined, .mk none (.madeObject
        [grammarGetter, .keyValue (.str ⟨.none, "serializedGrammar", none⟩) .madeUndefined])]],
      madeParser "Q" [madeConstructor [.mk none .madeUndefined,
        .mk none (.madeObject [grammarGetter])]]]

theorem skip_respects_values_only_authoredParsers :
    let done := (Injector.mk "serializedGrammar" .skip).inject ⟨["Parser"]⟩
      ⟨[("P", .null), ("Q", .null)]⟩ authoredParsers
    (done.1.parserClasses ⟨["Parser"]⟩)[0]? = (authoredParsers.parserClasses ⟨["Parser"]⟩)[0]? ∧
      done.2[0]? = some ⟨"P", .skipped .alreadyPresent⟩ := by
  intro done
  obtain ⟨-, respected, -⟩ := skip_respects_values_only "serializedGrammar" ⟨["Parser"]⟩
    ⟨[("P", .null), ("Q", .null)]⟩ authoredParsers 0 rfl rfl rfl
    ⟨grammarGetter, List.mem_cons_self, rfl⟩
  exact respected.mpr ⟨_, List.mem_cons_of_mem _ List.mem_cons_self, .quoted .none none _⟩

/-- The accessor of the second parser is overridden, and nothing is reported as present. -/
theorem authored_accessor_overridden :
    let done := (Injector.mk "serializedGrammar" .skip).inject ⟨["Parser"]⟩
      ⟨[("P", .null), ("Q", .null)]⟩ authoredParsers
    ∃ before after properties, (authoredParsers.parserClasses ⟨["Parser"]⟩)[1]? = some before ∧
      before.cls.configuration? = some [grammarGetter] ∧
      grammarGetter.defines "serializedGrammar" = true ∧
      done.2[1]? = some ⟨"Q", .injected⟩ ∧
      (done.1.parserClasses ⟨["Parser"]⟩)[1]? = some after ∧
      after.cls.configuration? = some properties ∧
      lastDefinition? "serializedGrammar" properties =
        some (.made "serializedGrammar" (.madeJsonParse (Json.Value.compact .null))) :=
  ⟨_, _, _, rfl, rfl, rfl, rfl, rfl, rfl, rfl⟩

end Injector

end GrammarEmbed
