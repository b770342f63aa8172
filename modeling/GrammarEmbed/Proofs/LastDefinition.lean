import GrammarEmbed.Proofs.InjectionReport

namespace GrammarEmbed

open Ast

/-- Whether a property of a literal gives a value or an accessor to a name, in whatever form. -/
def Ast.Property.defines (name : String) : Property → Bool
  | .shorthand id => id.name == name
  | .keyValue key _ => key.spells name
  | .getter _ key _ => key.spells name
  | .setter _ key _ _ => key.spells name
  | .method key _ => key.spells name
  | .initialized .. => false
  | .spread .. => false

def Ast.lastDefinition? (name : String) (properties : List Property) : Option Property :=
  (properties.filter (Property.defines name)).getLast?

namespace Injector

/-- No property that injection would exchange is followed by another definition of the name. -/
def SoleDefinition (name : String) (properties : List Property) : Prop :=
  properties.Pairwise fun first second =>
    declares name first = true → second.defines name = false

theorem defines_made (name : String) (value : Expr) :
    (Property.made name value).defines name = true := by
  simp [Property.defines, Property.made, PropertyKey.spells, Ident.made]

theorem lastDefinition_of_later {name : String} {value : Expr} (earlier : List Property)
    {later : List Property} (none : ∀ property ∈ later, property.defines name = false) :
    lastDefinition? name (earlier ++ .made name value :: later) = some (.made name value) := by
  have empty : later.filter (Property.defines name) = [] := by
    simpa [List.filter_eq_nil_iff] using none
  simp [lastDefinition?, defines_made, empty]

/-- Around the first property of its name, a literal defines the name only there exactly if
nothing behind it defines the name. -/
theorem soleDefinition_iff {name : String} {earlier later : List Property} {old : Property}
    (first : ∀ property ∈ earlier, declares name property = false)
    (declared : declares name old = true) :
    SoleDefinition name (earlier ++ old :: later) ↔
      ∀ property ∈ later, property.defines name = false := by
  constructor
  · intro sole property member
    have tail := (List.pairwise_append.mp sole).2.1
    exact (List.pairwise_cons.mp tail).1 property member declared
  · intro none
    apply List.pairwise_append.mpr
    refine ⟨?_, ?_, ?_⟩
    · apply List.Pairwise.imp_mem.mpr
      apply List.pairwise_of_forall
      intro property _ member _ declared
      simp [first property member] at declared
    · apply List.pairwise_cons.mpr
      refine ⟨fun property member _ => none property member, ?_⟩
      apply List.Pairwise.imp_mem.mpr
      apply List.pairwise_of_forall
      intro _ property _ member _
      exact none property member
    · intro property member _ _ declared
      simp [first property member] at declared

/-- A grammar that is written into a literal is the last definition of its name exactly if it was
added at the end, or if the property it was exchanged for was the sole definition. -/
theorem Placed.last_iff {injector : Injector} {value : Expr} {properties placed : List Property}
    {outcome : InjectionOutcome} (step : Placed injector value properties placed outcome)
    (changed : ∀ reason, outcome ≠ .skipped reason) :
    ∃ earlier later, placed = earlier ++ .made injector.property value :: later ∧
      (outcome = .injected → earlier = properties ∧ later = []) ∧
      (outcome = .replaced → ∃ old, properties = earlier ++ old :: later ∧
        declares injector.property old = true ∧
        ∀ property ∈ earlier, declares injector.property property = false) ∧
      ((∀ property ∈ later, property.defines injector.property = false) ↔
        outcome = .injected ∨ SoleDefinition injector.property properties) := by
  cases step with
  | appended room => exact ⟨properties, [], rfl, fun _ => ⟨rfl, rfl⟩, nofun, by simp⟩
  | @exchanged earlier later old policy first declared =>
    refine ⟨earlier, later, rfl, nofun, fun _ => ⟨old, rfl, declared, first⟩, ?_⟩
    simp [soleDefinition_iff first declared]
  | kept => exact absurd rfl (changed _)

/-- Where the new grammar stands in the configuration of a class that was changed, and when it is
the one that counts: always if it was added, and if it was exchanged for another property, exactly
if no property of the old literal that could be exchanged was followed by another definition. -/
theorem new_grammar_last_iff {injector : Injector} {aliases : Aliases} {grammars : Grammars}
    {program : Program} {index : Nat} {entry : ClassInjection}
    (reported : (injector.inject aliases grammars program).2[index]? = some entry)
    (changed : entry.changed = true) :
    ∃ (before after : NamedClass) (grammar : Json.Value) (earlier later : List Property),
      let old := before.cls.configuration?.getD []
      let property := Property.made injector.property (.madeJsonParse grammar.compact)
      (program.parserClasses aliases)[index]? = some before ∧
      ((injector.inject aliases grammars program).1.parserClasses aliases)[index]? = some after ∧
      after.name = before.name ∧ before.name.name = entry.className ∧
      grammars.get? entry.className = some grammar ∧
      property.IsGrammar injector.property grammar.compact ∧
      after.cls.configuration? = some (earlier ++ property :: later) ∧
      (entry.outcome = .injected → earlier = old ∧ later = []) ∧
      (entry.outcome = .replaced → ∃ exchanged, old = earlier ++ exchanged :: later ∧
        declares injector.property exchanged = true ∧
        ∀ other ∈ earlier, declares injector.property other = false) ∧
      ((∀ other ∈ later, other.defines injector.property = false) ↔
        entry.outcome = .injected ∨ SoleDefinition injector.property old) ∧
      (entry.outcome = .injected ∨ SoleDefinition injector.property old →
        lastDefinition? injector.property (earlier ++ property :: later) = some property) := by
  obtain ⟨before, after, grammar, placed, place, moved, renamed, named, known, configured, step⟩ :=
    inject_changed reported changed
  obtain ⟨earlier, later, rfl, added, exchanged, last⟩ :=
    step.last_iff ((ClassInjection.changed_iff entry).mp changed)
  refine ⟨before, after, grammar, earlier, later, place, moved, renamed, named, known,
    Property.isGrammar_made _ _, configured, added, exchanged, last, ?_⟩
  intro counts
  exact lastDefinition_of_later earlier (last.mpr counts)

theorem new_grammar_last_threeParsers :
    let injector : Injector := ⟨"serializedGrammar", .replace⟩
    let done := injector.inject ⟨["Parser"]⟩ ⟨[("Q", .null)]⟩ threeParsers
    done.2[1]? = some ⟨"Q", .replaced⟩ ∧
    ∃ found properties, (done.1.parserClasses ⟨["Parser"]⟩)[1]? = some found ∧
      found.cls.configuration? = some properties ∧
      lastDefinition? "serializedGrammar" properties =
        some (.made "serializedGrammar" (.madeJsonParse (Json.Value.compact .null))) := by
  intro injector done
  have reported : done.2[1]? = some ⟨"Q", .replaced⟩ := rfl
  obtain ⟨before, after, grammar, earlier, later, place, moved, -, -, known, -, configured, -, -,
    -, counts⟩ := new_grammar_last_iff reported rfl
  cases place
  cases known
  exact ⟨reported, after, _, moved, configured, counts (.inr (List.pairwise_singleton _ _))⟩

def twiceConfigured : Program where
  span := .none
  kind := .script
  shebang := none
  items :=
    [madeParser "P" [madeConstructor [.mk none .madeUndefined,
      .mk none (.madeObject [.made "serializedGrammar" (.madeString "first"),
        .made "serializedGrammar" (.madeString "second")])]]]

/-- The first definition is exchanged, and the second one is the one that counts. -/
theorem exchanged_definition_overridden :
    let injector : Injector := ⟨"serializedGrammar", .replace⟩
    let done := injector.inject ⟨["Parser"]⟩ ⟨[("P", .null)]⟩ twiceConfigured
    done.2 = [⟨"P", .replaced⟩] ∧
    ∃ found properties, (done.1.parserClasses ⟨["Parser"]⟩)[0]? = some found ∧
      found.cls.configuration? = some properties ∧
      lastDefinition? "serializedGrammar" properties =
        some (.made "serializedGrammar" (.madeString "second")) :=
  ⟨rfl, _, _, rfl, rfl, rfl⟩

end Injector

end GrammarEmbed
