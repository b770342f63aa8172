import GrammarEmbed.Proofs.ConfigReading
import GrammarEmbed.Proofs.EmbeddedText
import GrammarEmbed.Proofs.WordReading

namespace GrammarEmbed

open Ast

open Layout in
/-- The property that holds a grammar is written on one line. -/
theorem Writer.run_madeProperty {w : Writer} (unmade : w.comments.NoneMade) (key json : String) :
    w.run (Property.made key (.madeJsonParse json)).layout =
      w.put (key ++ (": JSON.parse(" ++ Text.stringLiteral json ++ ")")) := by
  have parts : (Property.made key (.madeJsonParse json)).layout =
      leading 0 ++ (leading 0 ++ text key) ++ text ": " ++
        ((Expr.madeJsonParse json).layout ++ trailing 0) := rfl
  have append (v : Writer) (a b : Layout) : v.run (a ++ b) = (v.run a).run b := rfl
  have kept (s : String) : (w.put s).comments.NoneMade := by rwa [comments_put]
  have name : ": JSON.parse(" = ": " ++ "JSON.parse(" := by decide
  simp only [parts, append, run, putLeading_made, putTrailing_made, unmade, kept, put_put,
    run_madeJsonParse, name, String.append_assoc]

namespace Config

theorem validate_of_ofJson {text : String} {config : Config}
    (accepted : ofJson text = .ok config) : config.validate = .ok () := by
  cases parsed : Json.parse text with
  | error fault => simp [ofJson, parsed] at accepted
  | ok value => exact ((ofJson_eq_ok_iff parsed config).mp accepted).2

/-- An accepted configuration names a library, and its names for code are plain. Such a name is an
identifier name, and taken for one word by the lexer, exactly if its first character may start a
name and no other one is stray; so it is if it is in ASCII. The key that is written for a grammar is
read back as that key under the same condition. -/
theorem accepted_names_read_back {text : String} {config : Config}
    (accepted : ofJson text = .ok config) :
    config.library ≠ "" ∧
    (∀ name ∈ config.names,
      (Text.isIdentifierName name = true ↔
        (∀ c ∈ name.toList.head?, Text.isNameStart c = true) ∧
          ∀ c ∈ name.toList.tail, Text.isStray c = false) ∧
      ((∀ c ∈ name.toList, c.toNat < 0x80) → Text.isIdentifierName name = true) ∧
      ∀ (lexer : Lexer) (after : List Char), lexer.broken = none → Text.EndsName after →
        lexer.rest = name.toList ++ after →
        (lexer.TakesWord name after ↔ Text.isIdentifierName name = true)) ∧
    ∀ json : String,
      let call := ": JSON.parse(" ++ Text.stringLiteral json ++ ")"
      (∀ w : Writer, w.comments.NoneMade →
        w.run (Property.made config.grammarProperty (.madeJsonParse json)).layout =
          w.put (config.grammarProperty ++ call)) ∧
      ∀ (self : Parse.Self) (s : Parse.State) (after : List Char), s.ahead = [] →
        s.lexer.broken = none →
        s.lexer.rest = (config.grammarProperty ++ call).toList ++ after →
        ((∃ span later,
            Parse.propertyKey self s = .ok (.name ⟨span, config.grammarProperty⟩) later ∧
              later.ahead = [] ∧ later.lexer.rest = call.toList ++ after) ↔
          Text.isIdentifierName config.grammarProperty = true) := by
  obtain ⟨named, plain⟩ := (validate_eq_ok_iff config).mp (validate_of_ofJson accepted)
  refine ⟨named, ?_, ?_⟩
  · intro name member
    have wide := plain name member
    refine ⟨Text.isIdentifierName_iff wide, Text.isIdentifierName_of_ascii wide, ?_⟩
    intro lexer after running ends front
    exact Lexer.takesWord_iff running wide ends front
  · intro json call
    refine ⟨fun w unmade => Writer.run_madeProperty unmade config.grammarProperty json, ?_⟩
    intro self s after fresh running front
    have ends : Text.EndsName (call.toList ++ after) := by
      have colon : Text.isNamePart ':' = false := rfl
      simp [Text.EndsName, call, String.toList_append, colon]
    apply Parse.propertyKey_iff fresh self running (plain _ (by simp [names])) ends
    rw [front, String.toList_append, List.append_assoc]

section Samples

/-- A configuration that gives only the name of the property. -/
theorem ofJson_grammarProperty {grammarProperty text : String}
    (plain : Text.isPlainName grammarProperty = true)
    (written : (Json.Value.obj [("grammarProperty", .str grammarProperty)]).compact = text) :
    ofJson text = .ok { grammarProperty } := by
  have fits : (Json.Value.obj [("grammarProperty", .str grammarProperty)]).Fits Json.maxDepth :=
    .obj (List.forall_mem_cons.mpr ⟨.str _, nofun⟩)
  rw [← written]
  apply (ofJson_obj_eq_ok_iff (Json.parse_compact fits) rfl _).mpr
  refine ⟨⟨rfl, rfl, rfl, rfl, rfl, rfl⟩, ?_⟩
  have others := plain_names_default
  simp only [names, List.forall_mem_cons] at others
  apply (validate_eq_ok_iff _).mpr
  simp [names, plain, others]

theorem accepted_names_read_back_cyrillic :
    let config : Config := { grammarProperty := "$грамматика1" }
    let written := "$грамматика1: JSON.parse(\"1\")"
    ofJson "\x7b\"grammarProperty\":\"$грамматика1\"\x7d" = .ok config ∧
      (∀ w : Writer, w.comments.NoneMade →
        w.run (Property.made config.grammarProperty (.madeJsonParse "1")).layout =
          w.put written) ∧
      (Lexer.ofText written).TakesWord config.grammarProperty ": JSON.parse(\"1\")".toList := by
  intro config written
  obtain ⟨plain, identifier, given, literal⟩ : Text.isPlainName "$грамматика1" = true ∧
      Text.isIdentifierName "$грамматика1" = true ∧
      (Json.Value.obj [("grammarProperty", .str "$грамматика1")]).compact =
        "\x7b\"grammarProperty\":\"$грамматика1\"\x7d" ∧
      "$грамматика1" ++ (": JSON.parse(" ++ Text.stringLiteral "1" ++ ")") = written := by
    decide +kernel
  have accepted := ofJson_grammarProperty plain given
  obtain ⟨-, words, keys⟩ := accepted_names_read_back accepted
  obtain ⟨-, -, word⟩ := words config.grammarProperty (by simp [names, config])
  refine ⟨accepted, ?_, ?_⟩
  · intro w unmade
    rw [(keys "1").1 w unmade, literal]
  · apply (word _ _ rfl ?_ ?_).mpr identifier
    · have colon : Text.isNamePart ':' = false := rfl
      simp [Text.EndsName, colon]
    · simp [Lexer.ofText, config, written]

/-- A number that no identifier holds is accepted, and stops the lexer behind the letter before. -/
theorem stray_number_accepted :
    let config : Config := { grammarProperty := "a²" }
    let lexer := Lexer.ofText "a²: JSON.parse(\"1\")"
    ofJson "\x7b\"grammarProperty\":\"a²\"\x7d" = .ok config ∧
      Text.isIdentifierName config.grammarProperty = false ∧
      lexer.next.1.token = .word "a" false ∧
      lexer.next.2.2.next.1.token = .bad ⟨2, .unexpectedCharacter '²'⟩ 2 := by
  intro config lexer
  obtain ⟨plain, given, stray⟩ : Text.isPlainName "a²" = true ∧
      (Json.Value.obj [("grammarProperty", .str "a²")]).compact =
        "\x7b\"grammarProperty\":\"a²\"\x7d" ∧
      Text.isIdentifierName "a²" = false ∧ lexer.next.1.token = .word "a" false ∧
      lexer.next.2.2.next.1.token = .bad ⟨2, .unexpectedCharacter '²'⟩ 2 := by
    decide +kernel
  exact ⟨ofJson_grammarProperty plain given, stray⟩

end Samples

end Config

end GrammarEmbed
