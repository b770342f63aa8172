import GrammarEmbed.Text.Quoted

namespace GrammarEmbed

/-- The digits a number literal may have. -/
inductive Radix where
  | binary | octal | decimal | hexadecimal
deriving DecidableEq, Repr, Inhabited

def Radix.base : Radix → Nat
  | .binary => 2
  | .octal => 8
  | .decimal => 10
  | .hexadecimal => 16

/-- A digit of this radix, with its article. -/
def Radix.digitName : Radix → String
  | .binary => "a binary digit"
  | .octal => "an octal digit"
  | .decimal => "a decimal digit"
  | .hexadecimal => "a hexadecimal digit"

inductive Fault where
  | endOfText
  | expected (want got : String)
  | unexpected (got want : String)
  | expectedExpression
  | expectedStatementEnd
  | expectedSemicolon
  | expectedIdentifier
  | expectedDigit (radix : Radix)
  | identifierAfterNumber
  | numberWithoutExponent
  | misplacedSeparator
  | legacyOctal
  | legacyDecimal
  | legacyComment
  | unterminatedString
  | unterminatedTemplate
  | unterminatedComment
  | unterminatedRegex
  | badEscape (want : String)
  | invalidStringEscape
  | invalidUnicodeEscape
  | expectedUnicodeEscape
  | invalidIdentifierCharacter
  | unexpectedCharacter (c : Char)
  | escapedReservedWord (word : String)
  | conflictMarker
  | unknownRegexFlags
  | repeatedRegexFlag (flag : Char)
  | reservedInStrictMode (word : String)
  | awaitAsIdentifier
  | restrictedBinding
  | argumentsInField
  | deleteOfName
  | withInStrictMode
  | strictDirectiveWithParameters
  | yieldInParameters
  | awaitInParameters
  | awaitInFunction
  | awaitStar
  | unaryBeforePower
  | mixedNullish
  | notAssignable
  | notReference
  | invalidTarget
  | notPattern
  | assignmentInObject
  | questionInProperty
  | spreadInParens
  | emptyParens
  | arrowNotAllowed
  | lineBreakBeforeArrow
  | superAccess
  | superCallee
  | superOptional
  | importCallee
  | trailingCommaInImport
  | newTargetOutside
  | optionalChainInNew
  | optionalChainTemplate
  | lineBreakAfterThrow
  | returnOutside
  | breakOutside
  | breakLabel
  | continueOutside
  | continueLabel
  | repeatedLabel (label : String)
  | labelledFunctionInStrictMode
  | labelledGenerator
  | repeatedDefault
  | declarationNotAllowed
  | trailingComma
  | constWithoutValue
  | patternWithoutValue
  | severalLoopVariables
  | loopVariableValue
  | asyncLoopVariable
  | awaitLoop
  | usingNotEnabled
  | restNotLastParameter
  | restNotLast
  | restWithValue
  | restNotIdentifier
  | commaAfterRest
  | getterParameters
  | setterParameters
  | setterRest
  | repeatedExtends
  | misplacedModifier
  | repeatedConstructor
  | asyncConstructor
  | generatorConstructor
  | accessorConstructor
  | constructorField
  | staticConstructor
  | privateConstructor
  | moduleDeclarationOutside
  | importedString (name : String)
  | exportedString
  | exportWithoutSource (name : String)
  | tooDeep
deriving DecidableEq, Repr, Inhabited

namespace Fault

def message : Fault → String
  | endOfText => "Unexpected eof"
  | expected want got => "Expected '" ++ want ++ "', got '" ++ got ++ "'"
  | unexpected got want => "Unexpected token `" ++ got ++ "`. Expected " ++ want
  | expectedExpression => "Expression expected"
  | expectedStatementEnd => "Expected ';', '\x7d' or <eof>"
  | expectedSemicolon => "Expected a semicolon"
  | expectedIdentifier => "Expected ident"
  | expectedDigit radix => "Expected " ++ radix.digitName
  | identifierAfterNumber => "Identifier cannot follow number"
  | numberWithoutExponent => "Expected +, - or decimal digit after e"
  | misplacedSeparator => "A numeric separator is only allowed between two digits"
  | legacyOctal => "Legacy octal escape is not permitted in strict mode"
  | legacyDecimal => "Legacy decimal escape is not permitted in strict mode"
  | legacyComment => "Legacy comments cannot be used in module code"
  | unterminatedString => "Unterminated string constant"
  | unterminatedTemplate => "Unterminated template"
  | unterminatedComment => "Unterminated block comment"
  | unterminatedRegex => "Unterminated regexp literal"
  | badEscape want => "Bad character escape sequence, expected " ++ want
  | invalidStringEscape => "Invalid string escape"
  | invalidUnicodeEscape => "Invalid unicode escape"
  | expectedUnicodeEscape => "Expected unicode escape"
  | invalidIdentifierCharacter => "Invalid character in identifier"
  | unexpectedCharacter c => "Unexpected character " ++ Text.quotedSingle c
  | escapedReservedWord word => "Unexpected escape sequence in reserved word: " ++ word
  | conflictMarker => "Merge conflict marker encountered."
  | unknownRegexFlags => "Unknown regular expression flags."
  | repeatedRegexFlag flag => "Duplicated regular expression flag '" ++ flag.toString ++ "'."
  | reservedInStrictMode word => "`" ++ word ++ "` cannot be used as an identifier in strict mode"
  | awaitAsIdentifier => "`await` cannot be used as an identifier in an async context"
  | restrictedBinding =>
    "'eval' and 'arguments' cannot be used as a binding identifier in strict mode"
  | argumentsInField => "'arguments' is only allowed in functions and class methods"
  | deleteOfName => "'delete' cannot be called on an identifier in strict mode"
  | withInStrictMode => "With statement are not allowed in strict mode"
  | strictDirectiveWithParameters =>
    "Illegal 'use strict' directive in function with non-simple parameter list."
  | yieldInParameters => "'yield' cannot be used as a parameter within generator"
  | awaitInParameters => "`await` expressions cannot be used in a parameter initializer."
  | awaitInFunction => "await isn't allowed in non-async function"
  | awaitStar =>
    "await* has been removed from the async functions proposal. Use Promise.all() instead."
  | unaryBeforePower => "'**' cannot be applied to unary/await expression."
  | mixedNullish =>
    "Nullish coalescing operator(??) requires parens when mixing with logical operators"
  | notAssignable => "Cannot assign to this"
  | notReference =>
    "The left-hand side of an assignment expression must be a variable or a property access."
  | invalidTarget => "Invalid assignment target"
  | notPattern => "Not a pattern"
  | assignmentInObject => "assignment property is invalid syntax"
  | questionInProperty => "An object member cannot be declared optional"
  | spreadInParens => "Parenthesized expression cannot contain spread operator"
  | emptyParens => "Parenthesized expression cannot be empty"
  | arrowNotAllowed => "An arrow function is not allowed here"
  | lineBreakBeforeArrow => "Unexpected line break between arrow head and arrow"
  | superAccess => "Invalid access to super"
  | superCallee => "Invalid `super()`"
  | superOptional => "Super call cannot be optional"
  | importCallee => "Import is not allowed here"
  | trailingCommaInImport => "Trailing comma is disallowed inside import(...) arguments"
  | newTargetOutside =>
    "'new.target' is only allowed in the body of a function declaration, function expression, or class."
  | optionalChainInNew => "Constructor in/after an optional chaining is not allowed."
  | optionalChainTemplate => "Tagged template literal is not allowed in optional chain."
  | lineBreakAfterThrow => "LineBreak cannot follow 'throw'"
  | returnOutside => "Return statement is not allowed here"
  | breakOutside =>
    "A 'break' statement can only be used within an enclosing iteration or switch statement"
  | breakLabel => "A 'break' statement can only jump to a label of an enclosing statement"
  | continueOutside =>
    "A 'continue' statement can only jump to a label of an enclosing iteration statement"
  | continueLabel => "Jump target cannot cross function boundary"
  | repeatedLabel label => "Label " ++ label ++ " is already declared"
  | labelledFunctionInStrictMode => "Function cannot be labelled in strict mode"
  | labelledGenerator => "Generator or async function cannot be labelled"
  | repeatedDefault => "A switch block cannot have multiple defaults"
  | declarationNotAllowed => "Declaration is not allowed"
  | trailingComma => "Trailing comma is not allowed"
  | constWithoutValue => "'const' declarations must be initialized"
  | patternWithoutValue => "Destructuring bindings require initializers"
  | severalLoopVariables => "Expected one variable binding"
  | loopVariableValue => "Unexpected initializer in for in/of loop"
  | asyncLoopVariable => "The left-hand side of a `for...of` statement may not be `async`"
  | awaitLoop => "for await syntax is valid only for for-of statement"
  | usingNotEnabled =>
    "Using declaration is not enabled. Set jsc.parser.explicitResourceManagement to true"
  | restNotLastParameter => "A rest parameter must be last in a parameter list"
  | restNotLast => "Rest element must be final element"
  | restWithValue => "A rest parameter cannot have an initializer"
  | restNotIdentifier => "`...` must be followed by an identifier in declaration contexts"
  | commaAfterRest => "Trailing comma isn't permitted after a rest element"
  | getterParameters => "A `get` accessor cannot have parameters"
  | setterParameters => "A `set` accessor must have exactly one parameter"
  | setterRest => "Rest pattern is not allowed in setter"
  | repeatedExtends => "`extends` clause already seen."
  | misplacedModifier => "Modifiers cannot appear here"
  | repeatedConstructor => "A class can only have one constructor"
  | asyncConstructor => "Constructor can't be an async function"
  | generatorConstructor => "A constructor cannot be generator"
  | accessorConstructor => "Class constructor can't be an accessor."
  | constructorField => "Classes may not have a non-static field named 'constructor'"
  | staticConstructor => "'static' modifier cannot appear on a constructor declaration"
  | privateConstructor => "Classes can't have a private field named '#constructor'."
  | moduleDeclarationOutside => "'import', and 'export' cannot be used outside of module code"
  | importedString name =>
    "A string literal cannot be used as an imported binding.\n- Did you mean `import \x7b \"" ++ name
      ++ "\" as foo \x7d`?"
  | exportedString => "A string literal cannot be used as an exported binding without `from`."
  | exportWithoutSource name => "`" ++ name ++ "` cannot be used without `from` clause"
  | tooDeep => "Nesting is too deep"

/-- How a message about something else names a fault of the text's spelling. -/
def label : Fault → String
  | unexpectedCharacter c => "UnexpectedChar \x7b c: " ++ Text.quotedSingle c ++ " \x7d"
  | expectedUnicodeEscape => "ExpectedUnicodeEscape"
  | expectedDigit radix => "ExpectedDigit \x7b radix: " ++ toString radix.base ++ " \x7d"
  | badEscape want => "BadCharacterEscapeSequence \x7b expected: " ++ Text.quoted want ++ " \x7d"
  | escapedReservedWord word => "EscapeInReservedWord \x7b word: " ++ Text.quoted word ++ " \x7d"
  | identifierAfterNumber => "IdentAfterNum"
  | numberWithoutExponent => "NumLitTerminatedWithExp"
  | invalidStringEscape => "InvalidStrEscape"
  | invalidUnicodeEscape => "InvalidUnicodeEscape"
  | unterminatedTemplate => "UnterminatedTpl"
  | unterminatedRegex => "UnterminatedRegExp"
  | conflictMarker => "TS1185"
  | fault => fault.message

end Fault

structure SourceError where
  place : Nat
  fault : Fault
deriving DecidableEq, Repr, Inhabited

end GrammarEmbed
