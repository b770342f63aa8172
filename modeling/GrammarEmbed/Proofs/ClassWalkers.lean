import GrammarEmbed.Proofs.InjectionReport
import GrammarEmbed.Proofs.RecordedRun

namespace GrammarEmbed

open Ast

theorem Ast.Program.parserNames_eq (program : Program) (aliases : Aliases) :
    program.items.filterMap (Item.parserName? aliases) =
      (program.parserClasses aliases).map fun found => found.name.name := by
  unfold parserClasses classes
  induction program.items with
  | nil => rfl
  | cons item rest ih =>
    cases declared : item.class? with
    | none => simpa [Item.parserName?, declared] using ih
    | some found =>
      by_cases parser : found.cls.inherits aliases = true
      · simpa [Item.parserName?, declared, parser] using ih
      · simpa [Item.parserName?, declared, parser] using ih

namespace Clone

theorem parserName_of_isDirective {item : Item} (directive : isDirective item = true)
    (aliases : Aliases) : item.parserName? aliases = none := by
  cases declared : item.class? with
  | none => simp [Item.parserName?, declared]
  | some found =>
    have other := Item.isDirective_of_class (Option.isSome_of_eq_some declared)
    rw [directive] at other
    cases other

end Clone

namespace Precompiler

end Precompiler

end GrammarEmbed
