import GrammarEmbed.Proofs.StructuralBinding

/-!
The gate decides by strings in which the members of module objects are written with a dot. As long
as no identifier of the program has a dot of its own, these strings stand for one binding each, and
the gate lets through exactly the programs with a class that extends the base class.
-/

namespace GrammarEmbed

open Ast

/-- A name that cannot be taken for a member of something. -/
def Dotless (name : String) : Prop :=
  '.' ∉ name.toList

instance (name : String) : Decidable (Dotless name) :=
  inferInstanceAs (Decidable (¬ '.' ∈ name.toList))

namespace Aliases

theorem toList_memberName (object member : String) :
    (memberName object member).toList = object.toList ++ '.' :: member.toList := by
  simp [memberName]

theorem not_dotless_memberName (object member : String) : ¬ Dotless (memberName object member) := by
  simp [Dotless, toList_memberName]

/-- The object of a member is what stands before the first dot. -/
theorem memberName_inj {object other member key : String} (dotless : Dotless object)
    (otherDotless : Dotless other) (same : memberName object member = memberName other key) :
    object = other ∧ member = key := by
  have before : ∀ {name : String} (rest : List Char), Dotless name →
      (name.toList ++ '.' :: rest).takeWhile (· != '.') = name.toList := by
    intro name rest dotless
    rw [List.takeWhile_append_of_pos]
    · simp
    · intro c member
      simpa using fun dot : c = '.' => dotless (dot ▸ member)
  have chars : object.toList ++ '.' :: member.toList = other.toList ++ '.' :: key.toList := by
    rw [← toList_memberName, ← toList_memberName, same]
  have objects : object.toList = other.toList := by
    rw [← before member.toList dotless, chars, before key.toList otherDotless]
  rw [objects, List.append_cancel_left_eq, List.cons.injEq] at chars
  exact ⟨String.toList_inj.mp objects, String.toList_inj.mp chars.2⟩

end Aliases

theorem Ast.Program.mem_identifiers_of_class {program : Program} {found : NamedClass}
    {name : String} (member : found ∈ program.classes) (named : name ∈ found.cls.identifiers) :
    name ∈ program.identifiers := by
  obtain ⟨item, listed, declared⟩ := List.mem_filterMap.mp member
  apply Program.mem_identifiers listed
  unfold Item.class? at declared
  split at declared <;> cases declared
  · exact List.mem_cons_of_mem _ named
  · exact List.mem_cons_of_mem _ named
  · exact List.mem_append_right _ named

namespace BaseClass

variable (base : BaseClass) {program : Program}

variable (program) in
theorem isEmpty_aliases :
    (base.aliases program).isEmpty = true ↔ ∀ binding, ¬ base.Binds program binding := by
  rw [Aliases.isEmpty, List.isEmpty_iff, List.eq_nil_iff_forall_not_mem]
  simp only [mem_aliases]
  constructor
  · intro none binding bound
    exact none _ ⟨binding, bound, rfl⟩
  · rintro none _ ⟨binding, bound, _⟩
    exact none binding bound

/-- A plain name is an alias exactly if it stands for the class itself. -/
theorem contains_aliases {name : String} (dotless : Dotless name) :
    (base.aliases program).contains name = true ↔ base.Binds program (.plain name) := by
  rw [Aliases.contains_iff, mem_aliases]
  constructor
  · rintro ⟨_ | _, bound, rfl⟩
    · exact bound
    · exact absurd dotless (Aliases.not_dotless_memberName _ _)
  · intro bound
    exact ⟨_, bound, rfl⟩

/-- A member is an alias exactly if it is the class's member of an object that has it. -/
theorem containsMember_aliases (dotless : ∀ name ∈ program.identifiers, Dotless name)
    {object key : String} (plain : Dotless object) :
    (base.aliases program).containsMember object key = true ↔
      base.Binds program (.whole object) ∧ key = base.name := by
  rw [Aliases.containsMember, Aliases.contains_iff, mem_aliases]
  constructor
  · rintro ⟨name | name, bound, same⟩
    · have named : Dotless name := dotless _ bound.mem_identifiers
      exact absurd (same ▸ named) (Aliases.not_dotless_memberName object key)
    · obtain ⟨rfl, rfl⟩ := Aliases.memberName_inj plain (dotless _ bound.mem_identifiers) same
      exact ⟨bound, rfl⟩
  · rintro ⟨bound, rfl⟩
    exact ⟨_, bound, rfl⟩

theorem inherits_iff (dotless : ∀ name ∈ program.identifiers, Dotless name) {found : NamedClass}
    (member : found ∈ program.classes) :
    found.cls.inherits (base.aliases program) = true ↔ base.Extends program found.cls := by
  have plain : ∀ name ∈ found.cls.identifiers, Dotless name :=
    fun name named => dotless name (Program.mem_identifiers_of_class member named)
  unfold ClassDef.inherits
  split
  · rename_i span id members same
    rw [same] at plain ⊢
    rw [base.contains_aliases (plain _ List.mem_cons_self)]
    constructor
    · exact .plain span id members
    · rintro ⟨⟩
      assumption
  · rename_i span memberSpan object key members same
    rw [same] at plain ⊢
    rw [base.containsMember_aliases dotless (plain _ List.mem_cons_self)]
    constructor
    · rintro ⟨bound, named⟩
      exact .member span memberSpan object key members bound named
    · rintro (_ | ⟨_, _, _, _, _, bound, named⟩)
      exact ⟨bound, named⟩
  · rename_i notName notMember
    constructor
    · nofun
    · intro extended
      cases same : found.cls
      rw [same] at extended
      cases extended
      · exact absurd same (notName _ _ _)
      · exact absurd same (notMember _ _ _ _ _)

open Classical in
theorem parserClasses_aliases (dotless : ∀ name ∈ program.identifiers, Dotless name) :
    program.parserClasses (base.aliases program) =
      program.classes.filter fun found => decide (base.Extends program found.cls) := by
  apply List.filter_congr
  intro found member
  apply Bool.eq_iff_iff.mpr
  rw [base.inherits_iff dotless member, decide_eq_true_iff]

end BaseClass

namespace Config

variable (config : Config) {program : Program}

theorem gate_of_bound (bound : ∃ binding, config.base.Binds program binding) :
    config.gate program =
      if (program.parserClasses (config.base.aliases program)).isEmpty then .skip .noParserClasses
      else
        .proceed (config.base.aliases program)
          ((program.parserClasses (config.base.aliases program)).map
            fun found => found.name.name) := by
  have filled : (config.base.aliases program).isEmpty = false := by
    apply Bool.eq_false_iff.mpr
    intro empty
    obtain ⟨binding, binds⟩ := bound
    exact (config.base.isEmpty_aliases program).mp empty binding binds
  simp [gate, filled]

theorem gate_eq_noLibraryImport_iff :
    config.gate program = .skip .noLibraryImport ↔
      ∀ binding, ¬ config.base.Binds program binding := by
  constructor
  · intro skipped binding binds
    rw [config.gate_of_bound ⟨binding, binds⟩] at skipped
    split at skipped <;> cases skipped
  · intro unbound
    have empty := (config.base.isEmpty_aliases program).mpr unbound
    simp [gate, empty]

open Classical in
/-- The gate sees what the syntax says, in a program whose identifiers have no dots: it finds the
library missing exactly if no name is bound to it, parser classes missing exactly if names are
bound but no named class at the top level extends the base class through one of them, and
otherwise passes on the names of exactly these classes, in source order, with the bound names as
aliases. -/
theorem gate_exact (config : Config) (program : Program)
    (dotless : ∀ name ∈ program.identifiers, Dotless name) :
    (config.gate program = .skip .noLibraryImport ↔
      ∀ binding, ¬ config.base.Binds program binding) ∧
    ((∃ binding, config.base.Binds program binding) →
      (config.gate program = .skip .noParserClasses ↔
        ∀ found ∈ program.classes, ¬ config.base.Extends program found.cls) ∧
      ((∃ found ∈ program.classes, config.base.Extends program found.cls) →
        ∃ aliases,
          config.gate program = .proceed aliases
            ((program.classes.filter
              fun found => decide (config.base.Extends program found.cls)).map
                fun found => found.name.name) ∧
          aliases.names.Nodup ∧
          ∀ name, name ∈ aliases.names ↔
            ∃ binding, config.base.Binds program binding ∧
              name = binding.aliasName config.base)) := by
  refine ⟨config.gate_eq_noLibraryImport_iff, ?_⟩
  intro bound
  have decided := config.gate_of_bound bound
  have empty : (program.parserClasses (config.base.aliases program)).isEmpty = true ↔
      ∀ found ∈ program.classes, ¬ config.base.Extends program found.cls := by
    rw [config.base.parserClasses_aliases dotless, List.isEmpty_iff, List.filter_eq_nil_iff]
    simp only [decide_eq_true_iff]
  constructor
  · rw [decided, ← empty]
    constructor
    · intro skipped
      split at skipped
      · assumption
      · cases skipped
    · intro none
      exact if_pos none
  · rintro ⟨found, member, extended⟩
    have filled : ¬ (program.parserClasses (config.base.aliases program)).isEmpty = true :=
      fun none => empty.mp none found member extended
    rw [if_neg filled, config.base.parserClasses_aliases dotless] at decided
    exact ⟨config.base.aliases program, decided, config.base.nodup_aliases program,
      config.base.mem_aliases program⟩

/-- A script that requires the library twice, as a whole and for its base class. Two of its three
classes extend the base class. -/
def requiringScript : Program where
  span := .none
  kind := .script
  shebang := none
  items :=
    let required := Expr.call .none (.madeIdent "require") [.mk none (.madeString "chevrotain")]
    let extending (name : String) (superclass : Expr) : Item :=
      .stmt (.decl (.class (.made name) (.mk .none (some superclass) [])))
    [.stmt (.decl (.var (.mk .none .const
        [.mk .none (.ident (.made "cv")) (some required),
          .mk .none (.object .none [.keyValue (.str ⟨.none, "Parser", none⟩)
            (.assign .none (.ident (.made "Base")) .madeUndefined)]) (some required)]))),
      extending "P" (.madeMember (.madeIdent "cv") "Parser"),
      extending "L" (.madeMember (.madeIdent "cv") "Lexer"),
      extending "Q" (.madeIdent "Base")]

theorem gate_exact_requiringScript :
    (∀ name ∈ requiringScript.identifiers, Dotless name) ∧
    ({} : Config).base.Binds requiringScript (.whole "cv") ∧
    ∃ aliases, ({} : Config).gate requiringScript = .proceed aliases ["P", "Q"] ∧
      ∀ name, name ∈ aliases.names ↔ ∃ binding, ({} : Config).base.Binds requiringScript binding ∧
        name = binding.aliasName ({} : Config).base := by
  have dotless : ∀ name ∈ requiringScript.identifiers, Dotless name := by decide
  have bound : ({} : Config).base.Binds requiringScript (.whole "cv") :=
    ⟨_, List.mem_cons_self, .declared _ _ _ _ _ List.mem_cons_self
      (.whole _ _ _ (.call _ _ _ _ rfl rfl))⟩
  have declared : ⟨.made "P", .mk .none (some (.madeMember (.madeIdent "cv") "Parser")) []⟩ ∈
      requiringScript.classes := List.mem_cons_self
  obtain ⟨aliases, passed, -, listed⟩ := ((gate_exact {} requiringScript dotless).2 ⟨_, bound⟩).2
    ⟨_, declared, .member _ _ _ _ _ bound rfl⟩
  have computed : ({} : Config).gate requiringScript =
      .proceed ⟨["cv.Parser", "Base"]⟩ ["P", "Q"] := by decide
  obtain ⟨rfl, -⟩ := GateDecision.proceed.inj (computed.symm.trans passed)
  exact ⟨dotless, bound, _, computed, listed⟩

end Config

end GrammarEmbed
