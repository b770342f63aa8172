import GrammarEmbed.Gate
import GrammarEmbed.Proofs.Identifiers

namespace GrammarEmbed

open Ast

/-- How a name reaches the base class: it stands for the class itself, or for an object that has
the class as a member. -/
inductive Binding where
  | plain (name : String)
  | whole (name : String)
deriving DecidableEq, Repr

namespace Binding

def name : Binding → String
  | plain name => name
  | whole name => name

def aliasName (base : BaseClass) : Binding → String
  | plain name => name
  | whole name => Aliases.memberName name base.name

end Binding

namespace BaseClass

variable (base : BaseClass)

/-- What a specifier binds in an import from the library. -/
inductive SpecifierBinds : ImportSpecifier → Binding → Prop where
  /-- `import { B }` -/
  | same (span : Span) (local_ : Ident) (named : local_.name = base.name) :
      SpecifierBinds (.named span local_ none) (.plain local_.name)
  /-- `import { B as X }` -/
  | renamed (span : Span) (local_ imported : Ident) (named : imported.name = base.name) :
      SpecifierBinds (.named span local_ (some (.ident imported))) (.plain local_.name)
  /-- `import { "B" as X }` -/
  | quoted (span : Span) (local_ : Ident) (imported : StringLit)
      (named : imported.value = base.name) :
      SpecifierBinds (.named span local_ (some (.str imported))) (.plain local_.name)
  /-- `import X` -/
  | default (local_ : Ident) : SpecifierBinds (.default local_) (.whole local_.name)
  /-- `import * as X` -/
  | namespace (span : Span) (local_ : Ident) :
      SpecifierBinds (.namespace span local_) (.whole local_.name)

/-- `require("library", …)` -/
inductive Requires : Expr → Prop where
  | call (span : Span) (callee : Ident) (lit : StringLit) (more : List Argument)
      (called : callee.name = "require") (loaded : lit.value = base.library) :
      Requires (.call span (.ident callee) (.mk none (.literal (.str lit)) :: more))

/-- The name that a property of an object pattern gives to the member with the class's name. -/
inductive Destructures : PatternProperty → String → Prop where
  /-- `{ B }` and `{ B = d }` -/
  | shorthand (span : Span) (id : Ident) (fallback : Option Expr) (named : id.name = base.name) :
      Destructures (.shorthand span id fallback) id.name
  /-- `{ B: X }` -/
  | renamed (key : PropertyKey) (id : Ident) (named : key.spells base.name = true) :
      Destructures (.keyValue key (.ident id)) id.name
  /-- `{ B: X = d }` -/
  | defaulted (key : PropertyKey) (span : Span) (id : Ident) (fallback : Expr)
      (named : key.spells base.name = true) :
      Destructures (.keyValue key (.assign span (.ident id) fallback)) id.name

inductive DeclaratorBinds : Declarator → Binding → Prop where
  /-- `X = require("library")` -/
  | whole (span : Span) (id : Ident) (value : Expr) (required : Requires base value) :
      DeclaratorBinds (.mk span (.ident id) (some value)) (.whole id.name)
  /-- `{ … } = require("library")` -/
  | member (span patternSpan : Span) (properties : List PatternProperty)
      (property : PatternProperty) (name : String) (value : Expr) (required : Requires base value)
      (listed : property ∈ properties) (destructured : Destructures base property name) :
      DeclaratorBinds (.mk span (.object patternSpan properties) (some value)) (.plain name)

/-- What an item at the top level binds. -/
inductive ItemBinds : Item → Binding → Prop where
  | imported (span : Span) (phase : ImportPhase) (specifiers : List ImportSpecifier)
      (source : StringLit) (specifier : ImportSpecifier) (binding : Binding)
      (loaded : source.value = base.library) (listed : specifier ∈ specifiers)
      (binds : SpecifierBinds base specifier binding) :
      ItemBinds (.importDecl span phase specifiers source) binding
  | declared (span : Span) (kind : VarKind) (declarators : List Declarator)
      (declarator : Declarator) (binding : Binding) (listed : declarator ∈ declarators)
      (binds : DeclaratorBinds base declarator binding) :
      ItemBinds (.stmt (.decl (.var (.mk span kind declarators)))) binding
  | exported (exportSpan span : Span) (kind : VarKind) (declarators : List Declarator)
      (declarator : Declarator) (binding : Binding) (listed : declarator ∈ declarators)
      (binds : DeclaratorBinds base declarator binding) :
      ItemBinds (.exportDecl exportSpan (.var (.mk span kind declarators))) binding

def Binds (program : Program) (binding : Binding) : Prop :=
  ∃ item ∈ program.items, ItemBinds base item binding

/-- The superclass is a name of the class itself, or the member of that name of an object that has
it. -/
inductive Extends (program : Program) : ClassDef → Prop where
  /-- `extends X` -/
  | plain (span : Span) (id : Ident) (members : List ClassMember)
      (bound : base.Binds program (.plain id.name)) :
      Extends program (.mk span (some (.ident id)) members)
  /-- `extends X.B` -/
  | member (span memberSpan : Span) (object key : Ident) (members : List ClassMember)
      (bound : base.Binds program (.whole object.name)) (named : key.name = base.name) :
      Extends program (.mk span (some (.member memberSpan (.ident object) (.name key))) members)

end BaseClass

namespace Aliases

theorem contains_iff (aliases : Aliases) (name : String) :
    aliases.contains name = true ↔ name ∈ aliases.names := by
  simp [contains]

theorem mem_insert (aliases : Aliases) (new name : String) :
    name ∈ (aliases.insert new).names ↔ name ∈ aliases.names ∨ name = new := by
  unfold insert
  split
  · rename_i present
    have known := (aliases.contains_iff new).mp present
    constructor
    · exact .inl
    · rintro (old | rfl)
      · exact old
      · exact known
  · simp

theorem nodup_insert {aliases : Aliases} (distinct : aliases.names.Nodup) (new : String) :
    (aliases.insert new).names.Nodup := by
  unfold insert
  split
  · exact distinct
  · rename_i absent
    have fresh : new ∉ aliases.names := fun known => absent ((aliases.contains_iff new).mpr known)
    refine List.nodup_append.mpr ⟨distinct, by simp, ?_⟩
    intro name known other here same
    rw [List.mem_singleton] at here
    subst here same
    exact fresh known

theorem mem_foldl {α : Type} {step : Aliases → α → Aliases} {adds : α → String → Prop}
    (each : ∀ aliases a name, name ∈ (step aliases a).names ↔ name ∈ aliases.names ∨ adds a name)
    (list : List α) (aliases : Aliases) (name : String) :
    name ∈ (list.foldl step aliases).names ↔ name ∈ aliases.names ∨ ∃ a ∈ list, adds a name := by
  induction list generalizing aliases with
  | nil => simp
  | cons first rest ih =>
    rw [List.foldl_cons, ih, each]
    simp [or_assoc]

theorem nodup_foldl {α : Type} {step : Aliases → α → Aliases}
    (each : ∀ aliases a, aliases.names.Nodup → (step aliases a).names.Nodup)
    (list : List α) {aliases : Aliases} (distinct : aliases.names.Nodup) :
    (list.foldl step aliases).names.Nodup := by
  induction list generalizing aliases with
  | nil => exact distinct
  | cons first rest ih => exact ih (each aliases first distinct)

end Aliases

namespace BaseClass

variable (base : BaseClass)

theorem specifierBinds_default (local_ : Ident) (binding : Binding) :
    SpecifierBinds base (.default local_) binding ↔ binding = .whole local_.name := by
  constructor
  · rintro ⟨⟩
    rfl
  · rintro rfl
    exact .default local_

theorem specifierBinds_namespace (span : Span) (local_ : Ident) (binding : Binding) :
    SpecifierBinds base (.namespace span local_) binding ↔ binding = .whole local_.name := by
  constructor
  · rintro ⟨⟩
    rfl
  · rintro rfl
    exact .namespace span local_

theorem specifierBinds_named (span : Span) (local_ : Ident) (imported : Option ModuleName)
    (binding : Binding) :
    SpecifierBinds base (.named span local_ imported) binding ↔
      importedName local_ imported = base.name ∧ binding = .plain local_.name := by
  constructor
  · rintro ⟨⟩ <;> exact ⟨by assumption, rfl⟩
  · rintro ⟨named, rfl⟩
    rcases imported with _ | id | lit
    · exact .same span local_ named
    · exact .renamed span local_ id named
    · exact .quoted span local_ lit named

theorem mem_addSpecifier (aliases : Aliases) (specifier : ImportSpecifier) (name : String) :
    name ∈ (base.addSpecifier aliases specifier).names ↔
      name ∈ aliases.names ∨
        ∃ binding, SpecifierBinds base specifier binding ∧ name = binding.aliasName base := by
  cases specifier with
  | default local_ =>
    simp [addSpecifier, Aliases.insertMember, Aliases.mem_insert, specifierBinds_default,
      Binding.aliasName]
  | «namespace» span local_ =>
    simp [addSpecifier, Aliases.insertMember, Aliases.mem_insert, specifierBinds_namespace,
      Binding.aliasName]
  | named span local_ imported =>
    by_cases named : importedName local_ imported = base.name
    · simp [addSpecifier, named, Aliases.mem_insert, specifierBinds_named, Binding.aliasName]
    · simp [addSpecifier, named, specifierBinds_named]

theorem isRequire_iff (value : Expr) : base.isRequire value = true ↔ Requires base value := by
  constructor
  · intro required
    unfold isRequire at required
    split at required
    · rename_i span callee lit more
      obtain ⟨called, loaded⟩ := Bool.and_eq_true_iff.mp required
      exact .call span callee lit more (beq_iff_eq.mp called) (beq_iff_eq.mp loaded)
    · cases required
  · rintro ⟨span, callee, lit, more, called, loaded⟩
    simp [isRequire, called, loaded]

theorem destructured_iff (property : PatternProperty) (name : String) :
    base.destructured? property = some name ↔ Destructures base property name := by
  constructor
  · intro destructured
    unfold destructured? at destructured
    split at destructured
    case h_1 span id fallback =>
      split at destructured
      · rename_i named
        cases destructured
        exact .shorthand span id fallback (beq_iff_eq.mp named)
      · cases destructured
    case h_2 key value =>
      split at destructured
      · rename_i named
        split at destructured <;> cases destructured
        · exact .renamed key _ named
        · exact .defaulted key _ _ _ named
      · cases destructured
    case h_3 => cases destructured
  · rintro (⟨span, id, fallback, named⟩ | ⟨key, id, named⟩ | ⟨key, span, id, fallback, named⟩)
    · simp [destructured?, named]
    · simp [destructured?, named]
    · simp [destructured?, named]

theorem DeclaratorBinds.required {span : Span} {target : Pattern} {init : Option Expr}
    {binding : Binding} (binds : DeclaratorBinds base (.mk span target init) binding) :
    ∃ value, init = some value ∧ base.isRequire value = true := by
  cases binds with
  | whole _ id value required => exact ⟨value, rfl, (base.isRequire_iff value).mpr required⟩
  | member _ patternSpan properties property name value required =>
    exact ⟨value, rfl, (base.isRequire_iff value).mpr required⟩

theorem mem_addDeclarator (aliases : Aliases) (declarator : Declarator) (name : String) :
    name ∈ (base.addDeclarator aliases declarator).names ↔
      name ∈ aliases.names ∨
        ∃ binding, DeclaratorBinds base declarator binding ∧ name = binding.aliasName base := by
  unfold addDeclarator
  split
  case h_1 span target value =>
    split
    · rename_i required
      have requires := (base.isRequire_iff value).mp required
      split
      · rename_i id
        rw [Aliases.insertMember, Aliases.mem_insert]
        apply or_congr_right
        constructor
        · rintro rfl
          exact ⟨_, .whole span id value requires, rfl⟩
        · rintro ⟨_, ⟨⟩, rfl⟩
          rfl
      · rename_i patternSpan properties
        rw [Aliases.mem_foldl Aliases.mem_insert]
        apply or_congr_right
        constructor
        · rintro ⟨_, found, rfl⟩
          obtain ⟨property, listed, destructured⟩ := List.mem_filterMap.mp found
          exact ⟨_, .member span patternSpan properties property name value requires listed
            ((base.destructured_iff property name).mp destructured), rfl⟩
        · rintro ⟨_, (_ | ⟨_, _, _, property, _, _, _, listed, destructured⟩), rfl⟩
          have found := (base.destructured_iff property _).mpr destructured
          exact ⟨_, List.mem_filterMap.mpr ⟨property, listed, found⟩, rfl⟩
      · rename_i notName notObject
        have unbound :
            ∀ binding, ¬ DeclaratorBinds base (.mk span target (some value)) binding := by
          rintro _ ⟨⟩
          · exact notName _ rfl
          · exact notObject _ _ rfl
        simp [unbound]
    · rename_i other
      have unbound : ∀ binding, ¬ DeclaratorBinds base (.mk span target (some value)) binding := by
        intro binding binds
        obtain ⟨_, same, required⟩ := binds.required
        cases same
        exact other required
      simp [unbound]
  case h_2 span target =>
    have unbound : ∀ binding, ¬ DeclaratorBinds base (.mk span target none) binding := by
      intro binding binds
      obtain ⟨_, same, _⟩ := binds.required
      cases same
    simp [unbound]

theorem mem_addVar (aliases : Aliases) (span : Span) (kind : VarKind)
    (declarators : List Declarator) (name : String) :
    name ∈ (base.addVar aliases (.mk span kind declarators)).names ↔
      name ∈ aliases.names ∨ ∃ declarator ∈ declarators,
        ∃ binding, DeclaratorBinds base declarator binding ∧ name = binding.aliasName base :=
  Aliases.mem_foldl base.mem_addDeclarator declarators aliases name

theorem mem_addItem (aliases : Aliases) (item : Item) (name : String) :
    name ∈ (base.addItem aliases item).names ↔
      name ∈ aliases.names ∨
        ∃ binding, ItemBinds base item binding ∧ name = binding.aliasName base := by
  unfold addItem
  split
  · rename_i span phase specifiers source
    split
    · rename_i loaded
      rw [Aliases.mem_foldl base.mem_addSpecifier]
      apply or_congr_right
      constructor
      · rintro ⟨specifier, listed, binding, binds, rfl⟩
        exact ⟨binding, .imported span phase specifiers source specifier binding
          (beq_iff_eq.mp loaded) listed binds, rfl⟩
      · rintro ⟨binding, ⟨_, _, _, _, specifier, _, _, listed, binds⟩, rfl⟩
        exact ⟨specifier, listed, binding, binds, rfl⟩
    · rename_i other
      have unbound :
          ∀ binding, ¬ ItemBinds base (.importDecl span phase specifiers source) binding := by
        rintro _ ⟨_, _, _, _, _, _, loaded, _, _⟩
        exact other (beq_iff_eq.mpr loaded)
      simp [unbound]
  · rename_i exportSpan var
    obtain ⟨span, kind, declarators⟩ := var
    rw [mem_addVar]
    apply or_congr_right
    constructor
    · rintro ⟨declarator, listed, binding, binds, rfl⟩
      exact
        ⟨binding, .exported exportSpan span kind declarators declarator binding listed binds, rfl⟩
    · rintro ⟨binding, (_ | _ | ⟨_, _, _, _, declarator, _, listed, binds⟩), rfl⟩
      exact ⟨declarator, listed, binding, binds, rfl⟩
  · rename_i var
    obtain ⟨span, kind, declarators⟩ := var
    rw [mem_addVar]
    apply or_congr_right
    constructor
    · rintro ⟨declarator, listed, binding, binds, rfl⟩
      exact ⟨binding, .declared span kind declarators declarator binding listed binds, rfl⟩
    · rintro ⟨binding, (_ | ⟨_, _, _, declarator, _, listed, binds⟩), rfl⟩
      exact ⟨declarator, listed, binding, binds, rfl⟩
  · rename_i notImport notExport notDeclaration
    have unbound : ∀ binding, ¬ ItemBinds base item binding := by
      rintro _ ⟨⟩
      · exact notImport _ _ _ _ rfl
      · exact notDeclaration _ rfl
      · exact notExport _ _ rfl
    simp [unbound]

/-- The aliases of a program are the names that it binds, each written once. -/
theorem mem_aliases (program : Program) (name : String) :
    name ∈ (base.aliases program).names ↔
      ∃ binding, base.Binds program binding ∧ name = binding.aliasName base := by
  have start : name ∉ ({} : Aliases).names := List.not_mem_nil
  rw [aliases, Aliases.mem_foldl base.mem_addItem, or_iff_right start]
  constructor
  · rintro ⟨item, member, binding, binds, rfl⟩
    exact ⟨binding, ⟨item, member, binds⟩, rfl⟩
  · rintro ⟨binding, ⟨item, member, binds⟩, rfl⟩
    exact ⟨item, member, binding, binds, rfl⟩

private theorem nodup_addSpecifier (aliases : Aliases) (specifier : ImportSpecifier)
    (distinct : aliases.names.Nodup) : (base.addSpecifier aliases specifier).names.Nodup := by
  unfold addSpecifier
  split
  · split
    · exact Aliases.nodup_insert distinct _
    · exact distinct
  · exact Aliases.nodup_insert distinct _
  · exact Aliases.nodup_insert distinct _

private theorem nodup_addDeclarator (aliases : Aliases) (declarator : Declarator)
    (distinct : aliases.names.Nodup) : (base.addDeclarator aliases declarator).names.Nodup := by
  unfold addDeclarator
  split
  · split
    · split
      · exact Aliases.nodup_insert distinct _
      · exact Aliases.nodup_foldl (fun _ name distinct => Aliases.nodup_insert distinct name) _
          distinct
      · exact distinct
    · exact distinct
  · exact distinct

private theorem nodup_addVar (aliases : Aliases) (var : VarDecl) (distinct : aliases.names.Nodup) :
    (base.addVar aliases var).names.Nodup := by
  obtain ⟨span, kind, declarators⟩ := var
  exact Aliases.nodup_foldl base.nodup_addDeclarator declarators distinct

private theorem nodup_addItem (aliases : Aliases) (item : Item) (distinct : aliases.names.Nodup) :
    (base.addItem aliases item).names.Nodup := by
  unfold addItem
  split
  · split
    · exact Aliases.nodup_foldl base.nodup_addSpecifier _ distinct
    · exact distinct
  · exact base.nodup_addVar aliases _ distinct
  · exact base.nodup_addVar aliases _ distinct
  · exact distinct

theorem nodup_aliases (program : Program) : (base.aliases program).names.Nodup :=
  Aliases.nodup_foldl base.nodup_addItem program.items List.nodup_nil

variable {base}

theorem SpecifierBinds.mem_identifiers {specifier : ImportSpecifier} {binding : Binding}
    (binds : SpecifierBinds base specifier binding) : binding.name ∈ specifier.identifiers := by
  cases binds <;> exact List.mem_cons_self

theorem Destructures.mem_identifiers {property : PatternProperty} {name : String}
    (destructured : Destructures base property name) : name ∈ property.identifiers := by
  cases destructured with
  | shorthand => exact List.mem_cons_self
  | renamed key id => exact List.mem_append_right _ List.mem_cons_self
  | defaulted key span id fallback => exact List.mem_append_right _ List.mem_cons_self

theorem DeclaratorBinds.mem_identifiers {declarator : Declarator} {binding : Binding}
    (binds : DeclaratorBinds base declarator binding) :
    binding.name ∈ declarator.identifiers := by
  cases binds with
  | whole => exact List.mem_cons_self
  | member _ _ properties property name value required listed destructured =>
    apply List.mem_append_left
    exact mem_patternPropertyIdentifiers listed destructured.mem_identifiers

theorem Binds.mem_identifiers {program : Program} {binding : Binding}
    (binds : base.Binds program binding) : binding.name ∈ program.identifiers := by
  obtain ⟨item, member, bound⟩ := binds
  apply Program.mem_identifiers member
  cases bound with
  | imported _ _ specifiers _ specifier _ _ listed binds =>
    exact List.mem_flatMap.mpr ⟨specifier, listed, binds.mem_identifiers⟩
  | declared _ _ declarators declarator _ listed binds =>
    exact mem_declaratorIdentifiers listed binds.mem_identifiers
  | exported _ _ _ declarators declarator _ listed binds =>
    exact mem_declaratorIdentifiers listed binds.mem_identifiers

end BaseClass

end GrammarEmbed
