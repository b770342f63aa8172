import GrammarEmbed.Aliases
import GrammarEmbed.Ast.Basic

namespace GrammarEmbed.Ast

/-- A class with the name it is declared under. -/
structure NamedClass where
  name : Ident
  cls : ClassDef

namespace ClassDef

/-- Whether the superclass is one of the given names: a plain name, or a member of a plain
name. -/
def inherits (aliases : Aliases) : ClassDef → Bool
  | .mk _ (some (.ident id)) _ => aliases.contains id.name
  | .mk _ (some (.member _ (.ident object) (.name member))) _ =>
    aliases.containsMember object.name member.name
  | _ => false

def members : ClassDef → List ClassMember
  | .mk _ _ members => members

end ClassDef

namespace Item

/-- The named class that an item declares: on its own, exported, or as the default export. -/
def class? : Item → Option NamedClass
  | .stmt (.decl (.class name cls)) => some ⟨name, cls⟩
  | .exportDecl _ (.class name cls) => some ⟨name, cls⟩
  | .exportDefaultClass _ (some name) cls => some ⟨name, cls⟩
  | _ => none

/-- Changes the named class that an item declares. The change also gives a result. -/
def updateClass {α : Type} (change : Ident → ClassDef → ClassDef × α) : Item → Item × Option α
  | .stmt (.decl (.class name cls)) =>
    let (cls, a) := change name cls
    (.stmt (.decl (.class name cls)), some a)
  | .exportDecl span (.class name cls) =>
    let (cls, a) := change name cls
    (.exportDecl span (.class name cls), some a)
  | .exportDefaultClass span (some name) cls =>
    let (cls, a) := change name cls
    (.exportDefaultClass span (some name) cls, some a)
  | item => (item, none)

def parserName? (aliases : Aliases) (item : Item) : Option String :=
  match item.class? with
  | some found => if found.cls.inherits aliases then some found.name.name else none
  | none => none

end Item

namespace Program

/-- All named classes at the top level, in source order. -/
def classes (program : Program) : List NamedClass :=
  program.items.filterMap Item.class?

def parserClasses (program : Program) (aliases : Aliases) : List NamedClass :=
  program.classes.filter fun found => found.cls.inherits aliases

/-- Changes every named class at the top level, in source order, and collects the results. -/
def updateClasses {α : Type} (program : Program) (change : Ident → ClassDef → ClassDef × α) :
    Program × List α :=
  let changed := program.items.map (Item.updateClass change)
  ({ program with items := changed.map Prod.fst }, changed.filterMap Prod.snd)

end Program

end GrammarEmbed.Ast
