import GrammarEmbed.Proofs.ClassWalkers

/-!
A clone is its program with some bookkeeping in between. Every item of a clone is tagged with where
it comes from, so that taking the bookkeeping out again is said without looking at what it spells:
a program may have statements that look the same.
-/

namespace GrammarEmbed.Clone

open Ast

/-- Where an item of a clone comes from. -/
inductive Entry where
  | kept (item : Item)
  | creation
  | registration (name : String)

namespace Entry

def item (format : ModuleFormat) (key : String) : Entry → Item
  | .kept item => item
  | .creation =>
    match format with
    -- `export const key = {}`
    | .esModule =>
      .exportDecl .none (.var (.mk .none .const
        [.mk .none (.ident ⟨.none, key⟩) (some (.object .none []))]))
    -- `exports.key = {}`
    | .commonJs =>
      .stmt (.expr .none (.assign .none .assign
        (.expr (.member .none (.ident ⟨.none, "exports"⟩) (.name ⟨.none, key⟩)))
        (.object .none [])))
  | .registration name =>
    match format with
    -- `key.name = name`
    | .esModule =>
      .stmt (.expr .none (.assign .none .assign
        (.expr (.member .none (.ident ⟨.none, key⟩) (.name ⟨.none, name⟩)))
        (.ident ⟨.none, name⟩)))
    -- `exports.key.name = name`
    | .commonJs =>
      .stmt (.expr .none (.assign .none .assign
        (.expr (.member .none (.member .none (.ident ⟨.none, "exports"⟩) (.name ⟨.none, key⟩))
          (.name ⟨.none, name⟩)))
        (.ident ⟨.none, name⟩)))

theorem item_kept (format : ModuleFormat) (key : String) (kept : Item) :
    item format key (.kept kept) = kept :=
  rfl

theorem item_creation (format : ModuleFormat) (key : String) :
    item format key creation = Clone.creation format key := by
  cases format <;> rfl

theorem item_registration (format : ModuleFormat) (key name : String) :
    item format key (registration name) = Clone.registration format key name := by
  cases format <;> rfl

def kept? : Entry → Option Item
  | .kept item => some item
  | _ => none

def registered? : Entry → Option String
  | .registration name => some name
  | _ => none

/-- The entry is an item of the program that declares a parser class of this name. -/
def Declares (aliases : Aliases) (name : String) (entry : Entry) : Prop :=
  ∃ item found, entry = .kept item ∧ item.class? = some found ∧
    found.cls.inherits aliases = true ∧ found.name.name = name

theorem declares_kept {aliases : Aliases} {name : String} {item : Item} :
    (kept item).Declares aliases name ↔ item.parserName? aliases = some name := by
  unfold Item.parserName?
  constructor
  · rintro ⟨_, found, ⟨⟩, declared, inherits, rfl⟩
    simp [declared, inherits]
  · intro named
    cases declared : item.class? with
    | none => simp [declared] at named
    | some found =>
      obtain ⟨inherits, rfl⟩ : found.cls.inherits aliases = true ∧ found.name.name = name := by
        simpa [declared] using named
      exact ⟨item, found, rfl, declared, inherits, rfl⟩

theorem not_declares_registration {aliases : Aliases} {name other : String} :
    ¬ (registration other).Declares aliases name := by
  rintro ⟨_, _, ⟨⟩, _⟩

theorem not_declares_creation {aliases : Aliases} {name : String} :
    ¬ creation.Declares aliases name := by
  rintro ⟨_, _, ⟨⟩, _⟩

end Entry

/-- A registration stands exactly behind each declaration of a parser class, and it is the one of
that class. -/
def Registers (aliases : Aliases) (entries : List Entry) : Prop :=
  ∀ index name, entries[index + 1]? = some (.registration name) ↔
    ∃ entry, entries[index]? = some entry ∧ entry.Declares aliases name

variable {aliases : Aliases} {entries : List Entry}

/-- No registration stands first. -/
def StartsKept (entries : List Entry) : Prop :=
  ∀ name, entries[0]? ≠ some (.registration name)

theorem Registers.cons_other {entry : Entry} (rest : Registers aliases entries)
    (start : StartsKept entries) (other : ∀ name, ¬ entry.Declares aliases name) :
    Registers aliases (entry :: entries) := by
  intro index name
  cases index with
  | zero => simp [start name, other name]
  | succ index => simpa using rest index name

theorem Registers.cons_parser {item : Item} {name : String} (rest : Registers aliases entries)
    (start : StartsKept entries) (named : item.parserName? aliases = some name) :
    Registers aliases (.kept item :: .registration name :: entries) := by
  have behind : Registers aliases (.registration name :: entries) :=
    rest.cons_other start fun _ => Entry.not_declares_registration
  intro index other
  cases index with
  | zero => simp [Entry.declares_kept, named]
  | succ index => simpa using behind index other

/-- An item with the registration behind it. -/
def itemEntries (aliases : Aliases) (item : Item) : List Entry :=
  .kept item :: ((item.parserName? aliases).map Entry.registration).toList

theorem map_itemEntries (format : ModuleFormat) (key : String) (item : Item) :
    (itemEntries aliases item).map (Entry.item format key) =
      registered aliases format key item := by
  unfold itemEntries registered
  cases item.parserName? aliases with
  | none => rfl
  | some name => simp [Entry.item_kept, Entry.item_registration]

theorem startsKept_itemEntries (items : List Item) :
    StartsKept (items.flatMap (itemEntries aliases)) := by
  intro name
  cases items <;> simp [itemEntries]

theorem registers_itemEntries (items : List Item) :
    Registers aliases (items.flatMap (itemEntries aliases)) := by
  induction items with
  | nil =>
    intro index name
    simp
  | cons item rest ih =>
    have start : StartsKept (rest.flatMap (itemEntries aliases)) := startsKept_itemEntries rest
    cases named : item.parserName? aliases with
    | none =>
      have other : ∀ name, ¬ (Entry.kept item).Declares aliases name := by
        simp [Entry.declares_kept, named]
      simpa [itemEntries, named] using ih.cons_other start other
    | some name => simpa [itemEntries, named] using ih.cons_parser start named

theorem kept_itemEntries (items : List Item) :
    (items.flatMap (itemEntries aliases)).filterMap Entry.kept? = items := by
  induction items with
  | nil => rfl
  | cons item rest ih =>
    cases named : item.parserName? aliases <;>
      simpa [itemEntries, named, Entry.kept?, List.filterMap_cons] using ih

theorem registered_itemEntries (items : List Item) :
    (items.flatMap (itemEntries aliases)).filterMap Entry.registered? =
      items.filterMap (Item.parserName? aliases) := by
  induction items with
  | nil => rfl
  | cons item rest ih =>
    cases named : item.parserName? aliases <;>
      simpa [itemEntries, named, Entry.registered?, List.filterMap_cons] using ih

theorem not_creation_itemEntries (items : List Item) :
    Entry.creation ∉ items.flatMap (itemEntries aliases) := by
  intro member
  obtain ⟨item, -, here⟩ := List.mem_flatMap.mp member
  cases named : item.parserName? aliases <;> simp [itemEntries, named] at here

theorem length_itemEntries (items : List Item) :
    (items.flatMap (itemEntries aliases)).length =
      items.length + (items.filterMap (Item.parserName? aliases)).length := by
  induction items with
  | nil => rfl
  | cons item rest ih =>
    rw [List.flatMap_cons, List.length_append, ih]
    cases named : item.parserName? aliases <;> simp [itemEntries, named] <;> omega

theorem Registers.append_kept {items : List Item} (rest : Registers aliases entries)
    (start : StartsKept entries) (unnamed : ∀ item ∈ items, item.parserName? aliases = none) :
    Registers aliases (items.map Entry.kept ++ entries) := by
  induction items with
  | nil => exact rest
  | cons item items ih =>
    have behind := ih fun item member => unnamed item (List.mem_cons_of_mem _ member)
    have begins : StartsKept (items.map Entry.kept ++ entries) := by
      cases items with
      | nil => exact start
      | cons => simp [StartsKept]
    apply behind.cons_other begins
    simp [Entry.declares_kept, unnamed item List.mem_cons_self]

/-- How a program is spread over the entries of its clone: the directives that it starts with, the
one entry that creates the export map, and the other items with the registrations between them. -/
structure Bookkept (aliases : Aliases) (items : List Item) (entries : List Entry) : Prop where
  /-- Without the bookkeeping the entries are the items. -/
  restored : entries.filterMap Entry.kept? = items
  created : ∃ prologue rest later, items = prologue ++ rest ∧
    (∀ item ∈ prologue, isDirective item = true) ∧
    (∀ item, rest.head? = some item → isDirective item = false) ∧
    entries = prologue.map Entry.kept ++ .creation :: later ∧ Entry.creation ∉ later
  registers : Registers aliases entries

def entriesOf (aliases : Aliases) (items : List Item) : List Entry :=
  (items.takeWhile isDirective).map Entry.kept ++
    .creation :: (items.dropWhile isDirective).flatMap (itemEntries aliases)

theorem items_of (program : Program) (aliases : Aliases) (key : String) :
    (Clone.of program aliases key).program.items =
      (entriesOf aliases program.items).map (Entry.item (ModuleFormat.of program) key) := by
  simp [Clone.of, entriesOf, Entry.item_kept, Entry.item_creation, List.map_flatMap,
    map_itemEntries, Function.comp_def]

theorem bookkept_entriesOf (aliases : Aliases) (items : List Item) :
    Bookkept aliases items (entriesOf aliases items) where
  restored := by
    have directives : ((items.takeWhile isDirective).map Entry.kept).filterMap Entry.kept? =
        items.takeWhile isDirective := by
      simp [Entry.kept?, List.filterMap_map, Function.comp_def]
    have created : Entry.creation.kept? = none := rfl
    rw [entriesOf, List.filterMap_append, directives, List.filterMap_cons_none created,
      kept_itemEntries, List.takeWhile_append_dropWhile]
  created := by
    refine ⟨_, _, _, List.takeWhile_append_dropWhile.symm, ?_, ?_, rfl, ?_⟩
    · exact List.all_eq_true.mp List.all_takeWhile
    · intro item first
      have stops := List.head?_dropWhile_not isDirective items
      rw [first] at stops
      simpa using stops
    · exact not_creation_itemEntries _
  registers := by
    apply Registers.append_kept
    · apply Registers.cons_other
      · exact registers_itemEntries _
      · exact startsKept_itemEntries _
      · exact fun _ => Entry.not_declares_creation
    · simp [StartsKept]
    · intro item member
      exact parserName_of_isDirective (List.all_eq_true.mp List.all_takeWhile item member) aliases

/-- A clone is its program with exactly the bookkeeping added: the export map is created in the
form of its format behind all directives, and each parser class is registered under its own name
right after its declaration. -/
theorem clone_adds_bookkeeping (program : Program) (aliases : Aliases) (key : String) :
    let clone := Clone.of program aliases key
    clone.program = { program with items := clone.program.items } ∧
    clone.format = ModuleFormat.of program ∧
    (∃ entries, Bookkept aliases program.items entries ∧
      clone.program.items = entries.map (Entry.item clone.format key) ∧
      entries.filterMap Entry.registered? = clone.classNames) ∧
    clone.program.items.length = program.items.length + 1 + clone.classNames.length := by
  intro clone
  have names : (entriesOf aliases program.items).filterMap Entry.registered? =
      clone.classNames := by
    have unnamed : ((program.items.takeWhile isDirective).map Entry.kept).filterMap
        Entry.registered? = [] := by
      simp [Entry.registered?]
    have created : Entry.creation.registered? = none := rfl
    rw [entriesOf, List.filterMap_append, unnamed, List.filterMap_cons_none created,
      registered_itemEntries]
    rfl
  have length : (entriesOf aliases program.items).length =
      program.items.length + 1 + clone.classNames.length := by
    have split : (program.items.takeWhile isDirective).length +
        (program.items.dropWhile isDirective).length = program.items.length := by
      rw [← List.length_append, List.takeWhile_append_dropWhile]
    have registered : clone.classNames =
        (program.items.dropWhile isDirective).filterMap (Item.parserName? aliases) := rfl
    rw [entriesOf, List.length_append, List.length_map, List.length_cons, length_itemEntries,
      registered]
    omega
  refine ⟨rfl, rfl, ⟨_, bookkept_entriesOf aliases program.items, items_of program aliases key,
    names⟩, ?_⟩
  rw [items_of, List.length_map, length]

end GrammarEmbed.Clone
