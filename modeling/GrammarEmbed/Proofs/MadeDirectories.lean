import GrammarEmbed.Proofs.TreeEntries

namespace GrammarEmbed.FileTree

open GrammarEmbed.Path

variable {tree later : FileTree} {path : String} {place : List String}

/-- The other tree has the same entries, and directories at some of the places where nothing
was. -/
def Grown (made : List String → Prop) (tree later : FileTree) : Prop :=
  ∀ place, later.entry? place = tree.entry? place ∨
    tree.entry? place = none ∧ later.entry? place = some .directory ∧ made place

namespace Grown

variable {made : List String → Prop}

theorem refl (tree : FileTree) : Grown made tree tree :=
  fun _ => .inl rfl

theorem trans {last : FileTree} (first : Grown made tree later) (second : Grown made later last) :
    Grown made tree last := by
  intro place
  rcases second place with same | ⟨nothing, directory, here⟩
  · rw [same]
    exact first place
  · rcases first place with same | ⟨-, before, -⟩
    · exact .inr ⟨same ▸ nothing, directory, here⟩
    · rw [nothing] at before
      cases before

theorem mono {more : List String → Prop} (grown : Grown made tree later)
    (fewer : ∀ place, made place → more place) : Grown more tree later :=
  fun place => (grown place).imp_right fun ⟨nothing, directory, here⟩ =>
    ⟨nothing, directory, fewer place here⟩

theorem keepsDirectories (grown : Grown made tree later) : KeepsDirectories tree later := by
  intro place directory
  rcases grown place with same | ⟨nothing, -⟩
  · rw [same, directory]
  · rw [nothing] at directory
    cases directory

theorem file_iff (grown : Grown made tree later) {content : Content} :
    later.entry? place = some (.file content) ↔ tree.entry? place = some (.file content) := by
  rcases grown place with same | ⟨nothing, directory, -⟩
  · rw [same]
  · simp [nothing, directory]

theorem set (filled : place ≠ []) (nothing : tree.entry? place = none) (here : made place) :
    Grown made tree (tree.set place .directory) := by
  intro other
  rw [entry_set filled]
  split
  · rename_i same
    subst same
    exact .inr ⟨nothing, rfl, here⟩
  · exact .inl rfl

end Grown

/-- The other tree refuses the same, and what is new in it stands where nothing refused it. -/
structure Permitted (tree later : FileTree) : Prop where
  refused : later.refused = tree.refused
  added : ∀ place, tree.entry? place = none → (later.entry? place).isSome →
    tree.refuses .write place.dropLast = false

namespace Permitted

theorem refl (tree : FileTree) : Permitted tree tree where
  refused := rfl
  added := by
    intro place nothing stands
    simp [nothing] at stands

theorem trans {last : FileTree} (first : Permitted tree later) (second : Permitted later last) :
    Permitted tree last where
  refused := second.refused.trans first.refused
  added := by
    intro place nothing stands
    cases between : later.entry? place with
    | none =>
      rw [← refuses_congr first.refused]
      exact second.added place between stands
    | some => exact first.added place nothing (by simp [between])

theorem set {entry : FileEntry} (filled : place ≠ [])
    (allowed : tree.entry? place = none → tree.refuses .write place.dropLast = false) :
    Permitted tree (tree.set place entry) where
  refused := rfl
  added := by
    intro other nothing stands
    rw [entry_set filled] at stands
    split at stands
    · rename_i here
      subst here
      exact allowed nothing
    · simp [nothing] at stands

end Permitted

section One

theorem slot_eq_some (given : tree.slot? path = .ok (some place)) :
    ∃ above name, IsName name ∧ tree.entry? above = some .directory ∧ place = above ++ [name] ∧
      tree.Leads path place := by
  have filled : path ≠ "" := by
    rintro rfl
    cases given
  have test : path.isEmpty = false := by simpa using filled
  rcases List.eq_nil_or_concat (names path) with none | ⟨front, name, split⟩
  · unfold slot? at given
    rw [test, none] at given
    cases given
  · rw [List.concat_eq_append] at split
    rw [slot_eq filled split] at given
    cases followed : tree.follow [] front with
    | error => simp [followed, Except.bind] at given
    | ok above =>
      cases stands : tree.entry? above with
      | none => simp [followed, stands, Except.bind, room] at given
      | some entry =>
        cases entry with
        | file => simp [followed, stands, Except.bind, room] at given
        | directory =>
          obtain ⟨⟨here, dots⟩, rfl⟩ : (¬name = "." ∧ ¬name = "..") ∧ above ++ [name] = place := by
            simpa [followed, stands, Except.bind, room] using given
          have segment : IsSegment name := isSegment_of_mem_names (by rw [split]; simp)
          have named : IsName name := ⟨segment, here, dots⟩
          have leads : tree.follow [] (names path) = .ok (above ++ [name]) := by
            rw [split, follow_append, followed]
            exact (follow_cons stands []).trans (by rw [move_name named]; rfl)
          exact ⟨above, name, named, stands, rfl, filled, leads⟩

def makeIn (tree : FileTree) : Option (List String) → Except IoFault FileTree
  | none => .error .alreadyExists
  | some place =>
    if (tree.entry? place).isSome then .error .alreadyExists
    else if tree.refuses .write place.dropLast then .error .permissionDenied
    else .ok (tree.set place .directory)

theorem createDirectory_eq : tree.createDirectory path = (tree.slot? path).bind tree.makeIn := by
  unfold createDirectory
  cases tree.slot? path with
  | error => rfl
  | ok slot => cases slot <;> rfl

theorem createDirectory_ok (success : tree.createDirectory path = .ok later) :
    ∃ place name, IsName name ∧ tree.entry? place = some .directory ∧
      tree.entry? (place ++ [name]) = none ∧ tree.refuses .write place = false ∧
      later = tree.set (place ++ [name]) .directory ∧ tree.Leads path (place ++ [name]) := by
  rw [createDirectory_eq] at success
  cases given : tree.slot? path with
  | error => simp [given, Except.bind] at success
  | ok slot =>
    cases slot with
    | none => simp [given, Except.bind, makeIn] at success
    | some place =>
      obtain ⟨above, name, named, directory, rfl, leads⟩ := slot_eq_some given
      cases stands : tree.entry? (above ++ [name]) with
      | none =>
        cases refused : tree.refuses .write above with
        | true => simp [given, Except.bind, makeIn, stands, refused] at success
        | false =>
          refine ⟨above, name, named, directory, stands, refused, ?_, leads⟩
          simpa [given, Except.bind, makeIn, stands, refused, eq_comm] using success
      | some entry => simp [given, Except.bind, makeIn, stands] at success

theorem mem_setEntry {entry : FileEntry} {entries : List (List String × FileEntry)}
    {other : List String × FileEntry} (member : other ∈ setEntry place entry entries) :
    other = (place, entry) ∨ other ∈ entries := by
  induction entries with
  | nil => exact .inl (List.mem_singleton.mp member)
  | cons first rest ih =>
    unfold setEntry at member
    split at member
    · rename_i same
      rcases List.mem_cons.mp member with rfl | later
      · exact .inl (by rw [beq_iff_eq.mp same])
      · exact .inr (List.mem_cons_of_mem _ later)
    · rcases List.mem_cons.mp member with rfl | later
      · exact .inr List.mem_cons_self
      · exact (ih later).imp_right (List.mem_cons_of_mem _)

theorem WellFormed.isName_of_mem (wellFormed : WellFormed tree) {entry : FileEntry}
    (stands : tree.entry? place = some entry) {name : String} (member : name ∈ place) :
    IsName name := by
  have filled : place ≠ [] := List.ne_nil_of_mem member
  exact wellFormed.named _ (mem_of_entry filled stands) name member

theorem WellFormed.directory_above (wellFormed : WellFormed tree) {entry : FileEntry}
    {name : String} (stands : tree.entry? (place ++ [name]) = some entry) :
    tree.entry? place = some .directory := by
  simpa using wellFormed.rooted _ (mem_of_entry (by simp) stands)

theorem WellFormed.directory_on_way (wellFormed : WellFormed tree) {entry : FileEntry}
    {above rest : List String} (filled : rest ≠ [])
    (stands : tree.entry? (above ++ rest) = some entry) :
    tree.entry? above = some .directory := by
  induction size : rest.length generalizing rest entry with
  | zero => exact absurd (List.length_eq_zero_iff.mp size) filled
  | succ size ih =>
    rcases List.eq_nil_or_concat rest with rfl | ⟨front, name, rfl⟩
    · exact absurd rfl filled
    · rw [List.concat_eq_append, ← List.append_assoc] at stands
      have directory := wellFormed.directory_above stands
      by_cases empty : front = []
      · simpa [empty] using directory
      · exact ih empty directory (by simpa using size)

theorem WellFormed.leads_joinAll (wellFormed : WellFormed tree) (leads : tree.Leads path place)
    {rel : List String} {entry : FileEntry} (stands : tree.entry? (place ++ rel) = some entry) :
    tree.Leads (joinAll path rel) (place ++ rel) := by
  refine leads.joinAll (fun name member => ?_) (fun above front proper => ?_)
  · exact wellFormed.isName_of_mem stands (List.mem_append_right _ member)
  · obtain ⟨rest, rfl⟩ := front
    rw [← List.append_assoc] at stands
    exact wellFormed.directory_on_way (by simpa using proper) stands

theorem WellFormed.read_joinAll (wellFormed : WellFormed tree) (leads : tree.Leads path place)
    {dirs : List String} {name : String} {content : Content}
    (stands : tree.entry? (place ++ (dirs ++ [name])) = some (.file content)) :
    tree.read (joinAll path (dirs ++ [name])) =
      tree.textOf (place ++ (dirs ++ [name])) content := by
  have reaches := wellFormed.leads_joinAll leads stands
  have last : IsName name := wellFormed.isName_of_mem stands (by simp)
  have plain : endsInSlash (joinAll path (dirs ++ [name])) = false := by
    rw [joinAll_concat, endsInSlash_join _ last.filled, endsInSlash_segment last.1]
  exact read_file (locate_file reaches.filled plain reaches.followed stands)

theorem WellFormed.set (wellFormed : WellFormed tree) {name : String} {entry : FileEntry}
    (named : IsName name) (directory : tree.entry? place = some .directory)
    (kept : tree.entry? (place ++ [name]) = some .directory → entry = .directory) :
    WellFormed (tree.set (place ++ [name]) entry) where
  distinct := distinct_set wellFormed.distinct
  named := by
    intro other member
    rcases mem_setEntry member with rfl | old
    · intro part inside
      rcases List.mem_append.mp inside with above | last
      · exact wellFormed.isName_of_mem directory above
      · exact List.mem_singleton.mp last ▸ named
    · exact wellFormed.named other old
  rooted := by
    intro other member
    rw [entry_set (by simp)]
    have before : tree.entry? other.1.dropLast = some .directory := by
      rcases mem_setEntry member with rfl | old
      · simpa using directory
      · exact wellFormed.rooted other old
    split
    · rename_i same
      rw [kept (same ▸ before)]
    · exact before
  barred := by
    intro bar member
    rw [entry_set (by simp)]
    split
    · rfl
    · exact wellFormed.barred bar member

end One

theorem createAll_run (related : FileTree → FileTree → Prop) (refl : ∀ tree, related tree tree)
    (trans : ∀ {tree later last}, related tree later → related later last → related tree last)
    (step : ∀ {tree path later}, tree.createDirectory path = .ok later → related tree later)
    (tree : FileTree) (paths : List String) : related tree (tree.createAll paths).2 := by
  induction paths generalizing tree with
  | nil => exact refl tree
  | cons path above ih =>
    unfold createAll
    split
    · rename_i later success
      exact step success
    · have upper := ih tree
      split
      · rename_i fault later made
        rwa [made] at upper
      · rename_i later made
        rw [made] at upper
        split
        · rename_i last success
          exact trans upper (step success)
        · exact upper
    · exact refl tree

theorem WellFormed.createAll (wellFormed : WellFormed tree) (paths : List String) :
    WellFormed (tree.createAll paths).2 := by
  refine createAll_run (fun tree later => WellFormed tree → WellFormed later) (fun _ => id)
    (fun first second => second ∘ first) ?_ tree paths wellFormed
  intro tree path later success wellFormed
  obtain ⟨place, name, named, directory, -, -, rfl, -⟩ := createDirectory_ok success
  exact wellFormed.set named directory fun _ => rfl

theorem grown_createAll (tree : FileTree) (paths : List String) :
    Grown (fun _ => True) tree (tree.createAll paths).2 := by
  refine createAll_run _ Grown.refl Grown.trans ?_ tree paths
  intro tree path later success
  obtain ⟨place, name, -, -, nothing, -, rfl, -⟩ := createDirectory_ok success
  exact .set (by simp) nothing trivial

theorem permitted_createAll (tree : FileTree) (paths : List String) :
    Permitted tree (tree.createAll paths).2 := by
  refine createAll_run _ Permitted.refl Permitted.trans ?_ tree paths
  intro tree path later success
  obtain ⟨place, name, -, -, -, allowed, rfl, -⟩ := createDirectory_ok success
  refine .set (by simp) fun _ => ?_
  rwa [List.dropLast_concat]

/-- No directory can be made at the place: a file has it, or it would be new and is refused. -/
def Bars (tree : FileTree) (place : List String) : Prop :=
  (∃ content, tree.entry? place = some (.file content)) ∨
    tree.entry? place = none ∧ tree.refuses .write place.dropLast = true

theorem not_bars_of_directory (directory : tree.entry? place = some .directory) :
    ¬ tree.Bars place := by
  rintro (⟨content, file⟩ | ⟨nothing, -⟩)
  · cases directory.symm.trans file
  · cases directory.symm.trans nothing

/-- What is new changes nothing about where something new would be refused. -/
theorem Permitted.refused_iff (permitted : Permitted tree later)
    (stays : (tree.entry? place).isSome → (later.entry? place).isSome) :
    later.entry? place = none ∧ later.refuses .write place.dropLast = true ↔
      tree.entry? place = none ∧ tree.refuses .write place.dropLast = true := by
  rw [refuses_congr permitted.refused]
  refine and_congr_left fun refused => ⟨fun nothing => ?_, fun nothing => ?_⟩
  · refine Option.not_isSome_iff_eq_none.mp fun stands => ?_
    simpa [nothing] using stays stands
  · refine Option.not_isSome_iff_eq_none.mp fun stands => ?_
    cases (permitted.added place nothing stands).symm.trans refused

theorem Permitted.bars_iff (permitted : Permitted tree later)
    (files : (∃ content, later.entry? place = some (.file content)) ↔
      ∃ content, tree.entry? place = some (.file content))
    (stays : (tree.entry? place).isSome → (later.entry? place).isSome) :
    later.Bars place ↔ tree.Bars place :=
  or_congr files (permitted.refused_iff stays)

theorem Grown.bars_iff {made : List String → Prop} (grown : Grown made tree later)
    (permitted : Permitted tree later) : later.Bars place ↔ tree.Bars place := by
  refine permitted.bars_iff (exists_congr fun _ => grown.file_iff) fun stands => ?_
  rcases grown place with same | ⟨-, directory, -⟩
  · rwa [same]
  · simp [directory]

section Below

variable {absolute : Bool} {base parts out : List String} {name : String}

/-- From a directory on, the names lead through directories that are there or can be made. -/
def Unblocked (tree : FileTree) (out parts : List String) : Prop :=
  ∀ above, above ≠ [] → above <+: parts → ¬ tree.Bars (out ++ above)

/-- The places of the directories that the names lead through. -/
def Along (out parts : List String) (place : List String) : Prop :=
  ∃ above, above ≠ [] ∧ above <+: parts ∧ place = out ++ above

theorem isSegment_below (segments : ∀ part ∈ base, IsSegment part)
    (named : ∀ part ∈ parts, IsName part) : ∀ part ∈ base ++ parts, IsSegment part := by
  intro part member
  rcases List.mem_append.mp member with above | below
  · exact segments part above
  · exact (named part below).1

theorem leads_below (segments : ∀ part ∈ base, IsSegment part)
    (named : ∀ part ∈ parts ++ [name], IsName part) (followed : tree.follow [] base = .ok out)
    (reached : tree.follow out (parts ++ [name]) = .ok place) :
    tree.Leads (spell absolute (base ++ (parts ++ [name]))) place := by
  have all := isSegment_below segments named
  refine ⟨spell_ne_empty all (by simp), ?_⟩
  rw [names_spell all, follow_append, followed]
  exact reached

theorem slot_below (segments : ∀ part ∈ base, IsSegment part)
    (named : ∀ part ∈ parts ++ [name], IsName part) (followed : tree.follow [] base = .ok out) :
    tree.slot? (spell absolute (base ++ (parts ++ [name]))) =
      (tree.follow out (parts ++ [name])).map some := by
  have all := isSegment_below segments named
  have split : names (spell absolute (base ++ (parts ++ [name]))) = base ++ parts ++ [name] := by
    rw [names_spell all, List.append_assoc]
  rw [slot_eq_follow (spell_ne_empty all (by simp)) split (named name (by simp)), names_spell all,
    follow_append, followed]
  rfl

/-- Making a directory in one that can be reached: it is made, it is there, or it cannot be made. -/
theorem createDirectory_below (segments : ∀ part ∈ base, IsSegment part)
    (named : ∀ part ∈ parts ++ [name], IsName part) (followed : tree.follow [] base = .ok out)
    (reached : tree.follow out (parts ++ [name]) = .ok (out ++ (parts ++ [name]))) :
    let path := spell absolute (base ++ (parts ++ [name]))
    let place := out ++ (parts ++ [name])
    tree.entry? place = none ∧ ¬ tree.Bars place ∧
        tree.createDirectory path = .ok (tree.set place .directory) ∨
      tree.entry? place = some .directory ∧ tree.createDirectory path = .error .alreadyExists ∧
        tree.isDirectory path = true ∨
      tree.Bars place ∧ ∃ fault, fault ≠ .notFound ∧ tree.createDirectory path = .error fault ∧
        tree.isDirectory path = false := by
  intro path place
  have slot : tree.slot? path = .ok (some place) := by
    rw [slot_below segments named followed, reached]
    rfl
  have created : tree.createDirectory path = tree.makeIn (some place) := by
    rw [createDirectory_eq, slot]
    rfl
  have isDirectory : tree.isDirectory path = true ↔ tree.entry? place = some .directory :=
    (leads_below segments named followed reached).isDirectory_iff
  cases stands : tree.entry? place with
  | none =>
    have other : tree.isDirectory path = false := by
      rw [Bool.eq_false_iff, Ne, isDirectory, stands]
      simp
    cases refused : tree.refuses .write place.dropLast with
    | false =>
      refine .inl ⟨rfl, by simp [Bars, stands, refused], ?_⟩
      simp [created, makeIn, stands, refused]
    | true =>
      refine .inr (.inr ⟨.inr ⟨stands, refused⟩, .permissionDenied, by simp, ?_, other⟩)
      simp [created, makeIn, stands, refused]
  | some entry =>
    have taken : tree.createDirectory path = .error .alreadyExists := by
      simp [created, makeIn, stands]
    cases entry with
    | directory => exact .inr (.inl ⟨rfl, taken, isDirectory.mpr stands⟩)
    | file content =>
      refine .inr (.inr ⟨.inl ⟨content, stands⟩, .alreadyExists, by simp, taken, ?_⟩)
      rw [Bool.eq_false_iff, Ne, isDirectory, stands]
      simp

theorem createDirectory_existing (leads : tree.Leads path place) (filled : names path ≠ [])
    (directory : tree.entry? place = some .directory) :
    tree.createDirectory path = .error .alreadyExists := by
  rcases List.eq_nil_or_concat (names path) with none | ⟨front, last, split⟩
  · exact absurd none filled
  · rw [List.concat_eq_append] at split
    have followed := leads.followed
    rw [split, follow_append] at followed
    rw [createDirectory_eq, slot_eq leads.filled split]
    cases upper : tree.follow [] front with
    | error => simp [upper, Except.bind] at followed
    | ok above =>
      have one : tree.follow above [last] = .ok place := by
        simpa [upper, Except.bind] using followed
      have here := directory_of_follow_cons one
      simp only [Except.bind, room, here]
      split
      · rfl
      · rename_i plain
        have moved : move above last = above ++ [last] := by
          obtain ⟨notHere, notAbove⟩ : ¬last = "." ∧ ¬last = ".." := by simpa using plain
          simp [move, notHere, notAbove]
        rw [follow_cons here, moved] at one
        obtain rfl : above ++ [last] = place := Except.ok.inj one
        simp [makeIn, directory]

section Cases

variable {above : List String} {last : FileTree} {fault : IoFault}

theorem createAll_of_ok (success : tree.createDirectory path = .ok later) :
    tree.createAll (path :: above) = (.ok (), later) := by
  simp only [createAll, success]

theorem createAll_of_error (failed : tree.createDirectory path = .error fault)
    (other : fault ≠ .notFound) :
    tree.createAll (path :: above) =
      (if tree.isDirectory path then .ok () else .error fault, tree) := by
  unfold createAll
  rw [failed]
  cases fault <;> first | rfl | exact absurd rfl other

theorem createAll_of_above_error (missing : tree.createDirectory path = .error .notFound)
    (failed : tree.createAll above = (.error fault, later)) :
    tree.createAll (path :: above) = (.error fault, later) := by
  simp only [createAll, missing, failed]

theorem createAll_of_above_ok (missing : tree.createDirectory path = .error .notFound)
    (made : tree.createAll above = (.ok (), later))
    (success : later.createDirectory path = .ok last) :
    tree.createAll (path :: above) = (.ok (), last) := by
  simp only [createAll, missing, made, success]

theorem createAll_of_above_taken (missing : tree.createDirectory path = .error .notFound)
    (made : tree.createAll above = (.ok (), later))
    (failed : later.createDirectory path = .error fault) :
    tree.createAll (path :: above) =
      (if later.isDirectory path then .ok () else .error fault, later) := by
  simp only [createAll, missing, made, failed]

end Cases

/-- What is made along the path of some names below a directory. -/
structure MadeAlong (tree : FileTree) (out parts : List String)
    (done : Except IoFault Unit × FileTree) : Prop where
  grown : Grown (Along out parts) tree done.2
  ok_iff : done.1 = .ok () ↔ tree.Unblocked out parts
  made : done.1 = .ok () → ∀ above, above <+: parts →
    FileTree.entry? done.2 (out ++ above) = some .directory

theorem madeAlong_nil (directory : tree.entry? out = some .directory) :
    MadeAlong tree out [] (.ok (), tree) where
  grown := .refl tree
  ok_iff := ⟨fun _ _ filled front => absurd (List.prefix_nil.mp front) filled, fun _ => rfl⟩
  made := by
    intro _ above front
    obtain rfl := List.prefix_nil.mp front
    simpa using directory

theorem follow_opened (named : ∀ part ∈ parts ++ [name], IsName part)
    (opened : ∀ above, above <+: parts → tree.entry? (out ++ above) = some .directory) :
    tree.follow out (parts ++ [name]) = .ok (out ++ (parts ++ [name])) := by
  have directory : tree.entry? out = some .directory := by
    simpa using opened [] List.nil_prefix
  rcases follow_names named directory with ⟨through, -⟩ | ⟨above, front, other, stuck⟩
  · exact through
  · have here := opened above ((List.prefix_concat_iff.mp front).resolve_left other)
    rcases stuck with ⟨-, nothing⟩ | ⟨-, content, file⟩
    · rw [here] at nothing
      cases nothing
    · rw [here] at file
      cases file

theorem Along.widen (along : Along out parts place) : Along out (parts ++ [name]) place := by
  obtain ⟨above, filled, front, same⟩ := along
  exact ⟨above, filled, front.trans (List.prefix_append _ _), same⟩

theorem MadeAlong.of_blocked {fault : IoFault} (grown : Grown (Along out parts) tree later)
    (blocked : ¬ tree.Unblocked out parts) : MadeAlong tree out parts (.error fault, later) where
  grown := grown
  ok_iff := ⟨nofun, fun free => absurd free blocked⟩
  made := nofun

theorem MadeAlong.of_opened {done : Except IoFault Unit × FileTree}
    (grown : Grown (Along out parts) tree later) (permitted : Permitted tree later)
    (opened : ∀ above, above <+: parts → later.entry? (out ++ above) = some .directory)
    (outcome :
      later.entry? (out ++ (parts ++ [name])) = none ∧ ¬ later.Bars (out ++ (parts ++ [name])) ∧
        done = (.ok (), later.set (out ++ (parts ++ [name])) .directory) ∨
      later.entry? (out ++ (parts ++ [name])) = some .directory ∧ done = (.ok (), later) ∨
      later.Bars (out ++ (parts ++ [name])) ∧ ∃ fault, done = (.error fault, later)) :
    MadeAlong tree out (parts ++ [name]) done := by
  have wider : Grown (Along out (parts ++ [name])) tree later := grown.mono fun _ => Along.widen
  have unblocked (free : ¬ later.Bars (out ++ (parts ++ [name]))) :
      tree.Unblocked out (parts ++ [name]) := by
    intro above filled front
    rw [← grown.bars_iff permitted]
    rcases List.prefix_concat_iff.mp front with rfl | inner
    · exact free
    · exact not_bars_of_directory (opened above inner)
  rcases outcome with ⟨nothing, free, rfl⟩ | ⟨directory, rfl⟩ | ⟨barred, fault, rfl⟩
  · have here : Along out (parts ++ [name]) (out ++ (parts ++ [name])) :=
      ⟨parts ++ [name], by simp, List.prefix_refl _, rfl⟩
    refine ⟨wider.trans (.set (by simp) nothing here), ?_, ?_⟩
    · exact ⟨fun _ => unblocked free, fun _ => rfl⟩
    · intro _ above front
      rw [entry_set (by simp)]
      split
      · rfl
      · rename_i other
        rcases List.prefix_concat_iff.mp front with rfl | inner
        · exact absurd rfl other
        · exact opened above inner
  · refine ⟨wider, ⟨fun _ => unblocked (not_bars_of_directory directory), fun _ => rfl⟩, ?_⟩
    intro _ above front
    rcases List.prefix_concat_iff.mp front with rfl | inner
    · exact directory
    · exact opened above inner
  · exact .of_blocked wider fun free =>
      free _ (by simp) (List.prefix_refl _) ((grown.bars_iff permitted).mp barred)

theorem createDirectory_of_stuck {fault : IoFault} (segments : ∀ part ∈ base, IsSegment part)
    (named : ∀ part ∈ parts ++ [name], IsName part) (followed : tree.follow [] base = .ok out)
    (stuck : tree.follow out (parts ++ [name]) = .error fault) :
    tree.createDirectory (spell absolute (base ++ (parts ++ [name]))) = .error fault ∧
      tree.isDirectory (spell absolute (base ++ (parts ++ [name]))) = false := by
  constructor
  · rw [createDirectory_eq, slot_below segments named followed, stuck]
    rfl
  · rw [Bool.eq_false_iff, Ne, FileTree.isDirectory_iff]
    rintro ⟨place, located⟩
    obtain ⟨-, through, -⟩ := locate_eq_ok located
    rw [names_spell (isSegment_below segments named), follow_append, followed] at through
    cases stuck.symm.trans through

theorem MadeAlong.concat (segments : ∀ part ∈ base, IsSegment part)
    (followed : tree.follow [] base = .ok out) (directory : tree.entry? out = some .directory)
    (named : ∀ part ∈ parts ++ [name], IsName part)
    (upper : MadeAlong tree out parts (tree.createAll (climb absolute (base ++ parts)))) :
    MadeAlong tree out (parts ++ [name])
      (tree.createAll (climb absolute (base ++ (parts ++ [name])))) := by
  have permitted := permitted_createAll tree (climb absolute (base ++ parts))
  rw [← List.append_assoc, climb_concat, List.append_assoc]
  rcases follow_names named directory with ⟨through, opened⟩ | ⟨above, front, other, stuck⟩
  · refine .of_opened (.refl tree) (.refl tree) ?_ ?_
    · intro above front
      refine opened above (front.trans (List.prefix_append _ _)) ?_
      rintro rfl
      exact absurd front.length_le (by simp)
    · rcases createDirectory_below segments named followed through with
        ⟨nothing, free, success⟩ | ⟨there, taken, isDirectory⟩ | ⟨barred, fault, other, failed, no⟩
      · exact .inl ⟨nothing, free, createAll_of_ok success⟩
      · exact .inr (.inl ⟨there, by rw [createAll_of_error taken (by simp), isDirectory]; rfl⟩)
      · exact .inr (.inr ⟨barred, fault, by rw [createAll_of_error failed other, no]; rfl⟩)
  · rcases stuck with ⟨stuck, nothing⟩ | ⟨stuck, content, file⟩
    · obtain ⟨missing, -⟩ := createDirectory_of_stuck segments named followed stuck
      cases made : tree.createAll (climb absolute (base ++ parts)) with
      | mk result later =>
        rw [made] at upper permitted
        cases result with
        | error fault =>
          rw [createAll_of_above_error missing made]
          refine .of_blocked (upper.grown.mono fun _ => Along.widen) fun free => ?_
          cases upper.ok_iff.mpr fun above filled front =>
            free above filled (front.trans (List.prefix_append _ _))
        | ok =>
          have opened := upper.made rfl
          have again := upper.grown.keepsDirectories.follow followed
          refine .of_opened upper.grown permitted opened ?_
          rcases createDirectory_below segments named again (follow_opened named opened) with
            ⟨nothing, free, success⟩ | ⟨there, taken, isDirectory⟩ | ⟨barred, fault, -, failed, no⟩
          · exact .inl ⟨nothing, free, createAll_of_above_ok missing made success⟩
          · refine .inr (.inl ⟨there, ?_⟩)
            rw [createAll_of_above_taken missing made taken, isDirectory]
            rfl
          · refine .inr (.inr ⟨barred, fault, ?_⟩)
            rw [createAll_of_above_taken missing made failed, no]
            rfl
    · obtain ⟨failed, isDirectory⟩ := createDirectory_of_stuck segments named followed stuck
      rw [createAll_of_error failed (by simp), isDirectory]
      refine .of_blocked (.refl tree) fun free => free above ?_ front (.inl ⟨content, file⟩)
      rintro rfl
      rw [List.append_nil] at file
      cases directory.symm.trans file

/-- Directories are made along the path as far as nothing bars it. -/
theorem createAll_below (segments : ∀ part ∈ base, IsSegment part)
    (followed : tree.follow [] base = .ok out) (directory : tree.entry? out = some .directory)
    (named : ∀ part ∈ parts, IsName part) :
    MadeAlong tree out parts (tree.createAll (climb absolute (base ++ parts))) := by
  induction size : parts.length generalizing parts with
  | zero =>
    obtain rfl := List.length_eq_zero_iff.mp size
    rw [List.append_nil]
    rcases List.eq_nil_or_concat base with rfl | ⟨front, last, rfl⟩
    · exact madeAlong_nil directory
    · rw [List.concat_eq_append] at segments followed ⊢
      have leads : tree.Leads (spell absolute (front ++ [last])) out :=
        ⟨spell_ne_empty segments (by simp), by rwa [names_spell segments]⟩
      have taken := createDirectory_existing leads (by simp [names_spell segments]) directory
      rw [climb_concat, createAll_of_error taken (by simp), leads.isDirectory_iff.mpr directory]
      exact madeAlong_nil directory
  | succ size ih =>
    rcases List.eq_nil_or_concat parts with rfl | ⟨front, name, rfl⟩
    · cases size
    · rw [List.concat_eq_append] at named ⊢
      refine .concat segments followed directory named (ih ?_ (by simpa using size))
      exact fun part member => named part (List.mem_append_left _ member)

end Below

section Result

theorem isDirectory_of_createDirectory (success : tree.createDirectory path = .ok later) :
    later.isDirectory path = true := by
  obtain ⟨place, name, -, -, nothing, -, rfl, leads⟩ := createDirectory_ok success
  have grown : Grown (fun _ => True) tree (tree.set (place ++ [name]) .directory) :=
    .set (by simp) nothing trivial
  have reaches := grown.keepsDirectories.leads leads
  rw [reaches.isDirectory_iff, entry_set (by simp), if_pos rfl]

theorem isDirectory_of_createAll {above : List String}
    (success : (tree.createAll (path :: above)).1 = .ok ()) :
    (tree.createAll (path :: above)).2.isDirectory path = true := by
  unfold createAll at success ⊢
  split at success
  · rename_i later made
    exact isDirectory_of_createDirectory made
  · split at success
    · cases success
    · split at success
      · rename_i last made
        exact isDirectory_of_createDirectory made
      · split at success
        · assumption
        · cases success
  · split at success
    · assumption
    · cases success

theorem directory_of_createDirectories {entry : FileEntry} {output : String}
    (success : (tree.createDirectories output).1 = .ok ())
    (located : (tree.createDirectories output).2.locate output = .ok (place, entry)) :
    entry = .directory := by
  obtain ⟨-, followed, stands⟩ := locate_eq_ok located
  have stepped : FileTree.follow _ [] (steps output) = .ok place := follow_steps followed
  have segments : ∀ part ∈ steps output, IsSegment part := fun _ => isSegment_of_mem_steps
  rw [createDirectories, lineage_eq] at success stepped stands
  rcases List.eq_nil_or_concat (steps output) with none | ⟨front, last, split⟩
  · rw [none] at stepped
    obtain rfl : [] = place := Except.ok.inj stepped
    exact (Option.some.inj stands).symm
  · rw [List.concat_eq_append] at split
    rw [split] at segments success stepped stands
    rw [climb_concat] at success stepped stands
    obtain ⟨reached, again⟩ := isDirectory_iff.mp (isDirectory_of_createAll success)
    obtain ⟨-, through, directory⟩ := locate_eq_ok again
    rw [names_spell segments, stepped] at through
    obtain rfl := Except.ok.inj through
    exact Option.some.inj (stands.symm.trans directory)

end Result

end GrammarEmbed.FileTree
