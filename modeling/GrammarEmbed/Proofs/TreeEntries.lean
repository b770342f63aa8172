import GrammarEmbed.Proofs.PathNames

namespace GrammarEmbed.FileTree

open GrammarEmbed.Path

/-- The entries of a tree have places of their own, names of entries, and directories above them,
and only entries refuse anything. -/
structure WellFormed (tree : FileTree) : Prop where
  distinct : (tree.entries.map Prod.fst).Nodup
  named : ∀ entry ∈ tree.entries, ∀ name ∈ entry.1, IsName name
  rooted : ∀ entry ∈ tree.entries, tree.entry? entry.1.dropLast = some .directory
  barred : ∀ bar ∈ tree.refused, (tree.entry? bar.1).isSome

instance (tree : FileTree) : Decidable tree.WellFormed :=
  decidable_of_iff ((tree.entries.map Prod.fst).Nodup ∧
      (∀ entry ∈ tree.entries, ∀ name ∈ entry.1, IsName name) ∧
      (∀ entry ∈ tree.entries, tree.entry? entry.1.dropLast = some .directory) ∧
      ∀ bar ∈ tree.refused, (tree.entry? bar.1).isSome)
    ⟨fun ⟨distinct, named, rooted, barred⟩ => ⟨distinct, named, rooted, barred⟩,
      fun wellFormed =>
        ⟨wellFormed.distinct, wellFormed.named, wellFormed.rooted, wellFormed.barred⟩⟩

section Entries

variable {tree : FileTree} {place : List String} {entry : FileEntry}

theorem mem_of_entry (filled : place ≠ []) (stands : tree.entry? place = some entry) :
    (place, entry) ∈ tree.entries := by
  have found : tree.entries.lookup place = some entry := by
    simpa [ entry?, filled] using stands
  obtain ⟨before, after, split, -⟩ := List.lookup_eq_some_iff.mp found
  simp [split]

theorem isSome_entry_iff (filled : place ≠ []) :
    (tree.entry? place).isSome ↔ place ∈ tree.entries.map Prod.fst := by
  rw [ entry?, if_neg (by simpa using filled), List.lookup_isSome_iff, List.mem_map]
  simp only [beq_iff_eq, @eq_comm _ place]

theorem lookup_cons_eq (key other : List String) (value : FileEntry)
    (rest : List (List String × FileEntry)) :
    ((key, value) :: rest).lookup other =
      if other = key then some value else rest.lookup other := by
  by_cases same : other = key
  · subst same
    simp
  · have test : (other == key) = false := beq_eq_false_iff_ne.mpr same
    simp only [List.lookup_cons, test, same, if_false]

theorem lookup_setEntry (entries : List (List String × FileEntry)) (other : List String) :
    (setEntry place entry entries).lookup other =
      if other = place then some entry else entries.lookup other := by
  induction entries with
  | nil => exact lookup_cons_eq place other entry []
  | cons first rest ih =>
    obtain ⟨key, value⟩ := first
    unfold setEntry
    by_cases same : key = place
    · subst same
      by_cases here : other = key <;> simp [lookup_cons_eq, here]
    · by_cases here : other = key
      · subst here
        simp [same]
      · simp [lookup_cons_eq, same, here, ih]

theorem entry_set (filled : place ≠ []) (other : List String) :
    FileTree.entry? (tree.set place entry) other =
      if other = place then some entry else tree.entry? other := by
  cases other with
  | nil => simp [ entry?, Ne.symm filled]
  | cons => simp [ entry?, set, lookup_setEntry]

theorem keys_setEntry (entries : List (List String × FileEntry)) :
    (setEntry place entry entries).map Prod.fst =
      if place ∈ entries.map Prod.fst then entries.map Prod.fst
      else entries.map Prod.fst ++ [place] := by
  induction entries with
  | nil => rfl
  | cons first rest ih =>
    unfold setEntry
    by_cases same : first.1 = place
    · simp [same]
    · by_cases inside : place ∈ rest.map Prod.fst
      · simp [same, ih, inside, Ne.symm same]
      · simp [same, ih, inside, Ne.symm same]

theorem distinct_set (distinct : (tree.entries.map Prod.fst).Nodup) :
    ((tree.set place entry).entries.map Prod.fst).Nodup := by
  rw [set, keys_setEntry]
  split
  · exact distinct
  · rename_i fresh
    refine List.nodup_append.mpr ⟨distinct, by simp, ?_⟩
    rintro old member other last rfl
    exact fresh (List.mem_singleton.mp last ▸ member)

/-- Where there is nothing, nothing is refused. -/
theorem WellFormed.not_refuses (wellFormed : tree.WellFormed) (nothing : tree.entry? place = none)
    (access : Access) : tree.refuses access place = false := by
  rw [refuses, Bool.eq_false_iff]
  intro barred
  simpa [nothing] using wellFormed.barred _ (List.contains_iff_mem.mp barred)

theorem refuses_congr {other : FileTree} (same : other.refused = tree.refused) (access : Access)
    (place : List String) : other.refuses access place = tree.refuses access place := by
  rw [refuses, same, refuses]

theorem le_depth (member : (place, entry) ∈ tree.entries) : place.length ≤ tree.depth := by
  have bound (entries : List (List String × FileEntry)) (start : Nat) :
      start ≤ entries.foldl (fun depth entry => max depth entry.1.length) start ∧
        ∀ entry ∈ entries,
          entry.1.length ≤ entries.foldl (fun depth entry => max depth entry.1.length) start := by
    induction entries generalizing start with
    | nil => simp
    | cons first rest ih =>
      obtain ⟨start_le, rest_le⟩ := ih (max start first.1.length)
      refine ⟨Nat.le_trans (Nat.le_max_left _ _) start_le, ?_⟩
      intro entry member
      rcases List.mem_cons.mp member with rfl | later
      · exact Nat.le_trans (Nat.le_max_right _ _) start_le
      · exact rest_le entry later
  exact (bound tree.entries 0).2 _ member

end Entries

section Listing

variable {tree : FileTree} {place : List String}

theorem nameAt_eq_some_iff {entry : List String × FileEntry} {name : String} :
    nameAt place entry = some name ↔ entry.1 = place ++ [name] := by
  obtain ⟨key, value⟩ := entry
  rcases List.eq_nil_or_concat key with rfl | ⟨front, last, rfl⟩
  · simp [nameAt]
  · simp [nameAt]

theorem mem_namesAt {name : String} :
    name ∈ tree.namesAt place ↔ (tree.entry? (place ++ [name])).isSome := by
  rw [isSome_entry_iff (by simp), namesAt, List.mem_mergeSort, List.mem_filterMap, List.mem_map]
  simp only [nameAt_eq_some_iff]

theorem nodup_namesAt (distinct : (tree.entries.map Prod.fst).Nodup) :
    (tree.namesAt place).Nodup := by
  rw [namesAt, (List.mergeSort_perm _ _).nodup_iff]
  have apart : tree.entries.Pairwise fun a b => a.1 ≠ b.1 := List.pairwise_map.mp distinct
  refine List.Pairwise.filterMap _ ?_ apart
  rintro entry other differ name named _ named' rfl
  exact differ ((nameAt_eq_some_iff.mp named).trans (nameAt_eq_some_iff.mp named').symm)

theorem lt_or_beq_iff_le {a b : String} : (decide (a < b) || a == b) = true ↔ a ≤ b := by
  rw [Bool.or_eq_true, decide_eq_true_iff, beq_iff_eq]
  constructor
  · rintro (less | rfl)
    · exact String.not_lt.mp (String.lt_asymm less)
    · exact String.le_refl a
  · intro le
    by_cases same : a = b
    · exact .inr same
    · exact .inl (String.not_le.mp fun ge => same (String.le_antisymm le ge))

theorem sorted_namesAt (distinct : (tree.entries.map Prod.fst).Nodup) :
    (tree.namesAt place).Pairwise (· < ·) := by
  have sorted : (tree.namesAt place).Pairwise fun a b => (a < b || a == b) = true := by
    apply List.pairwise_mergeSort
    · intro a b c
      simp only [lt_or_beq_iff_le]
      exact String.le_trans
    · intro a b
      rw [Bool.or_eq_true, lt_or_beq_iff_le, lt_or_beq_iff_le]
      exact String.le_total a b
  refine (sorted.and (nodup_namesAt distinct)).imp ?_
  rintro a b ⟨le, differ⟩
  simpa [differ] using le

end Listing

section Following

variable {tree later : FileTree} {place reached : List String} {parts : List String}

theorem follow_append (place first second : List String) :
    tree.follow place (first ++ second) =
      (tree.follow place first).bind fun reached => tree.follow reached second := by
  induction first generalizing place with
  | nil => rfl
  | cons name rest ih =>
    simp only [List.cons_append, follow]
    cases tree.entry? place with
    | none => rfl
    | some entry =>
      cases entry with
      | file => rfl
      | directory =>
        simp only [ih]
        split
        · rfl
        · split <;> rfl

/-- Where one name leads from a directory. -/
def move (place : List String) (name : String) : List String :=
  if name == "." then place else if name == ".." then place.dropLast else place ++ [name]

theorem follow_cons {name : String} (directory : tree.entry? place = some .directory)
    (rest : List String) :
    tree.follow place (name :: rest) = tree.follow (move place name) rest := by
  simp only [follow, directory, move]
  split
  · rfl
  · split <;> rfl

theorem move_name {name : String} (named : IsName name) : move place name = place ++ [name] := by
  simp [move, named.notHere, named.notAbove]

theorem directory_of_follow_cons {name : String} {rest : List String}
    (followed : tree.follow place (name :: rest) = .ok reached) :
    tree.entry? place = some .directory := by
  cases found : tree.entry? place with
  | none => simp [follow, found] at followed
  | some entry =>
    cases entry with
    | file => simp [follow, found] at followed
    | directory => rfl

/-- Every directory is still one in the other tree. -/
def KeepsDirectories (tree later : FileTree) : Prop :=
  ∀ place, tree.entry? place = some .directory → later.entry? place = some .directory

/-- A path leads to the same place as long as the directories stay. -/
theorem KeepsDirectories.follow (keeps : KeepsDirectories tree later)
    (followed : tree.follow place parts = .ok reached) :
    later.follow place parts = .ok reached := by
  induction parts generalizing place with
  | nil => exact followed
  | cons name rest ih =>
    have here := directory_of_follow_cons followed
    rw [follow_cons here] at followed
    rw [follow_cons (keeps place here)]
    exact ih followed

theorem follow_steps (followed : tree.follow place parts = .ok reached) :
    tree.follow place (parts.filter fun name => name != ".") = .ok reached := by
  induction parts generalizing place with
  | nil => exact followed
  | cons name rest ih =>
    have here := directory_of_follow_cons followed
    rw [follow_cons here] at followed
    by_cases dot : name = "."
    · subst dot
      exact ih followed
    · simpa [dot, follow_cons here] using ih followed

/-- Names that are followed from a directory lead below it, or to the first of them that is no
directory. -/
theorem follow_names (named : ∀ name ∈ parts, IsName name)
    (directory : tree.entry? place = some .directory) :
    (tree.follow place parts = .ok (place ++ parts) ∧
      ∀ above, above <+: parts → above ≠ parts → tree.entry? (place ++ above) = some .directory) ∨
    ∃ above, above <+: parts ∧ above ≠ parts ∧
      (tree.follow place parts = .error .notFound ∧ tree.entry? (place ++ above) = none ∨
        tree.follow place parts = .error .notDirectory ∧
          ∃ content, tree.entry? (place ++ above) = some (.file content)) := by
  induction parts generalizing place with
  | nil =>
    refine .inl ⟨by simp [follow], fun above front other => ?_⟩
    exact absurd (List.prefix_nil.mp front) other
  | cons name rest ih =>
    rw [follow_cons directory, move_name (named name List.mem_cons_self)]
    cases rest with
    | nil =>
      refine .inl ⟨rfl, fun above front other => ?_⟩
      rcases List.prefix_cons_iff.mp front with rfl | ⟨deeper, rfl, inner⟩
      · simpa using directory
      · exact absurd (by rw [List.prefix_nil.mp inner]) other
    | cons next rest =>
      have first : [name] <+: name :: next :: rest := ⟨next :: rest, rfl⟩
      cases found : tree.entry? (place ++ [name]) with
      | none => exact .inr ⟨[name], first, by simp, .inl ⟨by simp [follow, found], found⟩⟩
      | some entry =>
        cases entry with
        | file content =>
          exact .inr ⟨[name], first, by simp, .inr ⟨by simp [follow, found], content, found⟩⟩
        | directory =>
          rcases ih (fun other member => named other (List.mem_cons_of_mem name member)) found with
            ⟨through, open_⟩ | ⟨above, front, other, stuck⟩
          · refine .inl ⟨by rw [through, ← List.append_cons], fun above front other => ?_⟩
            rcases List.prefix_cons_iff.mp front with rfl | ⟨deeper, rfl, inner⟩
            · simpa using directory
            · rw [List.append_cons]
              exact open_ deeper inner fun same => other (by rw [same])
          · refine .inr ⟨name :: above, ?_, ?_, ?_⟩
            · exact List.cons_prefix_cons.mpr ⟨rfl, front⟩
            · exact fun same => other (List.cons_inj_right name |>.mp same)
            · rwa [List.append_cons place name above]

end Following

section Paths

variable {tree later : FileTree} {path : String} {place : List String} {entry : FileEntry}

/-- What a path that has led to a place finds there. -/
def found (path : String) (place : List String) :
    Option FileEntry → Except IoFault (List String × FileEntry)
  | none => .error .notFound
  | some .directory => .ok (place, .directory)
  | some (.file content) =>
    if endsInSlash path then .error .notDirectory else .ok (place, .file content)

theorem locate_eq (filled : path ≠ "") :
    tree.locate path =
      (tree.follow [] (names path)).bind fun place => found path place (tree.entry? place) := by
  have test : path.isEmpty = false := by simpa using filled
  unfold locate
  rw [test]
  cases tree.follow [] (names path) with
  | error => rfl
  | ok place =>
    dsimp only [bind, Except.bind, pure, Except.pure]
    cases tree.entry? place with
    | none => rfl
    | some entry => cases entry <;> rfl

theorem locate_eq_ok (located : tree.locate path = .ok (place, entry)) :
    path ≠ "" ∧ tree.follow [] (names path) = .ok place ∧ tree.entry? place = some entry := by
  have filled : path ≠ "" := by
    rintro rfl
    cases located
  rw [locate_eq filled] at located
  cases followed : tree.follow [] (names path) with
  | error => simp [followed, Except.bind] at located
  | ok reached =>
    cases stands : tree.entry? reached with
    | none => simp [followed, stands, Except.bind, found] at located
    | some other =>
      obtain ⟨rfl, rfl⟩ : reached = place ∧ other = entry := by
        cases other with
        | directory => simpa [followed, stands, Except.bind, found] using located
        | file =>
          by_cases slash : endsInSlash path = true
          · simp [followed, stands, Except.bind, found, slash] at located
          · simpa [followed, stands, Except.bind, found, slash] using located
      exact ⟨filled, rfl, stands⟩

theorem locate_directory (filled : path ≠ "")
    (followed : tree.follow [] (names path) = .ok place)
    (stands : tree.entry? place = some .directory) :
    tree.locate path = .ok (place, .directory) := by
  simp [locate_eq filled, followed, stands, Except.bind, found]

theorem locate_file {content : Content} (filled : path ≠ "") (plain : endsInSlash path = false)
    (followed : tree.follow [] (names path) = .ok place)
    (stands : tree.entry? place = some (.file content)) :
    tree.locate path = .ok (place, .file content) := by
  simp [locate_eq filled, followed, stands, Except.bind, found, plain]

theorem isDirectory_iff :
    tree.isDirectory path = true ↔ ∃ place, tree.locate path = .ok (place, .directory) := by
  unfold isDirectory
  split
  · simp_all
  · rename_i other
    simp only [Bool.false_eq_true, false_iff, not_exists]
    exact other

/-- The path leads to the place, whether or not something is there. -/
structure Leads (tree : FileTree) (path : String) (place : List String) : Prop where
  filled : path ≠ ""
  followed : tree.follow [] (names path) = .ok place

theorem leads_of_locate (located : tree.locate path = .ok (place, entry)) :
    tree.Leads path place ∧ tree.entry? place = some entry := by
  obtain ⟨filled, followed, stands⟩ := locate_eq_ok located
  exact ⟨⟨filled, followed⟩, stands⟩

theorem KeepsDirectories.leads (keeps : KeepsDirectories tree later)
    (leads : tree.Leads path place) : later.Leads path place :=
  ⟨leads.filled, keeps.follow leads.followed⟩

theorem Leads.isDirectory_iff (leads : tree.Leads path place) :
    tree.isDirectory path = true ↔ tree.entry? place = some .directory := by
  rw [FileTree.isDirectory_iff]
  constructor
  · rintro ⟨reached, located⟩
    obtain ⟨-, followed, stands⟩ := locate_eq_ok located
    obtain rfl : reached = place := Except.ok.inj (followed.symm.trans leads.followed)
    exact stands
  · intro stands
    exact ⟨place, locate_directory leads.filled leads.followed stands⟩

theorem Leads.join (leads : tree.Leads path place) (directory : tree.entry? place = some .directory)
    {name : String} (named : IsName name) : tree.Leads (Path.join path name) (place ++ [name]) where
  filled := join_ne_empty path named.filled
  followed := by
    rw [names_join path (isAbsolute_segment named.1), names_segment named.1, follow_append,
      leads.followed]
    exact (follow_cons directory []).trans (by rw [move_name named]; rfl)

theorem Leads.joinAll {parts : List String} (leads : tree.Leads path place)
    (named : ∀ part ∈ parts, IsName part)
    (opened : ∀ above, above <+: parts → above ≠ parts →
      tree.entry? (place ++ above) = some .directory) :
    tree.Leads (Path.joinAll path parts) (place ++ parts) := by
  induction parts generalizing path place with
  | nil => simpa [Path.joinAll] using leads
  | cons name rest ih =>
    have directory : tree.entry? place = some .directory := by
      simpa using opened [] List.nil_prefix (by simp)
    have first := leads.join directory (named name List.mem_cons_self)
    rw [List.append_cons]
    refine ih first (fun part member => named part (List.mem_cons_of_mem _ member)) ?_
    intro above front other
    rw [← List.append_cons]
    exact opened (name :: above) (List.cons_prefix_cons.mpr ⟨rfl, front⟩) (by simpa using other)

/-- What reading a file comes to that holds the content. -/
def textOf (tree : FileTree) (place : List String) (content : Content) : Except IoFault String :=
  if tree.refuses .read place then .error .permissionDenied else content.toText

theorem read_file {content : Content} (located : tree.locate path = .ok (place, .file content)) :
    tree.read path = tree.textOf place content := by
  unfold read textOf
  rw [located]
  dsimp only [bind, Except.bind]
  cases tree.refuses .read place <;> rfl

theorem list_directory (located : tree.locate path = .ok (place, .directory)) :
    tree.list path =
      if tree.refuses .read place then .error .permissionDenied else .ok (tree.namesAt place) := by
  unfold list
  rw [located]
  dsimp only [bind, Except.bind]
  cases tree.refuses .read place <;> rfl

/-- The place for a name in what stands where it goes. -/
def room (place : List String) (name : String) :
    Option FileEntry → Except IoFault (Option (List String))
  | none => .error .notFound
  | some (.file _) => .error .notDirectory
  | some .directory => .ok (if name == "." || name == ".." then none else some (place ++ [name]))

theorem slot_eq {front : List String} {name : String} (filled : path ≠ "")
    (split : names path = front ++ [name]) :
    tree.slot? path =
      (tree.follow [] front).bind fun place => room place name (tree.entry? place) := by
  have test : path.isEmpty = false := by simpa using filled
  unfold slot?
  rw [test, split]
  dsimp only
  rw [List.getLast?_concat, List.dropLast_concat]
  cases tree.follow [] front with
  | error => rfl
  | ok place =>
    dsimp only [bind, Except.bind, pure, Except.pure]
    cases tree.entry? place with
    | none => rfl
    | some entry => cases entry <;> rfl

/-- A slot for a plain name is the place that the whole path leads to. -/
theorem slot_eq_follow {front : List String} {name : String} (filled : path ≠ "")
    (split : names path = front ++ [name]) (named : IsName name) :
    tree.slot? path = (tree.follow [] (names path)).map some := by
  rw [slot_eq filled split, split, follow_append]
  cases tree.follow [] front with
  | error => rfl
  | ok place =>
    cases stands : tree.entry? place with
    | none => simp [Except.bind, Except.map, follow, room, stands]
    | some entry =>
      cases entry with
      | file => simp [Except.bind, Except.map, follow, room, stands]
      | directory =>
        simp [Except.bind, Except.map, follow, room, stands, named.notHere, named.notAbove]

end Paths

end GrammarEmbed.FileTree
