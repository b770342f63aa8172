import GrammarEmbed.Proofs.FileJournal
import GrammarEmbed.Proofs.WalkCourse

/-!
Runs over a directory as courses. The journal of a run is that of a course over the tree, and its
summary is made of what each file on the course came to. A run that does not finish has come to a
directory that may not be listed.
-/

namespace GrammarEmbed

open GrammarEmbed.Path OnTree FilePrecompiler

variable {σ : Type} {runtime : Runtime (OnTree σ)} {config : Config} {extensions : List String}
  {source output : String} {yields : Yields}

/-- The runtime leaves every tree as it is, and a text comes to something that it may come to. -/
def Runtime.Answers (runtime : Runtime (OnTree σ)) (config : Config) (source : String)
    (yields : Yields) : Prop :=
  ∀ rel text tree world, ∃ result next, yields rel text result ∧
    exec (Precompiler.runText runtime config text (joinAll source rel)) tree world =
      ((result, tree), next)

namespace Passage

def events (source output : String) (passage : Passage) : List FileEvent :=
  .read (joinAll source passage.rel) passage.read ::
    (passage.wrote.map fun (code, answer) =>
      .write (FileTree.targetOf output passage.rel) code answer).toList

/-- A class of the file received a grammar, and the code was written. -/
def transformed (passage : Passage) : Bool :=
  match passage.result with
  | .ok (_, outcome) => outcome.modified
  | .error _ => false

def failure (source : String) (passage : Passage) : Option String :=
  match passage.result with
  | .ok _ => none
  | .error error =>
    some ("Error processing " ++ joinAll source passage.rel ++ ": " ++ error.message)

def report (source : String) (passage : Passage) : Summary :=
  match passage.result with
  | .ok (_, outcome) => .ofOutcome outcome
  | .error error => .ofError (joinAll source passage.rel) error

theorem report_eq (source : String) (passage : Passage) : passage.report source =
    ⟨1, if passage.transformed then 1 else 0, (passage.failure source).toList⟩ := by
  obtain ⟨rel, read, wrote, result⟩ := passage
  cases result <;> rfl

end Passage

namespace Summary

/-- A summary to which the reports of some passages are added. -/
def total (source : String) (summary : Summary) (passages : List Passage) : Summary :=
  passages.foldl (fun summary passage => summary.merge (passage.report source)) summary

theorem total_append (summary : Summary) (first second : List Passage) :
    summary.total source (first ++ second) = (summary.total source first).total source second :=
  List.foldl_append

theorem total_eq (summary : Summary) (passages : List Passage) : summary.total source passages =
    ⟨summary.processed + passages.length,
      summary.transformed + passages.countP Passage.transformed,
      summary.errors ++ passages.filterMap (Passage.failure source)⟩ := by
  induction passages generalizing summary with
  | nil => simp [total]
  | cons passage rest ih =>
    have step : summary.total source (passage :: rest) =
        (summary.merge (passage.report source)).total source rest := rfl
    rw [step, ih, Passage.report_eq]
    refine Summary.mk.injEq .. |>.mpr ⟨?_, ?_, ?_⟩
    · simp only [merge, List.length_cons, Nat.add_assoc, Nat.add_comm 1]
    · simp only [merge, List.countP_cons, Nat.add_assoc, Nat.add_comm (ite _ _ _)]
    · rw [List.filterMap_cons]
      cases failed : passage.failure source <;> simp [merge]

end Summary

namespace Walk

variable {walk : Walk} {tree last : FileTree} {dir names rel : List String} {name : String}
  {levels : Nat} {passages : List Passage}

/-- The paths of the two directories lead to them. -/
structure Ready (walk : Walk) (source output : String) (tree : FileTree) : Prop where
  wellFormed : tree.WellFormed
  sourceLeads : tree.Leads source walk.root
  outputLeads : tree.Leads output walk.out
  out : tree.entry? walk.out = some .directory

theorem Ready.chain (ready : walk.Ready source output tree)
    (chain : walk.Chain yields tree passages last) : walk.Ready source output last := by
  have keeps : FileTree.KeepsDirectories tree last := fun _ => chain.keepsKinds.directory
  exact ⟨chain.wellFormed ready.wellFormed, keeps.leads ready.sourceLeads,
    keeps.leads ready.outputLeads, keeps _ ready.out⟩

section File

variable {content : Content} {text code : String} {outcome : Outcome}

theorem Ready.passes_unwritten (ready : walk.Ready source output tree)
    (file : tree.entry? (walk.root ++ rel) = some (.file content))
    {read : Except IoFault String} {error : Error}
    (readable : tree.textOf (walk.root ++ rel) content = read)
    (settles :
      Passage.Settles yields (tree.Writable walk.out rel) ⟨rel, read, none, .error error⟩) :
    walk.Passes yields tree ⟨rel, read, none, .error error⟩ tree where
  wellFormed := ready.wellFormed
  permitted := .refl tree
  read := ⟨content, file, readable.symm⟩
  settles := settles
  kept := fun _ _ => rfl
  gained := nofun

theorem Ready.named (ready : walk.Ready source output tree)
    (file : tree.entry? (walk.root ++ rel) = some (.file content)) : ∀ part ∈ rel, IsName part :=
  fun _ member => ready.wellFormed.isName_of_mem file (List.mem_append_right _ member)

def resultOf (code : String) (outcome : Outcome) :
    Except IoFault Unit → Except Error (String × Outcome)
  | .ok _ => .ok (code, outcome)
  | .error fault => .error (.io fault)

theorem report_resultOf {read : Except IoFault String}
    {wrote : Option (String × Except IoFault Unit)} {ended : Except IoFault Unit} :
    Passage.report source ⟨rel, read, wrote, resultOf code outcome ended⟩ =
      delivered (joinAll source rel) outcome ended := by
  cases ended <;> rfl

/-- The journal after a file was read and, if it came to that, written. -/
theorem elim_tried {journal : List FileEvent} {next : σ} {tried : Option (Except IoFault Unit)}
    {result : Except Error (String × Outcome)} :
    (tried.map (FileEvent.write (FileTree.targetOf output rel) code)).elim
      (journal ++ [.read (joinAll source rel) (.ok text)], next)
      (fun event => (journal ++ [.read (joinAll source rel) (.ok text)] ++ [event], next)) =
    (journal ++ Passage.events source output ⟨rel, .ok text, tried.map (code, ·), result⟩,
      next) := by
  cases tried <;> simp [Passage.events]

/-- The code is delivered, or that is tried. -/
theorem Ready.passes_delivered (ready : walk.Ready source output tree)
    (file : tree.entry? (walk.root ++ (dir ++ [name])) = some (.file content))
    (readable : tree.textOf (walk.root ++ (dir ++ [name])) content = .ok text)
    (comes : yields (dir ++ [name]) text (.ok (code, outcome)))
    {tried : Option (Except IoFault Unit)} {done : Except IoFault Unit × FileTree}
    (delivers : tree.deliver (FileTree.homeOf output dir)
      (FileTree.targetOf output (dir ++ [name])) code = done)
    (ok_iff : tried = some (.ok ()) ↔ done.1 = .ok ()) :
    walk.Passes yields tree
      ⟨dir ++ [name], .ok text, tried.map (code, ·), resultOf code outcome done.1⟩ done.2 := by
  have stays := ready.wellFormed.deliver (FileTree.homeOf output dir)
    (FileTree.targetOf output (dir ++ [name])) code
  have permitted := FileTree.permitted_deliver tree (FileTree.homeOf output dir)
    (FileTree.targetOf output (dir ++ [name])) code
  have delivered := FileTree.delivered_deliver ready.wellFormed ready.outputLeads ready.out
    (ready.named file) code
  rw [delivers] at stays permitted delivered
  obtain ⟨result, last⟩ := done
  cases result with
  | error fault =>
    have unwritten : Passage.code? ⟨dir ++ [name], .ok text, tried.map (code, ·),
        resultOf code outcome (.error fault)⟩ = none := by
      rw [Passage.code_eq, if_neg (by simp [ok_iff])]
    have stuck : ¬ tree.Writable walk.out (dir ++ [name]) := fun free =>
      nomatch delivered.ok_iff.mpr free
    exact
      { wellFormed := stays, permitted, read := ⟨content, file, readable.symm⟩
        settles := .unwritable rfl comes stuck rfl unwritten
        kept := fun _ => delivered.unchanged ready.wellFormed stays permitted
        gained := fun _ wrote => nomatch unwritten.symm.trans wrote }
  | ok =>
    have wrote : Passage.code? ⟨dir ++ [name], .ok text, tried.map (code, ·),
        resultOf code outcome (.ok ())⟩ = some code := by
      rw [Passage.code_eq, if_pos (ok_iff.mpr rfl)]
    refine
      { wellFormed := stays, permitted, read := ⟨content, file, readable.symm⟩
        settles := .written rfl comes (delivered.ok_iff.mp rfl) rfl wrote
        kept := fun unwritten => nomatch wrote.symm.trans unwritten
        gained := fun written same => ?_ }
    obtain rfl := Option.some.inj (wrote.symm.trans same)
    exact delivered.gains ready.wellFormed stays ready.out

/-- A run over one file is a passage. -/
theorem Ready.passes (ready : walk.Ready source output tree)
    (answers : runtime.Answers config source yields)
    (file : tree.entry? (walk.root ++ (dir ++ [name])) = some (.file content))
    (journal : List FileEvent) (world : σ) :
    ∃ passage last next, passage.rel = dir ++ [name] ∧ walk.Passes yields tree passage last ∧
      exec ((journaled runtime config extensions).transformInto (joinAll source (dir ++ [name]))
        (FileTree.targetOf output (dir ++ [name]))) tree (journal, world) =
        ((passage.report source, last), (journal ++ passage.events source output, next)) := by
  have read := ready.wellFormed.read_joinAll ready.sourceLeads file
  have above : parent? (FileTree.targetOf output (dir ++ [name])) =
      some (FileTree.homeOf output dir) := FileTree.parent_targetOf (ready.named file)
  cases readable : tree.textOf (walk.root ++ (dir ++ [name])) content with
  | error fault =>
    rw [readable] at read
    exact ⟨_, tree, _, rfl, ready.passes_unwritten file readable (.unreadable rfl rfl rfl),
      transformInto_of_error (precompileFile_of_unreadable reflects_journaled read)⟩
  | ok text =>
    rw [readable] at read
    obtain ⟨result, next, comes, ran⟩ := answers (dir ++ [name]) text tree world
    have precompiled : exec ((journaled runtime config extensions).precompileFile
        (joinAll source (dir ++ [name]))).run tree (journal, world) = ((result, tree),
          (journal ++ [.read (joinAll source (dir ++ [name])) (.ok text)], next)) := by
      refine precompileFile_of_readable reflects_journaled read ?_
      have beside := exec_beside (Precompiler.runText runtime config text
        (joinAll source (dir ++ [name]))) tree
        (journal ++ [.read (joinAll source (dir ++ [name])) (.ok text)]) world
      rw [ran, ← Precompiler.runText_beside] at beside
      exact beside
    cases result with
    | error error =>
      exact ⟨_, tree, _, rfl, ready.passes_unwritten file readable (.failed rfl comes rfl rfl),
        transformInto_of_error precompiled⟩
    | ok made =>
      obtain ⟨code, outcome⟩ := made
      obtain ⟨tried, ok_iff, went⟩ := transformInto_of_ok reflects_journaled precompiled above
      refine ⟨_, _, next, rfl, ready.passes_delivered file readable comes rfl ok_iff, ?_⟩
      rw [went, report_resultOf, ← elim_tried]

end File

section Runs

variable {summary : Summary} {journal : List FileEvent} {world : σ}

/-- A part of a run takes the course over some names of a directory and keeps a journal of it, or it
stops at a directory that may not be listed. -/
def Takes (walk : Walk) (yields : Yields) (source output : String)
    (part : ExceptT Error (Journaled σ) Summary) (summary : Summary) (levels : Nat)
    (dir names : List String) (tree : FileTree) (journal : List FileEvent) (world : σ) : Prop :=
  (∃ passages last next,
    exec part.run tree (journal, world) = ((.ok (summary.total source passages), last),
      (journal ++ passages.flatMap (Passage.events source output), next)) ∧
    walk.Course yields levels dir names tree passages last) ∨
  ¬ Walk.Listable { walk with tree := tree } ∧ ∃ last after,
    exec part.run tree (journal, world) = ((.error (.io .permissionDenied), last), after)

/-- It does so from every tree in which the names stand. -/
def Follows (walk : Walk) (yields : Yields) (source output : String)
    (part : Summary → ExceptT Error (Journaled σ) Summary) (levels : Nat)
    (dir names : List String) : Prop :=
  ∀ tree journal world summary, walk.Ready source output tree →
    (∀ name ∈ names, (tree.entry? (walk.root ++ (dir ++ [name]))).isSome) →
    walk.Takes yields source output (part summary) summary levels dir names tree journal world

theorem Takes.pure (course : walk.Course yields levels dir names tree [] tree) :
    walk.Takes yields source output (Pure.pure summary) summary levels dir names tree journal
      world :=
  .inl ⟨[], tree, world, by rw [List.flatMap_nil, List.append_nil]; rfl, course⟩

theorem Takes.of_exec {part other : ExceptT Error (Journaled σ) Summary}
    (same : exec part.run tree (journal, world) = exec other.run tree (journal, world))
    (takes : walk.Takes yields source output other summary levels dir names tree journal world) :
    walk.Takes yields source output part summary levels dir names tree journal world := by
  unfold Takes
  rwa [same]

theorem Follows.append {first second : Summary → ExceptT Error (Journaled σ) Summary}
    {others : List String} (one : walk.Follows yields source output first levels dir names)
    (two : walk.Follows yields source output second levels dir others) :
    walk.Follows yields source output (fun summary => first summary >>= second) levels dir
      (names ++ others) := by
  intro tree journal world summary ready listed
  rcases one tree journal world summary ready fun name member =>
      listed name (List.mem_append_left _ member) with
    ⟨passages, middle, between, ran, course⟩ | ⟨stuck, last, after, ran⟩
  · rcases two middle _ between _ (ready.chain course.chain) fun name member =>
        course.chain.keepsKinds.isSome (listed name (List.mem_append_right _ member)) with
      ⟨more, last, next, went, rest⟩ | ⟨stuck, last, after, went⟩
    · refine .inl ⟨passages ++ more, last, next, ?_, course.append rest⟩
      rw [exec_ok _ ran, went, Summary.total_append, List.flatMap_append, List.append_assoc]
    · refine .inr ⟨fun listable => stuck (course.chain.listable ready.wellFormed listable), last,
        after, ?_⟩
      rw [exec_ok _ ran, went]
  · exact .inr ⟨stuck, last, after, exec_error _ ran⟩

theorem Follows.foldlM {step : Summary → String → ExceptT Error (Journaled σ) Summary}
    (each : ∀ name, walk.Follows yields source output (step · name) levels dir [name])
    (names : List String) :
    walk.Follows yields source output (fun summary => names.foldlM step summary) levels dir
      names := by
  induction names with
  | nil => exact fun _ _ _ _ _ _ => .pure .done
  | cons name rest ih =>
    simp only [List.foldlM_cons]
    exact (each name).append ih

theorem Ready.leads (ready : walk.Ready source output tree) {entry : FileEntry}
    (stands : tree.entry? (walk.root ++ rel) = some entry) :
    tree.Leads (joinAll source rel) (walk.root ++ rel) :=
  ready.wellFormed.leads_joinAll ready.sourceLeads stands

theorem Ready.locate (ready : walk.Ready source output tree)
    (directory : tree.entry? (walk.root ++ rel) = some .directory) :
    tree.locate (joinAll source rel) = .ok (walk.root ++ rel, .directory) := by
  have leads := ready.leads directory
  exact FileTree.locate_directory leads.filled leads.followed directory

/-- What a run does under one name, given what it does in a directory there. -/
theorem follows_name (answers : runtime.Answers config source yields)
    {deeper : String → String → Summary → ExceptT Error (Journaled σ) Summary}
    (inner : ∀ tree journal world summary, walk.Ready source output tree →
      isHidden name = false → tree.entry? (walk.root ++ (dir ++ [name])) = some .directory →
      name ≠ packageDirectory → walk.root ++ (dir ++ [name]) ≠ walk.out →
      walk.Takes yields source output
        (deeper (joinAll source (dir ++ [name])) (joinAll "" (dir ++ [name])) summary) summary
        levels dir [name] tree journal world) :
    walk.Follows yields source output (fun summary =>
      (journaled runtime config walk.extensions).transformName output walk.out deeper
        (joinAll source dir) (joinAll "" dir) summary name) levels dir [name] := by
  intro tree journal world summary ready listed
  obtain ⟨entry, stands⟩ := Option.isSome_iff_exists.mp (listed name List.mem_cons_self)
  unfold transformName
  simp only [← joinAll_concat]
  cases hidden : isHidden name with
  | true => exact .pure (.skipped (.hidden hidden) .done)
  | false =>
    simp only [Bool.false_eq_true, if_false]
    have kind : tree.isDirectory (joinAll source (dir ++ [name])) =
        decide (entry = .directory) := by
      rw [Bool.eq_iff_iff, (ready.leads stands).isDirectory_iff, stands, Option.some.injEq,
        decide_eq_true_iff]
    have ask : exec ((journaled runtime config walk.extensions).store.isDirectory
        (joinAll source (dir ++ [name]))) tree (journal, world) =
        ((decide (entry = .directory), tree), (journal, world)) := by
      rw [reflects_journaled.isDirectory, kind]
    refine .of_exec (exec_lift _ ask) ?_
    cases entry with
    | directory =>
      have resolve : exec ((journaled runtime config walk.extensions).store.resolve
          (joinAll source (dir ++ [name]))) tree (journal, world) =
          ((.ok (walk.root ++ (dir ++ [name])), tree), (journal, world)) := by
        rw [reflects_journaled.resolve, ready.locate stands]
        rfl
      simp only [decide_true, if_true]
      refine .of_exec (exec_lift _ resolve) ?_
      simp only [Bool.or_eq_true, beq_iff_eq]
      split
      · rename_i why
        exact .pure (.skipped (.unentered stands (why.imp_right .inl)) .done)
      · rename_i otherwise
        obtain ⟨notOutput, notPackages⟩ := not_or.mp otherwise
        exact inner tree journal world summary ready hidden stands notPackages notOutput
    | file content =>
      have other : FileEntry.file content ≠ .directory := nofun
      simp only [other, decide_false, Bool.false_eq_true, if_false]
      have known : (journaled runtime config walk.extensions).extensions = walk.extensions := rfl
      rw [known]
      cases isSource : isSource walk.extensions name with
      | false => exact .pure (.skipped (.other (by simp [stands]) isSource) .done)
      | true =>
        obtain ⟨passage, last, next, here, passes, ran⟩ :=
          ready.passes answers stands journal world
        refine .inl ⟨[passage], last, next, ?_, .passed hidden isSource here passes .done⟩
        rw [List.flatMap_singleton]
        exact exec_lift _ ran

/-- A directory is listed as it is when the run enters it. -/
theorem Ready.takes_below (ready : walk.Ready source output tree)
    (directory : tree.entry? (walk.root ++ dir) = some .directory)
    (listable : tree.refuses .read (walk.root ++ dir) = false)
    (follows : ∀ names, walk.Follows yields source output (fun summary => names.foldlM
      ((journaled runtime config walk.extensions).transformName output walk.out
        ((journaled runtime config walk.extensions).transformBelow output walk.out levels)
        (joinAll source dir) (joinAll "" dir)) summary) levels dir names)
    (journal : List FileEvent) (world : σ) (summary : Summary) :
    walk.Takes yields source output
      ((journaled runtime config walk.extensions).transformBelow output walk.out (levels + 1)
        (joinAll source dir) (joinAll "" dir) summary) summary levels dir
      (tree.namesAt (walk.root ++ dir)) tree journal world := by
  have listed : tree.list (joinAll source dir) = .ok (tree.namesAt (walk.root ++ dir)) := by
    rw [FileTree.list_directory (ready.locate directory), listable]
    rfl
  refine .of_exec (transformBelow_of_listed reflects_journaled listed) ?_
  refine follows _ tree journal world summary ready fun name member => ?_
  rwa [FileTree.mem_namesAt, List.append_assoc] at member

/-- A directory that may not be listed ends the run. -/
theorem Ready.stops_below (ready : walk.Ready source output tree) (enters : walk.Enters dir)
    (directory : tree.entry? (walk.root ++ dir) = some .directory)
    (refused : tree.refuses .read (walk.root ++ dir) = true) (levels : Nat)
    (journal : List FileEvent) (world : σ) (summary : Summary) :
    ¬ Walk.Listable { walk with tree := tree } ∧ ∃ last after,
      exec ((journaled runtime config walk.extensions).transformBelow output walk.out (levels + 1)
        (joinAll source dir) (joinAll "" dir) summary).run tree (journal, world) =
        ((.error (.io .permissionDenied), last), after) := by
  have failed : tree.list (joinAll source dir) = .error .permissionDenied := by
    rw [FileTree.list_directory (ready.locate directory), refused]
    rfl
  refine ⟨fun listable => ?_, tree, (journal, world),
    transformBelow_of_unlistable reflects_journaled failed⟩
  cases (listable dir directory enters).symm.trans refused

/-- A run takes its course over the names of a directory. -/
theorem follows_names (answers : runtime.Answers config source yields) (levels : Nat)
    (enters : walk.Enters dir) (names : List String) :
    walk.Follows yields source output (fun summary => names.foldlM
      ((journaled runtime config walk.extensions).transformName output walk.out
        ((journaled runtime config walk.extensions).transformBelow output walk.out levels)
        (joinAll source dir) (joinAll "" dir)) summary) levels dir names := by
  induction levels generalizing dir names with
  | zero =>
    refine .foldlM (fun name => follows_name answers ?_) names
    intro tree journal world summary _ _ directory _ _
    exact .pure (.skipped (.unentered directory (.inr (.inr rfl))) .done)
  | succ levels ih =>
    refine .foldlM (fun name => follows_name answers ?_) names
    intro tree journal world summary ready visible directory notPackages notOutput
    have entered := enters.concat visible notPackages notOutput
    cases listable : tree.refuses .read (walk.root ++ (dir ++ [name])) with
    | true => exact .inr (ready.stops_below entered directory listable levels journal world summary)
    | false =>
      refine (ready.takes_below directory listable (ih entered) journal world summary).imp_left ?_
      rintro ⟨passages, last, next, ran, course⟩
      refine ⟨passages, last, next, ran, ?_⟩
      simpa using Course.entered visible directory listable notPackages notOutput course .done

end Runs

end Walk

namespace FilePrecompiler

variable {tree made : FileTree} {root out : List String}

theorem journaled_transformDirectory (answers : runtime.Answers config source yields)
    (wellFormed : made.WellFormed) (stays : FileTree.KeepsDirectories tree made)
    (sourceAt : tree.locate source = .ok (root, .directory))
    (success : tree.createDirectories output = (.ok (), made))
    (outputAt : made.locate output = .ok (out, .directory)) (world : σ) :
    (∃ passages last next,
      exec ((journaled runtime config extensions).transformDirectory source output).run tree
        ([], world) = ((.ok (Summary.total source {} passages), last),
          (passages.flatMap (Passage.events source output), next)) ∧
      Walk.Course ⟨made, extensions, root, out⟩ yields made.depth [] (made.namesAt root) made
        passages last ∧
      Walk.Listable ⟨made, extensions, root, out⟩) ∨
    ¬ Walk.Listable ⟨made, extensions, root, out⟩ ∧ ∃ last after,
      exec ((journaled runtime config extensions).transformDirectory source output).run tree
        ([], world) = ((.error (.io .permissionDenied), last), after) := by
  obtain ⟨sourceLeads, sourceStands⟩ := FileTree.leads_of_locate sourceAt
  obtain ⟨outputLeads, outputStands⟩ := FileTree.leads_of_locate outputAt
  have ready : Walk.Ready ⟨made, extensions, root, out⟩ source output made :=
    ⟨wellFormed, stays.leads sourceLeads, outputLeads, outputStands⟩
  have here : root ++ [] = root := List.append_nil root
  have directory : made.entry? (root ++ []) = some .directory := by
    rw [here]
    exact stays _ sourceStands
  have whole : exec ((journaled runtime config extensions).transformDirectory source output).run
      tree ([], world) = exec ((journaled runtime config extensions).transformBelow output out
        (made.depth + 1) source "" {}).run made ([], world) :=
    transformDirectory_of_made reflects_journaled (FileTree.isDirectory_iff.mpr ⟨root, sourceAt⟩)
      success outputAt
  rw [whole]
  cases listable : made.refuses .read (root ++ []) with
  | true => exact .inr (ready.stops_below Walk.enters_nil directory listable made.depth [] world {})
  | false =>
    rcases ready.takes_below directory listable (Walk.follows_names answers made.depth
      Walk.enters_nil) [] world {} with ⟨passages, last, next, ran, course⟩ | stuck
    · rw [here] at course listable
      exact .inl ⟨passages, last, next, ran, course,
        course.all_listable wellFormed listable (Nat.le_refl _)⟩
    · exact .inr stuck

end FilePrecompiler

end GrammarEmbed
