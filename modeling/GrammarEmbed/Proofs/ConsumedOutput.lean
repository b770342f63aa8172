import GrammarEmbed.Proofs.DirectoryRun

/-!
Whether a run over a directory reads its own output. The run reads the files that were there at
first, and as they were then, exactly if it writes nothing else to a place that it has ahead.
-/

namespace GrammarEmbed

open GrammarEmbed.Path OnTree FilePrecompiler

variable {σ : Type} {runtime : Runtime (OnTree σ)} {config : Config} {extensions : List String}
  {source output : String}

/-- The runtime leaves every tree as it is. -/
structure Runtime.KeepsTree (runtime : Runtime (OnTree σ)) : Prop where
  fresh : ∀ tree world, (exec runtime.fresh tree world).1.2 = tree
  load : ∀ compiled tree world, (exec (runtime.load compiled) tree world).1.2 = tree

/-- The code that is written is what the text that was read comes to. -/
def Passage.Made (runtime : Runtime (OnTree σ)) (config : Config) (source : String)
    (passage : Passage) : Prop :=
  ∀ code, passage.code? = some code → ∃ text outcome tree world next,
    passage.read = .ok text ∧ passage.result = .ok (code, outcome) ∧
    exec (Precompiler.runText runtime config text (joinAll source passage.rel)) tree world =
      ((.ok (code, outcome), tree), next)

namespace Runtime

def yields (runtime : Runtime (OnTree σ)) (config : Config) (source : String) : Yields :=
  fun rel text result => ∃ tree world next,
    exec (Precompiler.runText runtime config text (joinAll source rel)) tree world =
      ((result, tree), next)

theorem KeepsTree.run (keeps : runtime.KeepsTree) (config : Config) (filename : String)
    (program : Ast.Program) (printer : Printer) (tree : FileTree) (world : σ) :
    (exec (Precompiler.run runtime config filename program printer) tree world).1.2 = tree := by
  unfold Precompiler.run
  cases program.isClone with
  | true => rfl
  | false =>
    cases config.gate program with
    | skip reason => rfl
    | proceed aliases names => exact (keeps.load ..).trans (keeps.fresh ..)

theorem KeepsTree.runText (keeps : runtime.KeepsTree) (config : Config)
    (text filename : String) (tree : FileTree) (world : σ) :
    ∃ result next, exec (Precompiler.runText runtime config text filename) tree world =
      ((result, tree), next) := by
  unfold Precompiler.runText
  cases Source.parse text filename with
  | error error => exact ⟨.error error, world, rfl⟩
  | ok parsed =>
    have kept := keeps.run config filename parsed.program (.attached parsed.comments) tree world
    cases ran : exec (Precompiler.run runtime config filename parsed.program
      (.attached parsed.comments)) tree world with
    | mk done next =>
      obtain ⟨precompiled, later⟩ := done
      rw [ran] at kept
      obtain rfl : later = tree := kept
      exact ⟨_, next, exec_bind _ ran⟩

theorem KeepsTree.answers (keeps : runtime.KeepsTree) (config : Config) (source : String) :
    runtime.Answers config source (runtime.yields config source) := by
  intro rel text tree world
  obtain ⟨result, next, ran⟩ := keeps.runText config text (joinAll source rel) tree world
  exact ⟨result, next, ⟨tree, world, next, ran⟩, ran⟩

end Runtime

theorem Passage.Settles.made {passage : Passage} {writable : Prop}
    (settles : passage.Settles (runtime.yields config source) writable) :
    passage.Made runtime config source := by
  intro code wrote
  obtain ⟨outcome, ok⟩ := settles.code_iff.mp wrote
  obtain ⟨text, read, tree, world, next, ran⟩ := settles.comes ok
  exact ⟨text, outcome, tree, world, next, read, ok, ran⟩

namespace FilePrecompiler

variable {tree made : FileTree} {world : σ} {root out : List String}

/-- A run that succeeds has found its two directories. -/
theorem located_of_ok {summary : Summary} {final : FileTree} {next : σ}
    (ran : exec ((onTree runtime config extensions).transformDirectory source output).run tree
      world = ((.ok summary, final), next)) :
    ∃ root made out, tree.locate source = .ok (root, .directory) ∧
      tree.createDirectories output = (.ok (), made) ∧
      made.locate output = .ok (out, .directory) := by
  cases isDirectory : tree.isDirectory source with
  | false =>
    cases (transformDirectory_of_missing FileTree.reflects_store isDirectory).symm.trans ran
  | true =>
    obtain ⟨root, sourceAt⟩ := FileTree.isDirectory_iff.mp isDirectory
    cases making : tree.createDirectories output with
    | mk outcome made =>
      cases outcome with
      | error fault =>
        cases (transformDirectory_of_unmade FileTree.reflects_store isDirectory
          making).symm.trans ran
      | ok =>
        cases located : made.locate output with
        | error fault =>
          cases (transformDirectory_of_unresolved FileTree.reflects_store isDirectory making
            located).symm.trans ran
        | ok found =>
          obtain ⟨out, entry⟩ := found
          have directory : entry = .directory :=
            FileTree.directory_of_createDirectories (by rw [making]) (by rw [making, located])
          exact ⟨root, made, out, sourceAt, rfl, directory ▸ located⟩

/-- A run over a directory reads the files that were there when it began, and as they were then,
exactly if it writes nothing else to a place that it has ahead. So it does wherever the output
directory lies, unless that is above the source directory. -/
theorem transformDirectory_reads_original_iff {summary : Summary} {final : FileTree} {next : σ}
    (keeps : runtime.KeepsTree) (wellFormed : tree.WellFormed)
    (ran : exec ((onTree runtime config extensions).transformDirectory source output).run tree
      world = ((.ok summary, final), next)) :
    ∃ (root out : List String) (passages : List Passage),
      tree.locate source = .ok (root, .directory) ∧
      (tree.createDirectories output).2.locate output = .ok (out, .directory) ∧
      exec ((journaled runtime config extensions).transformDirectory source output).run tree
        ([], world) =
        ((.ok summary, final), (passages.flatMap (Passage.events source output), next)) ∧
      summary.processed = passages.length ∧
      (∀ passage ∈ passages, passage.Made runtime config source) ∧
      ((∀ passage ∈ passages, Walk.Original ⟨tree, extensions, root, out⟩ passage) ↔
        ∀ passage ∈ passages, Walk.Harmless
          ⟨(tree.createDirectories output).2, extensions, root, out⟩ passage) ∧
      ((∀ above, above ≠ [] → root ≠ out ++ above) →
        ∀ passage ∈ passages, Walk.Original ⟨tree, extensions, root, out⟩ passage) := by
  obtain ⟨root, made, out, sourceAt, making, outputAt⟩ := located_of_ok ran
  have stays : (tree.createDirectories output).2.WellFormed := wellFormed.createAll _
  have grown : FileTree.Grown (fun _ => True) tree (tree.createDirectories output).2 :=
    FileTree.grown_createAll tree _
  have permitted : FileTree.Permitted tree (tree.createDirectories output).2 :=
    FileTree.permitted_createAll tree _
  rw [making] at stays grown permitted ⊢
  rcases transformDirectory_of_located (keeps.answers config source) stays grown.keepsDirectories
    sourceAt making outputAt ran with ⟨passages, ok, went, course, -⟩ | ⟨-, failed⟩
  · obtain rfl := Except.ok.inj ok
    have outputStands := (FileTree.leads_of_locate outputAt).2
    have original (passage : Passage) : Walk.Original ⟨tree, extensions, root, out⟩ passage ↔
        Walk.Original ⟨made, extensions, root, out⟩ passage := by
      refine exists_congr fun content => and_congr grown.file_iff.symm ?_
      rw [FileTree.textOf_congr permitted.refused]
    have exact_iff := course.original_iff stays outputStands
    have at_first := course.original_of_apart stays outputStands
    simp only [← original] at exact_iff at_first
    refine ⟨root, out, passages, sourceAt, outputAt, went, by simp [Summary.total_eq], ?_,
      exact_iff, at_first⟩
    intro passage member
    obtain ⟨now, settles⟩ := course.chain.settles member
    exact settles.made
  · cases failed

/-- Two files of one name. From the directory above, the deeper one goes to the place of the
other. -/
def shadowedSources : FileTree where
  entries := [(["a"], .directory), (["a", "b"], .directory), (["a", "b", "b"], .directory),
    (["a", "b", "b", "x.js"], .file (.text "1;\n")), (["a", "b", "x.js"], .file (.text "2;\n"))]

theorem keepsTree_numbering : numbering.KeepsTree where
  fresh _ _ := rfl
  load _ _ _ := rfl

/-- The run over `a/b` into `a`, once the two names in `a/b` are listed. -/
def shadowedRun : (Except Error Summary × FileTree) × (List FileEvent × Nat) :=
  exec (["b", "x.js"].foldlM ((journaled numbering {} ["js"]).transformName "a" ["a"]
    ((journaled numbering {} ["js"]).transformBelow "a" ["a"] 4) "a/b" "") {}).run shadowedSources
    ([], 0)

theorem journaled_shadowedSources :
    exec ((journaled numbering {} ["js"]).transformDirectory "a/b" "a").run shadowedSources
      ([], 0) = shadowedRun := by
  have listed : shadowedSources.list "a/b" = .ok ["b", "x.js"] := by
    have sorts : shadowedSources.list "a/b" =
        .ok (["b", "x.js"].mergeSort fun a b => a < b || a == b) := rfl
    rw [sorts, List.mergeSort_of_pairwise (by decide)]
  have made : shadowedSources.createDirectories "a" = (.ok (), shadowedSources) := rfl
  have located : shadowedSources.locate "a" = .ok (["a"], .directory) := rfl
  exact (transformDirectory_of_made reflects_journaled rfl made located).trans
    (transformBelow_of_listed reflects_journaled listed)

/-- One of the names is read with the code of the other, and comes out so. -/
theorem shadowedRun_reads : shadowedRun.1.1.toOption.isSome = true ∧
    some "1;\n" ∈ shadowedRun.2.1.map (FileEvent.textFrom? "a/b/x.js") ∧
    shadowedRun.1.2.content? ["a", "x.js"] = some (.text "1;\n") := by
  decide +kernel

theorem exists_shadowedRun : ∃ summary final next,
    exec ((onTree numbering {} ["js"]).transformDirectory "a/b" "a").run shadowedSources 0 =
      ((.ok summary, final), next) ∧
    shadowedRun = ((.ok summary, final), (shadowedRun.2.1, next)) := by
  have succeeds := shadowedRun_reads.1
  have notes : Notes ((journaled numbering {} ["js"]).transformDirectory "a/b" "a").run
      ((onTree numbering {} ["js"]).transformDirectory "a/b" "a").run := notes_transformDirectory
  obtain ⟨more, same⟩ := notes shadowedSources [] 0
  rw [journaled_shadowedSources] at same
  cases ran : exec ((onTree numbering {} ["js"]).transformDirectory "a/b" "a").run
      shadowedSources 0 with
  | mk left next =>
    obtain ⟨result, final⟩ := left
    rw [ran] at same
    cases result with
    | error error =>
      rw [same] at succeeds
      cases succeeds
    | ok summary => exact ⟨summary, final, next, rfl, by rw [same]⟩

theorem transformDirectory_reads_original_iff_shadowed : ∃ summary final next,
    exec ((onTree numbering {} ["js"]).transformDirectory "a/b" "a").run shadowedSources 0 =
      ((.ok summary, final), next) ∧
    ∃ (root out : List String) (passages : List Passage),
      shadowedSources.locate "a/b" = .ok (root, .directory) ∧
      (shadowedSources.createDirectories "a").2.locate "a" = .ok (out, .directory) ∧
      exec ((journaled numbering {} ["js"]).transformDirectory "a/b" "a").run shadowedSources
        ([], 0) =
        ((.ok summary, final), (passages.flatMap (Passage.events "a/b" "a"), next)) ∧
      summary.processed = passages.length ∧
      (∀ passage ∈ passages, passage.Made numbering {} "a/b") ∧
      ((∀ passage ∈ passages, Walk.Original ⟨shadowedSources, ["js"], root, out⟩ passage) ↔
        ∀ passage ∈ passages, Walk.Harmless
          ⟨(shadowedSources.createDirectories "a").2, ["js"], root, out⟩ passage) ∧
      ((∀ above, above ≠ [] → root ≠ out ++ above) →
        ∀ passage ∈ passages, Walk.Original ⟨shadowedSources, ["js"], root, out⟩ passage) := by
  obtain ⟨summary, final, next, ran, -⟩ := exists_shadowedRun
  exact ⟨summary, final, next, ran,
    transformDirectory_reads_original_iff keepsTree_numbering (by decide) ran⟩

/-- The code of the one file is read in the place of the other, and it comes out again there. -/
theorem shadowedSources_consumed : ∃ summary final next journal,
    exec ((onTree numbering {} ["js"]).transformDirectory "a/b" "a").run shadowedSources 0 =
      ((.ok summary, final), next) ∧
    exec ((journaled numbering {} ["js"]).transformDirectory "a/b" "a").run shadowedSources
      ([], 0) = ((.ok summary, final), (journal, next)) ∧
    shadowedSources.read "a/b/x.js" = .ok "2;\n" ∧
    FileEvent.read "a/b/x.js" (.ok "1;\n") ∈ journal ∧
    final.content? ["a", "x.js"] = some (.text "1;\n") := by
  obtain ⟨summary, final, next, ran, run⟩ := exists_shadowedRun
  refine ⟨summary, final, next, shadowedRun.2.1, ran, journaled_shadowedSources.trans run, rfl,
    ?_, ?_⟩
  · exact FileEvent.mem_of_textFrom shadowedRun_reads.2.1
  · have last := shadowedRun_reads.2.2
    rwa [run] at last

end FilePrecompiler

end GrammarEmbed
