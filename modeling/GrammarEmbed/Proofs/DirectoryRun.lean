import GrammarEmbed.Proofs.MirroredTree

namespace GrammarEmbed.FilePrecompiler

open OnTree

variable {σ : Type} {runtime : Runtime (OnTree σ)} {config : Config} {extensions : List String}
  {tree made : FileTree} {source output : String} {world : σ} {root out : List String}

/-- Once the output directory is made, a run takes a whole course, or a directory on it may not be
listed. -/
theorem transformDirectory_of_located {yields : Yields} {result : Except Error Summary}
    {final : FileTree} {next : σ} (answers : runtime.Answers config source yields)
    (wellFormed : made.WellFormed) (stays : FileTree.KeepsDirectories tree made)
    (sourceAt : tree.locate source = .ok (root, .directory))
    (success : tree.createDirectories output = (.ok (), made))
    (outputAt : made.locate output = .ok (out, .directory))
    (ran : exec ((onTree runtime config extensions).transformDirectory source output).run tree
      world = ((result, final), next)) :
    (∃ passages, result = .ok (Summary.total source {} passages) ∧
      exec ((journaled runtime config extensions).transformDirectory source output).run tree
        ([], world) =
        ((result, final), (passages.flatMap (Passage.events source output), next)) ∧
      Walk.Course ⟨made, extensions, root, out⟩ yields made.depth [] (made.namesAt root) made
        passages final ∧
      Walk.Listable ⟨made, extensions, root, out⟩) ∨
    ¬ Walk.Listable ⟨made, extensions, root, out⟩ ∧
      result = .error (.io .permissionDenied) := by
  have noted : Notes ((journaled runtime config extensions).transformDirectory source output).run
      ((onTree runtime config extensions).transformDirectory source output).run :=
    notes_transformDirectory
  obtain ⟨journal, same⟩ := noted tree [] world
  rw [ran] at same
  rcases journaled_transformDirectory answers wellFormed stays sourceAt success outputAt world with
    ⟨passages, last, after, went, course, listable⟩ | ⟨stuck, last, after, went⟩
  · cases went.symm.trans same
    exact .inl ⟨passages, rfl, went, course, listable⟩
  · cases went.symm.trans same
    exact .inr ⟨stuck, rfl⟩

/-- A runtime that numbers its keys and finds nothing in any module. -/
def numbering : Runtime (OnTree Nat) where
  fresh := fun tree count => ((toString count, tree), count + 1)
  load := fun _ => pure (.ok none)

end GrammarEmbed.FilePrecompiler
