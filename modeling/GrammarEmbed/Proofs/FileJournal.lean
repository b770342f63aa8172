import GrammarEmbed.Proofs.TreeRuns

namespace GrammarEmbed

open OnTree

namespace FileEvent

def textFrom? (path : String) : FileEvent → Option String
  | .read other (.ok text) => if other = path then some text else none
  | _ => none

theorem mem_of_textFrom {path text : String} {journal : List FileEvent}
    (found : some text ∈ journal.map (textFrom? path)) :
    FileEvent.read path (.ok text) ∈ journal := by
  obtain ⟨event, member, same⟩ := List.mem_map.mp found
  unfold textFrom? at same
  split at same
  · split at same
    · rename_i here
      rwa [← here, ← Option.some.inj same]
    · cases same
  · cases same

end FileEvent

/-- The same store, with a note of every file that is read or written. -/
def FileStore.noting {m : Type → Type} [Monad m] (store : FileStore m)
    (note : FileEvent → m Unit) : FileStore m :=
  { store with
    read := fun path => do
      let answer ← store.read path
      note (.read path answer)
      return answer
    write := fun path text => do
      let answer ← store.write path text
      note (.write path text answer)
      return answer }

variable {σ α β : Type}

namespace OnTree

abbrev Journaled (σ : Type) : Type → Type :=
  OnTree (List FileEvent × σ)

def note (event : FileEvent) : Journaled σ Unit :=
  fun tree world => (((), tree), (world.1 ++ [event], world.2))

def beside (action : OnTree σ α) : Journaled σ α :=
  fun tree world => ((exec action tree world.2).1, (world.1, (exec action tree world.2).2))

theorem exec_beside (action : OnTree σ α) (tree : FileTree) (journal : List FileEvent)
    (world : σ) : exec (beside action) tree (journal, world) =
      ((exec action tree world).1, (journal, (exec action tree world).2)) :=
  rfl

theorem beside_bind (action : OnTree σ α) (f : α → OnTree σ β) :
    beside (action >>= f) = beside action >>= fun a => beside (f a) :=
  rfl

/-- A computation with a journal does what the other one does. -/
def Notes (noted : Journaled σ α) (plain : OnTree σ α) : Prop :=
  ∀ tree journal world, ∃ more, exec noted tree (journal, world) =
    ((exec plain tree world).1, (journal ++ more, (exec plain tree world).2))

namespace Notes

theorem pure (a : α) : Notes (Pure.pure a : Journaled σ α) (Pure.pure a) :=
  fun _ _ _ => ⟨[], by rw [List.append_nil]; rfl⟩

theorem beside (action : OnTree σ α) : Notes (beside action) action :=
  fun _ _ _ => ⟨[], by rw [List.append_nil]; rfl⟩

theorem bind {noted : Journaled σ α} {plain : OnTree σ α} {f : α → Journaled σ β}
    {g : α → OnTree σ β} (first : Notes noted plain) (second : ∀ a, Notes (f a) (g a)) :
    Notes (noted >>= f) (plain >>= g) := by
  intro tree journal world
  obtain ⟨more, ran⟩ := first tree journal world
  obtain ⟨others, went⟩ := second (exec plain tree world).1.1 (exec plain tree world).1.2
    (journal ++ more) (exec plain tree world).2
  refine ⟨more ++ others, (exec_bind f ran).trans ?_⟩
  rw [went, List.append_assoc]
  rfl

section Failing

variable {noted : ExceptT Error (Journaled σ) α} {plain : ExceptT Error (OnTree σ) α}

theorem bindExcept {f : α → ExceptT Error (Journaled σ) β} {g : α → ExceptT Error (OnTree σ) β}
    (first : Notes noted.run plain.run) (second : ∀ a, Notes (f a).run (g a).run) :
    Notes (noted >>= f).run (plain >>= g).run := by
  refine bind (f := ExceptT.bindCont f) (g := ExceptT.bindCont g) first fun result => ?_
  cases result with
  | ok a => exact second a
  | error error => exact pure (Except.error error)

theorem ite {condition : Prop} [Decidable condition] {other : ExceptT Error (Journaled σ) α}
    {plainOther : ExceptT Error (OnTree σ) α} (yes : Notes noted.run plain.run)
    (no : Notes other.run plainOther.run) :
    Notes (if condition then noted else other).run
      (if condition then plain else plainOther).run := by
  split
  · exact yes
  · exact no

theorem lift {noted : Journaled σ α} {plain : OnTree σ α} (same : Notes noted plain) :
    Notes (noted : ExceptT Error (Journaled σ) α).run
      (plain : ExceptT Error (OnTree σ) α).run :=
  bind (f := fun a => Pure.pure (Except.ok a)) (g := fun a => Pure.pure (Except.ok a)) same
    fun a => pure (Except.ok a)

theorem orFail {noted : Journaled σ (Except IoFault α)} {plain : OnTree σ (Except IoFault α)}
    (same : Notes noted plain) :
    Notes (FilePrecompiler.orFail noted).run (FilePrecompiler.orFail plain).run := by
  refine .bindExcept same.lift fun answer => ?_
  cases answer with
  | ok a => exact pure (Except.ok a)
  | error fault => exact pure (Except.error (Error.io fault))

theorem foldlM {γ : Type} {step : β → γ → ExceptT Error (Journaled σ) β}
    {other : β → γ → ExceptT Error (OnTree σ) β}
    (same : ∀ b item, Notes (step b item).run (other b item).run) (items : List γ) (b : β) :
    Notes (items.foldlM step b).run (items.foldlM other b).run := by
  induction items generalizing b with
  | nil => exact pure (Except.ok b)
  | cons item rest ih =>
    rw [List.foldlM_cons, List.foldlM_cons]
    exact .bindExcept (same b item) ih

end Failing

end Notes

end OnTree

def Runtime.beside (runtime : Runtime (OnTree σ)) : Runtime (Journaled σ) where
  fresh := OnTree.beside runtime.fresh
  load compiled := OnTree.beside (runtime.load compiled)

/-- The runtime beside a journal gives a text the same result, and notes nothing. -/
theorem Precompiler.runText_beside (runtime : Runtime (OnTree σ)) (config : Config)
    (text filename : String) :
    runText runtime.beside config text filename =
      OnTree.beside (runText runtime config text filename) := by
  have whole (program : Ast.Program) (printer : Printer) :
      run runtime.beside config filename program printer =
        OnTree.beside (run runtime config filename program printer) := by
    unfold run
    cases program.isClone with
    | true => rfl
    | false =>
      cases config.gate program with
      | skip reason => rfl
      | proceed aliases names => rfl
  unfold runText
  cases Source.parse text filename with
  | error error => rfl
  | ok source => simp only [whole, beside_bind]; rfl

namespace FilePrecompiler

def journaled (runtime : Runtime (OnTree σ)) (config : Config) (extensions : List String) :
    FilePrecompiler (Journaled σ) where
  store := FileTree.store.noting note
  runtime := runtime.beside
  config
  extensions

variable {runtime : Runtime (OnTree σ)} {config : Config} {extensions : List String}
  {source output : String}

/-- Beside the runtime's own world, every event goes to the end of the journal. -/
theorem reflects_journaled : (journaled runtime config extensions).store.Reflects
    fun event world => (world.1 ++ [event], world.2) where
  read _ _ _ := rfl
  isDirectory _ _ _ := rfl
  createDirectories _ _ _ := rfl
  write path text tree world := exec_bind _ (FileTree.reflects_store.write path text tree world)
  list _ _ _ := rfl
  resolve _ _ _ := rfl
  levels _ _ := rfl

theorem notes_read : Notes ((FileTree.store.noting note).read source : Journaled σ _)
    (FileTree.store.read source) :=
  fun _ _ _ => ⟨_, rfl⟩

theorem notes_write (text : String) :
    Notes ((FileTree.store.noting note).write output text : Journaled σ _)
      (FileTree.store.write output text) := by
  intro tree journal world
  rw [FileTree.reflects_store.write]
  exact ⟨_, exec_bind _ (FileTree.reflects_store.write ..)⟩

/-- What a store does without a note. -/
theorem notes_silent {noted : Journaled σ α} {plain : OnTree σ α}
    (same : ∀ tree journal world, exec noted tree (journal, world) =
      ((exec plain tree world).1, (journal, (exec plain tree world).2))) : Notes noted plain :=
  fun tree journal world => ⟨[], by rw [List.append_nil, same]⟩

theorem notes_precompileFile :
    Notes ((journaled runtime config extensions).precompileFile source).run
      ((onTree runtime config extensions).precompileFile source).run := by
  refine .bindExcept (.orFail notes_read) fun text => ?_
  have ran : Notes (Precompiler.runText runtime.beside config text source)
      (Precompiler.runText runtime config text source) := by
    rw [Precompiler.runText_beside]
    exact .beside _
  exact ran

theorem notes_transformFile :
    Notes ((journaled runtime config extensions).transformFile source output).run
      ((onTree runtime config extensions).transformFile source output).run := by
  refine .bindExcept notes_precompileFile fun made => ?_
  obtain ⟨code, outcome⟩ := made
  have write : Notes (do
        orFail ((FileTree.store.noting note).write output code)
        return Summary.ofOutcome outcome : ExceptT Error (Journaled σ) Summary).run
      (do
        orFail (FileTree.store.write output code)
        return Summary.ofOutcome outcome : ExceptT Error (OnTree σ) Summary).run :=
    .bindExcept (.orFail (notes_write code)) fun _ => .pure (Except.ok _)
  cases Path.parent? output with
  | none => exact write
  | some parent => exact .bindExcept (.orFail (notes_silent fun _ _ _ => rfl)) fun _ => write

theorem notes_transformInto :
    Notes ((journaled runtime config extensions).transformInto source output)
      ((onTree runtime config extensions).transformInto source output) := by
  refine .bind notes_transformFile fun result => ?_
  cases result with
  | ok summary => exact .pure summary
  | error error => exact .pure (Summary.ofError source error)

theorem notes_transformName {root : List String}
    {deeper : String → String → Summary → ExceptT Error (Journaled σ) Summary}
    {plain : String → String → Summary → ExceptT Error (OnTree σ) Summary}
    (same : ∀ path below summary,
      Notes (deeper path below summary).run (plain path below summary).run)
    (directory below : String) (summary : Summary) (name : String) :
    Notes ((journaled runtime config extensions).transformName output root deeper directory below
        summary name).run
      ((onTree runtime config extensions).transformName output root plain directory below summary
        name).run := by
  refine .ite (.pure (Except.ok summary)) ?_
  refine .bindExcept (.lift (notes_silent fun _ _ _ => rfl)) fun isDirectory => ?_
  refine .ite ?_ (.ite ?_ (.pure (Except.ok summary)))
  · refine .bindExcept (.lift (notes_silent fun _ _ _ => rfl)) fun place => ?_
    exact .ite (.pure (Except.ok summary)) (same _ _ summary)
  · exact .bindExcept (.lift notes_transformInto) fun report => .pure (Except.ok _)

theorem notes_transformBelow {root : List String} (levels : Nat) (directory below : String)
    (summary : Summary) :
    Notes ((journaled runtime config extensions).transformBelow output root levels directory below
        summary).run
      ((onTree runtime config extensions).transformBelow output root levels directory below
        summary).run := by
  induction levels generalizing directory below summary with
  | zero => exact .pure (Except.ok summary)
  | succ levels ih =>
    refine .bindExcept (.orFail (notes_silent fun _ _ _ => rfl)) fun names => ?_
    exact .foldlM (notes_transformName ih directory below) names summary

/-- A run over a directory does the same with a journal. -/
theorem notes_transformDirectory :
    Notes ((journaled runtime config extensions).transformDirectory source output).run
      ((onTree runtime config extensions).transformDirectory source output).run := by
  refine .bindExcept (.lift (notes_silent fun _ _ _ => rfl)) fun isDirectory => ?_
  refine .ite (.pure (Except.error (Error.io (.noSourceDirectory source)))) ?_
  refine .bindExcept (.orFail (notes_silent fun _ _ _ => rfl)) fun _ => ?_
  refine .bindExcept (.orFail (notes_silent fun _ _ _ => rfl)) fun root => ?_
  refine .bindExcept (.lift (notes_silent fun _ _ _ => rfl)) fun levels => ?_
  exact notes_transformBelow levels source "" {}

end FilePrecompiler

end GrammarEmbed
