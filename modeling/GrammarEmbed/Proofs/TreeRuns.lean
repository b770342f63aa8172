import GrammarEmbed.Files
import GrammarEmbed.Proofs.Deliveries

/-!
Runs over a file tree: what a computation leaves, and what a run over one file comes to. A store
answers as the tree does, and may leave a note of what is read and written in the world of the
runtime. Every step of a run is stated once for all such stores.
-/

namespace GrammarEmbed

abbrev OnTree (σ : Type) : Type → Type :=
  StateT FileTree (StateM σ)

variable {σ α β : Type} {tree later : FileTree} {world next : σ}

namespace OnTree

/-- What a computation returns, and the tree and the world that it leaves. -/
def exec (action : OnTree σ α) (tree : FileTree) (world : σ) : (α × FileTree) × σ :=
  StateT.run (StateT.run action tree) world

theorem exec_bind {action : OnTree σ α} {a : α} (f : α → OnTree σ β)
    (first : exec action tree world = ((a, later), next)) :
    exec (action >>= f) tree world = exec (f a) later next := by
  have step : exec (action >>= f) tree world =
      exec (f (exec action tree world).1.1) (exec action tree world).1.2
        (exec action tree world).2 := rfl
  rw [step, first]

section Failing

variable {action : ExceptT Error (OnTree σ) α}

theorem exec_ok {a : α} (f : α → ExceptT Error (OnTree σ) β)
    (first : exec action.run tree world = ((.ok a, later), next)) :
    exec (action >>= f).run tree world = exec (f a).run later next :=
  exec_bind (ExceptT.bindCont f) first

theorem exec_error {error : Error} (f : α → ExceptT Error (OnTree σ) β)
    (first : exec action.run tree world = ((.error error, later), next)) :
    exec (action >>= f).run tree world = ((.error error, later), next) :=
  exec_bind (ExceptT.bindCont f) first

theorem exec_lift {action : OnTree σ α} {a : α} (f : α → ExceptT Error (OnTree σ) β)
    (first : exec action tree world = ((a, later), next)) :
    exec ((action : ExceptT Error (OnTree σ) α) >>= f).run tree world =
      exec (f a).run later next := by
  have step : exec (action : ExceptT Error (OnTree σ) α).run tree world =
      ((.ok (exec action tree world).1.1, (exec action tree world).1.2),
        (exec action tree world).2) := rfl
  refine exec_ok f ?_
  rw [step, first]

theorem orFail_ok {step : OnTree σ (Except IoFault α)} {a : α}
    (success : exec step tree world = ((.ok a, later), next)) :
    exec (FilePrecompiler.orFail step).run tree world = ((.ok a, later), next) :=
  exec_lift _ success

theorem orFail_error {step : OnTree σ (Except IoFault α)} {fault : IoFault}
    (failed : exec step tree world = ((.error fault, later), next)) :
    exec (FilePrecompiler.orFail step).run tree world = ((.error (.io fault), later), next) :=
  exec_lift _ failed

end Failing

end OnTree

open OnTree

/-- The runtime leaves every tree as it is, its keys are among those `issued`, and it answers a
module in one way. -/
structure Runtime.Steady (runtime : Runtime (OnTree σ)) (issued : String → Prop)
    (answer : CompiledModule → Except Error (Option ParserExports)) : Prop where
  fresh : ∀ tree world,
    ∃ key next, issued key ∧ exec runtime.fresh tree world = ((key, tree), next)
  load : ∀ compiled tree world,
    ∃ next, exec (runtime.load compiled) tree world = ((answer compiled, tree), next)

/-- The runtime that knows one key and does nothing but answer. -/
def Runtime.fixed {m : Type → Type} [Monad m] (key : String)
    (answer : CompiledModule → Except Error (Option ParserExports)) : Runtime m where
  fresh := pure key
  load compiled := pure (answer compiled)

namespace Runtime.Steady

variable {runtime : Runtime (OnTree σ)} {issued : String → Prop}
  {answer : CompiledModule → Except Error (Option ParserExports)}

theorem run (steady : runtime.Steady issued answer) (config : Config) (filename : String)
    (program : Ast.Program) (printer : Printer) (tree : FileTree) (world : σ) :
    ∃ key next, issued key ∧
      exec (Precompiler.run runtime config filename program printer) tree world =
        ((Precompiler.run (m := Id) (fixed key answer) config filename program printer, tree),
          next) := by
  obtain ⟨key, middle, known, fresh⟩ := steady.fresh tree world
  unfold Precompiler.run
  cases program.isClone with
  | true => exact ⟨key, world, known, rfl⟩
  | false =>
    cases config.gate program with
    | skip reason => exact ⟨key, world, known, rfl⟩
    | proceed aliases names =>
      obtain ⟨next, loaded⟩ := steady.load
        (Precompiler.compile (Clone.of program aliases (exportKey key)) filename printer).1
        tree middle
      exact ⟨key, next, known, (exec_bind _ fresh).trans (exec_bind _ loaded)⟩

/-- A text comes out as with one of the keys and the same answers. -/
theorem runText (steady : runtime.Steady issued answer) (config : Config) (text filename : String)
    (tree : FileTree) (world : σ) :
    ∃ key next, issued key ∧ exec (Precompiler.runText runtime config text filename) tree world =
      ((Precompiler.runText (m := Id) (fixed key answer) config text filename, tree), next) := by
  unfold Precompiler.runText
  cases Source.parse text filename with
  | error =>
    obtain ⟨key, -, known, -⟩ := steady.fresh tree world
    exact ⟨key, world, known, rfl⟩
  | ok source =>
    obtain ⟨key, next, known, ran⟩ :=
      steady.run config filename source.program (.attached source.comments) tree world
    exact ⟨key, next, known, exec_bind _ ran⟩

end Runtime.Steady

/-- A file that was read or written, and how that ended. -/
inductive FileEvent where
  | read (path : String) (answer : Except IoFault String)
  | write (path text : String) (answer : Except IoFault Unit)

/-- The store answers as the tree does, and notes what is read and written. -/
structure FileStore.Reflects (store : FileStore (OnTree σ)) (note : FileEvent → σ → σ) : Prop where
  read : ∀ path tree world, exec (store.read path) tree world =
    ((tree.read path, tree), note (.read path (tree.read path)) world)
  isDirectory : ∀ path tree world,
    exec (store.isDirectory path) tree world = ((tree.isDirectory path, tree), world)
  createDirectories : ∀ path tree world,
    exec (store.createDirectories path) tree world = (tree.createDirectories path, world)
  write : ∀ path text tree world, exec (store.write path text) tree world =
    (tree.put path text, note (.write path text (tree.put path text).1) world)
  list : ∀ path tree world, exec (store.list path) tree world = ((tree.list path, tree), world)
  resolve : ∀ path tree world,
    exec (store.resolve path) tree world = (((tree.locate path).map Prod.fst, tree), world)
  levels : ∀ tree world, exec store.levels tree world = ((tree.depth + 1, tree), world)

/-- The file tree itself notes nothing. -/
theorem FileTree.reflects_store :
    (FileTree.store : FileStore (OnTree σ)).Reflects fun _ world => world where
  read _ _ _ := rfl
  isDirectory _ _ _ := rfl
  createDirectories _ _ _ := rfl
  write path text tree world := by
    unfold put
    simp only [exec, store, StateT.run, modifyGet, MonadStateOf.modifyGet, StateT.modifyGet]
    cases tree.write path text <;> rfl
  list _ _ _ := rfl
  resolve _ _ _ := rfl
  levels _ _ := rfl

namespace FilePrecompiler

def onTree (runtime : Runtime (OnTree σ)) (config : Config) (extensions : List String) :
    FilePrecompiler (OnTree σ) where
  store := FileTree.store
  runtime
  config
  extensions

variable {files : FilePrecompiler (OnTree σ)} {note : FileEvent → σ → σ}
  {source output text code parent : String} {outcome : Outcome} {fault : IoFault}

section File

theorem precompileFile_of_unreadable (reflects : files.store.Reflects note)
    (failed : tree.read source = .error fault) :
    exec (files.precompileFile source).run tree world =
      ((.error (.io fault), tree), note (.read source (.error fault)) world) := by
  refine exec_error _ (orFail_error ?_)
  rw [reflects.read, failed]

theorem precompileFile_of_readable {result : Except Error (String × Outcome)}
    (reflects : files.store.Reflects note) (readable : tree.read source = .ok text)
    (ran : exec (Precompiler.runText files.runtime files.config text source) tree
      (note (.read source (.ok text)) world) = ((result, later), next)) :
    exec (files.precompileFile source).run tree world = ((result, later), next) := by
  have read := reflects.read source tree world
  rw [readable] at read
  exact (exec_ok _ (orFail_ok read)).trans ran

theorem transformInto_of_error {error : Error}
    (failed : exec (files.precompileFile source).run tree world = ((.error error, later), next)) :
    exec (files.transformInto source output) tree world =
      ((.ofError source error, later), next) := by
  have file : exec (files.transformFile source output).run tree world =
      ((.error error, later), next) := exec_error _ failed
  exact exec_bind _ file

/-- Code that comes out is written once its directories are there. -/
theorem transformFile_of_ok (reflects : files.store.Reflects note)
    (success : exec (files.precompileFile source).run tree world =
      ((.ok (code, outcome), tree), next))
    (above : Path.parent? output = some parent) :
    ∃ tried : Option (Except IoFault Unit),
      (tried = some (.ok ()) ↔ (tree.deliver parent output code).1 = .ok ()) ∧
      exec (files.transformFile source output).run tree world =
        (((tree.deliver parent output code).1.map (fun _ => Summary.ofOutcome outcome)
          |>.mapError Error.io, (tree.deliver parent output code).2),
          (tried.map (FileEvent.write output code)).elim next (note · next)) := by
  unfold transformFile
  rw [exec_ok _ success]
  simp only [above, FileTree.deliver]
  have create := reflects.createDirectories parent tree next
  cases made : tree.createDirectories parent with
  | mk result later =>
    rw [made] at create
    cases result with
    | error fault => exact ⟨none, by simp, exec_error _ (orFail_error create)⟩
    | ok =>
      rw [exec_ok _ (orFail_ok create)]
      have write := reflects.write output code later next
      cases wrote : later.put output code with
      | mk ended last =>
        rw [wrote] at write
        refine ⟨some ended, by simp [wrote], ?_⟩
        simp only [wrote]
        cases ended with
        | error fault => exact exec_error _ (orFail_error write)
        | ok => exact exec_ok _ (orFail_ok write)

def delivered (source : String) (outcome : Outcome) : Except IoFault Unit → Summary
  | .ok _ => .ofOutcome outcome
  | .error fault => .ofError source (.io fault)

theorem transformInto_of_ok (reflects : files.store.Reflects note)
    (success : exec (files.precompileFile source).run tree world =
      ((.ok (code, outcome), tree), next))
    (above : Path.parent? output = some parent) :
    ∃ tried : Option (Except IoFault Unit),
      (tried = some (.ok ()) ↔ (tree.deliver parent output code).1 = .ok ()) ∧
      exec (files.transformInto source output) tree world =
        ((delivered source outcome (tree.deliver parent output code).1,
          (tree.deliver parent output code).2),
          (tried.map (FileEvent.write output code)).elim next (note · next)) := by
  obtain ⟨tried, ok_iff, file⟩ := transformFile_of_ok reflects success above
  refine ⟨tried, ok_iff, (exec_bind _ file).trans ?_⟩
  cases (tree.deliver parent output code).1 <;> rfl

end File

section Directory

variable {made : FileTree} {out : List String}

theorem transformBelow_of_listed (reflects : files.store.Reflects note) {levels : Nat}
    {directory below : String} {summary : Summary} {names : List String}
    (listed : tree.list directory = .ok names) :
    exec (files.transformBelow output out (levels + 1) directory below summary).run tree world =
      exec (names.foldlM (files.transformName output out (files.transformBelow output out levels)
        directory below) summary).run tree world := by
  have list := reflects.list directory tree world
  rw [listed] at list
  exact exec_ok _ (orFail_ok list)

theorem transformBelow_of_unlistable (reflects : files.store.Reflects note) {levels : Nat}
    {directory below : String} {summary : Summary} (failed : tree.list directory = .error fault) :
    exec (files.transformBelow output out (levels + 1) directory below summary).run tree world =
      ((.error (.io fault), tree), world) := by
  have list := reflects.list directory tree world
  rw [failed] at list
  exact exec_error _ (orFail_error list)

theorem transformDirectory_of_missing (reflects : files.store.Reflects note)
    (missing : tree.isDirectory source = false) :
    exec (files.transformDirectory source output).run tree world =
      ((.error (.io (.noSourceDirectory source)), tree), world) := by
  have ask := reflects.isDirectory source tree world
  rw [missing] at ask
  exact exec_lift _ ask

/-- The run fails before the first file if there is no output directory. -/
theorem transformDirectory_of_unmade (reflects : files.store.Reflects note)
    (directory : tree.isDirectory source = true)
    (failed : tree.createDirectories output = (.error fault, made)) :
    exec (files.transformDirectory source output).run tree world =
      ((.error (.io fault), made), world) := by
  have ask := reflects.isDirectory source tree world
  have create := reflects.createDirectories output tree world
  rw [directory] at ask
  rw [failed] at create
  exact (exec_lift _ ask).trans (exec_error _ (orFail_error create))

theorem transformDirectory_of_unresolved (reflects : files.store.Reflects note)
    (directory : tree.isDirectory source = true)
    (success : tree.createDirectories output = (.ok (), made))
    (failed : made.locate output = .error fault) :
    exec (files.transformDirectory source output).run tree world =
      ((.error (.io fault), made), world) := by
  have ask := reflects.isDirectory source tree world
  have create := reflects.createDirectories output tree world
  have resolve := reflects.resolve output made world
  rw [directory] at ask
  rw [success] at create
  rw [failed] at resolve
  refine (exec_lift _ ask).trans ?_
  exact (exec_ok _ (orFail_ok create)).trans (exec_error _ (orFail_error resolve))

theorem transformDirectory_of_made (reflects : files.store.Reflects note) {entry : FileEntry}
    (directory : tree.isDirectory source = true)
    (success : tree.createDirectories output = (.ok (), made))
    (located : made.locate output = .ok (out, entry)) :
    exec (files.transformDirectory source output).run tree world =
      exec (files.transformBelow output out (made.depth + 1) source "" {}).run made world := by
  have ask := reflects.isDirectory source tree world
  have create := reflects.createDirectories output tree world
  have resolve := reflects.resolve output made world
  rw [directory] at ask
  rw [success] at create
  rw [located] at resolve
  refine (exec_lift _ ask).trans ?_
  refine (exec_ok _ (orFail_ok create)).trans ?_
  refine (exec_ok _ (orFail_ok resolve)).trans ?_
  exact exec_lift _ (reflects.levels made world)

end Directory

end FilePrecompiler

end GrammarEmbed
