import AttributeRelease.FileTree
import AttributeRelease.Proofs.CommandLine.Run

/-!
# Runs over files in memory

A run that writes nothing takes files and variables as they are. Over a tree of files it gives what
it gives without effects over the same texts and values, and leaves the tree as it was; so what is
known about runs without effects holds of these.
-/

namespace AttributeRelease

section Settles

variable {σ ε ε' α β : Type} {state : σ} {task : ExceptT ε (StateM σ) α} {outcome : ExceptT ε Id α}

/-- A task leaves a state as it is, and comes there to the outcome of one without effects. -/
def Settles (state : σ) (task : ExceptT ε (StateM σ) α) (outcome : ExceptT ε Id α) : Prop :=
  task.run.run state = (outcome.run.run, state)

/-- A task that gives a value settles. -/
theorem settles_pure (value : α) :
    Settles state (pure value : ExceptT ε (StateM σ) α) (pure value) :=
  rfl

/-- A task that fails settles. -/
theorem settles_throw (e : ε) : Settles state (throw e : ExceptT ε (StateM σ) α) (throw e) := rfl

/-- A task that reads the state and leaves it as it is settles. -/
theorem settles_lift {task : StateM σ α} {value : Id α}
    (reads : task.run state = (value.run, state)) :
    Settles state (liftM task : ExceptT ε (StateM σ) α) (liftM value) := by
  change ((fun (found : α × σ) => (Except.ok found.1, found.2)) (task.run state)) = _
  rw [reads]
  rfl

/-- Tasks one after the other settle if each of them does. -/
theorem Settles.bind {next : α → ExceptT ε (StateM σ) β} {continued : α → ExceptT ε Id β}
    (settles : Settles state task outcome)
    (continues : ∀ value, Settles state (next value) (continued value)) :
    Settles state (task >>= next) (outcome >>= continued) := by
  change (fun (ended : Except ε α × σ) => (ExceptT.bindCont next ended.1).run ended.2)
    (task.run.run state) = _
  rw [settles, Outcome.run_bind]
  cases outcome.run.run with
  | error e => rfl
  | ok value => exact continues value

/-- A task settles if it does so with its errors reported otherwise. -/
theorem Settles.adapt (settles : Settles state task outcome) (report : ε → ε') :
    Settles state (task.adapt report) (outcome.adapt report) := by
  change (fun ended : Except ε α × σ => (ended.1.mapError report, ended.2))
    (task.run.run state) = _
  rw [settles]
  rfl

/-- Going through a list settles if each step does. -/
theorem settles_mapM {step : α → ExceptT ε (StateM σ) β} {stepped : α → ExceptT ε Id β}
    (each : ∀ element, Settles state (step element) (stepped element)) (list : List α) :
    Settles state (list.mapM step) (list.mapM stepped) := by
  induction list with
  | nil => exact settles_pure []
  | cons head rest ih =>
    rw [List.mapM_cons, List.mapM_cons]
    exact (each head).bind fun _ => ih.bind fun _ => settles_pure _

/-- Going through a list with a state of its own settles if each step does. -/
theorem settles_foldlM {step : β → α → ExceptT ε (StateM σ) β} {stepped : β → α → ExceptT ε Id β}
    (each : ∀ current element, Settles state (step current element) (stepped current element))
    (start : β) (list : List α) :
    Settles state (list.foldlM step start) (list.foldlM stepped start) := by
  induction list generalizing start with
  | nil => exact settles_pure start
  | cons head rest ih => exact (each start head).bind ih

end Settles

section Loading

variable {σ : Type} {state : σ} {outside : Surroundings (StateM σ)} {still : Surroundings Id}

/-- Surroundings in a state are others that have no state: looking at them changes nothing. -/
structure Surroundings.ShowIn (outside : Surroundings (StateM σ)) (state : σ)
    (still : Surroundings Id) : Prop where
  read? : ∀ path, (outside.read? path).run state = ((still.read? path).run, state)
  valueOf? : ∀ name, (outside.valueOf? name).run state = ((still.valueOf? name).run, state)

open Config Expansion

/-- Reading a file settles. -/
theorem readFile_settles (isShown : outside.ShowIn state still) (path : String) :
    Settles state (readFile outside path) (readFile still path) := by
  refine (settles_lift (isShown.read? path)).bind fun found => ?_
  cases found with
  | none => exact settles_throw _
  | some text => exact settles_pure text

/-- Replacing mentions settles. -/
theorem replaceFrom_settles (isShown : outside.ShowIn state still) (line : List Char)
    (comment? : Option Nat) (cursor : Nat) (mentions : List Mention) :
    Settles state (replaceFrom outside.valueOf? line comment? cursor mentions)
      (replaceFrom still.valueOf? line comment? cursor mentions) := by
  induction mentions generalizing cursor with
  | nil => exact settles_pure _
  | cons mention rest ih =>
    rw [replaceFrom, replaceFrom]
    split
    · exact ih cursor
    · refine (settles_lift (isShown.valueOf? _)).bind fun found => ?_
      cases found with
      | none => exact settles_throw _
      | some value => exact (ih mention.stop).bind fun _ => settles_pure _

/-- Expanding a text settles. -/
theorem expand_settles (isShown : outside.ShowIn state still) (text : String) :
    Settles state (expand outside.valueOf? text) (expand still.valueOf? text) :=
  (settles_mapM (fun line => replaceFrom_settles isShown line _ _ _) _).bind fun _ =>
    settles_pure _

variable {α : Type}

/-- Reading what a text denotes settles. -/
theorem readToml_settles (isShown : outside.ShowIn state still) (ofTree? : Tree → Option α)
    (text : String) :
    Settles state (readToml outside ofTree? text) (readToml still ofTree? text) := by
  refine ((expand_settles isShown text).adapt _).bind fun expanded => ?_
  cases (Toml.read? expanded).bind ofTree? with
  | none => exact settles_throw _
  | some value => exact settles_pure value

/-- Adding a policy file settles. -/
theorem addFile_settles (isShown : outside.ShowIn state still) (config : Config) (file : String) :
    Settles state (addFile outside config file) (addFile still config file) := by
  refine (readFile_settles isShown file).bind fun text => ?_
  refine (readToml_settles isShown _ text).bind fun set => ?_
  rcases config.definitions.merge set with ⟨definitions, _ | cause⟩
  · exact settles_pure _
  · exact settles_throw _

/-- Loading a configuration settles. -/
theorem ofFile_settles (isShown : outside.ShowIn state still) (path : String) :
    Settles state (ofFile outside path) (ofFile still path) := by
  refine (readFile_settles isShown path).bind fun text => ?_
  refine (readToml_settles isShown _ text).bind fun main => ?_
  refine (settles_foldlM (addFile_settles isShown) _ _).bind fun config => ?_
  split
  · exact settles_throw _
  · exact settles_pure config

end Loading

namespace CommandLine

variable {σ : Type} {state : σ} {console : Console (StateM σ)} {still : Console Id}

/-- Loading an engine settles. -/
theorem loadEngine_settles (isShown : console.toSurroundings.ShowIn state still.toSurroundings)
    (config : Option String) :
    Settles state (loadEngine console config) (loadEngine still config) := by
  cases config with
  | none => exact settles_throw _
  | some path =>
    refine ((ofFile_settles isShown path).adapt _).bind fun config => ?_
    cases config.compile Expression.host with
    | ok engine => exact settles_pure _
    | error e => exact settles_throw _

/-- Loading metadata settles. -/
theorem loadMetadata_settles (isShown : console.toSurroundings.ShowIn state still.toSurroundings)
    (path : Option String) :
    Settles state (loadMetadata console path) (loadMetadata still path) := by
  cases path with
  | none => exact settles_pure _
  | some path =>
    refine ((readFile_settles isShown path).adapt _).bind fun text => ?_
    cases Directory.ofToml? text with
    | none => exact settles_throw _
    | some directory => exact settles_pure directory

/-- Loading a request settles. -/
theorem loadRequest_settles (isShown : console.toSurroundings.ShowIn state still.toSurroundings)
    (directory : Directory) (path : String) :
    Settles state (loadRequest console directory path) (loadRequest still directory path) := by
  refine (settles_lift (isShown.read? path)).bind fun found => ?_
  rcases found.bind Request.ofJson? with _ | ⟨facts, attributes⟩
  · exact settles_throw _
  · exact settles_pure _

/-- An invocation writes no file. -/
def Invocation.WritesNothing : Invocation → Prop
  | .schema (some _) => False
  | _ => True

/-- Performing an invocation settles if it writes no file. -/
theorem perform_settles (isShown : console.toSurroundings.ShowIn state still.toSurroundings)
    {invocation : Invocation} (writesNothing : invocation.WritesNothing) :
    Settles state (perform console invocation) (perform still invocation) := by
  cases invocation with
  | version | help | features => exact settles_pure _
  | check config => exact (loadEngine_settles isShown config).bind fun _ => settles_pure _
  | filter config path =>
    refine (loadEngine_settles isShown config).bind fun loaded => ?_
    refine (loadMetadata_settles isShown _).bind fun directory => ?_
    refine (loadRequest_settles isShown directory path).bind fun request => ?_
    rcases (Session.start request).filter loaded.2 with ⟨session, _ | e⟩
    · exact settles_pure _
    · exact settles_throw _
  | schema output =>
    cases output with
    | none => exact settles_pure _
    | some path => exact writesNothing.elim

end CommandLine

namespace FileTree

/-- The texts of a tree of files and the values of variables, which nothing can change. -/
def frozen (tree : FileTree) (environment : NameMap String) : CommandLine.Console Id where
  read? path := tree.read? path
  valueOf? name := environment.find? name
  write _ _ := false

/-- The console of a tree of files shows the texts that it has. -/
theorem console_showIn (tree : FileTree) (environment : NameMap String) :
    (console environment).toSurroundings.ShowIn tree (tree.frozen environment).toSurroundings where
  read? _ := rfl
  valueOf? _ := rfl

open CommandLine

/-- A run whose arguments ask for nothing to be written leaves the files as they are and reports
what it would over the texts and values alone. -/
theorem run_console (tree : FileTree) (environment : NameMap String) (arguments : List String)
    (writesNothing : ∀ invocation, Invocation.ofArguments arguments = .ok invocation →
      invocation.WritesNothing) :
    (run (console environment) arguments).run tree =
      ((run (tree.frozen environment) arguments).run, tree) := by
  cases asked : Invocation.ofArguments arguments with
  | error misuse =>
    unfold run
    rw [asked]
    rfl
  | ok invocation =>
    have settles :=
      perform_settles (tree.console_showIn environment) (writesNothing invocation asked)
    rw [run_eq asked, run, asked]
    refine (StateT.run_bind _ _ tree).trans ?_
    rw [settles]
    cases (perform (tree.frozen environment) invocation).run.run <;> rfl

end FileTree

end AttributeRelease
