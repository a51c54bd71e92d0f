import Stencil.Command.Run
import Stencil.Proofs.Command.Files
import Stencil.Proofs.Fields
import Stencil.Proofs.Template.Compile
import Stencil.Proofs.Value.Data

/-!
# What a rendering does

A rendering either fails, prints nothing and leaves all files alone, or has one text, which goes to
one place.
-/

namespace Stencil

namespace RenderCommand

/-! ## Inputs -/

/-- What a rendering reads. -/
structure Inputs where
  settings : Settings
  context : Context
  /-- The values of declared globals in the file of the command. -/
  given : Context
  template : Template

/-- The value of a name in a mapping of settings. -/
def settingsValue? (name : String) (mapping : List (String × Json)) : Option Value :=
  (Fields.find? name mapping.reverse).map Value.ofJson

namespace Inputs

/-- The value of a declared global: that in the file of the command, or else that of the
settings. -/
def global? (inputs : Inputs) (name : String) : Option Value :=
  (inputs.given.get? name).or (settingsValue? name inputs.settings.globals)

/-- The host in which the settings give values to some of the global names. -/
def host (inputs : Inputs) : Host where
  global? name :=
    if Host.isGlobal name then
      (settingsValue? name inputs.settings.host).or (Host.builtin? name)
    else none

end Inputs

/-- The value that a file holds, or another one if there is no file. -/
def HoldsOr (holds : FilePath → α → Prop) (otherwise : α) (path? : Option FilePath) (value : α) :
    Prop :=
  match path? with
  | some path => holds path value
  | none => value = otherwise

/-- The inputs that a command finds in a tree.  The context is in the file that the command names,
or else in that of the settings. -/
structure Finds (command : RenderCommand) (tree : FileTree) (inputs : Inputs) : Prop where
  settings : HoldsOr tree.HoldsSettings .empty command.settings inputs.settings
  context : HoldsOr tree.HoldsContext .empty (command.context.or inputs.settings.context)
    inputs.context
  given : HoldsOr tree.HoldsContext .empty command.globals inputs.given
  template : tree.HoldsTemplate command.template inputs.template

/-- The text that a command renders in a tree, and the file for it, if it goes to one. -/
def Renders (command : RenderCommand) (tree : FileTree) (now : Calendar.Instant) (text : String)
    (sink : Option FilePath) : Prop :=
  ∃ inputs globals, command.Finds tree inputs ∧
    (∀ name, globals.get? name = inputs.global? name) ∧
    inputs.template.render inputs.host now inputs.context globals = .ok text ∧
    sink = command.output.or inputs.settings.output

/-! ## Values of globals -/

theorem find?_ofPairs_ofJsonFields (name : String) (mapping : List (String × Json)) :
    Fields.find? name (Fields.ofPairs (Value.ofJsonFields mapping)) =
      settingsValue? name mapping := by
  rw [Fields.find?_ofPairs, Value.ofJsonFields_eq_map, ← List.map_reverse, Fields.find?_map_snd,
    settingsValue?]

theorem suppliedHost_eq (inputs : Inputs) : inputs.settings.suppliedHost = inputs.host := by
  simp only [Settings.suppliedHost, Host.standard, find?_ofPairs_ofJsonFields, Inputs.host]

/-- Globals that are merged into those of the settings go before them. -/
theorem get?_globals (inputs : Inputs) (name : String) :
    (inputs.settings.globalsContext.merge inputs.given).get? name = inputs.global? name := by
  rw [Context.merge, Context.get?, Fields.find?_insertAll,
    Fields.find?_reverse inputs.given.distinct, Settings.globalsContext, Context.ofPairs,
    find?_ofPairs_ofJsonFields]
  rfl

/-- A template only asks for the values of declared globals. -/
theorem render_congr (template : Template) (host : Host) (now : Calendar.Instant)
    (context : Context) {globals also : Context}
    (same : ∀ name, globals.get? name = also.get? name) :
    template.render host now context globals = template.render host now context also := by
  have environments : template.environment host now context globals =
      template.environment host now context also := by
    simp only [Template.environment, Environment.withDeclared, same]
  rw [Template.render, Template.render, environments]

/-! ## Reading and rendering -/

variable {tree : FileTree}

theorem gives_holdsOr {read : FilePath → ExceptT ε (StateM FileTree) α}
    {holds : FilePath → α → Prop} (given : ∀ path, tree.Gives (read path) (holds path))
    (otherwise : α) (path? : Option FilePath) :
    tree.Gives (match path? with | some path => read path | none => pure otherwise)
      (HoldsOr holds otherwise path?) := by
  cases path? with
  | none => exact .pure otherwise
  | some path => exact given path

variable (tree) in
theorem gives_readSettings (command : RenderCommand) :
    tree.Gives (command.readSettings FileTree.access)
      (HoldsOr tree.HoldsSettings .empty command.settings) :=
  gives_holdsOr FileTree.gives_readSettings .empty command.settings

theorem gives_readContext (command : RenderCommand) (settings : Settings) :
    tree.Gives (command.readContext FileTree.access settings)
      (HoldsOr tree.HoldsContext .empty (command.context.or settings.context)) := by
  rw [readContext]
  cases command.context with
  | some path => exact FileTree.gives_readContext path
  | none => exact gives_holdsOr FileTree.gives_readContext .empty settings.context

theorem gives_readGlobals (command : RenderCommand) (settings : Settings) :
    tree.Gives (command.readGlobals FileTree.access settings) fun globals =>
      ∃ given, HoldsOr tree.HoldsContext .empty command.globals given ∧
        globals = settings.globalsContext.merge given := by
  rw [readGlobals]
  cases command.globals with
  | some path => exact .bind (FileTree.gives_readContext path) fun given _ => .pure _
  | none =>
      exact (FileTree.Gives.pure settings.globalsContext).congr fun globals => by
        simp [HoldsOr, Context.merge, Context.empty, Fields.insertAll]

theorem gives_render (rendering : Outcome String) (fault : EvalFault → Failure)
    (sink : Option FilePath) :
    tree.Gives
      (match rendering with
        | .error evaluation => throw (fault evaluation)
        | .ok text => return (text, sink) : ExceptT Failure (StateM FileTree) _)
      fun result => rendering = .ok result.1 ∧ sink = result.2 := by
  cases rendering with
  | error evaluation => exact .throw (by simp)
  | ok text =>
      exact (FileTree.Gives.pure (text, sink)).congr fun result => by
        rw [Except.ok.injEq, eq_comm, Prod.ext_iff]

variable (tree) in
/-- What a rendering gives before anything is written. -/
theorem gives_rendered (command : RenderCommand) (now : Calendar.Instant) :
    tree.Gives (command.rendered FileTree.access now) fun result =>
      command.Renders tree now result.1 result.2 := by
  have loaded := FileTree.Gives.bind (gives_readSettings tree command) fun settings _ =>
    .bind (gives_readContext command settings) fun context _ =>
      .bind (gives_readGlobals command settings) fun globals _ => .pure (settings, context, globals)
  refine (FileTree.Gives.bind (.adapt loaded) fun loaded _ =>
    .bind (FileTree.gives_compile command.template) fun template _ => gives_render _ _ _).congr ?_
  rintro ⟨text, sink⟩
  constructor
  · rintro ⟨_, ⟨settings, foundSettings, context, foundContext, _, ⟨given, foundGiven, rfl⟩, rfl⟩,
      template, foundTemplate, rendered, rfl⟩
    have found : command.Finds tree ⟨settings, context, given, template⟩ :=
      ⟨foundSettings, foundContext, foundGiven, foundTemplate⟩
    refine ⟨_, _, found, get?_globals _, ?_, rfl⟩
    rw [← suppliedHost_eq]
    exact rendered
  · rintro ⟨inputs, globals, found, values, rendered, rfl⟩
    refine ⟨_, ⟨inputs.settings, found.settings, inputs.context, found.context, _,
      ⟨inputs.given, found.given, rfl⟩, rfl⟩, inputs.template, found.template, ?_, rfl⟩
    rw [← suppliedHost_eq, render_congr _ _ _ _ fun name => (values name).trans
      (get?_globals inputs name).symm] at rendered
    exact rendered

/-- A command renders at most one text, for one place. -/
theorem Renders.unique {command : RenderCommand} {now : Calendar.Instant} {text textAlso : String}
    {sink sinkAlso : Option FilePath} (rendered : command.Renders tree now text sink)
    (also : command.Renders tree now textAlso sinkAlso) : text = textAlso ∧ sink = sinkAlso := by
  rcases gives_rendered tree command now with ⟨result, -, ok_iff⟩
  have first := (ok_iff (text, sink)).mpr rendered
  have second := (ok_iff (textAlso, sinkAlso)).mpr also
  rw [first] at second
  cases second
  exact ⟨rfl, rfl⟩

/-! ## Files that are not read -/

section Agreement

variable {m : Type → Type} [Monad m]

/-- The files that a command names to be read. -/
def paths (command : RenderCommand) : List FilePath :=
  command.template ::
    (command.settings.toList ++ command.context.toList ++ command.globals.toList)

/-- Two ways to access files that may differ in reading files that a command does not name. -/
structure AgreesOn (command : RenderCommand) (files other : FileAccess m) : Prop where
  read : ∀ path ∈ command.paths, files.read path = other.read path
  createFolders : files.createFolders = other.createFolders
  write : files.write = other.write

variable {files other : FileAccess m}

theorem readData_congr {path : FilePath} (same : files.read path = other.read path)
    (reader : DataFormat → String → Except Malformed α) :
    files.readData path reader = other.readData path reader := by
  rw [FileAccess.readData, FileAccess.readData, same]

theorem readContext_congr {path : FilePath} (same : files.read path = other.read path) :
    files.readContext path = other.readContext path := by
  rw [FileAccess.readContext, FileAccess.readContext, readData_congr same]

/-- A rendering whose context is in a file of the command reads only files that the command
names. -/
theorem AgreesOn.run_eq {command : RenderCommand} (agrees : command.AgreesOn files other)
    (hasContext : command.context.isSome) (now : Calendar.Instant) :
    command.run files now = command.run other now := by
  have settings : command.readSettings files = command.readSettings other := by
    rw [readSettings, readSettings]
    cases named : command.settings with
    | none => rfl
    | some path =>
        simp only [FileAccess.readSettings]
        rw [readData_congr (agrees.read path (by simp [paths, named]))]
  have context (settings : Settings) :
      command.readContext files settings = command.readContext other settings := by
    rw [readContext, readContext]
    cases named : command.context with
    | none => simp [named] at hasContext
    | some path => exact readContext_congr (agrees.read path (by simp [paths, named]))
  have globals (settings : Settings) :
      command.readGlobals files settings = command.readGlobals other settings := by
    rw [readGlobals, readGlobals]
    cases named : command.globals with
    | none => rfl
    | some path =>
        simp only
        rw [readContext_congr (agrees.read path (by simp [paths, named]))]
  have template : files.compile command.template = other.compile command.template := by
    rw [FileAccess.compile, FileAccess.compile, agrees.read command.template (by simp [paths])]
  have save (path : FilePath) (text : String) : files.save path text = other.save path text := by
    rw [FileAccess.save, FileAccess.save, agrees.createFolders, agrees.write]
  simp only [RenderCommand.run, rendered, settings, context, globals, template, save]

end Agreement

/-! ## Runs -/

/-- A rendering without a text fails before anything is written. -/
theorem run_of_not_renders {command : RenderCommand} {now : Calendar.Instant}
    (never : ∀ text sink, ¬ command.Renders tree now text sink) :
    ∃ failure, (command.run FileTree.access now).run.run tree = (.error failure, tree) := by
  rcases gives_rendered tree command now with ⟨result, ran, ok_iff⟩
  cases result with
  | error failure => exact ⟨failure, FileTree.run_bind_of_run_error ran _⟩
  | ok result => exact absurd ((ok_iff result).mp rfl) (never result.1 result.2)

/-- A text that goes to no file is the result. -/
theorem run_of_renders_none {command : RenderCommand} {now : Calendar.Instant} {text : String}
    (renders : command.Renders tree now text none) :
    (command.run FileTree.access now).run.run tree = (.ok text, tree) := by
  rcases gives_rendered tree command now with ⟨result, ran, ok_iff⟩
  rw [(ok_iff (text, none)).mpr renders] at ran
  exact FileTree.run_bind_of_run_ok ran _

/-- A text that goes to a file is saved there, and nothing is left to print. -/
theorem run_of_renders_some {command : RenderCommand} {now : Calendar.Instant} {text : String}
    {path : FilePath} (renders : command.Renders tree now text (some path)) :
    ∃ result after, tree.Saved path text (result, after) ∧
      (command.run FileTree.access now).run.run tree = (result.map fun _ => "", after) := by
  rcases gives_rendered tree command now with ⟨result, ran, ok_iff⟩
  rw [(ok_iff (text, some path)).mpr renders] at ran
  have saved := tree.saved_save path text
  cases ranSave : (FileTree.access.save path text).run.run tree with
  | mk result after =>
      refine ⟨result, after, ranSave ▸ saved, (FileTree.run_bind_of_run_ok ran _).trans ?_⟩
      cases result with
      | error failure => exact FileTree.run_bind_of_run_error ranSave _
      | ok _ => exact FileTree.run_bind_of_run_ok ranSave _

end RenderCommand

namespace Command

open RenderCommand Template

variable {arguments : List RawText} {command : RenderCommand} {now : Calendar.Instant}
  {tree after : FileTree}

/-- How a rendering ends. -/
def endingOf : Except Failure String → Ending
  | .ok output => .done output
  | .error failure => .failed "" failure

theorem run_runLine {result : Except Failure String}
    (accepted : ofArguments arguments = .ok (.render command))
    (ran : (command.run FileTree.access now).run.run tree = (result, after)) :
    (runLine FileTree.access now arguments).run tree = (endingOf result, after) := by
  rw [runLine, accepted]
  change StateT.run
    (match ((command.run FileTree.access now).run.run tree).1 with
      | .ok output => Pure.pure (Ending.done output)
      | .error failure => Pure.pure (Ending.failed "" failure))
    ((command.run FileTree.access now).run.run tree).2 = _
  rw [ran]
  cases result <;> rfl

/-- A command line that asks for a rendering fails, prints nothing and leaves all files alone if
there is no text to render.  If there is one, it goes to exactly one place. -/
theorem runLine_render (accepted : ofArguments arguments = .ok (.render command))
    (now : Calendar.Instant) (tree : FileTree) :
    ∃ ending after, (runLine FileTree.access now arguments).run tree = (ending, after) ∧
      ((∀ text sink, ¬ command.Renders tree now text sink) →
        ending.exitCode = 1 ∧ ending.output = "" ∧ after = tree) ∧
      (∀ text, command.Renders tree now text none →
        ending.exitCode = 0 ∧ ending.output = text ∧ after = tree) ∧
      (∀ text path, command.Renders tree now text (some path) →
        ending.output = "" ∧
          (ending.exitCode = 0 ∧ (∃ place, tree.Receives after path text place) ∨
            ending.exitCode = 1 ∧ tree.SameFiles after ∧ tree.Refuses after path text)) ∧
      (∀ text sink textAlso sinkAlso, command.Renders tree now text sink →
        command.Renders tree now textAlso sinkAlso → text = textAlso ∧ sink = sinkAlso) ∧
      (command.context.isSome →
        ∀ {m : Type → Type} [Monad m] (files other : FileAccess m), command.AgreesOn files other →
          runLine files now arguments = runLine other now arguments) := by
  have reading : command.context.isSome →
      ∀ {m : Type → Type} [Monad m] (files other : FileAccess m), command.AgreesOn files other →
        runLine files now arguments = runLine other now arguments := by
    intro hasContext m _ files other agrees
    rw [runLine, runLine, accepted]
    simp only [run, agrees.run_eq hasContext]
  have unique (text sink textAlso sinkAlso) (rendered : command.Renders tree now text sink)
      (also : command.Renders tree now textAlso sinkAlso) := rendered.unique also
  by_cases rendered : ∃ text sink, command.Renders tree now text sink
  · rcases rendered with ⟨text, _ | path, rendered⟩
    · refine ⟨_, _, run_runLine accepted (run_of_renders_none rendered),
        fun never => absurd rendered (never text none), ?_, ?_, unique, reading⟩
      · intro other also
        exact ⟨rfl, (rendered.unique also).1, rfl⟩
      · intro other path also
        cases (rendered.unique also).2
    · rcases run_of_renders_some rendered with ⟨result, after, saved, ran⟩
      refine ⟨_, _, run_runLine accepted ran,
        fun never => absurd rendered (never text (some path)), ?_, ?_, unique, reading⟩
      · intro other also
        cases (rendered.unique also).2
      · intro other pathAlso also
        rcases rendered.unique also with ⟨rfl, same⟩
        cases same
        cases saved with
        | received received => exact ⟨rfl, .inl ⟨rfl, _, received⟩⟩
        | refused same refuses => exact ⟨rfl, .inr ⟨rfl, same, refuses⟩⟩
  · simp only [not_exists] at rendered
    rcases run_of_not_renders rendered with ⟨failure, ran⟩
    refine ⟨_, _, run_runLine accepted ran, fun _ => ⟨rfl, rfl, rfl⟩, ?_, ?_, unique, reading⟩
    · intro text renders
      exact absurd renders (rendered text none)
    · intro text path renders
      exact absurd renders (rendered text (some path))

/-- The context file of the command is read, and not the one that the settings name, which is
missing.  The output goes to the file of the settings. -/
theorem runLine_render_settings :
    let command : RenderCommand :=
      ⟨⟨"page"⟩, some ⟨"a.json"⟩, none, some ⟨"site/m.json"⟩, none⟩
    let tree : FileTree :=
      ⟨[(["page"], .file (String.ofList (braced ['a']))),
        (["a.json"], .file "\x7b\"a\": \"b\"\x7d"), (["site"], .folder),
        (["site", "m.json"], .file "\x7b\"context\": \"c.json\", \"output\": \"out\"\x7d")], []⟩
    ofArguments ["render", "page", "-c", "a.json", "--config", "site/m.json"] =
        .ok (.render command) ∧
      ∃ ending after place, (runLine FileTree.access ⟨0, 0⟩
          ["render", "page", "-c", "a.json", "--config", "site/m.json"]).run tree =
            (ending, after) ∧
        ending.exitCode = 0 ∧ tree.Receives after ⟨"site/out"⟩ "b" place := by
  intro command tree
  have accepted : ofArguments ["render", "page", "-c", "a.json", "--config", "site/m.json"] =
      .ok (.render command) := by
    rfl
  have cuts : Cuts none 0 (braced ['a']) _ :=
    .tag ⟨_, rfl, rfl⟩ (by simp) rfl (.plain untagged_nil)
  have scan_eq : scan (normalize (String.ofList (braced ['a'])).toList) =
      .ok ⟨[.tag 0 (.interpolation ⟨2, ['a']⟩)], []⟩ :=
    scan_eq_ok_iff.mpr (.inl ⟨rfl, rfl, cuts⟩)
  have built : nodesOf [.tag 0 (.interpolation ⟨2, ['a']⟩)] =
      .ok [.interpolation ⟨"a", .var "a"⟩ true] := by
    cbv
  have compiled := compile_eq_ok_iff.mpr ⟨_, _, scan_eq, built, rfl⟩
  have opened (page : String) (others : List (List RawText × FileEntry)) :
      FileTree.readText ⟨(["page"], .file page) :: others, []⟩ ⟨"page"⟩ = .ok page := by
    rfl
  have found : command.Finds tree
      ⟨⟨some ⟨"site/c.json"⟩, [], [], some ⟨"site/out"⟩⟩, .ofPairs [("a", .string "b")],
        .empty, _⟩ :=
    { settings := ⟨⟨some ⟨"c.json"⟩, [], [], some ⟨"out"⟩⟩,
        ⟨.json, _, FileTree.ofPath?_of_extension_json rfl, rfl, rfl⟩, rfl⟩
      context := ⟨.object [("a", .string "b")],
        ⟨.json, _, FileTree.ofPath?_of_extension_json rfl, rfl, rfl⟩, rfl⟩
      given := rfl
      template := ⟨_, opened _ _, compiled⟩ }
  have renders : command.Renders tree ⟨0, 0⟩ "b" (some ⟨"site/out"⟩) := by
    refine ⟨_, .empty, found, fun name => rfl, ?_, rfl⟩
    have value (env : Environment) (bound : env.lookup "a" = .string "b") :
        (Expr.var "a").eval env = .ok (.string "b") := by
      rw [Expr.eval, bound]
    rw [Template.render]
    change renderNodes _ [.interpolation ⟨"a", .var "a"⟩ true] = _
    simp only [renderNodes, renderNode]
    rw [value _ rfl]
    simp only [ok_bind, Value.text]
    rfl
  rcases runLine_render accepted ⟨0, 0⟩ tree with ⟨ending, after, ran, -, -, saved, -⟩
  rcases (saved "b" ⟨"site/out"⟩ renders).2 with ⟨exitCode, place, received⟩ |
    ⟨-, -, refused⟩
  · exact ⟨accepted, ending, after, place, ran, exitCode, received⟩
  · exact absurd refused (FileTree.not_refuses rfl rfl rfl)

end Command

end Stencil
