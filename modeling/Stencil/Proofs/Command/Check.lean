import Stencil.Command.Run
import Stencil.Proofs.Command.Files
import Stencil.Proofs.Json.RoundTrip
import Stencil.Proofs.Template.Compile

/-!
# What a check reports

A check finds out something about the template of every path, in the order of the paths, and no
finding keeps it from the next one.  The lines of text, the entries of JSON and the ending are all
told from the findings alone.  Lines can be told of every path, entries only of paths that are
texts.
-/

namespace Stencil

/-- What there is to say about the template of a path. -/
inductive Finding where
  | fine (path : FilePath) (required declared : List String)
  | broken (path : FilePath) (message : String)

namespace Finding

def isBroken : Finding → Bool
  | fine _ _ _ => false
  | broken _ _ => true

/-- The lines of a finding.  Names of one kind share a line, if there are any. -/
def lines : Finding → String
  | fine path required declared =>
      "ok    " ++ path.raw.display ++ "\n" ++ Verdict.nameLine "required: " required ++
        Verdict.nameLine "globals:  " declared
  | broken path message => "error " ++ path.raw.display ++ "\n      " ++ message ++ "\n"

/-- The entry of a finding in a list of JSON. -/
def entry : Finding → Json
  | fine path required declared =>
      .object [("template", .string path.raw.display), ("ok", .bool true),
        ("required", .array (required.map .string)), ("globals", .array (declared.map .string))]
  | broken path message =>
      .object [("template", .string path.raw.display), ("ok", .bool false),
        ("error", .string message)]

/-- An entry has at most two levels of arrays and objects. -/
theorem readable_entry (levels : ℕ) (finding : Finding) :
    Json.Readable (levels + 2) finding.entry := by
  have names (names : List String) : Json.Readable (levels + 1) (.array (names.map .string)) := by
    apply Json.Readable.array
    intro item mem
    rcases List.mem_map.mp mem with ⟨name, -, rfl⟩
    exact .string name
  cases finding with
  | fine path required declared =>
      apply Json.Readable.object (by simp [Fields.keys])
      simp [names, Json.Readable.string, Json.Readable.bool]
  | broken path message =>
      apply Json.Readable.object (by simp [Fields.keys])
      simp [Json.Readable.string, Json.Readable.bool]

end Finding

/-! ## Files -/

section Files

variable {σ : Type}

/-- Files that give the same texts or faults whenever they are read, and that reading leaves
alone. -/
def FileAccess.Reads (files : FileAccess (StateM σ)) (state : σ)
    (contents : FilePath → Except FileFault String) : Prop :=
  ∀ path, (files.read path).run state = (contents path, state)

theorem FileTree.reads_access (tree : FileTree) :
    FileAccess.Reads FileTree.access tree tree.readText :=
  fun _ => rfl

/-- What there is to find out about a path.  A template is fine exactly if its file can be read and
the text compiles. -/
inductive Finds (contents : FilePath → Except FileFault String) (path : FilePath) :
    Finding → Prop where
  | fine {source : String} {template : Template} (readable : contents path = .ok source)
      (compiled : Template.compile source = .ok template) :
      Finds contents path (.fine path template.required template.declared)
  | malformed {source : String} {fault : Located Template.Fault}
      (readable : contents path = .ok source) (refused : Template.compile source = .error fault) :
      Finds contents path (.broken path ("Failed to compile " ++ Text.quotedRaw path.raw ++
        ": " ++ (Error.malformed fault).message))
  | unreadable {fault : FileFault} (unread : contents path = .error fault) :
      Finds contents path (.broken path ("Failed to read template " ++
        Text.quotedRaw path.raw ++ ": " ++ fault.message))

/-- There is one thing to find out about a path. -/
theorem Finds.unique {contents : FilePath → Except FileFault String} {path : FilePath}
    {finding also : Finding} (found : Finds contents path finding)
    (foundAlso : Finds contents path also) : finding = also := by
  cases found with
  | fine readable compiled =>
      cases foundAlso with
      | fine readableAlso compiledAlso =>
          cases readable.symm.trans readableAlso
          cases compiled.symm.trans compiledAlso
          rfl
      | malformed readableAlso refused =>
          cases readable.symm.trans readableAlso
          cases compiled.symm.trans refused
      | unreadable unread => cases readable.symm.trans unread
  | malformed readable refused =>
      cases foundAlso with
      | fine readableAlso compiled =>
          cases readable.symm.trans readableAlso
          cases refused.symm.trans compiled
      | malformed readableAlso refusedAlso =>
          cases readable.symm.trans readableAlso
          cases refused.symm.trans refusedAlso
          rfl
      | unreadable unread => cases readable.symm.trans unread
  | unreadable unread =>
      cases foundAlso with
      | fine readable compiled => cases unread.symm.trans readable
      | malformed readable refused => cases unread.symm.trans readable
      | unreadable unreadAlso =>
          cases unread.symm.trans unreadAlso
          rfl

/-! ## Verdicts -/

namespace Verdict

/-- What a verdict says about a template. -/
def finding (verdict : Verdict) : Finding :=
  match verdict.result with
  | .ok template => .fine verdict.path template.required template.declared
  | .error failure => .broken verdict.path failure.summary

theorem isBad_eq (verdict : Verdict) : verdict.isBad = verdict.finding.isBroken := by
  rcases verdict with ⟨path, failure | template⟩ <;> rfl

theorem text_eq (verdict : Verdict) : verdict.text = verdict.finding.lines := by
  rcases verdict with ⟨path, failure | template⟩ <;> rfl

/-- A verdict on a path that is a text has a JSON form. -/
theorem json?_eq {verdict : Verdict} (isText : verdict.path.raw.text?.isSome) :
    verdict.json? = some verdict.finding.entry := by
  rcases Option.isSome_iff_exists.mp isText with ⟨s, text⟩
  have shown : verdict.path.raw.display = s := by
    rw [RawText.text?_eq_some_iff.mp text, RawText.display_ofText]
  rcases verdict with ⟨path, failure | template⟩ <;>
    simp only [json?, finding, Finding.entry, text, shown] <;> rfl

end Verdict

variable {files : FileAccess (StateM σ)} {state : σ}
  {contents : FilePath → Except FileFault String}

theorem run_next_of_run {α β : Type} {after : σ} {action : StateM σ α} {a : α}
    (ran : action.run state = (a, after)) (next : α → StateM σ β) :
    (action >>= next).run state = (next a).run after := by
  change (next (action.run state).1).run (action.run state).2 = _
  rw [ran]

/-- Compiling a file tells what there is to find out, also when it fails. -/
theorem FileAccess.Reads.run_compile (reads : files.Reads state contents) (path : FilePath) :
    ∃ result, (files.compile path).run.run state = (result, state) ∧
      Finds contents path (Verdict.finding ⟨path, result⟩) := by
  rw [FileAccess.compile, run_bind_of_run (reads path)]
  cases read : contents path with
  | error fault => exact ⟨.error (.unreadableTemplate path fault), rfl, .unreadable read⟩
  | ok source =>
      cases compiled : Template.compile source with
      | error fault =>
          refine ⟨.error (.malformedTemplate path (.malformed fault)), ?_,
            .malformed read compiled⟩
          simp only [compiled]
          rfl
      | ok template =>
          refine ⟨.ok template, ?_, .fine read compiled⟩
          simp only [compiled]
          rfl

namespace CheckCommand

/-- No template keeps a check from the next one, if the report has a place for its path. -/
theorem run_verdicts (reads : files.Reads state contents) {asJson : Bool} {paths : List FilePath}
    (shown : asJson = true → ∀ path ∈ paths, path.raw.text?.isSome) :
    ∃ verdicts, (CheckCommand.verdicts files asJson paths).run state = (some verdicts, state) ∧
      verdicts.map Verdict.path = paths ∧
      List.Forall₂ (Finds contents) paths (verdicts.map Verdict.finding) := by
  induction paths with
  | nil => exact ⟨[], rfl, rfl, .nil⟩
  | cons path rest ih =>
      rcases reads.run_compile path with ⟨result, ran, found⟩
      rcases ih fun isJson other mem => shown isJson other (List.mem_cons_of_mem _ mem) with
        ⟨verdicts, ranRest, paths_eq, foundRest⟩
      have goesOn : (asJson && (Verdict.json? ⟨path, result⟩).isNone) = false := by
        cases asJson with
        | false => rfl
        | true =>
            rw [Verdict.json?_eq (shown rfl path List.mem_cons_self)]
            rfl
      refine ⟨⟨path, result⟩ :: verdicts, ?_, congrArg (path :: ·) paths_eq,
        .cons found foundRest⟩
      rw [CheckCommand.verdicts, run_next_of_run ran]
      simp only [goesOn, Bool.false_eq_true, if_false]
      rw [run_next_of_run ranRest]
      rfl

/-- A report in JSON has no place for a path that is no text. -/
theorem run_verdicts_crashed (reads : files.Reads state contents) {paths : List FilePath}
    (noText : ∃ path ∈ paths, path.raw.text? = none) :
    (CheckCommand.verdicts files true paths).run state = (none, state) := by
  induction paths with
  | nil => rcases noText with ⟨_, mem, -⟩; cases mem
  | cons path rest ih =>
      rcases reads.run_compile path with ⟨result, ran, -⟩
      rw [CheckCommand.verdicts, run_next_of_run ran]
      cases text : path.raw.text? with
      | none =>
          have noForm : Verdict.json? ⟨path, result⟩ = none := by
            rw [Verdict.json?, text]
            rfl
          simp only [noForm]
          rfl
      | some s =>
          have form : Verdict.json? ⟨path, result⟩ = some _ := Verdict.json?_eq (by rw [text]; rfl)
          have behind : ∃ other ∈ rest, other.raw.text? = none := by
            rcases noText with ⟨other, mem, none⟩
            rcases List.mem_cons.mp mem with rfl | mem
            · rw [text] at none
              cases none
            · exact ⟨other, mem, none⟩
          simp only [form, Option.isNone_some, Bool.and_false, Bool.false_eq_true, if_false]
          rw [run_next_of_run (ih behind)]
          rfl

theorem report_text (verdicts : List Verdict) :
    report false verdicts = String.join ((verdicts.map Verdict.finding).map Finding.lines) := by
  have same : Verdict.text = Finding.lines ∘ Verdict.finding := funext Verdict.text_eq
  rw [List.map_map, ← same]
  rfl

theorem report_json {verdicts : List Verdict}
    (shown : ∀ verdict ∈ verdicts, verdict.path.raw.text?.isSome) :
    report true verdicts =
      (Json.array ((verdicts.map Verdict.finding).map Finding.entry)).pretty "  " ++ "\n" := by
  have entries : verdicts.filterMap Verdict.json? =
      verdicts.filterMap fun verdict => some verdict.finding.entry :=
    List.filterMap_congr fun verdict mem => Verdict.json?_eq (shown verdict mem)
  rw [report, if_pos rfl, entries, List.filterMap_eq_map', List.map_map]
  rfl

theorem countP_isBad (verdicts : List Verdict) :
    verdicts.countP Verdict.isBad = (verdicts.map Verdict.finding).countP Finding.isBroken := by
  have same : Verdict.isBad = Finding.isBroken ∘ Verdict.finding := funext Verdict.isBad_eq
  rw [List.countP_map, ← same]

/-- The report in JSON is read as the list of all entries. -/
theorem read_entries (findings : List Finding) :
    Json.read ((Json.array (findings.map Finding.entry)).pretty "  " ++ "\n") =
      .ok (.array (findings.map Finding.entry)) := by
  have readable : Json.Readable Json.nestingLimit (.array (findings.map Finding.entry)) := by
    apply Json.Readable.array
    intro item mem
    rcases List.mem_map.mp mem with ⟨finding, -, rfl⟩
    exact finding.readable_entry 124
  exact Json.read_pretty_append readable (by simp [Json.Blank, Json.IsBlank])
    (by simp [Json.Blank, Json.IsBlank])

theorem report_badTemplates (count total : ℕ) :
    (Failure.badTemplates count total).report = "Error: " ++
      String.ofList (Number.natText 10 count) ++ " of " ++
      String.ofList (Number.natText 10 total) ++ " templates failed to compile\n" := by
  have tail : " templates failed to compile" ++ "\n" = " templates failed to compile\n" := by
    decide
  change "Error: " ++ (String.ofList (Number.natText 10 count) ++ " of " ++
    String.ofList (Number.natText 10 total) ++ " templates failed to compile") ++ "" ++ "\n" = _
  simp only [String.append_empty, String.append_assoc, tail]

/-- An ending that reports all findings on the templates of some paths. -/
structure Reports (paths : List FilePath) (findings : List Finding) (asJson : Bool)
    (ending : Ending) : Prop where
  text : asJson = false → ending.output = String.join (findings.map Finding.lines)
  json : asJson = true → Json.read ending.output = .ok (.array (findings.map Finding.entry))
  passed : (∀ finding ∈ findings, finding.isBroken = false) →
    ending.exitCode = 0 ∧ ending.report? = none
  failed : (∃ finding ∈ findings, finding.isBroken = true) →
    ending.exitCode = 1 ∧ ending.report? = some ("Error: " ++
      String.ofList (Number.natText 10 (findings.countP Finding.isBroken)) ++ " of " ++
      String.ofList (Number.natText 10 paths.length) ++ " templates failed to compile\n")

/-- A check that reports ends with a code that tells whether all templates are fine. -/
theorem Reports.exitCode_le {paths : List FilePath} {findings : List Finding} {asJson : Bool}
    {ending : Ending} (reports : Reports paths findings asJson ending) : ending.exitCode ≤ 1 := by
  by_cases broken : ∃ finding ∈ findings, finding.isBroken = true
  · exact (reports.failed broken).1.le
  · have fine : ∀ finding ∈ findings, finding.isBroken = false := by simpa using broken
    exact (reports.passed fine).1.trans_le (Nat.zero_le 1)

/-- A check reports what there is to find out about every path. -/
theorem reports_run (reads : files.Reads state contents) {asJson : Bool} {paths : List FilePath}
    (shown : asJson = true → ∀ path ∈ paths, path.raw.text?.isSome) :
    ∃ findings ending, List.Forall₂ (Finds contents) paths findings ∧
      (CheckCommand.run files ⟨paths, asJson⟩).run state = (ending, state) ∧
        Reports paths findings asJson ending := by
  rcases run_verdicts reads shown with ⟨verdicts, ran, paths_eq, found⟩
  have printed : (asJson = false → report asJson verdicts =
        String.join ((verdicts.map Verdict.finding).map Finding.lines)) ∧
      (asJson = true → Json.read (report asJson verdicts) =
        .ok (.array ((verdicts.map Verdict.finding).map Finding.entry))) := by
    constructor
    · rintro rfl
      exact report_text verdicts
    · rintro rfl
      have shownAll : ∀ verdict ∈ verdicts, verdict.path.raw.text?.isSome := fun verdict mem =>
        shown rfl verdict.path (paths_eq ▸ List.mem_map_of_mem mem)
      rw [report_json shownAll, read_entries]
  rw [CheckCommand.run, run_next_of_run ran]
  simp only [countP_isBad]
  by_cases bad : (verdicts.map Verdict.finding).countP Finding.isBroken = 0
  · rw [if_pos bad]
    refine ⟨_, _, found, rfl, printed.1, printed.2, fun _ => ⟨rfl, rfl⟩, fun broken => ?_⟩
    rcases broken with ⟨finding, mem, broken⟩
    exact absurd broken (List.countP_eq_zero.mp bad finding mem)
  · rw [if_neg bad]
    refine ⟨_, _, found, rfl, printed.1, printed.2, fun fine => absurd ?_ bad, fun _ => ⟨rfl, ?_⟩⟩
    · exact List.countP_eq_zero.mpr fun finding mem => by simp [fine finding mem]
    · rw [Ending.report?, report_badTemplates]

end CheckCommand

end Files

/-! ## Command lines -/

namespace Command

theorem readArguments_literal {switches : List Switch} {limit : ℕ} (given : Arguments)
    {operands : List RawText} (named : ∀ operand ∈ operands, operand ≠ "")
    (room : given.operands.length + operands.length ≤ limit) :
    readArguments switches limit true ⟨given, none⟩ operands =
      .ok { given with operands := given.operands ++ operands } := by
  induction operands generalizing given with
  | nil =>
      rw [List.append_nil]
      rfl
  | cons operand rest ih =>
      have some : ¬ (operand = "" ∨ limit ≤ given.operands.length) := by
        rw [List.length_cons] at room
        exact not_or.mpr ⟨named operand List.mem_cons_self, by omega⟩
      have readRest := ih { given with operands := given.operands ++ [operand] }
        (fun other mem => named other (List.mem_cons_of_mem _ mem))
        (by simpa [Nat.add_assoc, Nat.add_comm 1] using room)
      rw [readArguments]
      simpa [some] using readRest

theorem readCheck_of_readArguments {rest : List RawText} {arguments : Arguments}
    (read : readArguments checkSwitches rest.length false ⟨.none, none⟩ rest = .ok arguments)
    (nonempty : arguments.operands ≠ []) :
    readCheck rest = .ok (.check ⟨arguments.operands.map FilePath.mk, arguments.has "json"⟩) := by
  have some : arguments.operands.isEmpty = false := by simpa using nonempty
  change (readArguments _ _ _ _ _ >>= _) = _
  rw [read]
  exact if_neg (by simp [some])

/-- The command line of a check, with the paths behind two dashes. -/
def checkLine (asJson : Bool) (paths : List FilePath) : List RawText :=
  .ofText "check" :: ((if asJson then [.ofText "--json"] else []) ++
    .ofText "--" :: paths.map FilePath.raw)

/-- Behind two dashes, a check takes any names of files. -/
theorem ofArguments_checkLine {paths : List FilePath} (nonempty : paths ≠ [])
    (named : ∀ path ∈ paths, path.raw ≠ "") (asJson : Bool) :
    ofArguments (checkLine asJson paths) = .ok (.check ⟨paths, asJson⟩) := by
  have rawNamed : ∀ raw ∈ paths.map FilePath.raw, raw ≠ "" := by
    intro raw mem
    rcases List.mem_map.mp mem with ⟨path, pathMem, rfl⟩
    exact named path pathMem
  have rawNonempty : paths.map FilePath.raw ≠ [] := by simpa using nonempty
  have back : (paths.map FilePath.raw).map FilePath.mk = paths := by
    rw [List.map_map]
    exact List.map_id paths
  have literal (options : List (String × RawText)) {limit : ℕ} (room : paths.length ≤ limit) :
      readArguments checkSwitches limit true ⟨⟨options, []⟩, none⟩ (paths.map FilePath.raw) =
        .ok ⟨options, paths.map FilePath.raw⟩ :=
    readArguments_literal ⟨options, []⟩ rawNamed (by simpa using room)
  cases asJson with
  | false =>
      change readCheck (.ofText "--" :: paths.map FilePath.raw) = _
      have read := literal []
        (show paths.length ≤ (RawText.ofText "--" :: paths.map FilePath.raw).length by simp)
      rw [readCheck_of_readArguments read rawNonempty, back]
      rfl
  | true =>
      change readCheck (.ofText "--json" :: .ofText "--" :: paths.map FilePath.raw) = _
      have read := literal [("json", "")]
        (show paths.length ≤ (RawText.ofText "--json" :: .ofText "--" ::
          paths.map FilePath.raw).length by simp; omega)
      rw [readCheck_of_readArguments read rawNonempty, back]
      rfl

variable {σ : Type} {files : FileAccess (StateM σ)} {state : σ}
  {contents : FilePath → Except FileFault String}

/-- A command line that asks for a check reports one finding for every path, in the order of the
paths.  The findings are the same in both forms, and each form tells all of them, whether templates
compile or not.  The form in JSON is for paths that are texts.  Every path that is not empty can be
asked for. -/
theorem runLine_check (reads : files.Reads state contents) (paths : List FilePath)
    (now : Calendar.Instant) :
    ∃ findings, List.Forall₂ (Finds contents) paths findings ∧
      (∀ others, List.Forall₂ (Finds contents) paths others → others = findings) ∧
      (∀ asJson arguments, ofArguments arguments = .ok (.check ⟨paths, asJson⟩) →
        (asJson = true → ∀ path ∈ paths, path.raw.text?.isSome) →
        ∃ ending, (runLine files now arguments).run state = (ending, state) ∧
          CheckCommand.Reports paths findings asJson ending) ∧
      (paths ≠ [] → (∀ path ∈ paths, path.raw ≠ "") → ∀ asJson,
        ofArguments (checkLine asJson paths) = .ok (.check ⟨paths, asJson⟩)) := by
  have unique : Relator.RightUnique (Finds contents) := fun _ _ _ found also => found.unique also
  have textAsked : false = true → ∀ path ∈ paths, path.raw.text?.isSome :=
    fun asked => absurd asked Bool.false_ne_true
  rcases CheckCommand.reports_run reads textAsked with ⟨findings, -, found, -, -⟩
  refine ⟨findings, found, fun others foundOthers => unique.forall₂ foundOthers found, ?_,
    ofArguments_checkLine⟩
  intro asJson arguments accepted shown
  rcases CheckCommand.reports_run reads shown with ⟨also, ending, foundAlso, ran, reports⟩
  cases unique.forall₂ foundAlso found
  refine ⟨ending, ?_, reports⟩
  rw [runLine, accepted]
  exact ran

/-- One of three paths leads to no file.  The others lead to the same template, which is reported
twice. -/
theorem runLine_check_missing :
    let tree : FileTree := ⟨[(["page"], .file (String.ofList (Template.braced ['a'])))], []⟩
    let missing := "Failed to read template \x22gone\x22: No such file or directory (os error 2)"
    ∃ inText inJson,
      (runLine FileTree.access ⟨0, 0⟩ ["check", "page", "gone", "page"]).run tree =
        (inText, tree) ∧
      (runLine FileTree.access ⟨0, 0⟩ ["check", "--json", "--", "page", "gone", "page"]).run tree =
        (inJson, tree) ∧
      inText.exitCode = 1 ∧ inJson.exitCode = 1 ∧
      inText.report? = some "Error: 1 of 3 templates failed to compile\n" ∧
      inText.output = "ok    page\n      required: a\nerror gone\n      " ++ missing ++
        "\nok    page\n      required: a\n" ∧
      ∃ page, Json.read inJson.output = .ok (.array [page,
        .object [("template", .string "gone"), ("ok", .bool false), ("error", .string missing)],
        page]) := by
  intro tree missing
  have cuts : Template.Cuts none 0 (Template.braced ['a']) _ :=
    .tag ⟨_, rfl, rfl⟩ (by simp) rfl (.plain Template.untagged_nil)
  have scanned : Template.scan (Template.normalize
      (String.ofList (Template.braced ['a'])).toList) =
        .ok ⟨[.tag 0 (.interpolation ⟨2, ['a']⟩)], []⟩ :=
    Template.scan_eq_ok_iff.mpr (.inl ⟨rfl, rfl, cuts⟩)
  have built : Template.nodesOf [.tag 0 (.interpolation ⟨2, ['a']⟩)] =
      .ok [.interpolation ⟨"a", .var "a"⟩ true] := by
    cbv
  have compiled : Template.compile (String.ofList (Template.braced ['a'])) =
      .ok ⟨_, [.interpolation ⟨"a", .var "a"⟩ true], ["a"], []⟩ :=
    Template.compile_eq_ok_iff.mpr ⟨_, _, scanned, built, rfl⟩
  have opened : tree.readText ⟨"page"⟩ = .ok (String.ofList (Template.braced ['a'])) := by
    rfl
  have page : Finds tree.readText ⟨"page"⟩ (.fine ⟨"page"⟩ ["a"] []) := .fine opened compiled
  have gone : Finds tree.readText ⟨"gone"⟩ (.broken ⟨"gone"⟩ missing) := by
    have absent : tree.readText ⟨"gone"⟩ = .error .missing := by rfl
    have worded : "Failed to read template " ++ Text.quotedRaw "gone" ++ ": " ++
        FileFault.missing.message = missing := by
      decide
    exact worded ▸ Finds.unreadable absent
  rcases runLine_check tree.reads_access [⟨"page"⟩, ⟨"gone"⟩, ⟨"page"⟩] ⟨0, 0⟩ with
    ⟨findings, -, only, reported, accepted⟩
  cases only _ (.cons page (.cons gone (.cons page .nil)))
  have shown : ∀ path ∈ [(⟨"page"⟩ : FilePath), ⟨"gone"⟩, ⟨"page"⟩], path.raw.text?.isSome := by
    simp
  rcases reported false ["check", "page", "gone", "page"] rfl fun _ => shown with
    ⟨inText, ranText, reportsText⟩
  rcases reported true _ (accepted (List.cons_ne_nil _ _) (by decide) true) fun _ => shown with
    ⟨inJson, ranJson, reportsJson⟩
  have bad : ∃ finding ∈ [Finding.fine ⟨"page"⟩ ["a"] [], .broken ⟨"gone"⟩ missing,
      .fine ⟨"page"⟩ ["a"] []], finding.isBroken = true :=
    ⟨_, List.mem_cons_of_mem _ List.mem_cons_self, rfl⟩
  rcases reportsText.failed bad with ⟨exitCode, report⟩
  refine ⟨inText, inJson, ranText, ranJson, exitCode, (reportsJson.failed bad).1, ?_, ?_, _,
    reportsJson.json rfl⟩
  · have one : Number.natText 10 1 = ['1'] := by
      rw [Number.natText, Number.digits, Number.digitsBefore, if_pos (by decide)]
      rfl
    have three : Number.natText 10 3 = ['3'] := by
      rw [Number.natText, Number.digits, Number.digitsBefore, if_pos (by decide)]
      rfl
    rw [report]
    change some ("Error: " ++ String.ofList (Number.natText 10 1) ++ " of " ++
      String.ofList (Number.natText 10 3) ++ _) = _
    rw [one, three]
    decide
  · rw [reportsText.text rfl]
    decide

/-- Two paths that are not reported: the empty path is no operand, and a path that is no text has no
place in a report in JSON. -/
theorem runLine_check_unreported :
    let tree : FileTree := ⟨[], []⟩
    let unnamed : FilePath := ⟨""⟩
    let noText : FilePath := ⟨⟨[0xFF]⟩⟩
    (runLine FileTree.access ⟨0, 0⟩ ["check", ""]).run tree = (.misused, tree) ∧
      (runLine FileTree.access ⟨0, 0⟩ ["check", "--json", ⟨[0xFF]⟩]).run tree =
        (.crashed, tree) ∧
      (¬ ∃ findings, List.Forall₂ (Finds tree.readText) [unnamed] findings ∧
        CheckCommand.Reports [unnamed] findings false .misused) ∧
      ¬ ∃ findings, List.Forall₂ (Finds tree.readText) [noText] findings ∧
        CheckCommand.Reports [noText] findings true .crashed := by
  intro tree unnamed noText
  have broken : noText.raw.text? = none := by
    simp [noText, RawText.text?, Text.ofUtf8?, Text.continuationCount?]
  have stopped : (CheckCommand.verdicts FileTree.access true [noText]).run tree = (none, tree) :=
    CheckCommand.run_verdicts_crashed tree.reads_access ⟨noText, List.mem_cons_self, broken⟩
  refine ⟨rfl, ?_, ?_, ?_⟩
  · change (CheckCommand.run FileTree.access ⟨[noText], true⟩).run tree = _
    rw [CheckCommand.run, run_next_of_run stopped]
    rfl
  · rintro ⟨findings, -, reports⟩
    exact absurd reports.exitCode_le (by decide)
  · rintro ⟨findings, -, reports⟩
    exact absurd reports.exitCode_le (by decide)

end Command

end Stencil
