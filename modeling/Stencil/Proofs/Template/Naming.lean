import Stencil.Proofs.Expr.Reference
import Stencil.Proofs.Template.Blocks
import Stencil.Proofs.Template.Compile

/-!
# Names that templates bind

The names that loops bind and that templates declare are the names that expressions can refer to.
A template that is refused for a name is refused rightly, because nothing could refer to that name.
-/

namespace Stencil.Template

variable {α β : Type}

/-! ## Refused names -/

/-- The name for which a template is refused. -/
def Fault.refusedName? : Fault → Option String
  | .badLoopVariable name | .badGlobalName name => some name
  | _ => none

/-- A computation refuses no name that an expression could refer to. -/
def RefusesUnusable (result : Except (Located Fault) α) : Prop :=
  ∀ fault name, result = .error fault → fault.item.refusedName? = some name →
    ∀ source e, Expr.parse source = .ok e → name ∉ e.names

namespace RefusesUnusable

theorem ok (a : α) : RefusesUnusable (.ok a) := by
  intro fault name impossible
  cases impossible

/-- Most faults refuse no name. -/
theorem error {fault : Located Fault} (unnamed : fault.item.refusedName? = none) :
    RefusesUnusable (.error fault : Except (Located Fault) α) := by
  intro other name same named
  cases same
  rw [unnamed] at named
  cases named

/-- A name that cannot name a variable is refused rightly. -/
theorem invalid {fault : Located Fault} {name : String}
    (named : fault.item.refusedName? = some name)
    (invalid : Name.isVariable name.toList = false) :
    RefusesUnusable (.error fault : Except (Located Fault) α) := by
  intro other refused same namedAgain source e parsed mem
  cases same
  rw [named, Option.some.injEq] at namedAgain
  subst namedAgain
  rw [Expr.isVariable_of_mem_names parsed mem] at invalid
  cases invalid

theorem bind {first : Except (Located Fault) α} {next : α → Except (Located Fault) β}
    (refuses : RefusesUnusable first) (further : ∀ a, RefusesUnusable (next a)) :
    RefusesUnusable (first >>= next) := by
  cases first with
  | error fault =>
      intro other name same
      cases same
      exact refuses fault name rfl
  | ok a => exact further a

theorem foldlM {step : α → β → Except (Located Fault) α} (steps : ∀ a b, RefusesUnusable (step a b))
    (start : α) (items : List β) : RefusesUnusable (items.foldlM step start) := by
  induction items generalizing start with
  | nil => exact ok start
  | cons item rest ih =>
      rw [List.foldlM_cons]
      exact (steps start item).bind fun next => ih next

end RefusesUnusable

open RefusesUnusable

/-! ## Tags -/

theorem refusesUnusable_readEach (place offset : Nat) (s : List Char) :
    RefusesUnusable (readEach place offset s) := by
  rw [readEach]
  split
  · exact error rfl
  · dsimp only
    split
    · rename_i isInvalid
      exact invalid rfl (by simpa using isInvalid)
    · split
      · exact error rfl
      · exact ok _

theorem isVariable_of_readEach {place offset : Nat} {s : List Char} {loopVar : String}
    {collection : Located (List Char)}
    (read : readEach place offset s = .ok (.eachOpen loopVar collection)) :
    Name.isVariable loopVar.toList = true := by
  simp only [readEach] at read
  split at read
  · cases read
  · split at read
    · cases read
    · rename_i valid
      split at read
      · cases read
      · cases read
        simpa using valid

theorem refusesUnusable_readTrimmed (inner : Located (List Char)) :
    RefusesUnusable (readTrimmed inner) := by
  rw [readTrimmed]
  split
  · rw [readIf]
    split
    · exact error rfl
    · exact ok _
  · split
    · exact ok _
    · split
      · exact refusesUnusable_readEach _ _ _
      · split
        · exact error rfl
        · exact ok _

/-- The variable of a loop can name a variable. -/
theorem isVariable_of_read {offset : Nat} {s : List Char} {loopVar : String}
    {collection : Located (List Char)}
    (read : Tag.read offset s = .ok (.eachOpen loopVar collection)) :
    Name.isVariable loopVar.toList = true := by
  rw [Tag.read, readTrimmed] at read
  split at read
  · rw [readIf] at read
    split at read <;> cases read
  · split at read
    · rename_i word
      cases read
      simp only [wordTag?] at word
      repeat' split at word
      all_goals cases word
    · split at read
      · exact isVariable_of_readEach read
      · split at read <;> cases read

/-! ## Declarations -/

theorem refusesUnusable_declaredNames (declaration : Located (List Char)) :
    RefusesUnusable (declaredNames declaration) := by
  rw [declaredNames]
  split
  · rename_i name found
    have isInvalid := List.find?_some found
    exact invalid rfl (by simpa using isInvalid)
  · exact ok _

theorem isVariable_of_declaredNames {declaration : Located (List Char)} {names : List String}
    (declared : declaredNames declaration = .ok names) {name : String} (mem : name ∈ names) :
    Name.isVariable name.toList = true := by
  rw [declaredNames] at declared
  split at declared
  · cases declared
  · rename_i noneInvalid
    cases declared
    rcases List.mem_map.mp (List.mem_eraseDups.mp mem) with ⟨listed, isListed, rfl⟩
    rw [String.toList_ofList]
    simpa using List.find?_eq_none.mp noneInvalid listed isListed

/-! ## Templates -/

theorem refusesUnusable_cutFrom (skipped : Option Nat) (offset : Nat) (s : List Char) :
    RefusesUnusable (cutFrom skipped offset s) := by
  induction length : s.length using Nat.strongRecOn generalizing offset s with
  | _ n ih =>
      rcases untagged_or_firstTag s with untagged | ⟨before, inner, rest, first⟩
      · rw [cutFrom_of_untagged untagged]
        exact ok _
      · have shorter := length ▸ first.length_rest_lt
        rw [cutFrom_of_firstTag first]
        split
        · exact (ih _ shorter _ rest rfl).bind fun more => ok _
        · refine (refusesUnusable_readTrimmed _).bind fun tag => ?_
          exact (ih _ shorter _ rest rfl).bind fun more => ok _

theorem refusesUnusable_scan (source : List Char) : RefusesUnusable (scan source) := by
  rw [scan]
  split
  · exact (refusesUnusable_cutFrom _ _ _).bind fun pieces => ok _
  · refine (refusesUnusable_declaredNames _).bind fun globals => ?_
    exact (refusesUnusable_cutFrom _ _ _).bind fun pieces => ok _

theorem refusesUnusable_parseSource (source : Located (List Char)) :
    RefusesUnusable (parseSource source) := by
  rw [parseSource]
  split
  · exact ok _
  · exact error rfl

/-- Building the tree refuses no names. -/
theorem refusesUnusable_step (progress : Progress) (piece : Piece) :
    RefusesUnusable (progress.step piece) := by
  cases piece with
  | text s => exact ok _
  | tag offset tag =>
      cases tag with
      | interpolation source =>
          rw [Progress.step, parseInterpolation]
          split
          · exact ok _
          · exact (refusesUnusable_parseSource source).bind fun _ => ok _
      | index => exact ok _
      | ifOpen condition => exact (refusesUnusable_parseSource condition).bind fun _ => ok _
      | eachOpen loopVar collection =>
          exact (refusesUnusable_parseSource collection).bind fun _ => ok _
      | ifElse =>
          rw [Progress.step, Progress.turn]
          split
          · exact error rfl
          · split
            · exact ok _
            · exact error rfl
            · exact error rfl
      | ifClose =>
          rw [Progress.step, Progress.closeIf]
          split
          · exact error rfl
          · split
            · exact ok _
            · exact ok _
            · exact error rfl
      | eachClose =>
          rw [Progress.step, Progress.closeEach]
          split
          · exact error rfl
          · split
            · exact ok _
            · exact error rfl
            · exact error rfl

theorem refusesUnusable_nodesOf (pieces : List Piece) : RefusesUnusable (nodesOf pieces) := by
  refine (foldlM refusesUnusable_step .start pieces).bind fun progress => ?_
  rw [Progress.finish]
  split
  · exact ok _
  · split <;> exact error rfl

theorem refusesUnusable_compile (source : String) : RefusesUnusable (compile source) := by
  refine (refusesUnusable_scan _).bind fun scanned => ?_
  exact (refusesUnusable_nodesOf _).bind fun nodes => ok _

/-- The loops of a template bind variables. -/
theorem isVariable_of_compile {source : String} {template : Template}
    (compiled : compile source = .ok template) :
    (∀ loopVar collection, .eachOpen loopVar collection ∈ marksOfAll template.nodes →
      Name.isVariable loopVar.toList = true) ∧
    (∀ name ∈ template.declared, Name.isVariable name.toList = true) := by
  rcases compile_eq_ok_iff.mp compiled with ⟨scanned, nodes, scan_eq, built, rfl⟩
  constructor
  · intro loopVar collection mem
    rw [show (ofScanned source scanned nodes).nodes = nodes from rfl,
      (nodesOf_eq_ok_iff.mp built).1] at mem
    rcases List.mem_map.mp mem with ⟨piece, isPiece, marked⟩
    rcases cuts_of_scan scan_eq with ⟨skipped, cuts⟩
    cases piece with
    | text s => cases marked
    | tag offset tag =>
        cases tag with
        | eachOpen bound text =>
            cases marked
            rcases cuts.exists_read isPiece with ⟨inner, read⟩
            exact isVariable_of_read read
        | _ => cases marked
  · intro name mem
    rcases scan_eq_ok_iff.mp scan_eq with ⟨-, none, -⟩ | ⟨declaration, -, declared, -⟩
    · rw [show (ofScanned source scanned nodes).declared = scanned.globals from rfl, none] at mem
      cases mem
    · exact isVariable_of_declaredNames declared mem

/-- Names can be referred to exactly when they are accepted as names of variables.

- A text is parsed as the variable of its own name exactly when it is a name and not reserved.
- An expression can mention exactly these names.
- The variables of loops and the declared globals that are accepted are such names.
- A name that is refused, in a tag, in a declaration or for a whole template, is mentioned by no
  expression.
- Behind a variable, an access to a member or a call, a point and any name, reserved or not, make up
  the access to that member. -/
theorem names_usable :
    (∀ s, Expr.parse s = .ok (.var s) ↔
      Name.isName s.toList = true ∧ Name.isReserved s = false) ∧
    (∀ name, (∃ source e, Expr.parse source = .ok e ∧ name ∈ e.names) ↔
      Expr.parse name = .ok (.var name)) ∧
    (∀ offset inner loopVar collection,
      Tag.read offset inner = .ok (.eachOpen loopVar collection) →
      Expr.parse loopVar = .ok (.var loopVar)) ∧
    (∀ declaration names, declaredNames declaration = .ok names →
      ∀ name ∈ names, Expr.parse name = .ok (.var name)) ∧
    (∀ source template, compile source = .ok template →
      (∀ loopVar collection, .eachOpen loopVar collection ∈ marksOfAll template.nodes →
        Expr.parse loopVar = .ok (.var loopVar)) ∧
      (∀ name ∈ template.declared, Expr.parse name = .ok (.var name))) ∧
    (∀ offset inner, RefusesUnusable (Tag.read offset inner)) ∧
    (∀ declaration, RefusesUnusable (declaredNames declaration)) ∧
    (∀ source, RefusesUnusable (compile source)) ∧
    (∀ source e property, Expr.parse source = .ok e → e.isAccess = true →
      Name.isName property.toList = true →
      Expr.parse (source ++ "." ++ property) = .ok (.member e property)) := by
  refine ⟨fun s => ?_, fun name => ⟨?_, ?_⟩, ?_, ?_, ?_, ?_, refusesUnusable_declaredNames,
    refusesUnusable_compile, ?_⟩
  · rw [Expr.parse_eq_var_iff, Name.isVariable, String.ofList_toList, Bool.and_eq_true,
      Bool.not_eq_true']
  · rintro ⟨source, e, parsed, mem⟩
    exact Expr.parse_eq_var_iff.mpr (Expr.isVariable_of_mem_names parsed mem)
  · intro parsed
    exact ⟨name, .var name, parsed, List.mem_singleton.mpr rfl⟩
  · intro offset inner loopVar collection read
    exact Expr.parse_eq_var_iff.mpr (isVariable_of_read read)
  · intro declaration names declared name mem
    exact Expr.parse_eq_var_iff.mpr (isVariable_of_declaredNames declared mem)
  · intro source template compiled
    rcases isVariable_of_compile compiled with ⟨loops, declared⟩
    exact ⟨fun loopVar collection mem => Expr.parse_eq_var_iff.mpr (loops loopVar collection mem),
      fun name mem => Expr.parse_eq_var_iff.mpr (declared name mem)⟩
  · exact fun offset inner => refusesUnusable_readTrimmed _
  · intro source e property parsed isAccess isName
    exact Expr.parse_member parsed isAccess isName

/-- A reserved word that names a property, but no variable, and the variable of a loop. -/
theorem names_usable_reserved_word :
    (Expr.parse "f(a) " = .ok (.call (.var "f") [.var "a"]) ∧
      Expr.parse "f(a) .for" = .ok (.member (.call (.var "f") [.var "a"]) "for")) ∧
    (Tag.read 2 ['#', 'e', 'a', 'c', 'h', ' ', 'f', 'o', 'r', ' ', 'i', 'n', ' ', 'a'] =
        .error ⟨8, .badLoopVariable "for"⟩ ∧
      ∀ source e, Expr.parse source = .ok e → "for" ∉ e.names) ∧
    (declaredNames ⟨0, "a, a".toList⟩ = .ok ["a"] ∧ Expr.parse "a" = .ok (.var "a")) ∧
    (∃ template,
      compile (String.ofList (braced ['#', 'e', 'a', 'c', 'h', ' ', 'x', ' ', 'i', 'n', ' ', 'a'] ++
        braced ['/', 'e', 'a', 'c', 'h'])) = .ok template ∧
      .eachOpen "x" "a" ∈ marksOfAll template.nodes ∧ Expr.parse "x" = .ok (.var "x")) := by
  have parsed : Expr.parse "f(a) " = .ok (.call (.var "f") [.var "a"]) := by
    cbv
  have refusedRead : Tag.read 2 ['#', 'e', 'a', 'c', 'h', ' ', 'f', 'o', 'r', ' ', 'i', 'n', ' ',
      'a'] = .error ⟨8, .badLoopVariable "for"⟩ := by
    decide +kernel
  have listed : declaredNames ⟨0, "a, a".toList⟩ = .ok ["a"] := by
    decide +kernel
  have read : Tag.read 2 ['#', 'e', 'a', 'c', 'h', ' ', 'x', ' ', 'i', 'n', ' ', 'a'] =
      .ok (.eachOpen "x" ⟨13, ['a']⟩) := by
    decide +kernel
  have cuts : Cuts none 0 (braced ['#', 'e', 'a', 'c', 'h', ' ', 'x', ' ', 'i', 'n', ' ', 'a'] ++
      braced ['/', 'e', 'a', 'c', 'h']) _ :=
    .tag ⟨_, rfl, rfl⟩ (by simp) read (.tag ⟨_, rfl, rfl⟩ (by simp) rfl (.plain untagged_nil))
  have parsedCollection : Expr.parse "a" = .ok (.var "a") :=
    Expr.parse_eq_var_iff.mpr (by decide)
  have built : nodesOf [.tag 0 (.eachOpen "x" ⟨13, ['a']⟩), .tag 16 .eachClose] =
      .ok [.each "x" ⟨"a", .var "a"⟩ []] :=
    nodesOf_eq_ok_iff.mpr ⟨rfl, ⟨parsedCollection, trivial⟩, trivial⟩
  have scan_eq : scan (normalize (String.ofList (braced ['#', 'e', 'a', 'c', 'h', ' ', 'x', ' ',
      'i', 'n', ' ', 'a'] ++ braced ['/', 'e', 'a', 'c', 'h'])).toList) =
      .ok ⟨[.tag 0 (.eachOpen "x" ⟨13, ['a']⟩), .tag 16 .eachClose], []⟩ :=
    scan_eq_ok_iff.mpr (.inl ⟨rfl, rfl, cuts⟩)
  have compiled := compile_eq_ok_iff.mpr ⟨_, _, scan_eq, built, rfl⟩
  have loop : .eachOpen "x" "a" ∈ marksOfAll [.each "x" ⟨"a", .var "a"⟩ []] := by
    simp [marksOfAll, marks]
  rcases names_usable with ⟨-, -, -, declared, templates, refused, -, -, members⟩
  refine ⟨⟨parsed, members _ _ "for" parsed rfl (by decide)⟩,
    ⟨refusedRead, refused _ _ _ _ refusedRead rfl⟩,
    ⟨listed, declared _ _ listed "a" (by simp)⟩, _, compiled, loop, ?_⟩
  exact (templates _ _ compiled).1 "x" "a" loop

end Stencil.Template
