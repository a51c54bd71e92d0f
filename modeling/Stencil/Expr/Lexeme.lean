import Stencil.Expr.Fault
import Stencil.Expr.Name
import Stencil.Number.Reading
import Stencil.Text.Space
import Stencil.Text.Utf16

/-!
# Scanning expressions

An expression is cut into tokens from the left, each with its place.  White space separates tokens
and is otherwise ignored.  A sequence of tokens ends with one `stop`.
-/

namespace Stencil.Expr

open Text

/-- A token with its place in the expression. -/
abbrev Lexeme :=
  Located Token

/-- What a scanner takes off the front of a text: a fault's place counts from there. -/
abbrev Scan (α : Type) :=
  Except (Located Fault) (α × List Char)

/-! ## Numbers -/

/-- A hexadecimal literal after its mark, below `2 ^ 64`. -/
def scanHex (s : List Char) : Scan Token :=
  let digits := s.takeWhile isHexDigit
  let size := ofDigits 16 digits
  if digits.isEmpty || Nat.pow 2 64 ≤ size then .error ⟨0, .badHexLiteral⟩
  else .ok (.number (Binary64.ofNat size), s.dropWhile isHexDigit)

/-- A decimal literal.  A name must not follow it directly. -/
def scanDecimal (s : List Char) : Scan Token :=
  match Number.readLiteral s with
  | none => .error ⟨0, .strayChar '.'⟩
  | some (literal, rest) =>
      if (rest.head?.map Name.isStart).getD false then
        .error ⟨s.length - rest.length, .wordAfterNumber⟩
      else .ok (.number (literal.value false), rest)

/-- A number literal. -/
def scanNumber (s : List Char) : Scan Token :=
  match Number.afterHexMark? s with
  | some hex => scanHex hex
  | none => scanDecimal s

/-! ## Strings -/

/-- The character of a one-letter escape. -/
def escapedChar (c : Char) : Char :=
  if c = 'n' then '\n'
  else if c = 't' then '\t'
  else if c = 'r' then '\r'
  else if c = 'b' then '\x08'
  else if c = 'f' then '\x0c'
  else if c = 'v' then '\x0b'
  else if c = '0' then '\x00'
  else c

/-- The code point of four hexadecimal digits, the first of which may be a plus sign.  A surrogate
stands for the replacement character. -/
def unicodeEscape? (digits : List Char) : Option Char :=
  let unsigned := match digits with
    | '+' :: rest => rest
    | all => all
  if digits.length = 4 && unsigned.all isHexDigit then
    let code := ofDigits 16 unsigned
    some (if code.isValidChar then Char.ofNat code else '\uFFFD')
  else none

/-- A character in front of a scanned body. -/
def withChar (c : Char) (scanned : Except Fault (List Char × List Char)) :
    Except Fault (List Char × List Char) :=
  scanned.map fun (body, rest) => (c :: body, rest)

/-- The characters of a string literal up to its closing quote. -/
def scanStringBody (quote : Char) : List Char → Except Fault (List Char × List Char)
  | [] => .error .openString
  | c :: rest =>
      if c = quote then .ok ([], rest)
      else if c = '\\' then
        match rest with
        | [] => .error .openString
        | 'u' :: x₁ :: x₂ :: x₃ :: x₄ :: more =>
            match unicodeEscape? [x₁, x₂, x₃, x₄] with
            | none => .error .badUnicodeEscape
            | some c => withChar c (scanStringBody quote more)
        | 'u' :: _ => .error .badUnicodeEscape
        | c :: more => withChar (escapedChar c) (scanStringBody quote more)
      else withChar c (scanStringBody quote rest)

/-- A string literal after its opening quote. -/
def scanString (quote : Char) (s : List Char) : Scan Token :=
  match scanStringBody quote s with
  | .ok (body, rest) => .ok (.string (String.ofList body), rest)
  | .error fault => .error ⟨0, fault⟩

/-! ## Words and symbols -/

/-- A word: a keyword or a name. -/
def scanWord (s : List Char) : Scan Token :=
  .ok (.ofWord (String.ofList (s.takeWhile Name.isContinue)), s.dropWhile Name.isContinue)

/-- A directive after its `@`. -/
def scanDirective (s : List Char) : Scan Token :=
  let name := s.takeWhile Name.isContinue
  if name.isEmpty then .error ⟨0, .emptyDirective⟩
  else .ok (.directive (String.ofList name), s.dropWhile Name.isContinue)

/-- The fault of a character that starts no token. -/
def strayFault (c : Char) : Fault :=
  if c = '=' then .assignment
  else if c = ';' then .statement
  else if c = '\x7b' || c = '\x7d' then .brace
  else if c = '\x60' then .backquote
  else .strayChar c

/-- A symbol. -/
def scanSymbol (c : Char) (s : List Char) : Scan Token :=
  match Symbol.ofFront? (c :: s) with
  | some symbol => .ok (.symbol symbol, (c :: s).drop symbol.text.length)
  | none => .error ⟨0, strayFault c⟩

/-- The token that starts with a character. -/
def scanToken (c : Char) (s : List Char) : Scan Token :=
  if isDigit c || (c = '.' && (s.head?.map isDigit).getD false) then scanNumber (c :: s)
  else if c = '\x22' || c = '\x27' then scanString c s
  else if c = '@' then scanDirective s
  else if Name.isStart c then scanWord (c :: s)
  else scanSymbol c s

/-! ## Progress -/

theorem length_lt_of_scanNumber {s rest : List Char} {token : Token}
    (scanned : scanNumber s = .ok (token, rest)) : rest.length < s.length := by
  unfold scanNumber at scanned
  split at scanned
  · rename_i hex marked
    have dropped := (List.dropWhile_sublist isHexDigit (l := hex)).length_le
    have longer : hex.length < s.length := by
      unfold Number.afterHexMark? at marked
      split at marked
      · cases marked
        simp only [List.length_cons]
        omega
      · cases marked
        simp only [List.length_cons]
        omega
      · cases marked
    unfold scanHex at scanned
    simp only at scanned
    split at scanned
    · cases scanned
    · simp only [Except.ok.injEq, Prod.mk.injEq] at scanned
      rw [← scanned.2]
      omega
  · unfold scanDecimal at scanned
    split at scanned
    · cases scanned
    · rename_i literal more read
      split at scanned
      · cases scanned
      · simp only [Except.ok.injEq, Prod.mk.injEq] at scanned
        rw [← scanned.2]
        exact Number.length_lt_of_readLiteral read

theorem exists_of_withChar {c : Char} {scanned : Except Fault (List Char × List Char)}
    {body rest : List Char} (joined : withChar c scanned = .ok (body, rest)) :
    ∃ inner, scanned = .ok (inner, rest) ∧ body = c :: inner := by
  cases scanned with
  | error fault => cases joined
  | ok pair =>
      rcases pair with ⟨inner, more⟩
      simp only [withChar, Except.map, Except.ok.injEq, Prod.mk.injEq] at joined
      exact ⟨inner, by rw [joined.2], joined.1.symm⟩

theorem length_le_of_scanStringBody {quote : Char} {s body rest : List Char}
    (scanned : scanStringBody quote s = .ok (body, rest)) : rest.length ≤ s.length := by
  fun_induction scanStringBody quote s generalizing body
  all_goals first
    | cases scanned
      done
    | (rcases exists_of_withChar scanned with ⟨inner, innerScanned, -⟩
       rename_i ih
       have := ih innerScanned
       simp only [List.length_cons]
       omega)
    | (simp only [Except.ok.injEq, Prod.mk.injEq] at scanned
       rw [← scanned.2]
       simp)

theorem length_le_of_scanDropping {accepts : Char → Bool} {c : Char} {s : List Char}
    (accepted : accepts c = true) : ((c :: s).dropWhile accepts).length ≤ s.length := by
  rw [List.dropWhile_cons_of_pos accepted]
  exact (List.dropWhile_sublist accepts).length_le

/-- Every token takes at least its first character. -/
theorem length_le_of_scanToken {c : Char} {s rest : List Char} {token : Token}
    (scanned : scanToken c s = .ok (token, rest)) : rest.length ≤ s.length := by
  unfold scanToken at scanned
  split at scanned
  · exact Nat.le_of_lt_succ (length_lt_of_scanNumber scanned)
  split at scanned
  · unfold scanString at scanned
    split at scanned
    · rename_i body
      simp only [Except.ok.injEq, Prod.mk.injEq] at scanned
      rw [← scanned.2]
      exact length_le_of_scanStringBody body
    · cases scanned
  split at scanned
  · unfold scanDirective at scanned
    simp only at scanned
    split at scanned
    · cases scanned
    · simp only [Except.ok.injEq, Prod.mk.injEq] at scanned
      rw [← scanned.2]
      exact (List.dropWhile_sublist _).length_le
  split at scanned
  · rename_i start
    simp only [scanWord, Except.ok.injEq, Prod.mk.injEq] at scanned
    rw [← scanned.2]
    exact length_le_of_scanDropping (Name.isContinue_of_isStart start)
  · unfold scanSymbol at scanned
    split at scanned
    · rename_i symbol _
      simp only [Except.ok.injEq, Prod.mk.injEq] at scanned
      rw [← scanned.2, List.length_drop, List.length_cons]
      have : 0 < symbol.text.length := by cases symbol <;> decide
      omega
    · cases scanned

/-! ## The whole expression -/

/-- The tokens of a text that starts at `offset`. -/
def scanFrom (offset : Nat) (s : List Char) : Except (Located Fault) (List Lexeme) :=
  match _front : trimStart s with
  | [] => .ok [⟨offset + s.length, .stop⟩]
  | c :: more =>
      let start := offset + leadingSpaces s
      match _token : scanToken c more with
      | .error fault => .error (fault.shift start)
      | .ok (token, rest) => do
          let lexemes ← scanFrom (start + (more.length + 1 - rest.length)) rest
          .ok (⟨start, token⟩ :: lexemes)
termination_by s.length
decreasing_by
  have trimmed := (List.dropWhile_sublist isSpace (l := s)).length_le
  have taken := length_le_of_scanToken _token
  rw [← trimStart, _front, List.length_cons] at trimmed
  omega

/-- The tokens of an expression. -/
def scan (source : String) : Except (Located Fault) (List Lexeme) :=
  scanFrom 0 source.toList

end Stencil.Expr
