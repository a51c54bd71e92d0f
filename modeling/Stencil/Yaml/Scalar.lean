import Stencil.Text.CharClass
import Stencil.Yaml.Cursor

/-!
# Scalars of YAML

The text of plain, quoted and block scalars.  Line breaks inside are folded: one becomes a space and
more of them keep all but the first.  Every step of a reader consumes a character, so the length of
the text bounds the steps.
-/

namespace Stencil.Yaml

open Text

/-- A scalar's text with the place after it. -/
structure ScannedScalar where
  text : List Char
  cursor : Cursor
  /-- Whether line breaks follow the text, so that a key can come next. -/
  endsLine : Bool

/-- The text that stands for the line breaks between two parts of a scalar. -/
def foldBreaks (first more : List Char) : List Char :=
  if first = ['\n'] then (if more.isEmpty then [' '] else more) else first ++ more

/-- Blanks and line breaks between two parts of a scalar: the blanks if the line goes on, the first
line break, and all others. -/
structure Gap where
  blanks : List Char
  first : List Char
  more : List Char
  broken : Bool

/-- The text that stands for a gap. -/
def Gap.text (gap : Gap) : List Char :=
  if gap.broken then foldBreaks gap.first gap.more else gap.blanks

/-- Reads a gap.  In a plain scalar of a block a tab may not stand left of `indent` at the start of
a line. -/
def readGap (indent : Option Int) : Nat → Gap → Cursor → Option (Gap × Cursor)
  | 0, gap, cursor => some (gap, cursor)
  | steps + 1, gap, cursor =>
      if cursor.next isBlank then
        let c := cursor.head?.getD ' '
        let isLeft := (indent.map fun i => decide ((cursor.column : Int) < i)).getD false
        if gap.broken && c = '\t' && isLeft then none
        else
          readGap indent steps
            (if gap.broken then gap else { gap with blanks := gap.blanks ++ [c] }) (cursor.skip 1)
      else if cursor.next isBreak then
        let (text, cursor) := cursor.lineBreak
        readGap indent steps
          (if gap.broken then { gap with more := gap.more ++ text }
            else { gap with blanks := [], first := text, broken := true })
          cursor
      else some (gap, cursor)

/-! ## Plain scalars -/

/-- Characters that end a plain scalar inside brackets. -/
def isFlowMark (c : Char) : Bool :=
  c = ',' || c = '[' || c = ']' || c = '\x7b' || c = '\x7d'

/-- Characters of a plain scalar up to a blank, a line end or a mark. -/
def readPlainChars (inFlow : Bool) : List Char → Option (List Char)
  | [] => some []
  | c :: rest =>
      let blankNext := (rest.head?.map fun d => isBlank d || isBreak d).getD true
      if isBlank c || isBreak c then some []
      else if inFlow && c = ':' && (rest.head?.map fun d => isFlowMark d || d = '?').getD false then
        none
      else if (c = ':' && blankNext) || (inFlow && isFlowMark c) then some []
      else (readPlainChars inFlow rest).map (c :: ·)

/-- A plain scalar, in front of which `gap` was read and whose text so far is `acc`. -/
def readPlain (inFlow : Bool) (indent : Int) :
    Nat → List Char → Gap → Cursor → Option ScannedScalar
  | 0, acc, gap, cursor => some ⟨acc, cursor, gap.broken⟩
  | steps + 1, acc, gap, cursor =>
      if cursor.atDocumentMark || cursor.next (· = '#') then some ⟨acc, cursor, gap.broken⟩
      else
        match readPlainChars inFlow cursor.rest with
        | none => none
        | some chars =>
            let acc := if chars.isEmpty then acc else acc ++ gap.text ++ chars
            let gap := if chars.isEmpty then gap else ⟨[], [], [], false⟩
            let cursor := cursor.skip chars.length
            if !(cursor.next isBlank || cursor.next isBreak) then some ⟨acc, cursor, gap.broken⟩
            else
              match readGap (some indent) (cursor.rest.length + 1) gap cursor with
              | none => none
              | some (gap, cursor) =>
                  if !inFlow && (cursor.column : Int) < indent then
                    some ⟨acc, cursor, gap.broken⟩
                  else readPlain inFlow indent steps acc gap cursor

/-! ## Quoted scalars -/

/-- The characters of the escapes of one letter. -/
def escapes : List (Char × Char) :=
  [('0', '\x00'), ('a', '\x07'), ('b', '\x08'), ('t', '\t'), ('\t', '\t'), ('n', '\n'),
    ('v', '\x0b'), ('f', '\x0c'), ('r', '\r'), ('e', '\x1b'), (' ', ' '), ('\x22', '\x22'),
    ('/', '/'), ('\\', '\\'), ('N', '\x85'), ('_', '\u00a0'), ('L', '\u2028'), ('P', '\u2029')]

/-- How many hexadecimal digits follow the letter of an escape. -/
def codeLength? (c : Char) : Option Nat :=
  if c = 'x' then some 2 else if c = 'u' then some 4 else if c = 'U' then some 8 else none

/-- The character of an escape after its backslash, and how long the escape is. -/
def readEscape? (s : List Char) : Option (Char × Nat) :=
  match s with
  | [] => none
  | c :: rest =>
      match codeLength? c with
      | some length =>
          let digits := rest.take length
          let code := ofDigits 16 digits
          if digits.length = length && digits.all isHexDigit && code.isValidChar then
            some (Char.ofNat code, length + 1)
          else none
      | none => (escapes.lookup c).map fun d => (d, 1)

/-- Characters of a quoted scalar up to a blank, a line end or the closing quote, in front of which
`acc` was read.  The flag tells whether an escaped line break was the last of them. -/
def readQuotedChars (double : Bool) :
    Nat → List Char → Cursor → Option (List Char × Bool × Cursor)
  | 0, acc, cursor => some (acc, false, cursor)
  | steps + 1, acc, cursor =>
      match cursor.rest with
      | [] => some (acc, false, cursor)
      | c :: rest =>
          if isBlank c || isBreak c then some (acc, false, cursor)
          else if !double && c = '\x27' && rest.head? = some '\x27' then
            readQuotedChars double steps (acc ++ ['\x27']) (cursor.skip 2)
          else if c = (if double then '\x22' else '\x27') then some (acc, false, cursor)
          else if double && c = '\\' then
            if (rest.head?.map isBreak).getD false then
              some (acc, true, (cursor.skip 1).lineBreak.2)
            else
              match readEscape? rest with
              | none => none
              | some (d, length) =>
                  readQuotedChars double steps (acc ++ [d]) (cursor.skip (length + 1))
          else readQuotedChars double steps (acc ++ [c]) (cursor.skip 1)

/-- A quoted scalar after its opening quote, whose text so far is `acc`. -/
def readQuoted (double : Bool) : Nat → List Char → Cursor → Option ScannedScalar
  | 0, _, _ => none
  | steps + 1, acc, cursor =>
      if cursor.atDocumentMark || cursor.rest.isEmpty then none
      else
        match readQuotedChars double (cursor.rest.length + 1) acc cursor with
        | none => none
        | some (acc, escapedBreak, cursor) =>
            if cursor.next (· = if double then '\x22' else '\x27') then
              some ⟨acc, cursor.skip 1, false⟩
            else
              match readGap none (cursor.rest.length + 1) ⟨[], [], [], escapedBreak⟩ cursor with
              | none => none
              | some (gap, cursor) => readQuoted double steps (acc ++ gap.text) cursor

/-! ## Block scalars -/

/-- What becomes of the line breaks at the end of a block scalar. -/
inductive Chomping where
  | strip
  | clip
  | keep
  deriving DecidableEq

/-- The chomping that a sign asks for. -/
def chomping? (c : Char) : Option Chomping :=
  if c = '-' then some .strip else if c = '+' then some .keep else none

/-- The indentation that a digit asks for. -/
def indentDigit? (c : Char) : Option Nat :=
  if isDigit c && c ≠ '0' then digitValue? c else none

/-- The header of a block scalar: a chomping sign and an indentation digit in either order. -/
def readBlockHeader? (cursor : Cursor) : Option (Chomping × Option Nat × Cursor) :=
  let sign (cursor : Cursor) := cursor.head?.bind chomping?
  let digit (cursor : Cursor) := cursor.head?.bind indentDigit?
  let skipIf (found : Bool) (cursor : Cursor) := if found then cursor.skip 1 else cursor
  match sign cursor with
  | some chomping =>
      let cursor := cursor.skip 1
      let indent := digit cursor
      (skipIf indent.isSome cursor).skipLineEnd?.map fun cursor => (chomping, indent, cursor)
  | none =>
      let indent := digit cursor
      let cursor := skipIf indent.isSome cursor
      let chomping := if indent.isSome then sign cursor else none
      (skipIf chomping.isSome cursor).skipLineEnd?.map fun cursor =>
        (chomping.getD .clip, indent, cursor)

/-- Empty lines of a block scalar.  Without an indentation the widest of them is noted.  A tab in
the indentation is refused. -/
def readEmptyLines (indent : Option Nat) :
    Nat → Nat → List Char → Cursor → Option (Nat × List Char × Cursor)
  | 0, widest, breaks, cursor => some (widest, breaks, cursor)
  | steps + 1, widest, breaks, cursor =>
      let spaces := (cursor.rest.takeWhile (· = ' ')).length
      let cursor := cursor.skip (match indent with
        | none => spaces
        | some indent => min spaces (indent - cursor.column))
      let widest := max widest cursor.column
      if cursor.next (· = '\t') && (indent.map (decide <| cursor.column < ·)).getD true then none
      else if cursor.next isBreak then
        let (text, cursor) := cursor.lineBreak
        readEmptyLines indent steps widest (breaks ++ text) cursor
      else some (widest, breaks, cursor)

/-- The lines of a block scalar at its indentation.  `last` is the break after the last line,
`breaks` are the empty lines after it, and `blankLine` tells whether it starts with a blank. -/
def readBlockLines (literal : Bool) (chomping : Chomping) (indent : Nat) :
    Nat → List Char → List Char → List Char → Bool → Cursor → Option ScannedScalar
  | 0, acc, _, _, _, cursor => some ⟨acc, cursor, true⟩
  | steps + 1, acc, last, breaks, blankLine, cursor =>
      if cursor.column = indent && !cursor.rest.isEmpty then
        let blankNext := cursor.next isBlank
        let joint :=
          if !literal && last = ['\n'] && !blankLine && !blankNext then
            (if breaks.isEmpty then [' '] else breaks)
          else last ++ breaks
        let (chars, cursor) := cursor.takeWhile fun c => !isBreak c
        let (last, cursor) := cursor.lineBreak
        match readEmptyLines (some indent) (cursor.rest.length + 1) 0 [] cursor with
        | none => none
        | some (_, breaks, cursor) =>
            readBlockLines literal chomping indent steps (acc ++ joint ++ chars) last breaks
              blankNext cursor
      else
        some ⟨acc ++ (match chomping with
          | .strip => []
          | .clip => last
          | .keep => last ++ breaks), cursor, true⟩

/-- A block scalar after its mark, inside a block of indentation `parent`. -/
def readBlock (literal : Bool) (parent : Int) (cursor : Cursor) : Option ScannedScalar :=
  match readBlockHeader? cursor with
  | none => none
  | some (chomping, digit, cursor) =>
      let asked := digit.map fun n => (max parent 0).toNat + n
      match readEmptyLines asked (cursor.rest.length + 1) 0 [] cursor with
      | none => none
      | some (widest, breaks, cursor) =>
          let indent := asked.getD (max widest (max (parent + 1) 1).toNat)
          readBlockLines literal chomping indent (cursor.rest.length + 1) [] [] breaks false cursor

end Stencil.Yaml
