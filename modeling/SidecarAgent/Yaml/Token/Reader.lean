import SidecarAgent.Yaml.Token

/-!
# Reading YAML tokens

A text is cut into tokens.  Two things make that more than cutting.  Indentation opens and closes
blocks, so that the reader has to know the columns of the blocks that are open.  And a key is known
for a key only by the colon behind it, so that the reader remembers where a key may have begun and
puts the key's token there when the colon comes.

`tokens?` gives the tokens of a whole text, or nothing where the text cannot be cut.
-/

namespace SidecarAgent.Yaml

/-- A position in a text. -/
structure Mark where
  index : Nat := 0
  line : Nat := 0
  column : Nat := 0

/-- A place where a key may have begun: the number of its first token, and its position.  A required
key has to turn out to be one. -/
structure SimpleKey where
  possible : Bool := false
  required : Bool := false
  token : Nat := 0
  mark : Mark := {}

/-- A reader within a text: the rest of the text, the tokens so far, and what it has to remember. -/
structure TokenReader where
  rest : List Char
  mark : Mark := {}
  tokens : Array Token := #[]
  adjacentValueAt : Nat := 0
  keyAllowed : Bool := true
  innerKey : SimpleKey := {}
  outerKeys : List SimpleKey := []
  indent : Int := -1
  outerIndents : List Int := []
  flowLevel : Nat := 0

/-- A step of reading tokens, which may fail. -/
abbrev Reading (α : Type) := StateT TokenReader Option α

namespace TokenReader

/-- The character at a distance from the position. -/
def peek (s : TokenReader) (n : Nat) : Char := (s.rest[n]?).getD endMark

/-- A reader one character on. -/
def advance (s : TokenReader) : TokenReader :=
  let c := s.peek 0
  let mark :=
    if c = '\n' then { s.mark with index := s.mark.index + 1, line := s.mark.line + 1, column := 0 }
    else { s.mark with index := s.mark.index + 1, column := s.mark.column + 1 }
  { s with rest := s.rest.drop 1, mark := mark }

/-- A document indicator made of three of a character is at the position. -/
def atIndicatorOf (s : TokenReader) (c : Char) : Bool :=
  s.peek 0 = c && s.peek 1 = c && s.peek 2 = c && isBlankOrEnd (s.peek 3)

/-- A document indicator is at the position, which begins a line. -/
def atIndicator (s : TokenReader) : Bool :=
  s.mark.column = 0 && (s.atIndicatorOf '-' || s.atIndicatorOf '.')

end TokenReader

namespace Reading

/-! ## Moving -/

/-- Fails. -/
def fail {α : Type} : Reading α := fun _ => none

/-- Fails unless a condition holds. -/
def ensure (condition : Bool) : Reading Unit := if condition then pure () else fail

/-- The character at a distance from the position. -/
def peek (n : Nat) : Reading Char := do return (← get).peek n

/-- Moves one character on. -/
def skip : Reading Unit := modify TokenReader.advance

/-- Moves some characters on. -/
def skipMany : Nat → Reading Unit
  | 0 => pure ()
  | n + 1 => do skip; skipMany n

/-- A bound for the number of characters that are left. -/
def remaining : Reading Nat := do return (← get).rest.length + 1

/-- Takes characters, `steps` at most, as long as they pass a test. -/
def takeWithin (test : Char → Bool) : (steps : Nat) → Reading (List Char)
  | 0 => pure []
  | steps + 1 => do
    let c ← peek 0
    if test c then
      skip
      return c :: (← takeWithin test steps)
    else return []

/-- Takes characters as long as they pass a test. -/
def takeWhile (test : Char → Bool) : Reading (List Char) := do takeWithin test (← remaining)

/-- Skips a line break, of one character or of two. -/
def skipBreak : Reading Unit := do
  if (← peek 0) = '\r' && (← peek 1) = '\n' then skipMany 2
  else if isBreak (← peek 0) then skip

/-- Skips to the end of the line. -/
def skipLineRest : Reading Unit := do
  let _ ← takeWhile fun c => !isBreakOrEnd c

/-- Skips blanks and a comment behind them. -/
def skipBlanksAndComment : Reading Unit := do
  let _ ← takeWhile isBlank
  if (← peek 0) = '#' then skipLineRest

/-! ## Keys and indentation -/

/-- Appends a token. -/
def emit (t : Token) : Reading Unit := modify fun s => { s with tokens := s.tokens.push t }

/-- Allows or forbids a key to begin. -/
def allowKey (allowed : Bool) : Reading Unit := modify fun s => { s with keyAllowed := allowed }

/-- Gives up the key that may have begun at this level. -/
def removeKey : Reading Unit := do
  let s ← get
  ensure (!(s.innerKey.possible && s.innerKey.required))
  set { s with innerKey := { s.innerKey with possible := false } }

/-- Remembers that a key may begin here, if it may. -/
def saveKey : Reading Unit := do
  let s ← get
  if s.keyAllowed then
    removeKey
    let required := s.flowLevel > 0 && s.indent = Int.ofNat s.mark.column
    modify fun t => { t with innerKey := ⟨true, required, s.tokens.size, s.mark⟩ }

/-- A key that began on an earlier line, or more than 1024 characters ago, is none. -/
def expire (now : Mark) (k : SimpleKey) : Option SimpleKey :=
  if k.possible && (k.mark.line < now.line || k.mark.index + 1024 < now.index) then
    if k.required then none else some { k with possible := false }
  else some k

/-- Gives up the keys that can no longer be one. -/
def expireKeys : Reading Unit := do
  let s ← get
  match expire s.mark s.innerKey, s.outerKeys.mapM (expire s.mark) with
  | some inner, some outer => set { s with innerKey := inner, outerKeys := outer }
  | _, _ => fail

/-- Opens a block at a column if it lies deeper than the block around it, with the token that starts
the block at a place among the tokens. -/
def openBlock (column : Nat) (place : Nat) (start : Token) : Reading Unit :=
  modify fun s =>
    if s.flowLevel = 0 && s.indent < Int.ofNat column then
      { s with
        tokens := s.tokens.insertIdxIfInBounds place start
        indent := Int.ofNat column
        outerIndents := s.indent :: s.outerIndents }
    else s

/-- Opens a block here if it lies deeper than the block around it. -/
def openBlockHere (start : Token) : Reading Unit := do
  let s ← get
  openBlock s.mark.column s.tokens.size start

/-- The ends of the blocks that lie deeper than a column. -/
def closing (column : Int) : (indent : Int) → List Int → Nat × Int × List Int
  | indent, [] => (0, indent, [])
  | indent, outer :: rest =>
    if column < indent then
      let (n, i, r) := closing column outer rest
      (n + 1, i, r)
    else (0, indent, outer :: rest)

/-- Closes the blocks that lie deeper than a column. -/
def closeBlocks (column : Int) : Reading Unit :=
  modify fun s =>
    if s.flowLevel = 0 then
      let (n, indent, outer) := closing column s.indent s.outerIndents
      { s with
        tokens := s.tokens ++ Array.replicate n Token.blockEnd
        indent := indent
        outerIndents := outer }
    else s

/-! ## Between tokens -/

/-- Skips blanks, comments and line breaks, in `steps` steps at most. -/
def skipToTokenWithin : (steps : Nat) → Reading Unit
  | 0 => pure ()
  | steps + 1 => do
    let s ← get
    let c := s.peek 0
    if c = ' ' || (c = '\t' && (s.flowLevel > 0 || !s.keyAllowed)) then
      skip
      skipToTokenWithin steps
    else if isBreak c then
      skipBreak
      if s.flowLevel = 0 then allowKey true
      skipToTokenWithin steps
    else if c = '#' then
      skipLineRest
      skipToTokenWithin steps
    else pure ()

/-! ## Directives and tags -/

/-- Reads the number of a version. -/
def versionNumber : Reading Unit := do
  let ds ← takeWhile Char.isDigit
  ensure (!ds.isEmpty && ds.length ≤ 9)

/-- Reads an octet that is written in hexadecimal behind a percent sign. -/
def escapedOctet : Reading Nat := do
  ensure ((← peek 0) = '%')
  match hexValue? (← peek 1), hexValue? (← peek 2) with
  | some a, some b =>
    skipMany 3
    return 16 * a + b
  | _, _ => fail

/-- Reads the octets of a character behind its first, and adds them up. -/
def moreOctets : Nat → Nat → Reading Nat
  | 0, code => return code
  | n + 1, code => do
    let octet ← escapedOctet
    ensure (octet / 64 = 2)
    moreOctets n (256 * code + octet)

/-- Reads a character that is written in octets. -/
def escapedChar : Reading Char := do
  let octet ← escapedOctet
  let more ←
    if octet < 128 then pure 0
    else if octet / 32 = 6 then pure 1
    else if octet / 16 = 14 then pure 2
    else if octet / 8 = 30 then pure 3
    else fail
  match charOf? (← moreOctets more octet) with
  | some c => return c
  | none => fail

/-- Reads the characters of a tag's URI. -/
def tagUriWithin : (steps : Nat) → Reading (List Char)
  | 0 => pure []
  | steps + 1 => do
    let c ← peek 0
    if isTagChar c then
      let c ← if c = '%' then escapedChar else do skip; pure c
      return c :: (← tagUriWithin steps)
    else return []

/-- Reads the URI of a tag behind what is already known of it, the exclamation mark at its head left
out.  It must not be empty altogether. -/
def tagUri (head : List Char) : Reading (List Char) := do
  let cs ← tagUriWithin (← remaining)
  ensure (!(head.isEmpty && cs.isEmpty))
  return head.drop 1 ++ cs

/-- Reads the handle of a tag.  That of a directive has to be complete. -/
def tagHandle (complete : Bool) : Reading (List Char) := do
  ensure ((← peek 0) = '!')
  skip
  let word ← takeWhile isWordChar
  if (← peek 0) = '!' then
    skip
    return '!' :: word ++ ['!']
  else
    ensure (!(complete && !word.isEmpty))
    return '!' :: word

/-- Reads a directive, of which nothing but its form matters. -/
def directive : Reading Unit := do
  skip
  let name ← takeWhile isWordChar
  ensure (!name.isEmpty && isBlankOrEnd (← peek 0))
  if name = "YAML".toList then
    let _ ← takeWhile isBlank
    versionNumber
    ensure ((← peek 0) = '.')
    skip
    versionNumber
  else if name = "TAG".toList then
    let _ ← takeWhile isBlank
    let _ ← tagHandle true
    let _ ← takeWhile isBlank
    let _ ← tagUri []
    ensure (isBlankOrEnd (← peek 0))
  else skipLineRest
  skipBlanksAndComment
  ensure (isBreakOrEnd (← peek 0))
  skipBreak

/-- Reads a tag. -/
def tag : Reading Token := do
  let token ←
    if (← peek 1) = '<' then
      skipMany 2
      let suffix ← tagUri []
      ensure ((← peek 0) = '>')
      skip
      pure (Token.tag "" (String.ofList suffix))
    else
      let handle ← tagHandle false
      if handle.length ≥ 2 && handle.getLast? = some '!' then
        let suffix ← tagUri []
        pure (Token.tag (String.ofList handle) (String.ofList suffix))
      else
        let suffix ← tagUri handle
        pure (if suffix.isEmpty then Token.tag "" "!" else Token.tag "!" (String.ofList suffix))
  ensure (isBlankOrEnd (← peek 0))
  return token

/-- Reads the name of an anchor or an alias. -/
def anchorName : Reading String := do
  skip
  let name ← takeWhile isWordChar
  let c ← peek 0
  ensure (!name.isEmpty && (isBlankOrEnd c || "?:,]\x7d%@\x60".toList.contains c))
  return String.ofList name

/-! ## Scalars -/

/-- A scalar while it is read: its text, the last character first, and the blanks and line breaks
that stand between it and the next word.  A single line break becomes a space, and of several the
first is left out. -/
structure Folding where
  text : List Char := []
  blanks : List Char := []
  firstBreak : Bool := false
  moreBreaks : List Char := []
  onNewLine : Bool := false

namespace Folding

/-- A scalar with one more character. -/
def push (f : Folding) (c : Char) : Folding := { f with text := c :: f.text }

/-- A scalar with one more line break between words. -/
def addBreak (f : Folding) : Folding :=
  if f.onNewLine then { f with moreBreaks := '\n' :: f.moreBreaks }
  else { f with blanks := [], firstBreak := true, onNewLine := true }

/-- What stands between two words, folded into the text. -/
def join (f : Folding) : Folding :=
  if f.onNewLine then
    let between := if f.firstBreak && f.moreBreaks.isEmpty then [' '] else f.moreBreaks
    { text := between ++ f.text }
  else { f with text := f.blanks ++ f.text, blanks := [] }

/-- The text of a scalar that is complete. -/
def result (f : Folding) : String := String.ofList f.text.reverse

end Folding

/-- A word of a plain scalar ends before this character. -/
def plainWordEnds (s : TokenReader) : Bool :=
  let c := s.peek 0
  let next := s.peek 1
  isBlankOrEnd c
    || (c = ':' && (isBlankOrEnd next || (s.flowLevel > 0 && isFlowMark next)))
    || (s.flowLevel > 0 && isFlowMark c)

/-- Reads a word of a plain scalar. -/
def plainWord : (steps : Nat) → Folding → Reading Folding
  | 0, f => return f
  | steps + 1, f => do
    let s ← get
    if plainWordEnds s then return f
    else
      let f := if f.onNewLine || !f.blanks.isEmpty then f.join else f
      skip
      plainWord steps (f.push (s.peek 0))

/-- Reads what stands between two words of a plain scalar. -/
def plainGap : (steps : Nat) → Folding → Reading Folding
  | 0, f => return f
  | steps + 1, f => do
    let s ← get
    let c := s.peek 0
    if isBlank c then
      ensure (!(f.onNewLine && Int.ofNat s.mark.column < s.indent + 1 && c = '\t'))
      skip
      plainGap steps (if f.onNewLine then f else { f with blanks := c :: f.blanks })
    else if isBreak c then
      skipBreak
      plainGap steps f.addBreak
    else return f

/-- Reads the words of a plain scalar. -/
def plainWords : (steps : Nat) → Folding → Reading Folding
  | 0, f => return f
  | steps + 1, f => do
    let s ← get
    if s.atIndicator || s.peek 0 = '#' then return f
    else
      let f ← plainWord (← remaining) f
      let c ← peek 0
      if isBlank c || isBreak c then
        let f ← plainGap (← remaining) f
        let s ← get
        if s.flowLevel = 0 && Int.ofNat s.mark.column < s.indent + 1 then return f
        else plainWords steps f
      else return f

/-- Reads a plain scalar. -/
def plainScalar : Reading Token := do
  let f ← plainWords (← remaining) {}
  if f.onNewLine then allowKey true
  return .scalar true f.result

/-- The character that a one-letter escape stands for. -/
def escape? (c : Char) : Option Char :=
  match c with
  | '0' => some '\x00'
  | 'a' => some '\x07'
  | 'b' => some '\x08'
  | 't' | '\t' => some '\t'
  | 'n' => some '\n'
  | 'v' => some '\x0b'
  | 'f' => some '\x0c'
  | 'r' => some '\r'
  | 'e' => some '\x1b'
  | ' ' => some ' '
  | '"' => some '"'
  | '\'' => some '\''
  | '\\' => some '\\'
  | 'N' => some '\u0085'
  | '_' => some '\u00a0'
  | 'L' => some '\u2028'
  | 'P' => some '\u2029'
  | _ => none

/-- The number of digits behind an escape that names a character by number. -/
def escapeDigits? (c : Char) : Option Nat :=
  match c with
  | 'x' => some 2
  | 'u' => some 4
  | 'U' => some 8
  | _ => none

/-- Reads hexadecimal digits. -/
def hexDigits : Nat → Nat → Reading Nat
  | 0, value => return value
  | n + 1, value => do
    match hexValue? (← peek 0) with
    | some d =>
      skip
      hexDigits n (16 * value + d)
    | none => fail

/-- Reads an escape sequence. -/
def escapeSequence : Reading Char := do
  let c ← peek 1
  match escape? c, escapeDigits? c with
  | some e, _ =>
    skipMany 2
    return e
  | none, some n =>
    skipMany 2
    match charOf? (← hexDigits n 0) with
    | some e => return e
    | none => fail
  | none, none => fail

/-- Reads a word of a quoted scalar. -/
def quotedWord (single : Bool) : (steps : Nat) → Folding → Reading Folding
  | 0, f => return f
  | steps + 1, f => do
    let c ← peek 0
    let next ← peek 1
    if isBlankOrEnd c then return f
    else if single && c = '\'' && next = '\'' then
      skipMany 2
      quotedWord single steps (f.push '\'')
    else if c = (if single then '\'' else '"') then return f
    else if !single && c = '\\' && isBreak next then
      skip
      skipBreak
      return { f with onNewLine := true }
    else if !single && c = '\\' then
      let e ← escapeSequence
      quotedWord single steps (f.push e)
    else
      skip
      quotedWord single steps (f.push c)

/-- Reads what stands between two words of a quoted scalar. -/
def quotedGap : (steps : Nat) → Folding → Reading Folding
  | 0, f => return f
  | steps + 1, f => do
    let c ← peek 0
    if isBlank c then
      skip
      quotedGap steps (if f.onNewLine then f else { f with blanks := c :: f.blanks })
    else if isBreak c then
      skipBreak
      quotedGap steps f.addBreak
    else return f

/-- Reads the words of a quoted scalar. -/
def quotedWords (single : Bool) : (steps : Nat) → Folding → Reading Folding
  | 0, _ => fail
  | steps + 1, f => do
    let s ← get
    ensure (!s.atIndicator && s.peek 0 ≠ endMark)
    let f ← quotedWord single (← remaining) f
    if (← peek 0) = (if single then '\'' else '"') then return f
    else
      let f ← quotedGap (← remaining) f
      quotedWords single steps f.join

/-- Reads a quoted scalar. -/
def quotedScalar (single : Bool) : Reading Token := do
  skip
  let f ← quotedWords single (← remaining) {}
  skip
  return .scalar false f.result

/-- Which line breaks at the end of a block scalar are kept: none, the first, or all. -/
inductive Chomping where
  | strip
  | clip
  | keep
  deriving DecidableEq

/-- Reads the sign that says which line breaks are kept. -/
def chomping? (c : Char) : Option Chomping :=
  if c = '+' then some .keep else if c = '-' then some .strip else none

/-- Reads the digit that says how far a block scalar is indented. -/
def indentDigit : Reading Nat := do
  let c ← peek 0
  if c.isDigit then
    ensure (c ≠ '0')
    skip
    return c.toNat - '0'.toNat
  else return 0

/-- Reads the header of a block scalar. -/
def blockHeader : Reading (Chomping × Nat) := do
  skip
  match chomping? (← peek 0) with
  | some chomping =>
    skip
    return (chomping, ← indentDigit)
  | none =>
    let increment ← indentDigit
    let c ← peek 0
    match (if increment > 0 then chomping? c else none) with
    | some chomping =>
      skip
      return (chomping, increment)
    | none => return (.clip, increment)

/-- Skips indentation and empty lines, up to a column if one is given.  Gives the line breaks and
the greatest column that was reached. -/
def blockBreaks (indent : Nat) : (steps : Nat) → List Char → Nat → Reading (List Char × Nat)
  | 0, breaks, deepest => return (breaks, deepest)
  | steps + 1, breaks, deepest => do
    let s ← get
    let c := s.peek 0
    let inside := indent = 0 || s.mark.column < indent
    if inside && c = ' ' then
      skip
      blockBreaks indent steps breaks deepest
    else
      let deepest := max deepest s.mark.column
      ensure (!(inside && c = '\t'))
      if isBreak c then
        skipBreak
        blockBreaks indent steps ('\n' :: breaks) deepest
      else return (breaks, deepest)

/-- A block scalar while it is read, the last character first. -/
structure BlockText where
  text : List Char := []
  lineBreak : List Char := []
  emptyLines : List Char := []
  blankLine : Bool := false

/-- Reads the lines of a block scalar. -/
def blockLines (literal : Bool) (indent : Nat) : (steps : Nat) → BlockText → Reading BlockText
  | 0, b => return b
  | steps + 1, b => do
    let s ← get
    if s.mark.column = indent && s.peek 0 ≠ endMark then
      let blank := isBlank (s.peek 0)
      let folded := !literal && !b.lineBreak.isEmpty && !b.blankLine && !blank
      let between :=
        if folded then (if b.emptyLines.isEmpty then [' '] else [])
        else b.lineBreak
      let line ← takeWhile fun c => !isBreakOrEnd c
      let text := line.reverse ++ (b.emptyLines ++ (between ++ b.text))
      let s ← get
      if s.peek 0 = endMark then
        return { text := text, blankLine := blank }
      else
        skipBreak
        let (breaks, _) ← blockBreaks indent (← remaining) [] 0
        blockLines literal indent steps
          { text := text, lineBreak := ['\n'], emptyLines := breaks, blankLine := blank }
    else return b

/-- Reads a block scalar. -/
def blockScalar (literal : Bool) : Reading Token := do
  let (chomping, increment) ← blockHeader
  skipBlanksAndComment
  ensure (isBreakOrEnd (← peek 0))
  skipBreak
  let outer := (← get).indent
  let given :=
    if increment = 0 then 0
    else if outer ≥ 0 then outer.toNat + increment
    else increment
  let (breaks, deepest) ← blockBreaks given (← remaining) [] 0
  let indent := if given = 0 then max (max deepest (outer + 1).toNat) 1 else given
  let b ← blockLines literal indent (← remaining) { emptyLines := breaks }
  let text := if chomping = .strip then b.text else b.lineBreak ++ b.text
  let text := if chomping = .keep then b.emptyLines ++ text else text
  return .scalar false (String.ofList text.reverse)

/-! ## Tokens -/

/-- Ends the stream. -/
def streamEnd : Reading Unit := do
  modify fun s =>
    if s.mark.column = 0 then s
    else { s with mark := { s.mark with line := s.mark.line + 1, column := 0 } }
  closeBlocks (-1)
  removeKey
  allowKey false
  emit .streamEnd

/-- Ends all blocks before something that concerns the whole document. -/
def leaveDocument : Reading Unit := do
  closeBlocks (-1)
  removeKey
  allowKey false

/-- Reads a token that may be a key. -/
def possibleKey (token : Reading Token) : Reading Unit := do
  saveKey
  allowKey false
  emit (← token)

/-- Begins a flow collection. -/
def flowStart (token : Token) : Reading Unit := do
  saveKey
  ensure ((← get).flowLevel < 255)
  modify fun s => { s with
    outerKeys := s.innerKey :: s.outerKeys
    innerKey := {}
    flowLevel := s.flowLevel + 1 }
  allowKey true
  skip
  emit token

/-- Ends a flow collection. -/
def flowEnd (token : Token) : Reading Unit := do
  removeKey
  modify fun s =>
    match s.flowLevel, s.outerKeys with
    | level + 1, k :: ks => { s with flowLevel := level, innerKey := k, outerKeys := ks }
    | _, _ => s
  allowKey false
  skip
  emit token

/-- Goes on to the next entry of a flow collection. -/
def flowEntry : Reading Unit := do
  removeKey
  allowKey true
  skip
  emit .flowEntry

/-- Goes on to the next entry of a block sequence. -/
def blockEntry : Reading Unit := do
  let s ← get
  ensure (s.flowLevel = 0 && s.keyAllowed)
  openBlockHere .blockSequenceStart
  removeKey
  allowKey true
  skip
  emit .blockEntry

/-- Reads the sign of a key that may take any form. -/
def explicitKey : Reading Unit := do
  let s ← get
  if s.flowLevel = 0 then
    ensure s.keyAllowed
    openBlockHere .blockMappingStart
  removeKey
  allowKey (s.flowLevel = 0)
  skip
  emit .key

/-- Reads the sign between a key and its value.  What began as a possible key is one now. -/
def valueSign : Reading Unit := do
  let s ← get
  let k := s.innerKey
  if k.possible then
    set { s with
      tokens := s.tokens.insertIdxIfInBounds k.token .key
      innerKey := { k with possible := false } }
    openBlock k.mark.column k.token .blockMappingStart
    allowKey false
  else
    if s.flowLevel = 0 then
      ensure s.keyAllowed
      openBlockHere .blockMappingStart
    allowKey (s.flowLevel = 0)
  skip
  emit .value

/-- Reads a scalar in quotes, behind which a value may follow without a blank. -/
def quotedKey (single : Bool) : Reading Unit := do
  saveKey
  allowKey false
  let token ← quotedScalar single
  modify fun s => { s with adjacentValueAt := s.mark.index }
  emit token

/-- Reads a scalar in a block of its own. -/
def blockText (literal : Bool) : Reading Unit := do
  saveKey
  allowKey true
  emit (← blockScalar literal)

/-- A colon is the sign of a value, and not part of a scalar. -/
def isValueSign (s : TokenReader) : Bool :=
  let next := s.peek 1
  isBlankOrEnd next
    || (s.flowLevel > 0 && (isFlowMark next || s.mark.index = s.adjacentValueAt))

/-- Reads the next token, and says whether there is another one. -/
def nextToken : Reading Bool := do
  skipToTokenWithin (← remaining)
  expireKeys
  closeBlocks (Int.ofNat (← get).mark.column)
  let s ← get
  let c := s.peek 0
  let next := s.peek 1
  if c = endMark then
    streamEnd
    return false
  if s.mark.column = 0 && c = '%' then
    leaveDocument
    directive
    emit .directive
  else if s.atIndicator then
    leaveDocument
    skipMany 3
    emit (if c = '-' then .documentStart else .documentEnd)
  else if c = '[' then flowStart .flowSequenceStart
  else if c = '\x7b' then flowStart .flowMappingStart
  else if c = ']' then flowEnd .flowSequenceEnd
  else if c = '\x7d' then flowEnd .flowMappingEnd
  else if c = ',' then flowEntry
  else if c = '-' && isBlankOrEnd next then blockEntry
  else if c = '?' && isBlankOrEnd next then explicitKey
  else if c = ':' && isValueSign s then valueSign
  else if c = '*' then possibleKey do return .alias (← anchorName)
  else if c = '&' then possibleKey do return .anchor (← anchorName)
  else if c = '!' then possibleKey tag
  else if c = '|' && s.flowLevel = 0 then blockText true
  else if c = '>' && s.flowLevel = 0 then blockText false
  else if c = '\'' then quotedKey true
  else if c = '"' then quotedKey false
  else
    ensure (c ≠ '%' && c ≠ '@' && c ≠ '\x60')
    possibleKey plainScalar
  return true

/-- Reads the tokens, `steps` at most, up to the end of the stream. -/
def allTokens : (steps : Nat) → Reading Unit
  | 0 => fail
  | steps + 1 => do
    if ← nextToken then allTokens steps

end Reading

/-- The tokens of a text.  Every token but the last takes a character, so the length of the text
bounds their number. -/
def tokens? (text : String) : Option (List Token) :=
  let cs := text.toList
  ((Reading.allTokens (cs.length + 2)).run { rest := cs }).map fun r => r.2.tokens.toList

end SidecarAgent.Yaml
