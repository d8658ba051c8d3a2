import KernelCalls.Calendar
import KernelCalls.Text.Numeral

namespace KernelCalls.Yaml

/-!
# YAML tokens

The tokens of a YAML text. Indentation is turned into tokens that open and close blocks, and the
place of a key is found when the colon after it is met. Anchors, tags and block scalars are not
taken.

* `Error` : why a text has no value
* `Token` : the tokens
* `Cursor` : a place in the text, with its line and column
* `Scanner` : what is known between two tokens, `Scanner.next` : the next token
* `Tokens` : the tokens up to the end of a text or an error in it, `tokens` : those of a text
-/

/-- Why a text has no value. -/
inductive Error where
  /-- The text is not well formed. -/
  | malformed
  /-- A number cannot be read. -/
  | number (e : Text.NumberError)
  /-- A part of a number in base sixty is too far from its end. -/
  | beyondFloat
  /-- A date or a time does not exist. -/
  | calendar (e : CalendarError)
  /-- An escape is not the number of a code point. -/
  | notCodePoint (n : Nat)
  deriving DecidableEq, Repr

/-- The text that reports the error. -/
def Error.message : Error → String
  | .malformed => "malformed YAML"
  | .number e => e.message
  | .beyondFloat => "int too large to convert to float"
  | .calendar e => e.message
  | .notCodePoint n =>
    if n < 0x80000000 then "chr() arg not in range(0x110000)"
    else "Python int too large to convert to C int"

/-- The text is not well formed. -/
def malformed {α : Type} : Except Error α := .error .malformed

/-- A token. -/
inductive Token where
  | documentStart
  | documentEnd
  /-- Opens a list by indentation. -/
  | sequenceStart
  /-- Opens a mapping by indentation. -/
  | mappingStart
  /-- Ends what indentation opened. -/
  | blockEnd
  | listOpen
  | listClose
  | mapOpen
  | mapClose
  | comma
  | item
  | key
  | value
  /-- A text without quotes. -/
  | plain (cs : List Char)
  /-- A text in quotes. -/
  | quoted (t : Text)
  deriving DecidableEq, Repr

/-! ### Places in the text -/

/-- What is left of a text, and where it begins. -/
structure Cursor where
  rest : List Char
  line : Nat
  column : Nat
  index : Nat
  deriving Repr

/-- The character ends a line. -/
def isBreak (c : Char) : Bool :=
  c == '\n' || c == '\r' || c.toNat == 0x85 || c.toNat == 0x2028 || c.toNat == 0x2029

/-- There is nothing, a blank or the end of a line. -/
def isGap : Option Char → Bool
  | none => true
  | some c => c == ' ' || c == '\t' || isBreak c

namespace Cursor

/-- The beginning of a text; a byte order mark in front of it is passed over. -/
def start : List Char → Cursor
  | c :: rest => if c.toNat = 0xfeff then ⟨rest, 0, 0, 1⟩ else ⟨c :: rest, 0, 0, 0⟩
  | [] => ⟨[], 0, 0, 0⟩

/-- The character so many places further on. -/
def peek (c : Cursor) (n : Nat) : Option Char := c.rest[n]?

/-- One character further on. A byte order mark takes no column. -/
def advance (c : Cursor) : Cursor :=
  match c.rest with
  | [] => c
  | '\r' :: '\n' :: rest => ⟨'\n' :: rest, c.line, c.column, c.index + 1⟩
  | d :: rest =>
    if isBreak d then ⟨rest, c.line + 1, 0, c.index + 1⟩
    else if d.toNat = 0xfeff then ⟨rest, c.line, c.column, c.index + 1⟩
    else ⟨rest, c.line, c.column + 1, c.index + 1⟩

/-- So many characters further on. -/
def advanceBy : Nat → Cursor → Cursor
  | 0, c => c
  | n + 1, c => advanceBy n c.advance

/-- Past the characters of a kind at the head. -/
def skip (p : Char → Bool) (c : Cursor) : Cursor := advanceBy (c.rest.takeWhile p).length c

/-- Past the end of a line, with what it counts as in a folded text; a line feed and a carriage
return before it are one end. -/
def takeBreak (c : Cursor) : Option (Char × Cursor) :=
  match c.rest with
  | '\r' :: '\n' :: _ => some ('\n', c.advance.advance)
  | d :: _ =>
    if isBreak d then
      some (if d.toNat = 0x2028 ∨ d.toNat = 0x2029 then d else '\n', c.advance)
    else none
  | [] => none

/-- A line of three dashes or dots begins here. -/
def atMarker (c : Cursor) (mark : Char) : Bool :=
  c.rest.take 3 == [mark, mark, mark] && isGap (c.peek 3)

/-- A document begins or ends here. -/
def atDocumentLine (c : Cursor) : Bool := c.atMarker '-' || c.atMarker '.'

end Cursor

/-! ### Texts in quotes -/

/-- Past blank lines inside quotes, with the ends of lines that were met. -/
def quotedBreaks : Nat → Cursor → Except Error (List Char × Cursor)
  | 0, _ => malformed
  | fuel + 1, c =>
    if c.atDocumentLine then malformed
    else
      let c := c.skip fun d => d == ' ' || d == '\t'
      match c.takeBreak with
      | none => .ok ([], c)
      | some (b, c) => (quotedBreaks fuel c).map fun r => (b :: r.1, r.2)

/-- What stands for an end of line and the blank lines after it: a single one is a space. -/
def folded (first : Char) (more : List Char) : List Char :=
  if first ≠ '\n' then first :: more else if more.isEmpty then [' '] else more

/-- The character that a letter after a backslash stands for. -/
def simpleEscape? : Char → Option Char
  | '0' => some '\x00'
  | 'a' => some '\x07'
  | 'b' => some '\x08'
  | 't' => some '\t'
  | '\t' => some '\t'
  | 'n' => some '\n'
  | 'v' => some '\x0b'
  | 'f' => some '\x0c'
  | 'r' => some '\r'
  | 'e' => some '\x1b'
  | ' ' => some ' '
  | '"' => some '"'
  | '/' => some '/'
  | '\\' => some '\\'
  | 'N' => some '\u0085'
  | '_' => some '\u00a0'
  | 'L' => some '\u2028'
  | 'P' => some '\u2029'
  | _ => none

/-- How many hexadecimal digits follow a letter after a backslash. -/
def escapeLength? : Char → Option Nat
  | 'x' => some 2
  | 'u' => some 4
  | 'U' => some 8
  | _ => none

/-- The code point with a number in hexadecimal digits. -/
def readCode (digits : List Char) : Except Error CodePoint :=
  match digits.mapM Text.hexDigit? with
  | none => malformed
  | some values =>
    let n := Text.ofDigitValues 16 values
    match CodePoint.ofNumber? n with
    | some c => .ok c
    | none => .error (.notCodePoint n)

/-- What an escape stands for, from its letter on. -/
def quotedEscape (fuel : Nat) (c : Cursor) : Except Error (Text × Cursor) :=
  match c.rest with
  | [] => malformed
  | letter :: rest =>
    match simpleEscape? letter, escapeLength? letter with
    | some d, _ => .ok ([.char d], c.advance)
    | none, some n =>
      let digits := rest.take n
      if digits.length = n then (readCode digits).map fun d => ([d], c.advanceBy (n + 1))
      else malformed
    | none, none =>
      match c.takeBreak with
      | some (_, c) => (quotedBreaks fuel c).map fun r => (r.1.map CodePoint.char, r.2)
      | none => malformed

/-- The text up to the closing quote, and the place after it. -/
def quotedText (double : Bool) : Nat → Cursor → Except Error (Text × Cursor)
  | 0, _ => malformed
  | fuel + 1, c =>
    match c.rest with
    | [] => malformed
    | d :: rest => do
      if d = (if double then '"' else '\'') then
        if !double && rest.head? == some '\'' then
          let (more, c) ← quotedText double fuel (c.advanceBy 2)
          return (.char '\'' :: more, c)
        else return ([], c.advance)
      else if double && d == '\\' then
        let (t, c) ← quotedEscape fuel c.advance
        let (more, c) ← quotedText double fuel c
        return (t ++ more, c)
      else if d = ' ' ∨ d = '\t' ∨ isBreak d then
        let blank := fun e : Char => e == ' ' || e == '\t'
        let blanks := c.rest.takeWhile blank
        let c := c.skip blank
        match c.takeBreak with
        | none =>
          let (more, c) ← quotedText double fuel c
          return (blanks.map CodePoint.char ++ more, c)
        | some (b, c) =>
          let (breaks, c) ← quotedBreaks fuel c
          let (more, c) ← quotedText double fuel c
          return ((folded b breaks).map CodePoint.char ++ more, c)
      else
        let (more, c) ← quotedText double fuel c.advance
        return (.char d :: more, c)

/-! ### Texts without quotes -/

/-- Commas and brackets. -/
def isFlowMark (c : Char) : Bool := [',', '[', ']', '\x7b', '\x7d'].contains c

/-- Characters that a text without quotes does not begin with. -/
def isIndicator (c : Char) : Bool :=
  isFlowMark c || ['#', '&', '*', '!', '|', '>', '\'', '"', '%', '@', '\x60'].contains c

/-- A character at which a text without quotes ends; inside brackets there are more of them. -/
def endsPlain (inFlow : Bool) (c : Char) (next : Option Char) : Bool :=
  isGap (some c) || (c == ':' && (isGap next || (inFlow && next.any isFlowMark))) ||
    (inFlow && (isFlowMark c || c == '?'))

/-- The characters of one stretch without blanks. -/
def plainStretch (inFlow : Bool) : List Char → List Char
  | [] => []
  | c :: rest => if endsPlain inFlow c rest.head? then [] else c :: plainStretch inFlow rest

/-- Past blank lines after a stretch, with the ends of lines that were met. A document line ends the
text. -/
def plainBreaks : Nat → Cursor → Option (List Char) × Cursor
  | 0, c => (none, c)
  | fuel + 1, c =>
    if c.atDocumentLine then (none, c)
    else
      let c := c.skip (· == ' ')
      match c.takeBreak with
      | none => (some [], c)
      | some (b, c) =>
        let (more, c) := plainBreaks fuel c
        (more.map (b :: ·), c)

/-- What stands between two stretches: the blanks, or what the ends of lines count as. Also whether
a line ended, and nothing if the text cannot go on. -/
def plainGap (fuel : Nat) (c : Cursor) : List Char × Bool × Cursor :=
  let blanks := c.rest.takeWhile (· == ' ')
  let c := c.skip (· == ' ')
  match c.takeBreak with
  | none => (blanks, false, c)
  | some (b, c) =>
    match plainBreaks fuel c with
    | (none, c) => ([], true, c)
    | (some breaks, c) => (folded b breaks, true, c)

/-- A text without quotes that is indented by at least `indent`, and whether a line ended after its
last stretch. -/
def plainText (inFlow : Bool) (indent : Int) : Nat → List Char → Cursor → List Char × Bool × Cursor
  | 0, _, c => ([], false, c)
  | fuel + 1, gap, c =>
    let stretch := plainStretch inFlow c.rest
    if stretch.isEmpty || c.peek 0 == some '#' then ([], false, c)
    else
      let (next, lineEnded, after) := plainGap fuel (c.advanceBy stretch.length)
      if next.isEmpty || after.peek 0 == some '#' || (!inFlow && after.column < indent) then
        (gap ++ stretch, lineEnded, after)
      else
        let (more, moreEnded, last) := plainText inFlow indent fuel next after
        (gap ++ stretch ++ more, if more.isEmpty then lineEnded else moreEnded, last)

/-- A text without quotes may begin here. -/
def startsPlain (inFlow : Bool) (c : Cursor) : Bool :=
  match c.peek 0 with
  | none => false
  | some d =>
    if ['-', '?', ':'].contains d then !isGap (c.peek 1) && (d == '-' || !inFlow)
    else !(isGap (some d) || isIndicator d)

/-! ### The scanner -/

/-- A place where a key may have begun: what begins there is a key if a colon follows it on its
line. -/
structure KeyCandidate where
  line : Nat
  column : Nat
  index : Nat
  /-- How many tokens precede it. -/
  place : Nat
  /-- Nothing but a key can begin there. -/
  required : Bool
  deriving Repr

/-- The longest text that can be a key. -/
def maxKeyLength : Nat := 1024

namespace KeyCandidate

/-- A key that began here can still end at a place. -/
def isOpenAt (k : KeyCandidate) (c : Cursor) : Bool :=
  k.line == c.line && c.index ≤ k.index + maxKeyLength

/-- No colon comes; a key that is required is missed. -/
def giveUp : Option KeyCandidate → Except Error (Option KeyCandidate)
  | some k => if k.required then malformed else .ok none
  | none => .ok none

/-- A candidate at a later place. -/
def review (c : Cursor) (k : Option KeyCandidate) : Except Error (Option KeyCandidate) :=
  if k.all (·.isOpenAt c) then .ok k else giveUp k

end KeyCandidate

/-- What is known between two tokens. -/
structure Scanner where
  cursor : Cursor
  /-- The column of the innermost open block. -/
  indent : Int
  /-- The columns of the blocks around it. -/
  outer : List Int
  /-- A key may begin here. -/
  keyAllowed : Bool
  /-- The last place between the same brackets where a key may have begun. -/
  candidate : Option KeyCandidate
  /-- The same for what is around each open bracket, the innermost first. -/
  suspended : List (Option KeyCandidate)
  read : Array Token
  deriving Repr

namespace Scanner

/-- The beginning of a text. -/
def start (cs : List Char) : Scanner := ⟨.start cs, -1, [], true, none, [], #[]⟩

/-- A bracket is open. -/
def inFlow (s : Scanner) : Bool := !s.suspended.isEmpty

/-- Adds a token, with whether a key may follow. -/
def push (s : Scanner) (t : Token) (keyAllowed : Bool) : Scanner :=
  { s with read := s.read.push t, keyAllowed }

/-- Past blanks, comments and ends of lines. Outside brackets a key may begin on a new line. -/
def skipGap : Nat → Scanner → Scanner
  | 0, s => s
  | fuel + 1, s =>
    let c := s.cursor.skip (· == ' ')
    let c := if c.peek 0 == some '#' then c.skip fun d => !isBreak d else c
    match c.takeBreak with
    | none => { s with cursor := c }
    | some (_, c) => skipGap fuel { s with cursor := c, keyAllowed := s.keyAllowed || !s.inFlow }

/-! #### Keys -/

/-- Gives up all candidates that are too far back. -/
def dropStale (s : Scanner) : Except Error Scanner := do
  let candidate ← KeyCandidate.review s.cursor s.candidate
  let suspended ← s.suspended.mapM (KeyCandidate.review s.cursor)
  return { s with candidate, suspended }

/-- Gives up the candidate. -/
def dropKey (s : Scanner) : Except Error Scanner := do
  let candidate ← KeyCandidate.giveUp s.candidate
  return { s with candidate }

/-- What begins here may be a key. At the column of the open block nothing else can begin. -/
def markKey (s : Scanner) : Except Error Scanner :=
  if !s.keyAllowed then .ok s
  else do
    let s ← s.dropKey
    let c := s.cursor
    let required := !s.inFlow && s.indent == c.column
    return { s with candidate := some ⟨c.line, c.column, c.index, s.read.size, required⟩ }

/-! #### Blocks -/

/-- Ends the blocks that are indented by more than `column`. -/
def unwind (column : Int) (s : Scanner) : Scanner :=
  if s.inFlow then s
  else
    let open' := (s.indent :: s.outer).takeWhile (column < ·)
    match (s.indent :: s.outer).drop open'.length with
    | indent :: outer =>
      { s with indent, outer, read := s.read ++ open'.map fun _ => Token.blockEnd }
    | [] => s

/-- Opens a block at a column, if it is indented by more than the block around it. -/
def openBlock (s : Scanner) (column : Nat) : Bool × Scanner :=
  if !s.inFlow ∧ s.indent < column then
    (true, { s with indent := column, outer := s.indent :: s.outer })
  else (false, s)

/-! #### Tokens -/

/-- The mark of an item or of a key that is not a single text. -/
def blockMark (s : Scanner) (opening mark : Token) (keyAllowed : Bool) : Except Error Scanner :=
  if !s.inFlow ∧ !s.keyAllowed then malformed
  else do
    let (opened, s) := s.openBlock s.cursor.column
    let s ← (if opened then s.push opening s.keyAllowed else s).dropKey
    return { s.push mark keyAllowed with cursor := s.cursor.advance }

/-- The colon after a key. What began at the candidate is the key; without that it belongs to a key
that was marked. -/
def valueMark (s : Scanner) : Except Error Scanner :=
  match s.candidate with
  | some k =>
    let (opened, s) := s.openBlock k.column
    let read := s.read.insertIdxIfInBounds k.place .key
    let read := if opened then read.insertIdxIfInBounds k.place .mappingStart else read
    .ok { s with
      read := read.push .value
      keyAllowed := false
      candidate := none
      cursor := s.cursor.advance }
  | none => s.blockMark .mappingStart .value (!s.inFlow)

/-- A text, which may turn out to be a key. -/
def scalar (s : Scanner) (t : Token) (lineEnded : Bool) (after : Cursor) :
    Except Error Scanner := do
  let s ← s.markKey
  return { s.push t lineEnded with cursor := after }

/-- A bracket that opens. -/
def openBracket (s : Scanner) (t : Token) : Except Error Scanner := do
  let s ← s.markKey
  return { s.push t true with
    candidate := none
    suspended := s.candidate :: s.suspended
    cursor := s.cursor.advance }

/-- A bracket that closes. -/
def closeBracket (s : Scanner) (t : Token) : Except Error Scanner :=
  match s.suspended with
  | [] => malformed
  | candidate :: suspended =>
    .ok { s.push t false with candidate, suspended, cursor := s.cursor.advance }

/-- A comma between brackets. -/
def comma (s : Scanner) : Except Error Scanner :=
  if s.inFlow then
    .ok { s.push .comma true with candidate := none, cursor := s.cursor.advance }
  else malformed

/-- A line that begins or ends a document, and with it ends all blocks. -/
def documentLine (s : Scanner) (t : Token) : Except Error Scanner := do
  let s ← (s.unwind (-1)).dropKey
  return { s.push t false with cursor := s.cursor.advanceBy 3 }

/-- Reads the next token, from a place where one begins. -/
def next (fuel : Nat) (s : Scanner) : Except Error Scanner :=
  let c := s.cursor
  let atGap := isGap (c.peek 1)
  match c.peek 0 with
  | none => malformed
  | some d =>
    if c.column = 0 ∧ c.atMarker '-' then s.documentLine .documentStart
    else if c.column = 0 ∧ c.atMarker '.' then s.documentLine .documentEnd
    else if d = '[' then s.openBracket .listOpen
    else if d = '\x7b' then s.openBracket .mapOpen
    else if d = ']' then s.closeBracket .listClose
    else if d = '\x7d' then s.closeBracket .mapClose
    else if d = ',' then s.comma
    else if d = '-' ∧ atGap then s.blockMark .sequenceStart .item true
    else if d = '?' ∧ (s.inFlow ∨ atGap) then s.blockMark .mappingStart .key (!s.inFlow)
    else if d = ':' ∧ (s.inFlow ∨ atGap) then s.valueMark
    else if d = '\'' ∨ d = '"' then do
      let (text, after) ← quotedText (d == '"') fuel c.advance
      s.scalar (.quoted text) false after
    else if startsPlain s.inFlow c then
      let (cs, lineEnded, after) := plainText s.inFlow (s.indent + 1) fuel [] c
      s.scalar (.plain cs) lineEnded after
    else malformed

/-- The tokens in front of which no key can be found any more. -/
def certain (s : Scanner) : List Token :=
  let waiting := (s.candidate :: s.suspended).filterMap fun k => k.filter (·.isOpenAt s.cursor)
  s.read.toList.take ((waiting.map (·.place)).foldl min s.read.size)

/-- Reads on from the end of a token to the end of the next one, or to the end of the text, with
whether that is reached. -/
def advance (fuel : Nat) (s : Scanner) : Except Error (Scanner × Bool) := do
  let s ← (s.skipGap fuel).dropStale
  let s := s.unwind s.cursor.column
  if s.cursor.rest.isEmpty then return (← (s.unwind (-1)).dropKey, true)
  else return (← s.next fuel, false)

end Scanner

/-! ### All tokens -/

/-- The tokens of a text as far as they can be had, and the error in front of the next one where
that is not the end of the text. -/
structure Tokens where
  read : List Token
  stop : Option Error
  deriving DecidableEq, Repr

/-- Reads tokens until the text ends. -/
def scan : Nat → Scanner → Tokens
  | 0, s => ⟨s.certain, some .malformed⟩
  | fuel + 1, s =>
    match s.advance fuel with
    | .error e => ⟨s.certain, some e⟩
    | .ok (s, ended) => if ended then ⟨s.read.toList, none⟩ else scan fuel s

/-- The characters that a text may hold. -/
def isAllowed (c : Char) : Bool :=
  let n := c.toNat
  n == 9 || n == 10 || n == 13 || (32 ≤ n && n ≤ 126) || n == 0x85 ||
    (0xa0 ≤ n && n ≤ 0xfffd) || 0x10000 ≤ n

/-- How many characters are looked at together. -/
def blockSize : Nat := 4096

/-- How many characters can be read of a text in which the first `allowed` ones are allowed. They
are looked at in blocks, the first two together, and all of a block must be allowed. -/
def readableLength (allowed : Nat) : Nat :=
  if allowed < 2 * blockSize then 0 else allowed / blockSize * blockSize

/-- The tokens of a text. -/
def tokens (s : String) : Tokens :=
  let cs := s.toList
  let allowed := (cs.takeWhile isAllowed).length
  if allowed = cs.length then scan (2 * cs.length + 2) (.start cs)
  else
    let readable := cs.take (readableLength allowed)
    let found := scan (2 * readable.length + 2) (.start readable)
    { found with stop := found.stop <|> some .malformed }

end KernelCalls.Yaml
