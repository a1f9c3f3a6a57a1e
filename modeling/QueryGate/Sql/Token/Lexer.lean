import QueryGate.Sql.Token
import QueryGate.Sql.Token.Keyword
import QueryGate.Text.Blank
import QueryGate.Text.WordChar
import QueryGate.Text.Digit
import QueryGate.Json.Reader
/-! Splitting SQL text into tokens. Comments vanish, but a semicolon remembers whether one belongs to
it: a comment belongs to the token before it on the same line, and otherwise to the token after it. -/

namespace QueryGate

/-- Characters that are tokens of their own or start one, and so end a bare word. -/
def isSymbolChar (c : Char) : Bool :=
  "()[]\x7b\x7d&^:,-.><=!|+;/\\*~?@#$%'\"\x60".toList.contains c

def isWordEnd (c : Char) : Bool :=
  isBlank c || isSymbolChar c

/-- Symbols of several characters, the longer before the shorter where one starts another. -/
def longSymbols : List String :=
  ["||/", "|/", "|>", "||", "->>", "->", "=>", "==", "::", "?::", "<=>", "<->", "<=", "<>", ">=", "!=",
   ":=", "#>>", "#>", "&&", "&<", "&>", "??", "~~~", "~~*", "~~", "~*", "-|-", "<@", "@>"]

/-- Spellings of one operator share a name. -/
def symbolName (text : String) : String :=
  if text = "==" then "=" else if text = "!=" then "<>" else if text = "$" then "@" else text

/-- The characters of a block comment after its opening mark up to and with its end. A mark inside
opens a comment inside. -/
def blockCommentLength (opening : List Char) : Nat → Nat → List Char → Option Nat
  | 0, _, _ => none
  | _ + 1, _, [] => none
  | fuel + 1, depth, c :: cs =>
    let closes := c = '*' && cs.head? = some '/'
    if closes && depth = 1 then some 2
    else
      let depth := if closes then depth - 1 else depth
      if opening.isPrefixOf cs then
        (blockCommentLength opening fuel (depth + 1) (cs.drop opening.length)).map
          (· + 1 + opening.length)
      else (blockCommentLength opening fuel depth cs).map (· + 1)

/-- What a backslash and the next characters stand for, with the count of characters after the
backslash. An unknown escape stands for its character. -/
def unescape (cs : List Char) : Option (List Char × Nat) :=
  let octal (c : Char) := '0' ≤ c && c ≤ '7'
  match cs with
  | [] => none
  | a :: b :: c :: _ =>
    if octal a && octal b && octal c && a ≤ '3' then
      some ([Char.ofNat (digitValue a * 64 + digitValue b * 8 + digitValue c)], 3)
    else single a
  | a :: _ => single a
where
  single (a : Char) : Option (List Char × Nat) :=
    match a with
    | '0' => some (['\x00'], 1)
    | 'a' => some (['\x07'], 1)
    | 'b' => some (['\x08'], 1)
    | 'f' => some (['\x0c'], 1)
    | 'n' => some (['\n'], 1)
    | 'r' => some (['\r'], 1)
    | 't' => some (['\t'], 1)
    | 'v' => some (['\x0b'], 1)
    | '%' | '_' => some (['\\', a], 1)
    | _ => some ([a], 1)

/-- Reads a string up to its closing quote: its content and the characters after the quote. A quote
written twice, or after a backslash when those count, is part of the content. -/
def readQuoted (quote : Char) (escapes : Bool) : Nat → List Char → Option (List Char × List Char)
  | 0, _ => none
  | _ + 1, [] => none
  | fuel + 1, c :: cs =>
    if escapes && c = '\\' then
      match unescape cs with
      | none => none
      | some (content, count) =>
        (readQuoted quote escapes fuel (cs.drop count)).map (fun (s, rest) => (content ++ s, rest))
    else if c = quote then
      match cs with
      | d :: more =>
        if d = quote then (readQuoted quote escapes fuel more).map (fun (s, rest) => (quote :: s, rest))
        else some ([], cs)
      | [] => some ([], [])
    else (readQuoted quote escapes fuel cs).map (fun (s, rest) => (c :: s, rest))

/-- How many more characters of a number stand here: digits, one point, one exponent mark, and after
the mark one sign with a digit behind it. -/
def numberLength (point mark sign : Bool) : List Char → Nat
  | [] => 0
  | c :: cs =>
    if isDigitChar c then 1 + numberLength point mark sign cs
    else if c = '.' && !point then 1 + numberLength true mark sign cs
    else if (c = 'e' || c = 'E') && !mark then 1 + numberLength point true sign cs
    else if (c = '-' || c = '+') && mark && !sign && cs.head?.any isDigitChar then
      1 + numberLength point mark true cs
    else 0

/-- Letters after a number that give it a type. -/
def numberSuffixes : List (String × String) :=
  [("L", "BIGINT"), ("S", "SMALLINT"), ("Y", "TINYINT"), ("D", "DOUBLE"), ("F", "FLOAT"),
   ("BD", "DECIMAL")]

/-- What stands at the start of a text. A token is given by its kind, its text and its name. -/
inductive Piece
  | blank
  | comment
  | tokens (found : List (TokenKind × String × String))

def Piece.token (kind : TokenKind) (text name : String) : Piece :=
  .tokens [(kind, text, name)]

/-- A quoted token that starts after so many characters. -/
def quotedPiece (kind : TokenKind) (name : String) (quote : Char) (escapes : Bool) (skipped : Nat)
    (cs : List Char) : Except SyntaxError (Piece × Nat) :=
  let body := cs.drop skipped
  match readQuoted quote escapes (body.length + 1) body with
  | none => .error (.unterminated (String.singleton quote))
  | some (content, rest) => .ok (.token kind (String.ofList content) name, cs.length - rest.length)

/-- A string read as it stands: it ends at the next quote. -/
def markedPiece (name : String) (quote : Char) (cs : List Char) :
    Except SyntaxError (Piece × Nat) :=
  let content := (cs.drop 2).takeWhile (· ≠ quote)
  if cs.length < content.length + 3 then .error (.unterminated (String.singleton quote))
  else .ok (.token .marked (String.ofList content) name, content.length + 3)

/-- A number, a number with the letter of its type, or a name that starts with a digit. -/
def numberPiece (cs : List Char) : Piece × Nat :=
  let count := 1 + numberLength false false false cs.tail
  let suffix := (cs.drop count).takeWhile (fun c => !isWordEnd c)
  let text := String.ofList (cs.take count)
  if suffix.head?.any isWordChar then
    let letters := String.ofList suffix
    match numberSuffixes.lookup (toUpperText letters) with
    | some type =>
      (.tokens [(.number, text, ""), (.symbol, "::", "::"), (.keyword, letters, type)],
        count + suffix.length)
    | none => (.token .word (text ++ letters) "", count + suffix.length)
  else (.token .number text "", count)

/-- The characters that a phrase covers here, any run of blanks standing for its space. -/
def phraseLength : List Char → List Char → Option Nat
  | [], _ => some 0
  | ' ' :: ps, cs =>
    let blanks := (cs.takeWhile isBlank).length
    if blanks = 0 then none else (phraseLength ps (cs.drop blanks)).map (· + blanks)
  | p :: ps, c :: cs => if upperChar c = [p] then (phraseLength ps cs).map (· + 1) else none
  | _ :: _, [] => none

def phraseHere? (cs : List Char) : Option (String × Nat) :=
  phraseKeywords.findSome? fun (phrase, name) =>
    match phraseLength phrase.toList cs with
    | some count =>
      if (cs.drop count).head?.all isWordEnd then some (name, count) else none
    | none => none

def wordPiece (cs : List Char) : Piece × Nat :=
  let word := cs.take 1 ++ (cs.drop 1).takeWhile (fun c => !isWordEnd c)
  let letters := String.ofList word
  match keywordName? (toUpperText letters) with
  | some name => (.token .keyword letters name, word.length)
  | none => (.token .word letters "", word.length)

/-- A phrase, a symbol or a word. -/
def plainPiece (cs : List Char) : Piece × Nat :=
  match phraseHere? cs with
  | some (name, count) => (.token .keyword (String.ofList (cs.take count)) name, count)
  | none =>
    match longSymbols.find? (fun sym => sym.toList.isPrefixOf cs) with
    | some sym => (.token .symbol sym (symbolName sym), sym.toList.length)
    | none =>
      match cs.head? with
      | some '!' => (.token .keyword "!" "NOT", 1)
      | some c =>
        if isSymbolChar c then
          (.token .symbol (String.singleton c) (symbolName (String.singleton c)), 1)
        else wordPiece cs
      | none => (.blank, 0)

/-- A comment up to the end of its line. -/
def lineCommentLength (cs : List Char) : Nat :=
  (cs.takeWhile (fun d => d ≠ '\n' && d ≠ '\r')).length

/-- A comment between marks. Right after a `SELECT` it may be a hint. -/
def blockPiece (afterSelect : Bool) (cs : List Char) : Except SyntaxError (Piece × Nat) :=
  let opening := if "/*+".toList.isPrefixOf cs then "/*+".toList else "/*".toList
  match blockCommentLength opening cs.length 1 (cs.drop opening.length) with
  | none => .error (.unterminated "*/")
  | some count =>
    let piece := if opening.length = 3 && afterSelect then .token .hint "" "" else .comment
    .ok (piece, opening.length + count)

/-- The marks in front of a string that is read as it stands. -/
def markName? (c quote : Char) : Option String :=
  if (quote = '\'' || quote = '"') && (c = 'r' || c = 'R') then some "RAWSTRING"
  else if quote = '\'' && (c = 'x' || c = 'X') then some "HEXSTRING"
  else if (quote = '\'' || quote = '"') && (c = 'n' || c = 'N') then some "NATIONAL"
  else none

/-- The piece at the start of a text and its length. -/
def scan (afterSelect : Bool) : List Char → Except SyntaxError (Piece × Nat)
  | [] => .ok (.blank, 0)
  | c :: cs =>
    if isBlank c then .ok (.blank, if c = '\r' && cs.head? = some '\n' then 2 else 1)
    else if isDigitChar c then .ok (numberPiece (c :: cs))
    else if c = '\x60' then quotedPiece .quoted "" c false 1 (c :: cs)
    else if c = '\'' || c = '"' then quotedPiece .text "" c true 1 (c :: cs)
    else if "--".toList.isPrefixOf (c :: cs) then .ok (.comment, lineCommentLength (c :: cs))
    else if "/*".toList.isPrefixOf (c :: cs) then blockPiece afterSelect (c :: cs)
    else
      match cs.head?.bind (fun q => (markName? c q).map (fun name => (name, q))) with
      | some (name, quote) => markedPiece name quote (c :: cs)
      | none => .ok (plainPiece (c :: cs))

structure LexState where
  rest : List Char
  line : Nat
  /-- The tokens read so far, the last one first. -/
  tokens : List Token
  /-- Whether a comment waits for the token it belongs to. -/
  pending : Bool
  /-- The line on which the last token ended. -/
  lastLine : Option Nat

def LexState.start (cs : List Char) : LexState :=
  ⟨cs, 1, [], false, none⟩

/-- Line ends in a text; a carriage return before a line feed does not count on its own. -/
def lineEnds : List Char → Nat
  | [] => 0
  | '\r' :: '\n' :: rest => 1 + lineEnds rest
  | c :: rest => (if c = '\n' || c = '\r' then 1 else 0) + lineEnds rest

/-- Goes on after some characters. -/
def LexState.skip (s : LexState) (count : Nat) : LexState :=
  { s with rest := s.rest.drop count, line := s.line + lineEnds (s.rest.take count) }

def LexState.add (s : LexState) (kind : TokenKind) (text name : String) : LexState :=
  { s with
    tokens := ⟨kind, text, name, s.pending⟩ :: s.tokens
    pending := false
    lastLine := some s.line }

def noteLast : List Token → List Token
  | [] => []
  | t :: rest => { t with noted := true } :: rest

/-- Gives a comment that began on the given line and ended here to its token. -/
def LexState.comment (s : LexState) (started : Nat) : LexState :=
  if s.lastLine = some started then
    { s with tokens := noteLast s.tokens, lastLine := some s.line }
  else { s with pending := true }

/-- Goes past a piece. A line ends where its last character stands. -/
def LexState.pass (s : LexState) (piece : Piece) (count : Nat) : LexState :=
  let next := s.skip count
  match piece with
  | .blank => next
  | .comment => next.comment s.line
  | .tokens found => found.foldl (fun s (kind, text, name) => s.add kind text name) next

/-- Reads one token or comment, or skips a blank. -/
def LexState.step (s : LexState) : Except SyntaxError LexState :=
  match scan (s.tokens.head?.any (·.name = "SELECT")) s.rest with
  | .error e => .error e
  | .ok (piece, count) => .ok (s.pass piece count)

def opensCommand (t : Token) : Bool :=
  t.kind = .keyword && commandKeywords.contains t.name

/-- Whether the last token opens a statement and makes the rest of it plain text. -/
def LexState.atCommand (s : LexState) : Bool :=
  match s.tokens with
  | [t] => opensCommand t
  | t :: before :: _ => opensCommand t && (before.name = ";" || before.name = "BEGIN")
  | [] => false

/-- Reads the text of a command: up to a token that a semicolon follows at once. -/
def LexState.commandEnd : Nat → LexState → Except SyntaxError LexState
  | 0, s => .ok s
  | fuel + 1, s =>
    if s.rest.isEmpty then .ok s
    else
      match s.step with
      | .error e => .error e
      | .ok next => if next.rest.head? = some ';' then .ok next else commandEnd fuel next

def LexState.command (s : LexState) : Except SyntaxError LexState :=
  if s.rest.head? = some ';' then .ok s
  else
    match LexState.commandEnd (s.rest.length + 1) s with
    | .error e => .error e
    | .ok stop =>
      let text := trimBlanks (s.rest.take (s.rest.length - stop.rest.length))
      let next := { stop with tokens := s.tokens, pending := false }
      .ok (if text.isEmpty then next else next.add .text (String.ofList text) "")

def LexState.run : Nat → LexState → Except SyntaxError LexState
  | 0, s => .ok s
  | fuel + 1, s =>
    if s.rest.isEmpty then .ok s
    else
      match s.step with
      | .error e => .error e
      | .ok next =>
        if s.tokens.length < next.tokens.length && next.atCommand then
          match next.command with
          | .error e => .error e
          | .ok after => run fuel after
        else run fuel next

/-- The tokens of a text. -/
def tokenize (sql : String) : Except SyntaxError (List Token) :=
  let cs := sql.toList
  match LexState.run (cs.length + 1) (LexState.start cs) with
  | .error e => .error e
  | .ok s => .ok (if s.pending then noteLast s.tokens else s.tokens).reverse

end QueryGate
