import QueryGate.Console.Width
import QueryGate.Text.Blank
/-! Breaking a text into lines of a width. Lines break after blanks; a word that no line holds is
either cut into pieces or left to be shortened. -/

namespace QueryGate

/-- What becomes of a line that is too wide. -/
inductive Overflow
  | fold
  | ellipsis
deriving DecidableEq, Repr

inductive Alignment
  | asIs
  | left
  | centre
deriving DecidableEq, Repr

/-- The words of a line, each with the blanks after it; the first has those before it too. -/
def lineWords : Nat → List Char → List (List Char)
  | fuel + 1, cs =>
    let before := cs.takeWhile isBlank
    let word := (cs.drop before.length).takeWhile (!isBlank ·)
    if word.isEmpty then []
    else
      let rest := cs.drop (before.length + word.length)
      let after := rest.takeWhile isBlank
      (before ++ word ++ after) :: lineWords fuel (rest.drop after.length)
  | 0, _ => []

/-- Cuts a word into pieces that fit; `room` is left on the piece that is being filled. -/
def chopFrom (width room : Nat) (piece : List Char) : List Char → List (List Char)
  | [] => [piece.reverse]
  | c :: rest =>
    if charWidth c ≤ room then chopFrom width (room - charWidth c) (c :: piece) rest
    else piece.reverse :: chopFrom width (width - charWidth c) [c] rest

def chopWord (width : Nat) (word : List Char) : List (List Char) :=
  chopFrom width width [] word

/-- Lines that are finished, and the one that is being filled with the columns it takes. -/
structure Wrapping where
  finished : List (List Char)
  current : List Char
  used : Nat

/-- Whether anything was put on a line yet. -/
def Wrapping.begun (w : Wrapping) : Bool :=
  !w.finished.isEmpty || !w.current.isEmpty

def Wrapping.breakBefore (w : Wrapping) (piece : List Char) : Wrapping :=
  if w.begun then ⟨w.finished ++ [w.current], piece, textWidth piece⟩
  else ⟨[], piece, textWidth piece⟩

def Wrapping.addWord (width : Nat) (overflow : Overflow) (w : Wrapping) (word : List Char) :
    Wrapping :=
  let size := textWidth (trimEndBlanks word)
  if w.used + size ≤ width then
    { w with current := w.current ++ word, used := w.used + textWidth word }
  else if width < size then
    match overflow with
    | .fold => (chopWord width word).foldl Wrapping.breakBefore w
    | .ellipsis => w.breakBefore word
  else if w.used ≠ 0 then w.breakBefore word
  else { w with current := w.current ++ word }

/-- The lines of a text without line breaks. -/
def breakLine (width : Nat) (overflow : Overflow) (cs : List Char) : List (List Char) :=
  match lineWords cs.length cs with
  | [] => [cs]
  | words =>
    let w := words.foldl (Wrapping.addWord width overflow) ⟨[], [], 0⟩
    w.finished ++ [w.current]

/-- Drops blanks at the end of a line that is longer than the width. -/
def dropOverhang (width : Nat) (cs : List Char) : List Char :=
  let blanks := cs.length - (trimEndBlanks cs).length
  cs.take (cs.length - min blanks (cs.length - width))

def shorten (width : Nat) (overflow : Overflow) (cs : List Char) : List Char :=
  if textWidth cs ≤ width then cs
  else
    match overflow with
    | .fold => setWidth width cs
    | .ellipsis => if width = 0 then [] else setWidth (width - 1) cs ++ ['…']

def align (width : Nat) (overflow : Overflow) (alignment : Alignment) (cs : List Char) :
    List Char :=
  let blanks (n : Nat) : List Char := List.replicate n ' '
  match alignment with
  | .asIs => shorten width overflow cs
  | .left =>
    let kept := shorten width overflow cs
    kept ++ blanks (width - textWidth kept)
  | .centre =>
    let kept := shorten width overflow (trimEndBlanks cs)
    let before := (width - textWidth kept) / 2
    blanks before ++ kept ++ blanks (width - textWidth kept - before)

/-- Replaces each tab by blanks up to the next multiple of eight columns. -/
def expandTabs (column : Nat) : List Char → List Char
  | [] => []
  | '\t' :: rest =>
    let next := (column / 8 + 1) * 8
    List.replicate (next - column) ' ' ++ expandTabs next rest
  | c :: rest => c :: expandTabs (column + charWidth c) rest

/-- The parts of a text between line breaks. -/
def textLines : List Char → List (List Char)
  | [] => [[]]
  | '\n' :: rest => [] :: textLines rest
  | c :: rest =>
    match textLines rest with
    | line :: others => (c :: line) :: others
    | [] => [[c]]

/-- How a text is laid out. -/
structure TextLayout where
  width : Nat
  overflow : Overflow
  alignment : Alignment
  wrapped : Bool := true

/-- The lines of a text in a layout. -/
def TextLayout.lines (l : TextLayout) (cs : List Char) : List (List Char) :=
  (textLines cs).flatMap fun line =>
    let line := expandTabs 0 line
    let parts := if l.wrapped then breakLine l.width l.overflow line else [line]
    parts.map fun part => align l.width l.overflow l.alignment (dropOverhang l.width part)

end QueryGate
