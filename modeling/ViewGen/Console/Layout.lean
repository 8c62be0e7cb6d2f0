import ViewGen.Text.Separators
import ViewGen.Text.CellWidth

/-!
# Lines of a given width

A text is cut into lines that fit, at blanks where it can be.
-/

namespace ViewGen.Layout

open Text (cells cellWidth)

/-- What becomes of a word that fits on no line: it is folded, or cut with a mark. -/
inductive Overflow where
  | fold
  | mark
deriving DecidableEq, Repr

inductive Alignment where
  | left
  | centre
deriving DecidableEq, Repr

/-- Replaces tabs by blanks up to the next multiple of eight cells. -/
def expandTabs (column : Nat) : List Char → List Char
  | [] => []
  | c :: rest =>
    if c = '\t' then
      let next := (column / 8 + 1) * 8
      List.replicate (next - column) ' ' ++ expandTabs next rest
    else c :: expandTabs (column + cellWidth c) rest

/-- The words of a line, each with the blanks after it, and the first with those before it too.
`fuel` bounds their number. -/
def wordsFrom : Nat → List Char → List (List Char)
  | 0, _ => []
  | fuel + 1, s =>
    let before := s.takeWhile Text.isBlank
    let rest := s.drop before.length
    let letters := rest.takeWhile (!Text.isBlank ·)
    if letters.isEmpty then []
    else
      let after := (rest.drop letters.length).takeWhile Text.isBlank
      (before ++ letters ++ after) :: wordsFrom fuel ((rest.drop letters.length).drop after.length)

def trimRight (s : List Char) : List Char :=
  (s.reverse.dropWhile Text.isBlank).reverse

/-- Cuts a word into pieces that fit; `used` cells of the first one are taken. -/
def chop (width used : Nat) (piece : List Char) : List Char → List (List Char)
  | [] => [piece.reverse]
  | c :: rest =>
    if width < used + cellWidth c then piece.reverse :: chop width (cellWidth c) [c] rest
    else chop width (used + cellWidth c) (c :: piece) rest

/-- The places where pieces end that begin at `start`, but for the last. -/
def startsOf (start : Nat) : List (List Char) → List Nat
  | [] => []
  | piece :: rest => start :: startsOf (start + piece.length) rest

/-- The places to break a line before words that begin at `start`, with `used` cells of the present
line taken. -/
def breaksFrom (width : Nat) (overflow : Overflow) (start used : Nat) :
    List (List Char) → List Nat
  | [] => []
  | word :: rest =>
    let next := start + word.length
    let needed := cells (trimRight word)
    if used + needed ≤ width then breaksFrom width overflow next (used + cells word) rest
    else if width < needed then
      match overflow with
      | .fold =>
        let parts := chop width 0 [] word
        (startsOf start parts).filter (· ≠ 0) ++
          breaksFrom width overflow next (cells (parts.getLast?.getD [])) rest
      | .mark =>
        (if start = 0 then [] else [start]) ++
          breaksFrom width overflow next (cells word) rest
    else if used ≠ 0 ∧ start ≠ 0 then
      start :: breaksFrom width overflow next (cells word) rest
    else breaksFrom width overflow next used rest

/-- Cuts a text at places given in order; `start` characters have been passed. -/
def cutAt (start : Nat) (s : List Char) : List Nat → List (List Char)
  | [] => [s]
  | place :: rest => s.take (place - start) :: cutAt place (s.drop (place - start)) rest

/-- A line without blanks at its end that lie beyond the width. -/
def dropExcess (width : Nat) (s : List Char) : List Char :=
  let blanks := s.length - (trimRight s).length
  s.take (s.length - min blanks (s.length - width))

/-- The part of a text that fills exactly so many cells, with a blank for half a wide character. It
is searched by halving, which decides what becomes of characters without width at its end. `fuel`
bounds the number of halvings. -/
def fillBetween (width : Nat) (s : List Char) : Nat → Nat → Nat → List Char
  | 0, low, _ => s.take low
  | fuel + 1, low, high =>
    let place := (low + high) / 2
    let part := s.take (place + 1)
    if cells part = width + 1 && (part.getLast?.map cellWidth) = some 2 then part.dropLast ++ [' ']
    else if cells part = width then part
    else if width < cells part then fillBetween width s fuel low place
    else fillBetween width s fuel place high

/-- Cuts a text that fills more than so many cells. -/
def fill (width : Nat) (s : List Char) : List Char :=
  if width = 0 then [] else fillBetween width s (s.length + 1) 0 s.length

def truncate (width : Nat) (overflow : Overflow) (s : List Char) : List Char :=
  if cells s ≤ width then s
  else match overflow with
    | .fold => fill width s
    | .mark => fill (width - 1) s ++ ['…']

/-- A line of exactly the width. -/
def align (width : Nat) (overflow : Overflow) (alignment : Alignment) (s : List Char) :
    List Char :=
  match alignment with
  | .left =>
    let s := truncate width overflow s
    s ++ List.replicate (width - cells s) ' '
  | .centre =>
    let s := truncate width overflow (trimRight s)
    let s := List.replicate ((width - cells s) / 2) ' ' ++ s
    s ++ List.replicate (width - cells s) ' '

/-- The lines of a text, each of exactly the width. -/
def lines (width : Nat) (overflow : Overflow) (alignment : Alignment) (s : List Char) :
    List (List Char) :=
  (Text.pieces '\n' s).flatMap fun line =>
    let line := expandTabs 0 line
    let breaks := breaksFrom width overflow 0 0 (wordsFrom line.length line)
    (cutAt 0 line breaks).map fun part => align width overflow alignment (dropExcess width part)

end ViewGen.Layout
