/-! # Searching and cutting texts

Splitting a text at a separator or at the first occurrence of a pattern, and dropping every
occurrence of a pattern. Occurrences are found from left to right and do not overlap.
-/

namespace PromptGateway.Text

/-- What follows `pattern` if the text starts with it. -/
def after? : List Char → List Char → Option (List Char)
  | [], text => some text
  | _ :: _, [] => none
  | p :: pattern, c :: text => if p == c then after? pattern text else none

/-- Looks for the first occurrence of a pattern, the characters before it collected in reverse. -/
def cutFrom (pattern : List Char) (before : List Char) :
    List Char → Option (List Char × List Char)
  | [] => (after? pattern []).map fun rest => (before.reverse, rest)
  | c :: text =>
    match after? pattern (c :: text) with
    | some rest => some (before.reverse, rest)
    | none => cutFrom pattern (c :: before) text

def cut? (pattern text : List Char) : Option (List Char × List Char) := cutFrom pattern [] text

/-- Drops occurrences of a pattern, `skip` characters of one still being dropped. -/
def eraseFrom (pattern : List Char) : Nat → List Char → List Char → List Char
  | _, kept, [] => kept.reverse
  | skip + 1, kept, _ :: text => eraseFrom pattern skip kept text
  | 0, kept, c :: text =>
    match after? pattern (c :: text) with
    | some _ => eraseFrom pattern (pattern.length - 1) kept text
    | none => eraseFrom pattern 0 (c :: kept) text

def eraseAll (pattern text : List Char) : List Char := eraseFrom pattern 0 [] text

def splitFrom (separator : Char) (piece : List Char) : List Char → List (List Char)
  | [] => [piece.reverse]
  | c :: text =>
    if c == separator then piece.reverse :: splitFrom separator [] text
    else splitFrom separator (c :: piece) text

def splitAt (separator : Char) (text : List Char) : List (List Char) :=
  splitFrom separator [] text

def cutAt? (separator : Char) (text : List Char) : Option (List Char × List Char) :=
  cut? [separator] text

/-- What a text holds before the first of the characters that end it, and the rest. -/
def spanUntil (stop : Char → Bool) (text : List Char) : List Char × List Char :=
  text.span fun c => !stop c

def join (separator : String) : List String → String
  | [] => ""
  | [s] => s
  | s :: rest => s ++ separator ++ join separator rest

end PromptGateway.Text
