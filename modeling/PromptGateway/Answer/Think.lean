import PromptGateway.Text.Blank
import PromptGateway.Text.Search

/-! # Reasoning marks

Some models put their reasoning between two marks into the answer. The blocks between the marks are
dropped together with them, then marks that are left over, and then the blanks at both ends.
-/

namespace PromptGateway.Think

def opening : List Char := "<think>".toList

def closing : List Char := "</think>".toList

/--
Drops the blocks from an opening to the next closing, from left to right; an opening that nothing
closes ends the search. The measure bounds the number of blocks.
-/
def dropBlocks (kept : List (List Char)) (text : List Char) : Nat → List Char
  | 0 => (text :: kept).reverse.flatten
  | measure + 1 =>
    match Text.cut? opening text with
    | none => (text :: kept).reverse.flatten
    | some (before, inside) =>
      match Text.cut? closing inside with
      | none => (text :: kept).reverse.flatten
      | some (_, behind) => dropBlocks (before :: kept) behind measure

def stripChars (text : List Char) : List Char :=
  let rest := dropBlocks [] text text.length
  Text.trimChars (Text.eraseAll closing (Text.eraseAll opening rest))

/-- The text without reasoning and without marks, trimmed. -/
def strip (s : String) : String := String.ofList (stripChars s.toList)

end PromptGateway.Think
