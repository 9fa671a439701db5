import PromptGateway.Platform

/-! # Tables

The table in which platforms are shown. Its columns are as wide as their headings need; longer
values are cut where the column is narrow by nature, and push the following columns elsewhere.
-/

namespace PromptGateway.Cli.Table

/-- Cuts a text that is longer than a number of characters, and marks the cut with dots. -/
def shortened (text : String) (size : Nat) : String :=
  if text.length ≤ size then text
  else String.ofList (text.toList.take (size - 3)) ++ "..."

def column (width : Nat) (text : String) : String :=
  text ++ String.ofList (List.replicate (width - text.length) ' ')

def line (id kind name model updated url : String) : String :=
  String.intercalate " "
    [column 5 id, column 12 kind, column 20 name, column 18 model, column 17 updated, url] ++ "\n"

def ruleWidth : Nat := 110

def header : String :=
  line "ID" "Type" "Name" "Model" "Updated" "URL" ++
    String.ofList (List.replicate ruleWidth '-') ++ "\n"

def row (p : Platform) : String :=
  line (toString p.id.toInt) p.profile.kind.tag (shortened p.profile.displayName 19)
    (shortened p.profile.model 17) p.updatedAt.minuteText p.profile.url

end PromptGateway.Cli.Table
