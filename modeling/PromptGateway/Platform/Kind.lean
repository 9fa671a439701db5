import PromptGateway.Text.Blank
import PromptGateway.Text.Ascii
import PromptGateway.Json.Shape

/-! # Kinds of platforms

A platform's kind decides the form in which its replies are expected. Kinds are stored and exchanged
by their tags.
-/

namespace PromptGateway

/-- The families of reply forms. -/
inductive Kind
  | unspecified
  | ollama
  | deepseek
  deriving DecidableEq, Repr, Inhabited

namespace Kind

def all : List Kind := [unspecified, ollama, deepseek]

def tag : Kind → String
  | unspecified => "UNSPECIFIED"
  | ollama => "OLLAMA"
  | deepseek => "DEEPSEEK"

def label : Kind → String
  | unspecified => "generic"
  | ollama => "Ollama"
  | deepseek => "DeepSeek"

/-- The kind with a tag, whatever the case of its letters and the blanks around it. -/
def ofTag? (s : String) : Option Kind :=
  all.find? fun k => Text.sameIgnoringCase k.tag.toList (Text.trimChars s.toList)

/-- The kind with a tag, and for any other text the unspecified one. -/
def ofTag (s : String) : Kind := (ofTag? s).getD unspecified

def shape : Json.Shape := .tag "UNSPECIFIED" ["OLLAMA", "DEEPSEEK"]

/-- The place of a kind among the tags of its JSON form. -/
def toCarrier : Kind → shape.Carrier
  | unspecified => (0 : Fin 3)
  | ollama => (1 : Fin 3)
  | deepseek => (2 : Fin 3)

def ofIndex : Fin 3 → Kind
  | 0 => unspecified
  | 1 => ollama
  | 2 => deepseek

def ofCarrier (i : shape.Carrier) : Kind := ofIndex i

end Kind

end PromptGateway
