import Estate.Binary64.Text
import Estate.Text.Replace

/-!
Why a mapping cannot be had.
-/

namespace Estate

inductive MappingError where
  | notFound (name : String)
  | unreadable
  | malformed
  | invalidRegex (field : String)
  | rateOutOfRange (rate : Binary64)
  | nestedTooDeep (field : String)

/-- A message up to its first quote that a colon and a blank follow: there the reason begins. -/
def withoutReason (message : String) : String :=
  let cs := message.toList
  match Text.cutAt? "': ".toList cs with
  | some (before, _) => .ofList (before ++ ['\''])
  | none => message

/-- The error with another name for the mapping or field it speaks of. -/
def MappingError.mapName (rename : String → String) : MappingError → MappingError
  | notFound name => notFound (rename name)
  | invalidRegex field => invalidRegex (rename field)
  | nestedTooDeep field => nestedTooDeep (rename field)
  | e => e

def MappingError.message : MappingError → String
  | notFound name => s!"no mapping named '{name}'"
  | unreadable => "failed to read mapping file"
  | malformed => "failed to parse mapping"
  | invalidRegex field => withoutReason s!"invalid scriptRegEx in field '{field}'"
  | rateOutOfRange rate =>
    s!"invalid mapping: expectedExtractionRate {rate.toPlainText} is outside [0, 1]"
  | nestedTooDeep field =>
    s!"invalid mapping: field '{field}' nests fallbacks deeper than 10"

end Estate
