import Estate.MappingError
import Estate.Url.Host

/-!
Why a rule cannot look for its value.
-/

namespace Estate

inductive LookupError where
  | selector (text : String)
  /-- The value of an attribute is no JSON. -/
  | attributeJson (name : String)
  | address (text : String) (fault : Url.Fault)

def LookupError.message : LookupError → String
  | selector text => withoutReason s!"invalid CSS selector '{text}'"
  | attributeJson name => withoutReason s!"malformed JSON in attribute '{name}'"
  | address text fault => s!"invalid source URL '{text}: {fault.message}'"

end Estate
