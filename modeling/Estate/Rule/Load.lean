import Estate.MappingError
import Estate.Rule.Document
import Estate.Text.Blank
import Estate.Text.Integer

/-!
From rules as written to rules: the locator is decided once, indices are read, blank texts are
dropped. Of the keys of several locators the first in a fixed order counts.
-/

namespace Estate

namespace RuleKeys

/-- The trimmed text of a key, unless it is absent or blank. -/
def filled? (key : Option String) : Option String := key.bind Text.nonBlank?

def accessor? (k : RuleKeys) : Option String := filled? k.cssAttr <|> filled? k.xmlAttr

def index? (key : Option String) : Option Nat :=
  key.bind fun s => Text.index? (Text.trim s.toList)

/-- The locator. The keys are looked at in the order css, regular expression, script variable,
flight data, linked data, address. -/
def locator [Regex.Engine] (k : RuleKeys) (field : String) : Except MappingError Locator :=
  match filled? k.cssLocator with
  | some selector => .ok (.css selector k.accessor? (index? k.cssCountId))
  | none =>
  match filled? k.scriptRegEx with
  | some pattern =>
    match Regex.ofPattern? k.caseInsensitive pattern with
    | some regex => .ok (.scriptRegex regex)
    | none => .error (.invalidRegex field)
  | none =>
  match filled? k.scriptJsonVar with
  | some name => .ok (.scriptJson name (k.scriptJsonPath.getD ""))
  | none =>
  match filled? k.flightDataPath with
  | some path => .ok (.flightData path)
  | none =>
  if k.jsonLdPath.isSome || k.jsonLdType.isSome then
    .ok (.jsonLd (filled? k.jsonLdType) (k.jsonLdPath.getD ""))
  else if k.urlPathPart.isSome then
    .ok (.urlSegment ((index? k.urlPathPart).filter (0 < ·)))
  else .ok .unset

/-- Unknown evaluators count as none. -/
def evaluator? (k : RuleKeys) : Option Evaluator :=
  (filled? k.evaluator).bind fun name =>
    let param := k.evaluatorParam.getD ""
    let bare := String.ofList (name.toList.reverse.dropWhile (· == '?')).reverse
    if ["include", "includes", "contains"].contains bare then some (.contains param)
    else if ["equals", "eq"].contains bare then some (.equals param)
    else if bare == "present" then some .present
    else none

def cleanup (k : RuleKeys) : Cleanup where
  splitAt := k.splitTextCharacter.filter (!·.isEmpty)
  splitIndex := (k.splitTextArrayId.bind fun s => Text.int64? (Text.trim s.toList)).getD 0
  strip := k.stripString.filter (!·.isEmpty)
  stripFirstChar := k.stripFirstChar

/-- Elements have accessors; everything else has item paths. -/
def itemPath (k : RuleKeys) : Locator → Option String
  | .css _ _ _ => none
  | _ => k.accessor?

def probe [Regex.Engine] (k : RuleKeys) (field : String) : Except MappingError Probe := do
  let locator ← k.locator field
  return {
    locator := locator
    cleanup := k.cleanup
    modifiers := k.modifiers
    thumbnailPatterns := k.thumbnailPatterns
    imagePathPrefix := k.imagePathPrefix.filter (!·.isEmpty)
    itemPath := k.itemPath locator
    evaluator := k.evaluator? }

end RuleKeys

namespace Rule

mutual

/-- The rule of a document that stands at a depth among fallbacks. -/
def ofDocument [Regex.Engine] (field : String) (depth : Nat) :
    RuleDocument → Except MappingError Rule
  | .mk keys fallbacks =>
    if depth > maxDepth then .error (.nestedTooDeep field)
    else do
      let probe ← keys.probe field
      let loaded ← ofDocuments field (depth + 1) fallbacks
      return .mk probe loaded

def ofDocuments [Regex.Engine] (field : String) (depth : Nat) :
    List RuleDocument → Except MappingError (List Rule)
  | [] => .ok []
  | d :: rest => do
    let rule ← ofDocument field depth d
    let rules ← ofDocuments field depth rest
    return rule :: rules

end

/-- The rule that a term writes. -/
def ofTerm [Regex.Engine] (field : String) (t : Json.Term) : Except MappingError Rule :=
  match RuleDocument.ofTerm? Json.depthLimit t with
  | some d => ofDocument field 0 d
  | none => .error .malformed

def ofText [Regex.Engine] (field : String) (text : String) : Except MappingError Rule :=
  match Json.Term.ofText? text with
  | some t => ofTerm field t
  | none => .error .malformed

end Rule

end Estate
