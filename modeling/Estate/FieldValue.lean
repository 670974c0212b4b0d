import Estate.Json.Value
import Estate.Mapping
import Estate.Text.Case
import Estate.Text.Leading
import Estate.Text.Replace

/-!
The values that the texts found for fields stand for.
-/

namespace Estate

/-- Words that mean yes where a rule does not say what to look for. -/
def yesWords : List String :=
  ["true", "yes", "y", "1", "on", "si", "sí", "oui", "ja", "sim"]

/-- Whether a text says yes. A part is looked for in lower case; a text is compared with its blanks
taken off and ASCII case apart. -/
def Evaluator.holds (e : Option Evaluator) (text : String) : Bool :=
  let text := Text.trimmed text
  match e with
  | some (.contains part) => Text.occursIn (Text.lower part).toList (Text.lower text).toList
  | some (.equals expected) => Text.sameIgnoringAsciiCase text (Text.trimmed expected)
  | some .present => !text.isEmpty
  | none => yesWords.contains (Text.lower text)

/-- The value of a text found for a field. Numbers are those the text starts with. -/
def Field.valueOf (f : Field) (text : String) : Json.Value :=
  match f.kind with
  | .text => .string text
  | .int => .ofInt (Text.leadingInt text.toList)
  | .float => .number (.float (Text.leadingFloat text.toList))
  | .boolean => .bool (Evaluator.holds f.rule.probe.evaluator text)

end Estate
