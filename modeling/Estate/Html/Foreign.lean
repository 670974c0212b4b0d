import Estate.Html.Builder

/-!
Elements of other vocabularies inside a page: their names and attributes, and the tokens that are
read inside them.
-/

namespace Estate.Html

open Builder

/-- Names with capital letters, which markup may write in letters of either case. -/
def mixedNames (s : String) : List (String × String) :=
  (Text.words s).map fun w => (Text.asciiLower (.ofList w), .ofList w)

def svgNames : List (String × String) := mixedNames "
  altGlyph altGlyphDef altGlyphItem animateColor animateMotion animateTransform clipPath feBlend
  feColorMatrix feComponentTransfer feComposite feConvolveMatrix feDiffuseLighting
  feDisplacementMap feDistantLight feDropShadow feFlood feFuncA feFuncB feFuncG feFuncR
  feGaussianBlur feImage feMerge feMergeNode feMorphology feOffset fePointLight feSpecularLighting
  feSpotLight feTile feTurbulence foreignObject glyphRef linearGradient radialGradient textPath"

def svgAttributes : List (String × String) := mixedNames "
  attributeName attributeType baseFrequency baseProfile calcMode clipPathUnits diffuseConstant
  edgeMode filterUnits glyphRef gradientTransform gradientUnits kernelMatrix kernelUnitLength
  keyPoints keySplines keyTimes lengthAdjust limitingConeAngle markerHeight markerUnits
  markerWidth maskContentUnits maskUnits numOctaves pathLength patternContentUnits
  patternTransform patternUnits pointsAtX pointsAtY pointsAtZ preserveAlpha preserveAspectRatio
  primitiveUnits refX refY repeatCount repeatDur requiredExtensions requiredFeatures
  specularConstant specularExponent spreadMethod startOffset stdDeviation stitchTiles surfaceScale
  systemLanguage tableValues targetX targetY textLength viewBox viewTarget xChannelSelector
  yChannelSelector zoomAndPan"

def mathmlAttributes : List (String × String) := [("definitionurl", "definitionURL")]

/-- Attributes with a mark of their own, as mark and name. -/
def markedAttributes : List (String × String × String) :=
  (["actuate", "arcrole", "href", "role", "show", "title", "type"].map fun name =>
    ("xlink:" ++ name, "xlink", name)) ++
  [("xml:lang", "xml", "lang"), ("xml:space", "xml", "space"), ("xmlns", "", "xmlns"),
    ("xmlns:xlink", "xmlns", "xlink")]

def foreignAttribute (vocabulary : Vocabulary) (name value : String) : Attribute :=
  match markedAttributes.lookup name with
  | some (mark, name) => ⟨some mark, name, value⟩
  | none =>
    let names := match vocabulary with
      | .svg => svgAttributes
      | .mathml => mathmlAttributes
      | .html => []
    ⟨none, (names.lookup name).getD name, value⟩

def foreignTag (vocabulary : Vocabulary) (head : TagHead) : Tag where
  vocabulary := vocabulary
  name := if vocabulary == .svg then (svgNames.lookup head.name).getD head.name else head.name
  attributes := (head.attributes.map fun a => foreignAttribute vocabulary a.1 a.2).mergeSort
    Attribute.precedes

def openForeign (vocabulary : Vocabulary) (head : TagHead) : Build Unit := do
  discard (openElement (foreignTag vocabulary head))
  if head.selfClosing then pop

/-- Start tags that end what is not part of the page proper. -/
def breakoutNames : List String :=
  ["b", "big", "blockquote", "body", "br", "center", "code", "dd", "div", "dl", "dt", "em", "embed",
    "h1", "h2", "h3", "h4", "h5", "h6", "head", "hr", "i", "img", "li", "listing", "menu", "meta",
    "nobr", "ol", "p", "pre", "ruby", "s", "small", "span", "strong", "strike", "sub", "sup",
    "table", "tt", "u", "ul", "var"]

def breaksOut (head : TagHead) : Bool :=
  breakoutNames.contains head.name ||
    (head.name == "font" && ["color", "face", "size"].any fun a => (head.attributes.lookup a).isSome)

def isMathmlText (t : Tag) : Bool :=
  t.vocabulary == .mathml && ["mi", "mo", "mn", "ms", "mtext"].contains t.name

/-- Markup of the page may stand in such an element. -/
def holdsPage (t : Tag) : Bool :=
  match t.vocabulary with
  | .html => true
  | .svg => ["foreignObject", "desc", "title"].contains t.name
  | .mathml => t.name == "annotation-xml" && (t.value? "encoding").any fun e =>
      ["text/html", "application/xhtml+xml"].contains (Text.asciiLower e)

/-- The token is read by the rules for other vocabularies. -/
def isForeign (b : Builder) (token : Token) : Bool :=
  match b.stack.head?.bind b.cells.tag? with
  | none => false
  | some t =>
    t.vocabulary != .html &&
      match token with
      | .finish => false
      | .startTag head =>
        !(isMathmlText t && head.name != "mglyph" && head.name != "malignmark") &&
          !(t.vocabulary == .mathml && t.name == "annotation-xml" && head.name == "svg") &&
          !holdsPage t
      | .text _ | .blank _ | .nul => !(isMathmlText t || holdsPage t)
      | _ => true

/-- Close elements until the page proper may go on. -/
def leaveForeign : Build Unit :=
  modify fun b => { b with
    stack := b.stack.dropWhile fun i =>
      (b.cells.tag? i).any fun t => !(isMathmlText t || holdsPage t) }

/-- Close the innermost element of a name, unless one of the page proper is met before it. -/
def Builder.closeForeign (b : Builder) (name : String) : List Nat → Option (List Nat)
  | [] => none
  | i :: rest =>
    match b.cells.tag? i with
    | some t =>
      if t.vocabulary == .html then none
      else if Text.asciiLower t.name == name then some rest
      else b.closeForeign name rest
    | none => none

end Estate.Html
