import UsedSelectors.Markup.Dom

/-!
# Vocabulary

What is special about elements of certain names: which of them end by themselves, which bound the
search for an open element, and how names are written in drawings and formulas.
-/

namespace UsedSelectors.Markup

namespace ElementData

def isHtml (names : List String) (e : ElementData) : Bool :=
  e.ns == .html && names.contains e.name

def endsImplicitly : ElementData → Bool :=
  isHtml ["dd", "dt", "li", "optgroup", "option", "p", "rb", "rp", "rt", "rtc"]

def endsWithTemplate (e : ElementData) : Bool :=
  e.endsImplicitly ||
    e.isHtml ["caption", "colgroup", "tbody", "td", "tfoot", "th", "thead", "tr"]

def isMathText (e : ElementData) : Bool :=
  e.ns == .math && ["mi", "mo", "mn", "ms", "mtext"].contains e.name

def isSvgText (e : ElementData) : Bool :=
  e.ns == .svg && ["foreignobject", "desc", "title"].contains e.name

def boundsScope (e : ElementData) : Bool :=
  e.isHtml ["applet", "caption", "html", "table", "td", "th", "marquee", "object", "select",
    "template"] ||
  e.isMathText || (e.ns == .math && e.name == "annotation-xml") || e.isSvgText

def boundsListScope (e : ElementData) : Bool := e.boundsScope || e.isHtml ["ol", "ul"]

def boundsButtonScope (e : ElementData) : Bool := e.boundsScope || e.isHtml ["button"]

def boundsTableScope : ElementData → Bool := isHtml ["html", "table", "template"]

def isSpecial (e : ElementData) : Bool :=
  e.isHtml ["address", "applet", "area", "article", "aside", "base", "basefont", "bgsound",
    "blockquote", "body", "br", "button", "caption", "center", "col", "colgroup", "dd", "details",
    "dir", "div", "dl", "dt", "embed", "fieldset", "figcaption", "figure", "footer", "form",
    "frame", "frameset", "h1", "h2", "h3", "h4", "h5", "h6", "head", "header", "hgroup", "hr",
    "html", "iframe", "img", "input", "keygen", "li", "link", "listing", "main", "marquee", "menu",
    "meta", "nav", "noembed", "noframes", "noscript", "object", "ol", "p", "param", "plaintext",
    "pre", "script", "search", "section", "select", "source", "style", "summary", "table", "tbody",
    "td", "template", "textarea", "tfoot", "th", "thead", "title", "tr", "track", "ul", "wbr",
    "xmp"] ||
  e.isMathText || (e.ns == .math && e.name == "annotation-xml") || e.isSvgText

def hasValue (attributes : List TagAttribute) (name value : String) : Bool :=
  attributes.any fun a =>
    a.name == name && (a.value.map (fun v => v.toList.map Char.toLower)) == some value.toList

def isDocumentIsland (e : ElementData) : Bool :=
  e.isSvgText ||
    (e.ns == .math && e.name == "annotation-xml" &&
      (hasValue e.attributes "encoding" "text/html" ||
        hasValue e.attributes "encoding" "application/xhtml+xml"))

end ElementData

def named (names : List String) : ElementData → Bool := ElementData.isHtml names

def headings : List String := ["h1", "h2", "h3", "h4", "h5", "h6"]

def svgNames : List String := [
  "altGlyph", "altGlyphDef", "altGlyphItem", "animateColor", "animateMotion", "animateTransform",
  "clipPath", "feBlend", "feColorMatrix", "feComponentTransfer", "feComposite",
  "feConvolveMatrix", "feDiffuseLighting", "feDisplacementMap", "feDistantLight", "feDropShadow",
  "feFlood", "feFuncA", "feFuncB", "feFuncG", "feFuncR", "feGaussianBlur", "feImage", "feMerge",
  "feMergeNode", "feMorphology", "feOffset", "fePointLight", "feSpecularLighting", "feSpotLight",
  "feTile", "feTurbulence", "foreignObject", "glyphRef", "linearGradient", "radialGradient",
  "textPath"]

def svgAttributeNames : List String := [
  "attributeName", "attributeType", "baseFrequency", "baseProfile", "calcMode", "clipPathUnits",
  "diffuseConstant", "edgeMode", "filterUnits", "glyphRef", "gradientTransform", "gradientUnits",
  "kernelMatrix", "kernelUnitLength", "keyPoints", "keySplines", "keyTimes", "lengthAdjust",
  "limitingConeAngle", "markerHeight", "markerUnits", "markerWidth", "maskContentUnits",
  "maskUnits", "numOctaves", "pathLength", "patternContentUnits", "patternTransform",
  "patternUnits", "pointsAtX", "pointsAtY", "pointsAtZ", "preserveAlpha", "preserveAspectRatio",
  "primitiveUnits", "refX", "refY", "repeatCount", "repeatDur", "requiredExtensions",
  "requiredFeatures", "specularConstant", "specularExponent", "spreadMethod", "startOffset",
  "stdDeviation", "stitchTiles", "surfaceScale", "systemLanguage", "tableValues", "targetX",
  "targetY", "textLength", "viewBox", "viewTarget", "xChannelSelector", "yChannelSelector",
  "zoomAndPan"]

def mathAttributeNames : List String := ["definitionURL"]

def spellingIn (names : List String) (name : String) : String :=
  (names.find? (fun n => n.toLower == name)).getD name

def Namespace.elementName : Namespace → String → String
  | svg, name => spellingIn svgNames name
  | _, name => name

def Namespace.attributeName : Namespace → String → String
  | svg, name => spellingIn svgAttributeNames name
  | math, name => spellingIn mathAttributeNames name
  | html, name => name

def elementOf (ns : Namespace) (tag : Tag) : ElementData where
  ns := ns
  name := tag.name
  shownName := ns.elementName tag.name
  attributes := tag.attributes.map fun a => { a with name := ns.attributeName a.name }

end UsedSelectors.Markup
