import UsedSelectors.Component.Roots
import UsedSelectors.Markup.Document
import UsedSelectors.Mode
import UsedSelectors.Traversal

/-!
# Extraction

An extractor lists the selectors of a source. It is no more than a way to read trees and the order
to walk them in, so what it answers depends on nothing but the source it is given. How documents
and scripts are parsed is left to parsers.
-/

namespace UsedSelectors

/-- A way to read element trees from a source. -/
structure TreeSource where
  mode : Mode
  order : Order
  roots : Text → Except Component.Failure (List Node)

/-- Elements of documents are listed by their depth, those of components in the order of the
text. -/
def Mode.order : Mode → Order
  | .markup => .level
  | .component => .pre

structure Extraction where
  classNames : List Text
  ids : List Text
  deriving DecidableEq

inductive KindChoice where
  | all
  | only (kind : SelectorKind)
  deriving DecidableEq

namespace TreeSource

def extractKind (source : TreeSource) (kind : SelectorKind) (contents : Text) :
    Except Component.Failure (List Text) :=
  (source.roots contents).map (source.order.walk kind)

/-- The selectors of both kinds, from one reading of the source. -/
def extract (source : TreeSource) (contents : Text) : Except Component.Failure Extraction :=
  (source.roots contents).map
    (fun roots => ⟨source.order.walk .className roots, source.order.walk .ident roots⟩)

def extractChoice (source : TreeSource) (choice : KindChoice) (contents : Text) :
    Except Component.Failure Extraction :=
  match choice with
  | .all => source.extract contents
  | .only .className =>
    (source.extractKind .className contents).map (fun classNames => ⟨classNames, []⟩)
  | .only .ident => (source.extractKind .ident contents).map (fun ids => ⟨[], ids⟩)

end TreeSource

/-! ## Parsers -/

abbrev Readers := Mode → Text → Except Component.Failure (List Node)

def Readers.source (readers : Readers) (mode : Mode) : TreeSource :=
  ⟨mode, mode.order, readers mode⟩

structure Parsers where
  document : Text → Markup.Document
  script : String → SyntaxTree

/-- Only a script that can be written as UTF-8 is parsed. -/
def Parsers.readers (parsers : Parsers) : Readers
  | .markup, contents => .ok (parsers.document contents).roots
  | .component, contents =>
    match Encoding.writable contents with
    | .error error => .error (.unencodable error)
    | .ok script => Component.rootsOf script.toUTF8 (parsers.script script)

end UsedSelectors
