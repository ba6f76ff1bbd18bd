import UsedSelectors.Markup.Token

/-!
# Documents under construction

While a document is read its nodes are kept in a store and refer to one another by number, because
a node may still be moved. The contents of a template are kept apart from its children. What a text
says is not kept.
-/

namespace UsedSelectors.Markup

inductive Namespace where
  | html
  | svg
  | math
  deriving DecidableEq, Inhabited

abbrev NodeId := Nat

structure ElementData where
  ns : Namespace
  name : String
  shownName : String
  attributes : List TagAttribute
  deriving DecidableEq, Inhabited

inductive DomKind where
  | container
  | element (data : ElementData)
  | text
  | comment
  | doctype
  deriving DecidableEq, Inhabited

structure DomEntry where
  kind : DomKind
  parent : Option NodeId
  children : Array NodeId
  contents : Option NodeId
  deriving Inhabited

structure Dom where
  entries : Array DomEntry
  deriving Inhabited

/-- A place for a node: at the end of a parent's children, or before one of them. -/
structure Place where
  parent : NodeId
  before : Option NodeId

namespace Dom

def document : NodeId := 0

def empty : Dom := ⟨#[⟨.container, none, #[], none⟩]⟩

def element? (dom : Dom) (id : NodeId) : Option ElementData :=
  match dom.entries[id]? with
  | some ⟨.element data, _, _, _⟩ => some data
  | _ => none

def parent? (dom : Dom) (id : NodeId) : Option NodeId := dom.entries[id]?.bind DomEntry.parent

def children (dom : Dom) (id : NodeId) : Array NodeId :=
  match dom.entries[id]? with
  | some entry => entry.children
  | none => #[]

def isText (dom : Dom) (id : NodeId) : Bool :=
  match dom.entries[id]? with
  | some ⟨.text, _, _, _⟩ => true
  | _ => false

/-- Where the children of a node are put: a template has them in its contents. -/
def containerOf (dom : Dom) (id : NodeId) : NodeId :=
  ((dom.entries[id]?.bind DomEntry.contents)).getD id

def modify (dom : Dom) (id : NodeId) (change : DomEntry → DomEntry) : Dom :=
  ⟨dom.entries.modify id change⟩

def add (dom : Dom) (kind : DomKind) : NodeId × Dom :=
  (dom.entries.size, ⟨dom.entries.push ⟨kind, none, #[], none⟩⟩)

def addElement (dom : Dom) (data : ElementData) : NodeId × Dom :=
  if data.ns = .html ∧ data.name = "template" then
    let contents := dom.add .container
    let id := contents.2.entries.size
    (id, ⟨contents.2.entries.push ⟨.element data, none, #[], some contents.1⟩⟩)
  else dom.add (.element data)

def detach (dom : Dom) (id : NodeId) : Dom :=
  match dom.parent? id with
  | none => dom
  | some parent =>
    (dom.modify parent (fun entry => { entry with children := entry.children.erase id })).modify id
      (fun entry => { entry with parent := none })

def put (dom : Dom) (place : Place) (id : NodeId) : Dom :=
  let dom := (dom.detach id).modify id (fun entry => { entry with parent := some place.parent })
  dom.modify place.parent fun entry =>
    match place.before.bind entry.children.idxOf? with
    | some index =>
      { entry with
        children := entry.children.extract 0 index ++ #[id] ++
          entry.children.extract index entry.children.size }
    | none => { entry with children := entry.children.push id }

def previous? (dom : Dom) (place : Place) : Option NodeId :=
  let children := dom.children place.parent
  match place.before.bind children.idxOf? with
  | some 0 => none
  | some (index + 1) => children[index]?
  | none => children.back?

def moveChildren (dom : Dom) (source target : NodeId) : Dom :=
  (dom.children source).foldl (fun dom child => dom.put ⟨target, none⟩ child) dom

def addAttributes (dom : Dom) (id : NodeId) (attributes : List TagAttribute) : Dom :=
  dom.modify id fun entry =>
    match entry.kind with
    | .element data =>
      let fresh := attributes.filter fun a => data.attributes.all (·.name != a.name)
      { entry with kind := .element { data with attributes := data.attributes ++ fresh } }
    | _ => entry

end Dom

end UsedSelectors.Markup
