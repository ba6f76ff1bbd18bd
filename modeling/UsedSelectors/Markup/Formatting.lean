import UsedSelectors.Markup.Builder

/-!
# Formatting elements

Formatting reaches across blocks: an element that is closed by the end of a block is opened again
after it, and an end tag that meets a block cuts the element in two, one part around the block and
one inside it.
-/

namespace UsedSelectors.Markup

def FormattingEntry.id? : FormattingEntry → Option NodeId
  | element id => some id
  | marker => none

namespace Builder

def formattingIds (b : Builder) : List NodeId :=
  (b.formatting.takeWhile (· != .marker)).filterMap FormattingEntry.id?

def formattingElement? (b : Builder) (name : String) : Option NodeId :=
  b.formattingIds.find? (b.check (named [name]))

def forget (id : NodeId) (b : Builder) : Builder :=
  { b with formatting := b.formatting.erase (.element id) }

/-- Whether two elements are alike: they have the same name and the same attributes. -/
def alike (e f : ElementData) : Bool :=
  e.ns == f.ns && e.name == f.name && e.attributes.length == f.attributes.length &&
    e.attributes.all f.attributes.contains

/-- Adds the innermost element to the formatting elements. Of elements that are alike no more than
three are kept after the last marker. -/
def addFormatting (b : Builder) : Builder :=
  match b.opened.head? with
  | none => b
  | some id =>
    let same := b.formattingIds.filter fun other =>
      match b.dom.element? id, b.dom.element? other with
      | some e, some f => alike e f
      | _, _ => false
    let b := match same[2]? with
      | some oldest => b.forget oldest
      | none => b
    { b with formatting := .element id :: b.formatting }

/-- Opens formatting elements again, oldest first, with those that were opened before them, last
one first. -/
def reopen (again : List FormattingEntry) : List NodeId → Builder → Builder
  | [], b => { b with formatting := again ++ b.formatting }
  | id :: rest, b =>
    match b.dom.element? id with
    | none => b.reopen again rest
    | some data =>
      let b := b.openAt b.place data
      b.reopen ((b.opened.head?.map FormattingEntry.element).toList ++ again) rest

def reconstruct (b : Builder) : Builder :=
  let closed := (b.formatting.takeWhile fun entry =>
    match entry with
    | .element id => !b.opened.contains id
    | .marker => false).filterMap FormattingEntry.id?
  { b with formatting := b.formatting.drop closed.length }.reopen [] closed.reverse

def closeOther (name : String) (b : Builder) : List NodeId → Builder
  | [] => b
  | id :: rest =>
    if b.check (named [name]) id then
      let b := b.closeImplied [name]
      { b with opened := (b.opened.dropWhile (· != id)).drop 1 }
    else if b.check ElementData.isSpecial id then b
    else b.closeOther name rest

inductive CutOutcome where
  | finished (b : Builder)
  | continued (b : Builder)
  | unmatched (b : Builder)

structure Cut where
  b : Builder
  last : NodeId
  /-- The copies that stay open, outermost first. -/
  copies : List NodeId
  bookmark : Option NodeId
  count : Nat

/-- Looks at one element between a formatting element and a block: a formatting element is copied
around what was cut so far, unless there were too many; any other one is passed over. -/
def cutStep (cut : Cut) (id : NodeId) : Cut :=
  let b := cut.b
  let count := cut.count + 1
  let entry := FormattingEntry.element id
  match b.dom.element? id with
  | none => { cut with count := count }
  | some data =>
    if !b.formatting.contains entry then { cut with count := count }
    else if count > 3 then { cut with b := b.forget id, count := count }
    else
      let added := b.dom.addElement data
      let copy := added.1
      { b := { b with
          dom := added.2.put ⟨copy, none⟩ cut.last
          formatting := b.formatting.map fun e => if e == entry then .element copy else e }
        last := copy
        copies := copy :: cut.copies
        bookmark := cut.bookmark.orElse fun _ => some copy
        count := count }

def replaceFormatting (old new : NodeId) (bookmark : Option NodeId) (b : Builder) : Builder :=
  match bookmark with
  | none =>
    { b with
      formatting := b.formatting.map fun e => if e == .element old then .element new else e }
  | some anchor =>
    { b with
      formatting := (b.formatting.erase (.element old)).flatMap fun e =>
        if e == .element anchor then [.element new, e] else [e] }

def cutAt (element block : NodeId) (data : ElementData) (b : Builder) : Builder :=
  let inner := b.opened.takeWhile (· != element)
  let outer := (b.opened.dropWhile (· != element)).drop 1
  let between := (inner.dropWhile (· != block)).drop 1
  let cut := between.foldl cutStep ⟨b, block, [], none, 0⟩
  let b := cut.b
  let place := b.placeIn (outer.head?.getD Dom.document)
  let added := (b.dom.put place cut.last).addElement data
  let dom := (added.2.moveChildren block added.1).put ⟨block, none⟩ added.1
  { b with
    dom := dom
    opened := inner.takeWhile (· != block) ++ added.1 :: block :: cut.copies.reverse ++ outer
  }.replaceFormatting element added.1 cut.bookmark

def cutRound (name : String) (b : Builder) : CutOutcome :=
  match b.formattingElement? name with
  | none => .unmatched b
  | some id =>
    if !b.opened.contains id then .finished (b.forget id)
    else
      let inner := b.opened.takeWhile (· != id)
      if inner.any (b.check ElementData.boundsScope) then .finished b
      else
        match inner.reverse.find? (b.check ElementData.isSpecial), b.dom.element? id with
        | some block, some data => .continued (b.cutAt id block data)
        | _, _ =>
          let rest := (b.opened.dropWhile (· != id)).drop 1
          .finished (forget id { b with opened := rest })

def cutRounds (name : String) : Nat → Builder → Builder
  | 0, b => b
  | rounds + 1, b =>
    match b.cutRound name with
    | .finished b => b
    | .continued b => b.cutRounds name rounds
    | .unmatched b => b.closeOther name b.opened

def closeFormatting (name : String) (b : Builder) : Builder :=
  let isPlain := match b.opened.head? with
    | some id => b.check (named [name]) id && !b.formatting.contains (.element id)
    | none => false
  if isPlain then b.closeCurrent else b.cutRounds name 8

end Builder

end UsedSelectors.Markup
