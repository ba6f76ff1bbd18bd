import Mathlib.Data.List.Infix
import UsedSelectors.Component.Failure
import UsedSelectors.Parsing.Parser
import UsedSelectors.Proofs.Encoding.Utf8
import UsedSelectors.Proofs.SyntaxTree.Address

/-!
# The texts of parsed nodes

A parser counts places in characters and gives its nodes byte offsets and rows. The offsets are
always those of whole characters, so the text of each node of a tree that has come from a parser can
be decoded; the rows are the numbers of line feeds in front of them.
-/

namespace UsedSelectors.Parsing

open Encoding

def encoded (cs : List Char) : List UInt8 := cs.flatMap String.utf8EncodeChar

theorem encoded_append (before after : List Char) :
    encoded (before ++ after) = encoded before ++ encoded after :=
  List.flatMap_append

theorem toList_toUTF8 (text : String) : text.toUTF8.data.toList = encoded text.toList := by
  rw [String.toUTF8_eq_toByteArray, ← String.utf8Encode_toList, List.utf8Encode]
  exact List.toList_data_toByteArray

/-! ## Offsets of characters -/

/-- A number is the offset of a character, or of the end. -/
def IsOffset (cs : List Char) (n : Nat) : Prop :=
  ∃ before, before <+: cs ∧ n = (encoded before).length

def IsRowedOffset (cs : List Char) (n row : Nat) : Prop :=
  ∃ before, before <+: cs ∧ n = (encoded before).length ∧ row = before.count '\n'

theorem IsRowedOffset.isOffset {cs : List Char} {n row : Nat} (h : IsRowedOffset cs n row) :
    IsOffset cs n := by
  obtain ⟨before, isPrefix, offset, _⟩ := h
  exact ⟨before, isPrefix, offset⟩

theorem isRowedOffset_zero (cs : List Char) : IsRowedOffset cs 0 0 :=
  ⟨[], List.nil_prefix, rfl, rfl⟩

theorem inits_concat (cs : List Char) (c : Char) :
    (cs ++ [c]).inits = cs.inits ++ [cs ++ [c]] := by
  rw [List.inits_append]
  rfl

/-- The arrays and the counts of a text that is being made ready for a parser. -/
abbrev Notes := Array Char × Array Nat × Array Nat × Nat × Nat

def Notes.add (b : Notes) (c : Char) : Notes :=
  let row := if c = '\n' then b.2.2.2.2 + 1 else b.2.2.2.2
  (b.1.push c, b.2.1.push (b.2.2.2.1 + c.utf8Size), b.2.2.1.push row, b.2.2.2.1 + c.utf8Size, row)

/-- What has been noted down about the characters that have been read: the bytes and the rows in
front of each of them, and of what is still to be read. -/
structure Notes.Holds (read : List Char) (b : Notes) : Prop where
  bytes : b.2.1.toList = read.inits.map fun before => (encoded before).length
  rows : b.2.2.1.toList = read.inits.map fun before => before.count '\n'
  byte : b.2.2.2.1 = (encoded read).length
  row : b.2.2.2.2 = read.count '\n'

theorem Notes.Holds.add {read : List Char} {b : Notes} (noted : b.Holds read) (c : Char) :
    (b.add c).Holds (read ++ [c]) := by
  have byte : (b.add c).2.2.2.1 = (encoded (read ++ [c])).length := by
    rw [encoded_append, List.length_append, ← noted.byte]
    simp [Notes.add, encoded]
  have row : (b.add c).2.2.2.2 = (read ++ [c]).count '\n' := by
    rw [List.count_append, ← noted.row, List.count_singleton, Notes.add]
    by_cases feed : c = '\n' <;> simp [feed]
  refine ⟨?_, ?_, byte, row⟩
  · rw [inits_concat, List.map_append, ← noted.bytes, List.map_singleton, ← byte]
    exact Array.toList_push
  · rw [inits_concat, List.map_append, ← noted.rows, List.map_singleton, ← row]
    exact Array.toList_push

theorem Notes.holds_foldl (cs : List Char) :
    (cs.foldl Notes.add (#[], #[0], #[0], 0, 0)).Holds cs := by
  induction cs using List.reverseRecOn with
  | nil => exact ⟨rfl, rfl, rfl, rfl⟩
  | append_singleton cs c ih =>
      rw [List.foldl_concat]
      exact ih.add c

theorem ofString_eq_foldl (s : String) :
    Source.ofString s =
      let b := s.toList.foldl Notes.add (#[], #[0], #[0], 0, 0)
      ⟨b.1, b.2.1, b.2.2.1⟩ := by
  simp only [Source.ofString, List.forIn_pure_yield_eq_foldl, Id.run_bind, Id.run_pure]
  rfl

theorem isRowedOffset_getD (s : String) (i : Nat) :
    IsRowedOffset s.toList ((Source.ofString s).bytes.getD i 0)
      ((Source.ofString s).rows.getD i 0) := by
  have noted := Notes.holds_foldl s.toList
  rw [ofString_eq_foldl, Array.getD_eq_getD_getElem?, Array.getD_eq_getD_getElem?,
    ← Array.getElem?_toList, ← Array.getElem?_toList, noted.bytes, noted.rows, List.getElem?_map,
    List.getElem?_map]
  -- A place beyond the end has no entry in either array, and counts as the start.
  cases found : s.toList.inits[i]? with
  | none => exact isRowedOffset_zero _
  | some before =>
      exact ⟨before, (List.mem_inits _ _).mp (List.mem_of_getElem? found), rfl, rfl⟩

theorem isOffset_getD (s : String) (i : Nat) :
    IsOffset s.toList ((Source.ofString s).bytes.getD i 0) :=
  (isRowedOffset_getD s i).isOffset

theorem exists_decode_bytesBetween {text : String} {start stop : Nat}
    (hstart : IsOffset text.toList start) (hstop : IsOffset text.toList stop) :
    ∃ cs, Utf8.codec.decode (UsedSelectors.bytesBetween text.toUTF8 start stop) = .ok cs := by
  obtain ⟨before, isPrefix, rfl⟩ := hstart
  obtain ⟨whole, isPrefix', rfl⟩ := hstop
  obtain ⟨after, hafter⟩ := isPrefix'
  have cut : UsedSelectors.bytesBetween text.toUTF8 (encoded before).length (encoded whole).length =
      (encoded whole).drop (encoded before).length := by
    rw [UsedSelectors.bytesBetween, ByteArray.data_extract, Array.toList_extract, toList_toUTF8,
      ← hafter, encoded_append, List.extract_eq_take_drop, ← List.drop_take, List.take_left]
  rw [cut]
  obtain ⟨between, rfl⟩ | ⟨between, rfl⟩ := List.prefix_or_prefix_of_prefix isPrefix ⟨after, hafter⟩
  · refine ⟨between, ?_⟩
    rw [encoded_append, List.drop_left]
    exact Utf8.decode_flatMap_utf8EncodeChar between
  · refine ⟨[], ?_⟩
    rw [encoded_append, List.drop_eq_nil_of_le (by simp)]
    exact Utf8.decode_flatMap_utf8EncodeChar []

/-! ## Nodes of a parse -/

/-- All nodes of a tree begin and end at offsets of a text, and have the rows that they begin on. -/
def IsPlaced (text : String) (t : SyntaxTree) : Prop :=
  ∀ a u, t.at? a = some u →
    IsRowedOffset text.toList u.label.start u.label.row ∧ IsOffset text.toList u.label.stop

theorem isPlaced_node {text : String} {label : SyntaxLabel} {field : Option String}
    {cs : List SyntaxTree} :
    IsPlaced text (.node label field cs) ↔
      (IsRowedOffset text.toList label.start label.row ∧ IsOffset text.toList label.stop) ∧
        ∀ c ∈ cs, IsPlaced text c :=
  SyntaxTree.forall_at?_node

theorem isPlaced_fillFirst {text : String} {field : Option String} {ts : List SyntaxTree}
    (placed : ∀ t ∈ ts, IsPlaced text t) :
    ∀ t ∈ SyntaxTree.fillFirst field ts, IsPlaced text t := by
  cases ts with
  | nil => exact placed
  | cons first rest =>
      cases first with
      | node label own children =>
          rw [SyntaxTree.fillFirst]
          intro t ht
          obtain rfl | ht := List.mem_cons.mp ht
          · have first := placed _ List.mem_cons_self
            rw [isPlaced_node] at first ⊢
            exact first
          · exact placed t (List.mem_cons_of_mem _ ht)

section Shown

variable (lang : Language) (text : String)

mutual

/-- The nodes that show of a subtree begin and end at offsets. -/
theorem isPlaced_ofSubtree (shownAs : Option Alias) (field : Option String) (tree : Subtree) :
    ∀ t ∈ SyntaxTree.ofSubtree lang (Source.ofString text) shownAs field tree,
      IsPlaced text t := by
  cases tree with
  | node info children =>
      have below := isPlaced_ofSubtrees (lang.shape info.shape) 0 children
      intro t ht
      unfold SyntaxTree.ofSubtree at ht
      dsimp only at ht
      split at ht
      · exact isPlaced_fillFirst below t ht
      · obtain rfl := List.mem_singleton.mp ht
        exact isPlaced_node.mpr ⟨⟨isRowedOffset_getD text _, isOffset_getD text _⟩, below⟩

theorem isPlaced_ofSubtrees (shape : NodeShape) (place : Nat) (trees : List Subtree) :
    ∀ t ∈ SyntaxTree.ofSubtrees lang (Source.ofString text) shape place trees,
      IsPlaced text t := by
  cases trees with
  | nil =>
      rw [SyntaxTree.ofSubtrees]
      exact fun t ht => (nomatch ht)
  | cons child rest =>
      rw [SyntaxTree.ofSubtrees]
      split
      · intro t ht
        obtain ht | ht := List.mem_append.mp ht
        · exact isPlaced_ofSubtree none none child t ht
        · exact isPlaced_ofSubtrees shape place rest t ht
      · intro t ht
        obtain ht | ht := List.mem_append.mp ht
        · exact isPlaced_ofSubtree _ _ child t ht
        · exact isPlaced_ofSubtrees shape (place + 1) rest t ht

end

end Shown

theorem isPlaced_of_parse {lang : Language} {scanner : Scanner} {text : String} {root : SyntaxTree}
    (parsed : lang.parse scanner text = some root) : IsPlaced text root := by
  unfold Language.parse at parsed
  dsimp only at parsed
  obtain ⟨tree, _, shown⟩ := Option.bind_eq_some_iff.mp parsed
  exact isPlaced_ofSubtree lang text none none tree root (List.mem_of_head? shown)

theorem IsPlaced.exists_text {text : String} {root t : SyntaxTree} {a : SyntaxTree.Address}
    (placed : IsPlaced text root) (found : root.at? a = some t) :
    ∃ cs, t.text text.toUTF8 = .ok cs := by
  obtain ⟨hstart, hstop⟩ := placed a t found
  exact exists_decode_bytesBetween hstart.isOffset hstop

end UsedSelectors.Parsing
