import Mathlib.Data.List.Flatten
import UsedSelectors.Builtin
import UsedSelectors.Proofs.Encoding.Encoded
import UsedSelectors.Proofs.Files.SourceText
import UsedSelectors.Proofs.Text.LineBreaks

/-!
# Reading back what was written

A file that holds a text in an encoding is read as that text with its line breaks unified. Unified
line breaks take no more bytes than the text had, so the result can be written in the same encoding
under the same limit, and is then read back as it is.
-/

namespace UsedSelectors

open Encoding Attempts
open Encoding.Utf16 (ByteOrder)

namespace Encoding.Charset

def usualName : Charset → String
  | utf8 => "utf-8"
  | utf8Signed => "utf-8-sig"
  | ascii => "ascii"
  | latin1 => "latin-1"
  | windows1252 => "cp1252"
  | utf16 => "utf-16"
  | utf16Little => "utf-16-le"
  | utf16Big => "utf-16-be"

theorem ofName_usualName (charset : Charset) : ofName charset.usualName = .ok charset := by
  cases charset <;> decide +kernel

/-! ## Line breaks in an encoded text -/

variable {charset : Charset} {native : ByteOrder} {cs : List Char} {bytes : List UInt8}

theorem exists_charBytes?_feedForReturn {c : Char} {part : List UInt8}
    (found : charset.charBytes? native c = some part) :
    ∃ other, charset.charBytes? native (feedForReturn c) = some other ∧
      other.length = part.length := by
  by_cases isReturn : c = '\r'
  · subst isReturn
    cases charset <;> cases native <;> cases found <;> exact ⟨_, rfl, rfl⟩
  · exact ⟨part, by rwa [feedForReturn_of_ne isReturn], rfl⟩

theorem exists_parts_feedForReturn {parts : List (List UInt8)}
    (each : List.Forall₂ (fun c part => charset.charBytes? native c = some part) cs parts) :
    ∃ others, List.Forall₂ (fun c part => charset.charBytes? native c = some part)
      (cs.map feedForReturn) others ∧ others.flatten.length = parts.flatten.length := by
  induction each with
  | nil => exact ⟨[], .nil, rfl⟩
  | cons first _ ih =>
      obtain ⟨other, found, sameLength⟩ := exists_charBytes?_feedForReturn first
      obtain ⟨others, each, sameLengths⟩ := ih
      refine ⟨other :: others, .cons found each, ?_⟩
      rw [List.flatten_cons, List.flatten_cons, List.length_append, List.length_append, sameLength,
        sameLengths]

theorem sublistForall₂_dropReturns {R : Char → List UInt8 → Prop} {parts : List (List UInt8)}
    (each : List.Forall₂ R cs parts) : List.SublistForall₂ R (dropReturns cs) parts := by
  induction cs using dropReturns.induct generalizing parts with
  | case1 => exact .nil
  | case2 rest ih =>
      rcases each with _ | ⟨_, _ | ⟨feed, others⟩⟩
      exact .cons_right (.cons feed (ih others))
  | case3 c rest notBoth ih =>
      rcases each with _ | ⟨first, others⟩
      rw [dropReturns]
      · exact .cons first (ih others)
      · exact notBoth

theorem exists_encode?_unifyLineBreaks (encoded : charset.encode? native cs = some bytes) :
    ∃ again, charset.encode? native (unifyLineBreaks cs) = some again ∧
      again.length ≤ bytes.length := by
  obtain ⟨parts, each, rfl⟩ := encode?_eq_some_iff.mp encoded
  -- First some characters are left out with their bytes, then some are replaced by others that
  -- take as many.
  obtain ⟨fewer, left, sublist⟩ := List.sublistForall₂_iff.mp (sublistForall₂_dropReturns each)
  obtain ⟨others, unified, sameLength⟩ := exists_parts_feedForReturn left
  rw [← unifyLineBreaks_eq] at unified
  refine ⟨_, encode?_eq_some_iff.mpr ⟨others, unified, rfl⟩, ?_⟩
  rw [List.length_append, List.length_append, sameLength]
  exact Nat.add_le_add_left sublist.flatten.length_le _

end Encoding.Charset

/-! ## Reading a file -/

namespace FileSystem

variable {system other : FileSystem} {registry : Registry} {path : Path} {limit : Int}
  {encoding : String} {charset : Charset} {native : ByteOrder} {bytes : List UInt8}
  {contents : Text}

theorem textOfTree_of_ofName (named : Charset.ofName encoding = .ok charset) (path : Path)
    (bytes : List UInt8) :
    textOfTree registry path encoding (.file bytes) = textOfBytes charset bytes := by
  unfold textOfTree
  rw [named]

theorem textOfBytes_eq_ok_iff : textOfBytes charset bytes = .ok contents ↔
    ∃ cs, charset.decode bytes = .ok cs ∧ Text.ofChars (unifyLineBreaks cs) = contents := by
  rw [textOfBytes, map_eq_ok_iff]
  simp only [mapError_eq_ok_iff]

/-- A file is refused for its size exactly when it exceeds the limit, in whichever encoding. -/
theorem sourceText_eq_tooLarge_iff (here : system.HasBytes path bytes) {p : Path} {size : Nat}
    {other : Int} :
    system.sourceText registry path limit encoding = .error (.tooLarge p size other) ↔
      limit < bytes.length ∧ p = path ∧ size = bytes.length ∧ other = limit := by
  rw [sourceText_of_hasBytes here]
  split
  · rename_i large
    constructor
    · intro same
      cases same
      exact ⟨large, rfl, rfl, rfl⟩
    · rintro ⟨_, rfl, rfl, rfl⟩
      rfl
  · rename_i fits
    exact iff_of_false textOfTree_ne_tooLarge fun ⟨large, _⟩ => fits large

theorem return_notMem_of_textOfTree {tree : FileTree}
    (read : textOfTree registry path encoding tree = .ok contents) :
    .ofChar '\r' ∉ contents := by
  unfold textOfTree at read
  split at read
  · cases read
  · cases read
  · unfold registeredText at read
    split at read
    · cases read
    · obtain ⟨t, _, rfl⟩ := map_eq_ok_iff.mp read
      exact Text.return_notMem_unifyLineBreaks t
  · cases read
  · obtain ⟨cs, _, rfl⟩ := textOfBytes_eq_ok_iff.mp read
    rw [← String.toList_ofList (l := unifyLineBreaks cs), ← Text.ofString,
      Text.ofChar_mem_ofString_iff, String.toList_ofList]
    exact return_notMem_unifyLineBreaks cs

theorem sourceText_of_encode? {cs : List Char} (here : system.HasBytes path bytes)
    (encoded : charset.encode? native cs = some bytes) (fits : bytes.length ≤ limit) :
    system.sourceText registry path limit charset.usualName =
      .ok (.ofChars (unifyLineBreaks cs)) := by
  rw [sourceText_of_hasBytes here, if_neg (Int.not_lt.mpr fits),
    textOfTree_of_ofName charset.ofName_usualName]
  exact textOfBytes_eq_ok_iff.mpr ⟨cs, Charset.decode_of_encode? encoded, rfl⟩

/-- A file that is larger than the limit is refused, whatever it holds and in whichever encoding. A
file that holds an encoded text and is not too large is read as the text, but for its line breaks;
what has been read can be written and is then read back. -/
theorem sourceText_spec (here : system.HasBytes path bytes) (registry : Registry)
    (limit : Int) :
    (∀ encoding p size other,
      system.sourceText registry path limit encoding = .error (.tooLarge p size other) ↔
        limit < bytes.length ∧ p = path ∧ size = bytes.length ∧ other = limit) ∧
    (∀ encoding contents, system.sourceText registry path limit encoding = .ok contents →
      .ofChar '\r' ∉ contents) ∧
    ∀ (charset : Charset) (native : ByteOrder) (text : String),
      charset.encode? native text.toList = some bytes → bytes.length ≤ limit →
      ∃ contents : String,
        system.sourceText registry path limit charset.usualName = .ok (.ofString contents) ∧
        contents.toList = (dropReturns text.toList).map feedForReturn ∧
        ∃ again, charset.encode? native contents.toList = some again ∧
          ∀ (other : FileSystem) (copy : Path), other.HasBytes copy again →
            other.sourceText registry copy limit charset.usualName = .ok (.ofString contents) := by
  refine ⟨fun _ _ _ _ => sourceText_eq_tooLarge_iff here, fun encoding contents read => ?_, ?_⟩
  · rw [sourceText_of_hasBytes here] at read
    split at read
    · cases read
    · exact return_notMem_of_textOfTree read
  intro charset native text encoded fits
  obtain ⟨again, encodedAgain, shorter⟩ := Charset.exists_encode?_unifyLineBreaks encoded
  have asString (cs : List Char) : Text.ofString (String.ofList cs) = .ofChars cs := by
    rw [Text.ofString, String.toList_ofList]
  refine ⟨String.ofList (unifyLineBreaks text.toList), ?_, ?_, again, ?_, ?_⟩
  · rw [asString]
    exact sourceText_of_encode? here encoded fits
  · rw [String.toList_ofList, unifyLineBreaks_eq]
  · rwa [String.toList_ofList]
  · intro other copy there
    rw [asString, sourceText_of_encode? there encodedAgain
      (Int.le_trans (Int.ofNat_le.mpr shorter) fits),
      unifyLineBreaks_of_notMem (return_notMem_unifyLineBreaks _)]

/-- A text that begins with U+FEFF and has line breaks of all sorts around a surrogate pair. -/
def noteText : String := "\uFEFF\r\r\n😀\r"

/-- The text in marked UTF-16, with the lower byte of each unit first. -/
def noteBytes : List UInt8 :=
  [0xFF, 0xFE, 0xFF, 0xFE, 0x0D, 0x00, 0x0D, 0x00, 0x0A, 0x00, 0x3D, 0xD8, 0x00, 0xDE, 0x0D, 0x00]

def noteSystem : FileSystem :=
  ⟨.directory 4096 [(.ofString "note", .file noteBytes)], [], .builtin⟩

/-- A limit of just as many bytes as there are. Only the mark in front is no part of the text. -/
theorem sourceText_spec_note :
    noteSystem.HasBytes (.ofString "note") noteBytes ∧
      Charset.utf16.encode? .little noteText.toList = some noteBytes ∧
      (noteBytes.length : Int) ≤ 16 ∧
      ∃ contents : String,
        noteSystem.sourceText .builtin (.ofString "note") 16 "utf-16" = .ok (.ofString contents) ∧
          contents.toList = ['\uFEFF', '\n', '\n', '😀', '\n'] := by
  have here : noteSystem.HasBytes (.ofString "note") noteBytes := ⟨_, rfl, rfl⟩
  have encoded : Charset.utf16.encode? .little noteText.toList = some noteBytes := by decide
  have fits : (noteBytes.length : Int) ≤ 16 := by decide
  obtain ⟨contents, read, unified, _⟩ :=
    (sourceText_spec here .builtin 16).2.2 .utf16 .little noteText encoded fits
  exact ⟨here, encoded, fits, contents, read, unified.trans (by decide)⟩

end FileSystem

end UsedSelectors
