import UsedSelectors.Files.SourceText
import UsedSelectors.Proofs.Attempts
import UsedSelectors.Proofs.Encoding.Writable

/-!
# Reading files

A file that cannot be read is left out, with few exceptions: a path that there are no bytes for, a
zero character in the path or in the name of the encoding, UTF-16 without a byte order mark whose
bytes could be read in little-endian order, and what an encoding of the registry raises apart from
faults in the bytes. Only for these a reading fails with an error that is no reason to go on.
-/

namespace UsedSelectors

open Encoding Attempts

/-- UTF-16 without a mark for the byte order, though the bytes are text in little-endian order. -/
structure LacksByteOrder (bytes : List UInt8) : Prop where
  notEmpty : bytes ≠ []
  noLittleMark : ¬ [0xFF, 0xFE] <+: bytes
  noBigMark : ¬ [0xFE, 0xFF] <+: bytes
  decodes : ∃ cs, (Utf16.codec .little).decode bytes = .ok cs

theorem decodeUtf16_eq_noByteOrder_iff {bytes : List UInt8} :
    decodeUtf16 bytes = .error .noByteOrder ↔ LacksByteOrder bytes := by
  unfold decodeUtf16
  split
  · constructor
    · intro h
      cases h
    · rintro ⟨notEmpty, _⟩
      exact (notEmpty rfl).elim
  · rename_i rest
    constructor
    · intro h
      obtain ⟨_, _, impossible⟩ := mapError_eq_error_iff.mp h
      cases impossible
    · rintro ⟨_, noMark, _⟩
      exact (noMark ⟨rest, rfl⟩).elim
  · rename_i rest
    constructor
    · intro h
      obtain ⟨_, _, impossible⟩ := mapError_eq_error_iff.mp h
      cases impossible
    · rintro ⟨_, _, noMark, _⟩
      exact (noMark ⟨rest, rfl⟩).elim
  · rename_i notEmpty noLittle noBig
    cases decoded : (Utf16.codec .little).decode bytes with
    | error e =>
        constructor
        · intro h
          cases h
        · rintro ⟨_, _, _, cs, decodes⟩
          rw [decoded] at decodes
          cases decodes
    | ok cs =>
        refine ⟨fun _ => ⟨notEmpty, ?_, ?_, cs, decoded⟩, fun _ => rfl⟩
        · rintro ⟨rest, rfl⟩
          exact noLittle rest rfl
        · rintro ⟨rest, rfl⟩
          exact noBig rest rfl

theorem Encoding.Charset.decode_eq_noByteOrder_iff {charset : Charset} {bytes : List UInt8} :
    charset.decode bytes = .error .noByteOrder ↔ charset = .utf16 ∧ LacksByteOrder bytes := by
  cases charset with
  | utf16 =>
      rw [Charset.decode, decodeUtf16_eq_noByteOrder_iff]
      simp
  | _ => simp [Charset.decode, mapError_eq_error_iff]

theorem Encoding.Charset.decode_ne_registered {charset : Charset} {bytes : List UInt8}
    {fault : CodecFault} : charset.decode bytes ≠ .error (.registered fault) := by
  cases charset with
  | utf16 =>
      unfold Charset.decode decodeUtf16
      dsimp only
      split
      · simp
      · simp [mapError_eq_error_iff]
      · simp [mapError_eq_error_iff]
      · split <;> simp
  | _ => simp [Charset.decode, mapError_eq_error_iff]

theorem Encoding.Charset.ofName_eq_zeroInName_iff {name : String} :
    Charset.ofName name = .error .zeroInName ↔ '\x00' ∈ name.toList := by
  unfold Charset.ofName
  by_cases zero : '\x00' ∈ name.toList
  · simp [zero]
  · rw [if_neg (by simpa using zero)]
    dsimp only
    constructor
    · intro h
      split at h
      · cases h
      · split at h <;> cases h
    · intro h
      exact (zero h).elim

namespace PathFault

/-- What is wrong with the text of a path, and has nothing to do with the files. -/
def IsOfText : PathFault → Prop
  | zeroInPath | unencodable _ => True
  | missing | notDirectory | tooLong => False

end PathFault

namespace Place

variable {longestName : Nat} {fault : PathFault}

theorem not_isOfText_of_enter {place : Place} {name : Text}
    (h : place.enter longestName name = .error fault) : ¬ fault.IsOfText := by
  unfold enter at h
  split at h
  · cases h
    exact id
  · split at h
    · split at h <;> cases h
    · split at h
      · cases h
        exact id
      · split at h
        · cases h
          exact id
        · cases h

theorem not_isOfText_of_follow {place : Place} {names : List Text}
    (h : place.follow longestName names = .error fault) : ¬ fault.IsOfText := by
  induction names generalizing place with
  | nil => cases h
  | cons name names ih =>
      rw [follow] at h
      obtain failed | ⟨next, _, failed⟩ := bind_eq_error_iff.mp h
      · exact not_isOfText_of_enter failed
      · exact ih failed

end Place

theorem FileLimits.textFault?_eq_zeroInPath_iff {limits : FileLimits} {path : Path} :
    limits.textFault? path = some .zeroInPath ↔
      path.text.IsEncodable ∧ CodePoint.zero ∈ path.text := by
  rw [textFault?, ← surrogateFrom?_true_eq_none_iff 0]
  cases surrogateFrom? true 0 path.text with
  | some e => simp
  | none => by_cases zero : CodePoint.zero ∈ path.text <;> simp [zero]

theorem FileLimits.exists_textFault?_eq_unencodable_iff {limits : FileLimits} {path : Path} :
    (∃ e, limits.textFault? path = some (.unencodable e)) ↔ ¬ path.text.IsEncodable := by
  rw [textFault?, ← surrogateFrom?_true_eq_none_iff 0]
  cases surrogateFrom? true 0 path.text with
  | some e => simp
  | none => by_cases zero : CodePoint.zero ∈ path.text <;> simp [zero]

namespace FileSystem

variable {system : FileSystem} {registry : Registry} {path : Path} {limit : Int}
  {encoding : String}

theorem find_of_textFault? {fault : PathFault} (h : system.limits.textFault? path = some fault) :
    system.find path = .error fault := by
  rw [find, h]

/-- Faults of the text of a path are found out before any name is followed, and by nothing else. -/
theorem find_eq_error_iff_of_isOfText {fault : PathFault} (ofText : fault.IsOfText) :
    system.find path = .error fault ↔ system.limits.textFault? path = some fault := by
  refine ⟨fun h => ?_, find_of_textFault?⟩
  unfold find at h
  split at h
  · rename_i other found
    cases h
    exact found
  · dsimp only at h
    split at h <;> exact absurd ofText (Place.not_isOfText_of_follow h)

def HasBytes (system : FileSystem) (path : Path) (bytes : List UInt8) : Prop :=
  ∃ place, system.find path = .ok place ∧ place.tree = .file bytes

theorem sourceText_of_hasBytes {bytes : List UInt8} (h : system.HasBytes path bytes)
    (registry : Registry) (limit : Int) (encoding : String) :
    system.sourceText registry path limit encoding =
      if limit < bytes.length then .error (.tooLarge path bytes.length limit)
      else textOfTree registry path encoding (.file bytes) := by
  obtain ⟨place, found, isFile⟩ := h
  rw [sourceText, found]
  dsimp only
  rw [isFile, FileTree.size]

/-- What can be wrong with what a path has led to. -/
theorem textOfTree_error_cases {tree : FileTree} {e : ReadError}
    (h : textOfTree registry path encoding tree = .error e) :
    e = .directory path ∨ (∃ unknown, e = .charset unknown) ∨
      (∃ (charset : Charset) (bytes : List UInt8) (failure : DecodeFailure),
        charset.decode bytes = .error failure ∧ e = .decode failure) ∨
      ∃ name decode bytes fault, registry name = some decode ∧ decode bytes = .error fault ∧
        e = .decode (.registered fault) := by
  unfold textOfTree at h
  split at h
  · cases h
    exact .inr (.inl ⟨_, rfl⟩)
  · cases h
    exact .inl rfl
  · unfold registeredText at h
    split at h
    · cases h
      exact .inr (.inl ⟨_, rfl⟩)
    · rename_i decode isRegistered
      obtain ⟨fault, fails, rfl⟩ := mapError_eq_error_iff.mp (map_eq_error_iff.mp h)
      exact .inr (.inr (.inr ⟨_, decode, _, fault, isRegistered, fails, rfl⟩))
  · cases h
    exact .inr (.inl ⟨_, rfl⟩)
  · rename_i charset _ _ _
    obtain ⟨failure, fails, rfl⟩ := mapError_eq_error_iff.mp (map_eq_error_iff.mp h)
    exact .inr (.inr (.inl ⟨_, _, failure, fails, rfl⟩))

theorem textOfTree_ne_tooLarge {tree : FileTree} {p : Path} {size : Nat} {limit : Int} :
    textOfTree registry path encoding tree ≠ .error (.tooLarge p size limit) := by
  intro read
  rcases textOfTree_error_cases read with same | ⟨_, same⟩ | ⟨_, _, _, _, same⟩ |
    ⟨_, _, _, _, _, _, same⟩ <;> cases same

/-- Bytes end the run in the encoding of a name: they lack a mark for the byte order, or an encoding
of the registry says of them what is not about bytes that cannot be decoded. -/
inductive EndsDecoding (registry : Registry) (encoding : String) (bytes : List UInt8) : Prop where
  | noByteOrder (charset : Charset.ofName encoding = .ok .utf16) (lacks : LacksByteOrder bytes) :
      EndsDecoding registry encoding bytes
  | registered {name : String} {decode : List UInt8 → Except CodecFault Text} {fault : CodecFault}
      (unknown : Charset.ofName encoding = .error (.unknown name))
      (isRegistered : registry name = some decode) (fails : decode bytes = .error fault)
      (notCaught : fault.isUndecodable = false) : EndsDecoding registry encoding bytes

/-- The text of a file is not found out, for a reason that ends the run. -/
inductive EndsReading (system : FileSystem) (registry : Registry) (path : Path) (limit : Int)
    (encoding : String) : Prop where
  | unencodablePath (noBytes : ¬ path.text.IsEncodable) :
      EndsReading system registry path limit encoding
  | zeroInPath (zero : CodePoint.zero ∈ path.text) :
      EndsReading system registry path limit encoding
  | zeroInEncoding {place : Place} (found : system.find path = .ok place)
      (fits : place.tree.size ≤ limit) (zero : '\x00' ∈ encoding.toList) :
      EndsReading system registry path limit encoding
  | decoding {place : Place} {bytes : List UInt8} (found : system.find path = .ok place)
      (isFile : place.tree = .file bytes) (fits : place.tree.size ≤ limit)
      (ends : EndsDecoding registry encoding bytes) :
      EndsReading system registry path limit encoding

theorem textOfBytes_ends_iff {charset : Charset} {bytes : List UInt8} :
    (∃ e, textOfBytes charset bytes = .error e ∧ e.isSkipped = false) ↔
      charset = .utf16 ∧ LacksByteOrder bytes := by
  rw [← Charset.decode_eq_noByteOrder_iff, textOfBytes]
  cases decoded : charset.decode bytes with
  | ok cs => simp [Except.map, Except.mapError]
  | error failure =>
      cases failure with
      | undecodable e => simp [Except.map, Except.mapError, ReadError.isSkipped]
      | noByteOrder => simp [Except.map, Except.mapError, ReadError.isSkipped]
      | registered fault => exact absurd decoded Charset.decode_ne_registered

theorem registeredText_ends_iff {name : String} {bytes : List UInt8} :
    (∃ e, registeredText registry name bytes = .error e ∧ e.isSkipped = false) ↔
      ∃ decode fault, registry name = some decode ∧ decode bytes = .error fault ∧
        fault.isUndecodable = false := by
  unfold registeredText
  cases registry name with
  | none => simp [ReadError.isSkipped]
  | some decode =>
      dsimp only
      cases decoded : decode bytes with
      | ok t => simp [Except.map, Except.mapError, decoded]
      | error fault => simp [Except.map, Except.mapError, ReadError.isSkipped, decoded]

theorem endsDecoding_iff_of_charset {charset : Charset} {bytes : List UInt8}
    (named : Charset.ofName encoding = .ok charset) :
    EndsDecoding registry encoding bytes ↔ charset = .utf16 ∧ LacksByteOrder bytes := by
  constructor
  · intro ends
    cases ends with
    | noByteOrder utf16 lacks => exact ⟨Except.ok.inj (named.symm.trans utf16), lacks⟩
    | registered unknown => cases named.symm.trans unknown
  · rintro ⟨rfl, lacks⟩
    exact .noByteOrder named lacks

theorem endsDecoding_iff_of_unknown {name : String} {bytes : List UInt8}
    (named : Charset.ofName encoding = .error (.unknown name)) :
    EndsDecoding registry encoding bytes ↔ ∃ decode fault, registry name = some decode ∧
      decode bytes = .error fault ∧ fault.isUndecodable = false := by
  constructor
  · intro ends
    cases ends with
    | noByteOrder charset => cases named.symm.trans charset
    | registered unknown isRegistered fails notCaught =>
        cases named.symm.trans unknown
        exact ⟨_, _, isRegistered, fails, notCaught⟩
  · rintro ⟨decode, fault, isRegistered, fails, notCaught⟩
    exact .registered named isRegistered fails notCaught

theorem not_endsDecoding_of_notText {name : String} {bytes : List UInt8}
    (named : Charset.ofName encoding = .error (.notText name)) :
    ¬ EndsDecoding registry encoding bytes := by
  rintro (⟨charset, _⟩ | ⟨unknown, _, _, _⟩)
  · cases named.symm.trans charset
  · cases named.symm.trans unknown

theorem textOfTree_ends_iff {tree : FileTree} :
    (∃ e, textOfTree registry path encoding tree = .error e ∧ e.isSkipped = false) ↔
      '\x00' ∈ encoding.toList ∨
        ∃ bytes, tree = .file bytes ∧ EndsDecoding registry encoding bytes := by
  rw [← Charset.ofName_eq_zeroInName_iff]
  unfold textOfTree
  cases named : Charset.ofName encoding with
  | error unknown =>
      cases unknown with
      | zeroInName => simp [ReadError.isSkipped]
      | unknown name =>
          cases tree with
          | directory => simp [ReadError.isSkipped]
          | file bytes => simp [registeredText_ends_iff, endsDecoding_iff_of_unknown named]
      | notText name =>
          cases tree <;> simp [ReadError.isSkipped, not_endsDecoding_of_notText named]
  | ok charset =>
      cases tree with
      | directory => simp [ReadError.isSkipped]
      | file bytes => simp [textOfBytes_ends_iff, endsDecoding_iff_of_charset named]

theorem endsReading_iff_of_fault {fault : PathFault} (found : system.find path = .error fault) :
    EndsReading system registry path limit encoding ↔ fault.IsOfText := by
  constructor
  · have of {other : PathFault} (h : system.limits.textFault? path = some other)
        (ofText : other.IsOfText) : fault.IsOfText := by
      cases found.symm.trans (find_of_textFault? h)
      exact ofText
    have unencodable (noBytes : ¬ path.text.IsEncodable) : fault.IsOfText := by
      obtain ⟨_, h⟩ := FileLimits.exists_textFault?_eq_unencodable_iff.mpr noBytes
      exact of h trivial
    intro ends
    cases ends with
    | unencodablePath noBytes => exact unencodable noBytes
    | zeroInPath zero =>
        by_cases encodable : path.text.IsEncodable
        · exact of (FileLimits.textFault?_eq_zeroInPath_iff.mpr ⟨encodable, zero⟩) trivial
        · exact unencodable encodable
    | zeroInEncoding found' => cases found'.symm.trans found
    | decoding found' => cases found'.symm.trans found
  · intro ofText
    have atFirst := (find_eq_error_iff_of_isOfText ofText).mp found
    cases fault with
    | zeroInPath => exact .zeroInPath (FileLimits.textFault?_eq_zeroInPath_iff.mp atFirst).2
    | unencodable e =>
        exact .unencodablePath (FileLimits.exists_textFault?_eq_unencodable_iff.mp ⟨e, atFirst⟩)
    | missing | notDirectory | tooLong => exact ofText.elim

/-- What a path leads to ends the run for its encoding alone, and only if it is not too large. -/
theorem endsReading_iff_of_place {place : Place} (found : system.find path = .ok place) :
    EndsReading system registry path limit encoding ↔ place.tree.size ≤ limit ∧
      ('\x00' ∈ encoding.toList ∨
        ∃ bytes, place.tree = .file bytes ∧ EndsDecoding registry encoding bytes) := by
  have noFault {fault : PathFault} : system.limits.textFault? path ≠ some fault := by
    intro h
    cases found.symm.trans (find_of_textFault? h)
  have encodable : path.text.IsEncodable := by
    by_contra noBytes
    obtain ⟨_, h⟩ := FileLimits.exists_textFault?_eq_unencodable_iff.mpr noBytes
    exact noFault h
  constructor
  · intro ends
    cases ends with
    | unencodablePath noBytes => exact absurd encodable noBytes
    | zeroInPath zero =>
        exact absurd (FileLimits.textFault?_eq_zeroInPath_iff.mpr ⟨encodable, zero⟩) noFault
    | zeroInEncoding found' fits zero =>
        cases found'.symm.trans found
        exact ⟨fits, .inl zero⟩
    | decoding found' isFile fits ends =>
        cases found'.symm.trans found
        exact ⟨fits, .inr ⟨_, isFile, ends⟩⟩
  · rintro ⟨fits, zero | ⟨bytes, isFile, ends⟩⟩
    · exact .zeroInEncoding found fits zero
    · exact .decoding found isFile fits ends

theorem sourceText_ends_iff :
    (∃ e, system.sourceText registry path limit encoding = .error e ∧ e.isSkipped = false) ↔
      EndsReading system registry path limit encoding := by
  unfold sourceText
  cases found : system.find path with
  | error fault =>
      rw [endsReading_iff_of_fault found]
      cases fault <;> simp [ReadError.isSkipped, PathFault.IsOfText]
  | ok place =>
      rw [endsReading_iff_of_place found]
      dsimp only
      by_cases tooLarge : limit < place.tree.size
      · rw [if_pos tooLarge]
        simp [ReadError.isSkipped, Int.not_le.mpr tooLarge]
      · rw [if_neg tooLarge, textOfTree_ends_iff]
        simp [Int.not_lt.mp tooLarge]

end FileSystem

end UsedSelectors
