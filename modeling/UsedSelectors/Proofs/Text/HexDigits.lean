import Mathlib.Data.Nat.Digits.Defs
import Mathlib.Data.Nat.Digits.Lemmas
import UsedSelectors.Text.Digits

/-!
# Numbers in hexadecimal digits

A hexadecimal digit is a number below sixteen, written with a small or a capital letter from ten on.
-/

namespace UsedSelectors

theorem ofDigits_eq_ofDigits_reverse (base : Nat) (ds : List Nat) :
    ofDigits base ds = Nat.ofDigits base ds.reverse := by
  rw [Nat.ofDigits_eq_foldr, List.foldr_reverse, ofDigits]
  congr 1
  funext n d
  rw [Nat.add_comm, Nat.mul_comm, Nat.cast_id]

structure HexDigit where
  value : Fin 16
  isCapital : Bool
  deriving DecidableEq

namespace HexDigit

def char (d : HexDigit) : Char :=
  if d.isCapital then (Nat.digitChar d.value).toUpper else Nat.digitChar d.value

/-- The number that digits stand for, the first one weighing most. -/
def number (ds : List HexDigit) : Nat := Nat.ofDigits 16 (ds.map (·.value.val)).reverse

theorem hexValue?_char (d : HexDigit) : hexValue? d.char = some d.value.val := by
  have all : ∀ (value : Fin 16) (isCapital : Bool),
      hexValue? (char ⟨value, isCapital⟩) = some value.val := by decide
  exact all d.value d.isCapital

theorem isHexDigit_char (d : HexDigit) : isHexDigit d.char = true := by
  rw [isHexDigit, hexValue?_char]
  rfl

theorem filterMap_char (ds : List HexDigit) :
    (ds.map char).filterMap hexValue? = ds.map (·.value.val) := by
  rw [List.filterMap_map, ← List.filterMap_eq_map]
  exact List.filterMap_congr fun d _ => hexValue?_char d

theorem ofDigits_eq (ds : List HexDigit) :
    ofDigits 16 (ds.map (·.value.val)) = number ds :=
  ofDigits_eq_ofDigits_reverse 16 _

theorem number_lt (ds : List HexDigit) : number ds < 16 ^ ds.length := by
  have small : ∀ n ∈ (ds.map (·.value.val)).reverse, n < 16 := by
    intro n member
    obtain ⟨d, _, rfl⟩ := List.mem_map.mp (List.mem_reverse.mp member)
    exact d.value.isLt
  have bound := Nat.ofDigits_lt_base_pow_length (by decide : 1 < 16) small
  rwa [List.length_reverse, List.length_map] at bound

theorem number_lt_of_length_le {ds : List HexDigit} (short : ds.length ≤ 4) :
    number ds < 0x10000 :=
  (number_lt ds).trans_le (Nat.pow_le_pow_right (by decide : 0 < 16) short)

theorem number_concat (ds : List HexDigit) (d : HexDigit) :
    number (ds ++ [d]) = 16 * number ds + d.value.val := by
  rw [number, List.map_append, List.map_singleton, List.reverse_append, List.reverse_singleton,
    List.singleton_append, Nat.ofDigits_cons, Nat.add_comm]
  rfl

theorem exists_hexDigits_eq {places n : Nat} (small : n < 16 ^ places) :
    ∃ ds, hexDigits places n = ds.map char ∧ ds.length = places ∧ number ds = n := by
  have last : ∀ d (h : d < 16), hexDigit d = char ⟨⟨d, h⟩, false⟩ := by decide
  induction places generalizing n with
  | zero =>
      obtain rfl : n = 0 := Nat.lt_one_iff.mp small
      exact ⟨[], rfl, rfl, rfl⟩
  | succ places ih =>
      have fewer : n / 16 < 16 ^ places := by
        rw [Nat.div_lt_iff_lt_mul (by decide)]
        exact small
      obtain ⟨ds, written, length, same⟩ := ih fewer
      have digit := last (n % 16) (Nat.mod_lt n (by decide))
      refine ⟨ds ++ [⟨⟨n % 16, Nat.mod_lt n (by decide)⟩, false⟩], ?_, ?_, ?_⟩
      · rw [hexDigits, written, digit, List.map_append, List.map_singleton]
      · rw [List.length_append, length, List.length_singleton]
      · rw [number_concat, same]
        exact Nat.div_add_mod n 16

end HexDigit

end UsedSelectors
