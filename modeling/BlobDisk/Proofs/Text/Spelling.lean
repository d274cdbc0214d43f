import BlobDisk.Net.Address
import BlobDisk.Proofs.Text.Decimal

/-!
# What addresses are spelled with

* `IpAddress.spelled_text`: an address is written with digits of base sixteen, dots and colons.
-/

namespace BlobDisk

namespace IpAddress

variable {c : Char} {s t : String}

/-- The characters of addresses. -/
def isSymbol (c : Char) : Bool := c.isDigit || ('a' ≤ c && c ≤ 'f') || c = '.' || c = ':'

/-- All characters are those of addresses. -/
def Spelled (s : String) : Prop := ∀ c ∈ s.toList, isSymbol c = true

theorem Spelled.append (hs : Spelled s) (ht : Spelled t) : Spelled (s ++ t) := by
  intro c hc
  rw [String.toList_append, List.mem_append] at hc
  exact hc.elim (hs c) (ht c)

theorem spelled_of_all (h : s.toList.all isSymbol = true) : Spelled s := List.all_eq_true.mp h

theorem spelled_dot : Spelled "." := spelled_of_all (by decide)

theorem spelled_colon : Spelled ":" := spelled_of_all (by decide)

theorem spelled_mapped : Spelled "::ffff:" := spelled_of_all (by decide)

theorem spelled_toString (n : Nat) : Spelled (toString n) := by
  intro c hc
  rw [Decimal.toList_toString] at hc
  rw [isSymbol, Decimal.isDigit_of_mem hc, Bool.true_or, Bool.true_or, Bool.true_or]

theorem isSymbol_digitChar : ∀ n < 16, isSymbol n.digitChar = true := by decide

theorem spelled_toDigits (n : Nat) : Spelled (String.ofList (Nat.toDigits 16 n)) := by
  unfold Spelled
  rw [String.toList_ofList]
  induction n using Nat.strongRecOn with
  | ind n ih =>
    intro c hc
    by_cases hn : n < 16
    · rw [Nat.toDigits_of_lt_base hn, List.mem_singleton] at hc
      exact hc ▸ isSymbol_digitChar n hn
    · rw [Nat.toDigits_of_base_le (by decide) (by omega), List.mem_append, List.mem_singleton] at hc
      rcases hc with hc | rfl
      · exact ih (n / 16) (by omega) c hc
      · exact isSymbol_digitChar _ (Nat.mod_lt _ (by decide))

theorem spelled_dotted (a b c d : UInt8) : Spelled (dotted a b c d) := by
  have hnumber := fun x : UInt8 => spelled_toString x.toNat
  exact ((((((hnumber a).append spelled_dot).append (hnumber b)).append spelled_dot).append
    (hnumber c)).append spelled_dot).append (hnumber d)

theorem spelled_colons (groups : List UInt16) : Spelled (colons groups) := by
  unfold colons
  induction groups with
  | nil => exact nofun
  | cons g groups ih =>
    have hgroup := spelled_toDigits g.toNat
    cases groups with
    | nil => simpa using hgroup
    | cons g' groups =>
      rw [List.map_cons, List.map_cons, String.intercalate_cons_cons]
      exact (hgroup.append spelled_colon).append ih

/-- An address is written with digits of base sixteen, dots and colons. -/
theorem spelled_text (ip : IpAddress) : Spelled ip.text := by
  cases ip with
  | v4 a b c d => exact spelled_dotted a b c d
  | v6 groups =>
    dsimp only [text]
    split
    · exact spelled_mapped.append (spelled_dotted _ _ _ _)
    · split
      · exact ((spelled_colons _).append (spelled_colon.append spelled_colon)).append (spelled_colons _)
      · exact spelled_colons _

end IpAddress

end BlobDisk
