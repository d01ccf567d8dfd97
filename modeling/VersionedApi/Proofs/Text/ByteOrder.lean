import Mathlib.Data.List.Basic
import Mathlib.Tactic.SplitIfs

/-!
# Texts in byte order

Texts are compared by their code points.  That is the order of their bytes in
UTF-8, since the bytes of a character tell how many they are and then list its
digits from the front.
-/

namespace VersionedApi.Text

def utf8Bytes (text : String) : List UInt8 :=
  text.toUTF8.data.toList

theorem utf8Bytes_eq (text : String) :
    utf8Bytes text = text.toList.flatMap String.utf8EncodeChar := by
  rw [utf8Bytes, String.toUTF8_eq_toByteArray, ← String.utf8Encode_toList, List.utf8Encode]
  simp

/-- Lists that start with bytes of given values compare by these first. -/
theorem ofNat_cons_lt_iff {a b : Nat} {x y : List UInt8} (boundLeft : a < 256)
    (boundRight : b < 256) :
    UInt8.ofNat a :: x < UInt8.ofNat b :: y ↔ a < b ∨ a = b ∧ x < y := by
  rw [List.cons_lt_cons_iff, UInt8.lt_iff_toNat_lt, ← UInt8.toNat_inj,
    UInt8.toNat_ofNat_of_lt' boundLeft, UInt8.toNat_ofNat_of_lt' boundRight]

/-- The bytes of a smaller character come first, whatever follows them. -/
theorem utf8EncodeChar_append_lt {c d : Char} (less : c < d) (x y : List UInt8) :
    String.utf8EncodeChar c ++ x < String.utf8EncodeChar d ++ y := by
  have order : c.val.toNat < d.val.toNat := less
  have bound : d.val.toNat < 0x110000 :=
    d.valid.elim (fun below => Nat.lt_trans below (by decide)) (·.2)
  have twice : ∀ point : Nat, point / 4096 = point / 64 / 64 := by omega
  have thrice : ∀ point : Nat, point / 262144 = point / 64 / 64 / 64 := by omega
  rw [String.utf8EncodeChar.eq_def, String.utf8EncodeChar.eq_def]
  dsimp only
  generalize c.val.toNat = low at *
  generalize d.val.toNat = high at *
  -- In digits to the base 64 each of the sixteen pairs of lengths is linear.
  simp only [twice, thrice]
  clear twice thrice less
  split_ifs <;>
    simp (disch := omega) only [List.cons_append, List.nil_append, ofNat_cons_lt_iff]
  any_goals omega

theorem flatMap_utf8EncodeChar_lt {x y : List Char} (less : List.Lex (· < ·) x y) :
    x.flatMap String.utf8EncodeChar < y.flatMap String.utf8EncodeChar := by
  induction less with
  | @nil c rest =>
      rw [List.flatMap_cons]
      cases bytes : String.utf8EncodeChar c with
      | nil =>
          have size := String.length_utf8EncodeChar c
          rw [bytes] at size
          exact absurd size.symm (Nat.ne_of_gt c.utf8Size_pos)
      | cons first others => exact List.nil_lt_cons _ _
  | cons _ ih => exact List.append_left_lt ih
  | rel less => exact utf8EncodeChar_append_lt less _ _

/-- A smaller text has the smaller bytes. -/
theorem utf8Bytes_lt {left right : String} (less : left < right) :
    utf8Bytes left < utf8Bytes right := by
  rw [utf8Bytes_eq, utf8Bytes_eq]
  exact flatMap_utf8EncodeChar_lt less

/-- Sorting by a text puts the texts in order. -/
theorem pairwise_mergeSort_le {α : Type} (key : α → String) (members : List α) :
    (members.mergeSort fun left right => decide (key left ≤ key right)).Pairwise
      fun left right => key left ≤ key right := by
  have ordered := @List.pairwise_mergeSort _
    (fun left right => decide (key left ≤ key right))
    (fun left middle right early late => by
      simpa using String.le_trans (by simpa using early) (by simpa using late))
    (fun left right => by simpa using String.le_total (key left) (key right)) members
  simpa using ordered

end VersionedApi.Text
