import Mathlib.Data.List.TakeDrop
import Mathlib.Data.Option.Basic

/-!
# Words and length-prefixed fields

The layout many binary records share: 32-bit words, LITTLE END FIRST, and byte
strings behind a word that says how long they are. A reader takes what it reads
off the front and hands on what is left, so that readers compose by `bind`.

What a reader took is what the input was without its rest
(`readWord_eq_some`, `readField_eq_some`); nothing else is needed to follow a
change of single bytes through a record.
-/

namespace Wire

/-- A 32-bit word. -/
abbrev Word := BitVec 32

/-- The word of four bytes, the lowest first. -/
def word (a b c d : UInt8) : Word := d.toBitVec ++ c.toBitVec ++ b.toBitVec ++ a.toBitVec

/-- The word in front. -/
def readWord : List UInt8 → Option (Word × List UInt8)
  | a :: b :: c :: d :: rest => some (word a b c d, rest)
  | _ => none

/-- The byte string in front, behind its length. -/
def readField (bytes : List UInt8) : Option (List UInt8 × List UInt8) :=
  (readWord bytes).bind fun (size, rest) =>
    if size.toNat ≤ rest.length then some (rest.splitAt size.toNat) else none

theorem readWord_eq_some {bytes rest : List UInt8} {w : Word} :
    readWord bytes = some (w, rest) ↔ ∃ a b c d, w = word a b c d ∧ bytes = a :: b :: c :: d :: rest := by
  constructor
  · intro h
    unfold readWord at h
    split at h
    · obtain ⟨rfl, rfl⟩ := Prod.mk.inj (Option.some.inj h)
      exact ⟨_, _, _, _, rfl, rfl⟩
    · exact absurd h (by simp)
  · rintro ⟨a, b, c, d, rfl, rfl⟩
    rfl

theorem readField_eq_some {bytes s rest : List UInt8} :
    readField bytes = some (s, rest) ↔
      ∃ size, readWord bytes = some (size, s ++ rest) ∧ size.toNat = s.length := by
  unfold readField
  rw [Option.bind_eq_some_iff]
  constructor
  · rintro ⟨⟨size, left⟩, hword, hfield⟩
    dsimp only at hfield
    split at hfield
    · next hle =>
      rw [List.splitAt_eq] at hfield
      obtain ⟨rfl, rfl⟩ := Prod.mk.inj (Option.some.inj hfield)
      exact ⟨size, by rw [hword, List.take_append_drop], by rw [List.length_take_of_le hle]⟩
    · exact absurd hfield (by simp)
  · rintro ⟨size, hword, hsize⟩
    refine ⟨(size, s ++ rest), hword, ?_⟩
    dsimp only
    rw [if_pos (by rw [hsize, List.length_append]; omega), List.splitAt_eq, hsize,
      List.take_left, List.drop_left]

/-- A word is four bytes. -/
theorem length_of_readWord {bytes rest : List UInt8} {w : Word}
    (h : readWord bytes = some (w, rest)) : bytes.length = rest.length + 4 := by
  obtain ⟨a, b, c, d, -, rfl⟩ := readWord_eq_some.mp h
  rfl

/-- A field is its length and its bytes. -/
theorem length_of_readField {bytes s rest : List UInt8} (h : readField bytes = some (s, rest)) :
    bytes.length = s.length + rest.length + 4 := by
  obtain ⟨size, hword, -⟩ := readField_eq_some.mp h
  rw [length_of_readWord hword, List.length_append]

/-- A mask of the lowest byte alone is a mask of the word. -/
theorem word_and_low (a b c d : UInt8) (mask : UInt8) :
    word (a &&& mask) b c d = word a b c d &&& word mask 255 255 255 := by
  unfold word
  rw [BitVec.and_append, BitVec.and_append, BitVec.and_append]
  have hfull : (255 : UInt8).toBitVec = BitVec.allOnes 8 := by decide
  rw [hfull, BitVec.and_allOnes, BitVec.and_allOnes, BitVec.and_allOnes, UInt8.toBitVec_and]

end Wire
