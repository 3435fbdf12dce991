import StoreGraph.SortedMap
import StoreGraph.Text.Utf8

/-! # Byte strings

Keys, values and names are arbitrary byte strings, ordered lexicographically. Text is carried as its
UTF-8 bytes.

Main statement: `text?_ofText`, the bytes of a text read back as that text; hence texts with the
same bytes are equal, and texts are ordered by their bytes.
-/

namespace StoreGraph

abbrev Bytes := List UInt8

namespace Bytes

/-- Byte strings that test as equal are equal. -/
instance : LawfulBEq Bytes := inferInstance

def ofText (s : String) : Bytes := s.toUTF8.data.toList

/-- The text whose UTF-8 bytes these are; none if they are not well-formed. -/
def text? (bytes : Bytes) : Option String := String.fromUTF8? ⟨bytes.toArray⟩

/-- The text of the bytes, with U+FFFD for whatever is not well-formed UTF-8. -/
def lossyText (bytes : Bytes) : String := String.ofList (Text.readBytes .idle bytes)

theorem text?_ofText (s : String) : text? (ofText s) = some s := by
  have hbytes : (⟨(ofText s).toArray⟩ : ByteArray) = s.toUTF8 := by simp [ofText]
  have hvalid : s.toUTF8.IsValidUTF8 := s.isValidUTF8
  simp only [text?, hbytes, String.fromUTF8?]
  split
  · rfl
  · rename_i h
    exact absurd hvalid h

theorem ofText_injective {s t : String} (h : ofText s = ofText t) : s = t := by
  have hs := text?_ofText s
  rw [h, text?_ofText] at hs
  exact (Option.some.inj hs).symm

end Bytes

/-- Texts are ordered by their bytes, which is the order of their characters. -/
instance : KeyOrder String := .ofKey Bytes.ofText Bytes.ofText_injective

end StoreGraph
