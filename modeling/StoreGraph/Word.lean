import StoreGraph.Bytes

/-! # Eight-byte words

Sequence numbers and tokens are stored as 64-bit words, the most significant byte first.

Main statement: `ofBytes?_eq_some_iff`, the reader accepts exactly what the writer produces.
-/

namespace StoreGraph.Word

/-- The eight bytes of a word, the most significant one first. -/
def toBytes (w : UInt64) : Bytes :=
  [(w >>> 56).toUInt8, (w >>> 48).toUInt8, (w >>> 40).toUInt8, (w >>> 32).toUInt8,
    (w >>> 24).toUInt8, (w >>> 16).toUInt8, (w >>> 8).toUInt8, w.toUInt8]

/-- The word whose eight bytes these are; any other number of bytes is refused. -/
def ofBytes? : Bytes → Option UInt64
  | [a, b, c, d, e, f, g, h] =>
    some (UInt64.ofNat
      (((((((a.toNat * 256 + b.toNat) * 256 + c.toNat) * 256 + d.toNat) * 256 + e.toNat) * 256
        + f.toNat) * 256 + g.toNat) * 256 + h.toNat))
  | _ => none

@[simp] theorem length_toBytes (w : UInt64) : (toBytes w).length = 8 := rfl

@[simp] theorem ofBytes?_toBytes (w : UInt64) : ofBytes? (toBytes w) = some w := by
  simp only [toBytes, ofBytes?, Option.some.injEq]
  apply UInt64.toNat_inj.1
  have hw := w.toNat_lt
  simp only [UInt64.toNat_ofNat', UInt64.toNat_toUInt8, UInt64.toNat_shiftRight,
    UInt64.reduceToNat, Nat.shiftRight_eq_div_pow, Nat.reduceMod, Nat.reducePow]
  omega

theorem eq_toBytes_of_ofBytes? {bytes : Bytes} {w : UInt64} (h : ofBytes? bytes = some w) :
    bytes = toBytes w := by
  unfold ofBytes? at h
  split at h
  · rename_i a b c d e f g i
    have ha := a.toNat_lt
    have hb := b.toNat_lt
    have hc := c.toNat_lt
    have hd := d.toNat_lt
    have he := e.toNat_lt
    have hf := f.toNat_lt
    have hg := g.toNat_lt
    have hi := i.toNat_lt
    simp only [Option.some.injEq] at h
    subst h
    simp only [toBytes, List.cons.injEq, and_true, ← UInt8.toNat_inj, UInt64.toNat_ofNat',
      UInt64.toNat_toUInt8, UInt64.toNat_shiftRight, UInt64.reduceToNat,
      Nat.shiftRight_eq_div_pow, Nat.reduceMod, Nat.reducePow]
    omega
  · simp at h

theorem ofBytes?_eq_some_iff {bytes : Bytes} {w : UInt64} :
    ofBytes? bytes = some w ↔ bytes = toBytes w :=
  ⟨eq_toBytes_of_ofBytes?, fun h => h ▸ ofBytes?_toBytes w⟩

theorem toBytes_injective {v w : UInt64} (h : toBytes v = toBytes w) : v = w := by
  have hv := ofBytes?_toBytes v
  rw [h, ofBytes?_toBytes] at hv
  exact (Option.some.inj hv).symm

end StoreGraph.Word
