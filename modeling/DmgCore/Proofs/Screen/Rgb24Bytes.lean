import DmgCore.Proofs.Grid
import DmgCore.Screen.Rgb24

/-!
The bytes of raw RGB24, and the way back from them to pixels.

* `Rgb24.getElem?_fill`: pixel `i` has the bytes `3 * i`, `3 * i + 1` and `3 * i + 2` of a buffer
  with room for it;
* `Rgb24.getElem?_encode`: so it has in a buffer made for all pixels;
* `Rgb24.toList_fill`: behind the pixels for which there is room, a buffer is as it was;
* `Rgb24.Filled`, `Rgb24.filled_fill`: a buffer with pixels written to it, byte by byte;
* `Rgb24.repack`, `Rgb24.Opaque`: reading the bytes as pixels of full alpha gives back the pixels
  that were written just if all of them are opaque.
-/

namespace DmgCore

namespace Rgb24

variable {pixels : List UInt32} {pixel : UInt32} {i k : ℕ}

/-- A pixel for which a buffer has room is written to three bytes of it. -/
lemma getElem?_fill {buffer : Array UInt8} (hroom : i < buffer.size / 3)
    (h : pixels[i]? = some pixel) (hk : k < 3) :
    (fill buffer pixels)[3 * i + k]? = (channels pixel)[k]? := by
  obtain ⟨hi, -⟩ := List.getElem?_eq_some_iff.mp h
  have htaken : (pixels.take (buffer.size / 3))[i]? = some pixel := by
    rw [List.getElem?_take, if_pos hroom, h]
  have hinside : 0 ≤ 3 * i + k ∧ 3 * i + k <
      0 + ((pixels.take (buffer.size / 3)).flatMap channels).length := by
    rw [length_flatMap_const channels length_channels, List.length_take]
    omega
  rw [fill, getElem?_overwrite _ _ _ _ (by omega), if_pos hinside, Nat.sub_zero]
  exact getElem?_flatMap_const channels length_channels htaken hk

/-- Each pixel has three bytes of a buffer that is made for them all. -/
lemma getElem?_encode (h : pixels[i]? = some pixel) (hk : k < 3) :
    (encode pixels)[3 * i + k]? = (channels pixel)[k]? := by
  obtain ⟨hi, -⟩ := List.getElem?_eq_some_iff.mp h
  refine getElem?_fill ?_ h hk
  rw [Array.size_replicate]
  omega

/-! ### The whole buffer -/

/-- The pixels for which there is room make three bytes each. -/
lemma length_flatMap_channels_take (pixels : List UInt32) (room : ℕ) :
    ((pixels.take room).flatMap channels).length = 3 * min room pixels.length := by
  rw [length_flatMap_const channels length_channels, List.length_take, Nat.mul_comm]

/-- The pixels for which a buffer has room come first, and the rest of it is as it was. -/
lemma toList_fill (buffer : Array UInt8) (pixels : List UInt32) :
    (fill buffer pixels).toList =
      (pixels.take (buffer.size / 3)).flatMap channels ++
        buffer.toList.drop (3 * min (buffer.size / 3) pixels.length) := by
  have hlength := length_flatMap_channels_take pixels (buffer.size / 3)
  rw [fill, toList_overwrite_zero _ _ (by omega), hlength]

/-- Byte `k` of a pixel, the least significant one being byte `0`. -/
def byteAt (pixel : UInt32) (k : ℕ) : UInt8 := UInt8.ofNat (pixel.toNat >>> (8 * k))

/-- The channels of a pixel are its three lowest bytes, in order. -/
lemma getElem?_channels (pixel : UInt32) (hk : k < 3) :
    (channels pixel)[k]? = some (byteAt pixel k) := by
  have hbyte : ∀ n : ℕ, UInt8.ofNat (n % 256) = UInt8.ofNat n := by
    intro n
    apply UInt8.toNat_inj.mp
    rw [UInt8.toNat_ofNat', UInt8.toNat_ofNat']
    omega
  simp only [channels, Color.unpack, byteAt, Nat.shiftRight_eq_div_pow, hbyte]
  obtain rfl | rfl | rfl : k = 0 ∨ k = 1 ∨ k = 2 := by omega
  · simp
  · simp
  · simp

/-- The fourth byte of a pixel is its alpha channel. -/
lemma byteAt_three (pixel : UInt32) : byteAt pixel 3 = (Color.unpack pixel).a := by
  simp [byteAt, Color.unpack, Nat.shiftRight_eq_div_pow]

/-- The buffer after pixels were written to one: it is as long as before, its whole groups of
three bytes hold the three lowest bytes of each pixel, as far as groups and pixels go, and
every byte behind them is as it was. -/
structure Filled (buffer : Array UInt8) (pixels : List UInt32) (result : Array UInt8) : Prop where
  size_eq : result.size = buffer.size
  byte : ∀ i < min (buffer.size / 3) pixels.length, ∃ pixel, pixels[i]? = some pixel ∧
    ∀ k < 3, result[3 * i + k]? = some (byteAt pixel k)
  rest : ∀ j, 3 * min (buffer.size / 3) pixels.length ≤ j → result[j]? = buffer[j]?

lemma filled_fill (buffer : Array UInt8) (pixels : List UInt32) :
    Filled buffer pixels (fill buffer pixels) := by
  refine ⟨size_fill buffer pixels, fun i hi => ?_, fun j hj => ?_⟩
  · obtain ⟨hroom, hlength⟩ := Nat.lt_min.mp hi
    refine ⟨pixels[i], List.getElem?_eq_getElem hlength, fun k hk => ?_⟩
    rw [getElem?_fill hroom (List.getElem?_eq_getElem hlength) hk, getElem?_channels _ hk]
  · have hlength := length_flatMap_channels_take pixels (buffer.size / 3)
    rw [← Array.getElem?_toList, toList_fill, List.getElem?_append_right (by omega), hlength,
      List.getElem?_drop, Nat.add_sub_cancel' hj, Array.getElem?_toList]

/-! ### Back to pixels -/

/-- The pixels of full alpha whose channels are in a list of bytes; what is left behind the
whole groups is no pixel. -/
def repack : List UInt8 → List UInt32
  | r :: g :: b :: rest => (Color.ofRgb r g b).pack :: repack rest
  | _ => []

/-- Every pixel has full alpha. -/
def Opaque (pixels : List UInt32) : Prop := ∀ pixel ∈ pixels, byteAt pixel 3 = 0xFF

/-- A pixel is given back by its channels just if it has full alpha. -/
lemma pack_ofRgb_eq_iff (pixel : UInt32) :
    (Color.ofRgb (Color.unpack pixel).r (Color.unpack pixel).g (Color.unpack pixel).b).pack =
      pixel ↔ byteAt pixel 3 = 0xFF := by
  rw [byteAt_three]
  constructor
  · intro h
    have halpha := congrArg (fun packed => (Color.unpack packed).a) h
    rw [Color.unpack_pack] at halpha
    exact halpha.symm
  · intro h
    have hcolor : Color.ofRgb (Color.unpack pixel).r (Color.unpack pixel).g
        (Color.unpack pixel).b = Color.unpack pixel := by rw [Color.ofRgb, ← h]
    rw [hcolor, Color.pack_unpack]

/-- Pixels are given back by their bytes just if all of them are opaque. -/
lemma repack_flatMap_channels_eq_iff (pixels : List UInt32) :
    repack (pixels.flatMap channels) = pixels ↔ Opaque pixels := by
  induction pixels with
  | nil => simp [repack, Opaque]
  | cons pixel pixels ih =>
      have hfirst : repack ((pixel :: pixels).flatMap channels) =
          (Color.ofRgb (Color.unpack pixel).r (Color.unpack pixel).g (Color.unpack pixel).b).pack ::
            repack (pixels.flatMap channels) := rfl
      rw [hfirst, List.cons.injEq, pack_ofRgb_eq_iff, ih, Opaque, Opaque, List.forall_mem_cons]

/-- The pixels for which a buffer had room are given back just if they are opaque. -/
lemma repack_fill_eq_iff (buffer : Array UInt8) (pixels : List UInt32) :
    repack ((fill buffer pixels).toList.take (3 * min (buffer.size / 3) pixels.length)) =
      pixels.take (buffer.size / 3) ↔ Opaque (pixels.take (buffer.size / 3)) := by
  have hlength := length_flatMap_channels_take pixels (buffer.size / 3)
  rw [toList_fill, List.take_left' hlength, repack_flatMap_channels_eq_iff]

end Rgb24

end DmgCore
