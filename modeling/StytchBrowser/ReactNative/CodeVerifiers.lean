import Mathlib.Algebra.GroupWithZero.Nat
import Mathlib.Algebra.Order.BigOperators.Group.List
import Mathlib.Algebra.Order.Group.Nat
import Mathlib.Data.List.OfFn
import StytchBrowser.Lib.Digits
import StytchBrowser.Web.PKCEManager

/-!
# The code verifiers of the three platforms

All platforms write the content of their random source in hexadecimal. The native modules draw 32
bytes and write each with two digits. The web manager draws 16 words of 32 bits and pads each to two
digits as well, so the length of its verifiers and where a word ends depend on the words. The
Android module seeds its generator with the clock and takes nothing from a secure source.

`random seed` are the bytes that `kotlin.random.Random(seed)` gives.
-/

namespace StytchBrowser.ReactNative

open Digits
open StytchBrowser.Core (WellFormedVerifier isUnreserved)

/-- `toHexString` of the native modules, which formats each byte with `%02x`. -/
def toHexString (bytes : Fin 32 → UInt8) : List Char :=
  join 16 2 ((List.ofFn bytes).map UInt8.toNat)

/-- The platforms of the SDK. -/
inductive Platform where
  | web
  | ios
  | android
  deriving DecidableEq

namespace Platform

/-- The content of the random source of a platform. -/
def Content : Platform → Type
  | .web => Fin 16 → UInt32
  | .ios => Fin 32 → UInt8
  | .android => Fin 32 → UInt8

/-- The verifier made of what the random source gives. -/
def codeVerifier : (p : Platform) → p.Content → List Char
  | .web, words => Web.codeVerifier words
  | .ios, bytes => toHexString bytes
  | .android, bytes => toHexString bytes

/-- The verifier generated at `now` when `secure` is what the secure random source of the platform
has to give. -/
def generate (random : ℤ → Fin 32 → UInt8) (now : ℤ) : (p : Platform) → p.Content → List Char
  | .web, secure => codeVerifier .web secure
  | .ios, secure => codeVerifier .ios secure
  | .android, _ => codeVerifier .android (random now)

/-- The verifiers of a platform are well formed, tell contents apart and are not determined by the
clock. -/
structure Sound (random : ℤ → Fin 32 → UInt8) (p : Platform) : Prop where
  wellFormed : ∀ content, WellFormedVerifier (p.codeVerifier content)
  unambiguous : ∀ content content', content ≠ content' →
    p.codeVerifier content ≠ p.codeVerifier content'
  unpredictable : ∀ now, ∃ secure secure',
    p.generate random now secure ≠ p.generate random now secure'

/-- The words of a web verifier have 43 digits at least, each word counted with two digits or
more. -/
def LongEnough : (p : Platform) → p.Content → Prop
  | .web, words => 43 ≤ ((List.ofFn words).map fun word : UInt32 => width 16 2 word.toNat).sum
  | .ios, _ => True
  | .android, _ => True

/-- The words of two web verifiers are written with the same numbers of digits. -/
def SameWidths : (p : Platform) → p.Content → p.Content → Prop
  | .web, words, words' =>
      ∀ i : Fin 16, width 16 2 (words i : UInt32).toNat = width 16 2 (words' i : UInt32).toNat
  | .ios, _, _ => True
  | .android, _, _ => True

end Platform

/-! ## The length and the characters -/

/-- Padding a single digit is what `%02x` does. -/
theorem toHex_eq_padded (n : ℕ) : Web.toHex n = padded 16 2 n := by
  have hpos : 0 < (Nat.toDigits 16 n).length := Nat.length_toDigits_pos
  unfold Web.toHex padded List.leftpad
  dsimp only
  split_ifs with h
  · rw [h]
    rfl
  · have hzero : 2 - (Nat.toDigits 16 n).length = 0 := by omega
    rw [hzero]
    rfl

theorem web_codeVerifier_eq_join (words : Fin 16 → UInt32) :
    Web.codeVerifier words = join 16 2 ((List.ofFn words).map UInt32.toNat) := by
  rw [Web.codeVerifier, join, List.map_map]
  congr 1
  exact List.map_congr_left fun word _ => toHex_eq_padded word.toNat

theorem isUnreserved_digitChar : ∀ d < 16, isUnreserved (Nat.digitChar d) = true := by decide

theorem isUnreserved_of_mem_join {ns : List ℕ} : ∀ c ∈ join 16 2 ns, isUnreserved c = true := by
  intro c hc
  obtain ⟨d, hd, rfl⟩ := mem_join (by decide) hc
  exact isUnreserved_digitChar d hd

theorem width_byte (byte : UInt8) : width 16 2 byte.toNat = 2 := by
  have hlt : byte.toNat < 16 ^ 2 := byte.toNat_lt
  exact width_of_lt (by decide) hlt

theorem length_toHexString (bytes : Fin 32 → UInt8) : (toHexString bytes).length = 64 := by
  have hwidth : ((List.ofFn bytes).map UInt8.toNat).map (width 16 2) = List.replicate 32 2 := by
    refine List.eq_replicate_iff.2 ⟨by simp, fun k hk => ?_⟩
    simp only [List.mem_map] at hk
    obtain ⟨n, ⟨byte, -, rfl⟩, rfl⟩ := hk
    exact width_byte byte
  rw [toHexString, length_join (by decide), hwidth]
  rfl

theorem length_web_codeVerifier (words : Fin 16 → UInt32) :
    (Web.codeVerifier words).length =
      ((List.ofFn words).map fun word : UInt32 => width 16 2 word.toNat).sum := by
  rw [web_codeVerifier_eq_join, length_join (by decide), List.map_map]
  rfl

theorem length_web_codeVerifier_le (words : Fin 16 → UInt32) :
    (Web.codeVerifier words).length ≤ 128 := by
  rw [length_web_codeVerifier]
  have hle : ∀ k ∈ (List.ofFn words).map fun word : UInt32 => width 16 2 word.toNat, k ≤ 8 := by
    intro k hk
    obtain ⟨word, -, rfl⟩ := List.mem_map.1 hk
    have hlog : Nat.log 16 word.toNat < 8 := Nat.log_lt_of_lt_pow' (by decide) word.toNat_lt
    rw [width]
    omega
  have hsum := List.sum_le_card_nsmul _ _ hle
  simpa using hsum

theorem wellFormed_toHexString (bytes : Fin 32 → UInt8) :
    WellFormedVerifier (toHexString bytes) := by
  have hlength := length_toHexString bytes
  exact ⟨isUnreserved_of_mem_join, by omega, by omega⟩

theorem unreserved_web_codeVerifier (words : Fin 16 → UInt32) :
    ∀ c ∈ Web.codeVerifier words, isUnreserved c = true := by
  rw [web_codeVerifier_eq_join]
  exact isUnreserved_of_mem_join

/-- Only web verifiers can be too short, when too many words have leading zeros. -/
theorem Platform.wellFormed_iff (p : Platform) (content : p.Content) :
    WellFormedVerifier (p.codeVerifier content) ↔ p.LongEnough content := by
  cases p with
  | web =>
    have hlength := length_web_codeVerifier content
    constructor
    · intro h
      exact h.long.trans_eq hlength
    · intro h
      exact ⟨unreserved_web_codeVerifier content, h.trans_eq hlength.symm,
        length_web_codeVerifier_le content⟩
  | ios => exact iff_of_true (wellFormed_toHexString content) trivial
  | android => exact iff_of_true (wellFormed_toHexString content) trivial

/-! ## What a verifier says about the content -/

theorem toHexString_injective : Function.Injective toHexString := by
  intro bytes bytes' h
  have hmap := join_injective (by decide) (by decide) ?_ h
  · exact List.ofFn_injective (List.map_injective_iff.2 (fun _ _ => UInt8.toNat_inj.1) hmap)
  · simp only [List.map_ofFn]
    congr 1
    funext i
    exact (width_byte (bytes i)).trans (width_byte (bytes' i)).symm

theorem web_codeVerifier_injective {words words' : Fin 16 → UInt32}
    (hwidths : ∀ i, width 16 2 (words i).toNat = width 16 2 (words' i).toNat)
    (h : Web.codeVerifier words = Web.codeVerifier words') : words = words' := by
  rw [web_codeVerifier_eq_join, web_codeVerifier_eq_join] at h
  have hmap := join_injective (by decide) (by decide) ?_ h
  · exact List.ofFn_injective (List.map_injective_iff.2 (fun _ _ => UInt32.toNat_inj.1) hmap)
  · simp only [List.map_ofFn]
    congr 1
    funext i
    exact hwidths i

namespace Platform

/-- A verifier determines the content, on the web among those whose words have the same numbers of
digits. -/
theorem codeVerifier_injective {p : Platform} {content content' : p.Content}
    (hwidths : p.SameWidths content content')
    (h : p.codeVerifier content = p.codeVerifier content') : content = content' := by
  cases p with
  | web => exact web_codeVerifier_injective hwidths h
  | ios => exact toHexString_injective h
  | android => exact toHexString_injective h

variable (random : ℤ → Fin 32 → UInt8)

/-- Only the Android verifier is a function of the clock. -/
theorem unpredictable_iff (p : Platform) (now : ℤ) :
    (∃ secure secure', p.generate random now secure ≠ p.generate random now secure') ↔
      p ≠ .android := by
  cases p with
  | web =>
    refine iff_of_true ⟨fun _ => (0 : UInt32), fun _ => (1 : UInt32), fun h => ?_⟩ (by decide)
    have hwords : (fun _ => 0 : Fin 16 → UInt32) = fun _ => 1 :=
      web_codeVerifier_injective (fun _ => rfl) h
    exact absurd (congrFun hwords 0) (by decide)
  | ios =>
    refine iff_of_true ⟨fun _ => (0 : UInt8), fun _ => (1 : UInt8), fun h => ?_⟩ (by decide)
    have hbytes : (fun _ => 0 : Fin 32 → UInt8) = fun _ => 1 := toHexString_injective h
    exact absurd (congrFun hbytes 0) (by decide)
  | android =>
    refine iff_of_false ?_ (not_not.2 rfl)
    rintro ⟨secure, secure', hne⟩
    exact hne rfl

theorem not_longEnough_zero : ¬ LongEnough .web fun _ => (0 : UInt32) := by
  unfold LongEnough
  decide +kernel

/-- The verifiers are sound on iOS only. Elsewhere: a verifier is well formed unless it is a web
verifier with too few digits; it tells contents apart, on the web those whose words have the same
numbers of digits; and on Android alone it is determined by the clock. -/
theorem codeVerifier_sound_iff :
    (∀ p : Platform, p.Sound random ↔ p = .ios) ∧
      (∀ (p : Platform) (content : p.Content),
        WellFormedVerifier (p.codeVerifier content) ↔ p.LongEnough content) ∧
      (∀ (p : Platform) (content content' : p.Content), p.SameWidths content content' →
        content ≠ content' → p.codeVerifier content ≠ p.codeVerifier content') ∧
      ∀ (p : Platform) (now : ℤ), (∃ secure secure',
        p.generate random now secure ≠ p.generate random now secure') ↔ p ≠ .android := by
  refine ⟨fun p => ⟨fun h => ?_, ?_⟩, wellFormed_iff, fun p _ _ hwidths hne h => ?_,
    unpredictable_iff random⟩
  · cases p with
    | web => exact absurd ((wellFormed_iff .web _).1 (h.wellFormed _)) not_longEnough_zero
    | ios => rfl
    | android => exact absurd rfl ((unpredictable_iff random .android 0).1 (h.unpredictable 0))
  · rintro rfl
    exact ⟨wellFormed_toHexString, fun _ _ hne h => hne (toHexString_injective h),
      fun now => (unpredictable_iff random .ios now).2 (by decide)⟩
  · exact hne (codeVerifier_injective hwidths h)

/-- Words that start with `first` and `second`, and are zero from there on. -/
def wordsOf (first second : UInt32) (i : Fin 16) : UInt32 :=
  if i = 0 then first else if i = 1 then second else 0

/-- A web verifier of 32 characters, two contents with one web verifier, and the Android verifier at
one clock reading. -/
theorem codeVerifier_unsound :
    (Web.codeVerifier fun _ => 0).length = 32 ∧
      (Web.codeVerifier (wordsOf 0x12 0x345) = Web.codeVerifier (wordsOf 0x123 0x45) ∧
        wordsOf 0x12 0x345 ≠ wordsOf 0x123 0x45) ∧
      (∀ secure secure', generate (fun _ _ => 7) 0 .android secure =
        generate (fun _ _ => 7) 0 .android secure') ∧
      ¬ ∀ p : Platform, p.Sound fun _ _ => 7 := by
  have hlength : (Web.codeVerifier fun _ => 0).length = 32 := by decide +kernel
  refine ⟨hlength, ⟨by decide +kernel, fun h => ?_⟩, fun _ _ => rfl, fun h => ?_⟩
  · exact absurd (congrFun h 0) (by decide)
  · have hlong := ((h .web).wellFormed fun _ => (0 : UInt32)).long
    change 43 ≤ (Web.codeVerifier fun _ => 0).length at hlong
    omega

end Platform

end StytchBrowser.ReactNative
