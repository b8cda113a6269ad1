import Mathlib.Algebra.Order.Ring.Int

/-!
# Durations

Counts of ticks in signed words, as a standard library keeps them.  A cast to longer ticks
drops the rest, and a conversion to a narrower word keeps its low bits only.  Up to which
duration the two together can be relied on.
-/

namespace EventStoreClient
namespace Foundation

/-!
# Encodings of durations

An encoding is faithful on a duration if decoding gives the duration back.  It is as
faithful as the one of the integers that it stands for.
-/

/-- The encoding keeps the sign of the duration and tells it from zero, and up to it the order
of durations. -/
structure Faithful [LE alpha] [Zero alpha] [LE beta] [Zero beta] (encode : alpha -> beta)
    (d : alpha) : Prop where
  nonneg : 0 ≤ encode d
  zero_only : encode d = 0 -> d = 0
  monotone : forall shorter longer, 0 ≤ shorter -> shorter ≤ longer -> longer ≤ d ->
    encode shorter ≤ encode longer

/-- The order and the zero of the type are those of the integers that its values stand for. -/
structure Embeds [LE alpha] [Zero alpha] (f : alpha -> Int) : Prop where
  le_iff : forall a b, f a ≤ f b <-> a ≤ b
  eq_zero_iff : forall a, f a = 0 <-> a = 0

section Embeds

variable [LE alpha] [Zero alpha] [LE beta] [Zero beta] {f : alpha -> Int} {g : beta -> Int}

theorem Embeds.zero_eq (hf : Embeds f) : f 0 = 0 :=
  (hf.eq_zero_iff 0).mpr rfl

theorem Embeds.nonneg_iff (hf : Embeds f) (a : alpha) : 0 ≤ f a <-> 0 ≤ a := by
  rw [← hf.le_iff, hf.zero_eq]

theorem faithful_iff_of_embeds {encode : alpha -> beta} {encode' : Int -> Int} (hf : Embeds f)
    (hg : Embeds g) (hencode : forall a, g (encode a) = encode' (f a)) {d : alpha}
    (hrange : forall n, 0 ≤ n -> n ≤ f d -> exists a, f a = n) :
    Faithful encode d <-> Faithful encode' (f d) := by
  constructor
  · intro h
    constructor
    · rw [← hencode, hg.nonneg_iff]
      exact h.nonneg
    · rw [← hencode, hg.eq_zero_iff, hf.eq_zero_iff]
      exact h.zero_only
    · intro shorter longer hshorter hle hlonger
      rcases hrange shorter hshorter (Int.le_trans hle hlonger) with ⟨a, rfl⟩
      rcases hrange longer (Int.le_trans hshorter hle) hlonger with ⟨b, rfl⟩
      rw [← hencode, ← hencode, hg.le_iff]
      exact h.monotone a b ((hf.nonneg_iff a).mp hshorter) ((hf.le_iff a b).mp hle)
        ((hf.le_iff b d).mp hlonger)
  · intro h
    constructor
    · rw [← hg.nonneg_iff, hencode]
      exact h.nonneg
    · rw [← hg.eq_zero_iff, hencode, ← hf.eq_zero_iff]
      exact h.zero_only
    · intro a b ha hle hb
      rw [← hg.le_iff, hencode, hencode]
      exact h.monotone (f a) (f b) ((hf.nonneg_iff a).mpr ha) ((hf.le_iff a b).mpr hle)
        ((hf.le_iff b d).mpr hb)

end Embeds

/-!
# Longer ticks in narrower words

A narrower word keeps the counts that fit; the first one that does not becomes the least
value of the word.
-/

/-- A count in ticks that are `ratio` times as long, kept in a signed word with `half`
negative values. -/
def narrow (ratio half : Nat) (n : Int) : Int :=
  (n.tdiv ratio).bmod (2 * half)

section Narrow

variable {ratio half : Nat} {n : Int}

theorem narrow_of_lt (hratio : 0 < ratio) (hn : 0 ≤ n) (hlt : n < ratio * half) :
    narrow ratio half n = n / ratio := by
  have hratio' : (0 : Int) < ratio := Int.natCast_pos.mpr hratio
  have hquotient : n / ratio < half := Int.ediv_lt_of_lt_mul hratio' (by rwa [Int.mul_comm])
  have hnonneg : 0 ≤ n / ratio := Int.ediv_nonneg hn (Int.le_of_lt hratio')
  rw [narrow, Int.tdiv_eq_ediv_of_nonneg hn]
  apply Int.bmod_eq_of_le_mul_two
  · omega
  · omega

theorem narrow_overflow (hratio : 0 < ratio) (hhalf : 0 < half) :
    narrow ratio half (ratio * half) = -half := by
  have hne : (ratio : Int) ≠ 0 := Int.natCast_ne_zero.mpr (Nat.ne_of_gt hratio)
  have hrest : (half : Int) % (2 * half : Nat) = half :=
    Int.emod_eq_of_lt (Int.natCast_nonneg half) (by omega)
  rw [narrow, Int.mul_tdiv_cancel_left _ hne, Int.bmod, hrest, if_neg]
  · omega
  · omega

/-- A count survives if it fits, and is at least one of the longer ticks or none at all. -/
theorem faithful_narrow_iff (hratio : 0 < ratio) (hhalf : 0 < half) (hn : 0 ≤ n) :
    Faithful (narrow ratio half) n <-> n = 0 ∨ ((ratio : Int) ≤ n ∧ n < ratio * half) := by
  have hratio' : (0 : Int) < ratio := Int.natCast_pos.mpr hratio
  have hfirst : (ratio : Int) ≤ ratio * half :=
    le_mul_of_one_le_right (Int.le_of_lt hratio') (Int.natCast_pos.mpr hhalf)
  have hzero : narrow ratio half 0 = 0 := by
    rw [narrow_of_lt hratio (Int.le_refl 0) (Int.lt_of_lt_of_le hratio' hfirst), Int.zero_ediv]
  constructor
  · intro h
    have hfits : n < ratio * half := by
      rw [← Int.not_le]
      intro hlarge
      have horder := h.monotone 0 (ratio * half) (Int.le_refl 0)
        (Int.le_trans (Int.le_of_lt hratio') hfirst) hlarge
      rw [hzero, narrow_overflow hratio hhalf] at horder
      omega
    rcases lt_or_ge n (ratio : Int) with hshort | hlong
    · left
      apply h.zero_only
      rw [narrow_of_lt hratio hn hfits, Int.ediv_eq_zero_of_lt hn hshort]
    · exact Or.inr ⟨hlong, hfits⟩
  · intro h
    have hfits : n < ratio * half := by
      rcases h with rfl | ⟨_, hfits⟩
      · exact Int.lt_of_lt_of_le hratio' hfirst
      · exact hfits
    constructor
    · rw [narrow_of_lt hratio hn hfits]
      exact Int.ediv_nonneg hn (Int.le_of_lt hratio')
    · intro hencoded
      rcases h with hnone | ⟨hlong, _⟩
      · exact hnone
      · rw [narrow_of_lt hratio hn hfits] at hencoded
        have hone : 1 ≤ n / ratio := Int.le_ediv_of_mul_le hratio' (by rwa [Int.one_mul])
        omega
    · intro shorter longer hshorter hle hlonger
      have hlonger' := Int.lt_of_le_of_lt hlonger hfits
      rw [narrow_of_lt hratio hshorter (Int.lt_of_le_of_lt hle hlonger'),
        narrow_of_lt hratio (Int.le_trans hshorter hle) hlonger']
      exact Int.ediv_le_ediv hratio' hle

end Narrow

/-!
# Durations in words

`coarsen` is `duration_cast` to ticks that are `ratio` times as long.  The cast, and the
conversion to a 32-bit word behind it, are computed in the integers.
-/

/-- A signed 64-bit count of ticks, `perSecond` of them in a second. -/
structure Duration (perSecond : Nat) where
  count : Int64
  deriving DecidableEq

abbrev Nanoseconds := Duration 1000000000
abbrev Milliseconds := Duration 1000

namespace Duration

variable {ratio perSecond : Nat}

instance : Zero (Duration perSecond) := ⟨{ count := 0 }⟩
instance : LE (Duration perSecond) := ⟨fun d e => d.count ≤ e.count⟩
instance : LT (Duration perSecond) := ⟨fun d e => d.count < e.count⟩

instance (d e : Duration perSecond) : Decidable (d ≤ e) :=
  inferInstanceAs (Decidable (d.count ≤ e.count))

instance (d e : Duration perSecond) : Decidable (d < e) :=
  inferInstanceAs (Decidable (d.count < e.count))

def coarsen (ratio : Nat) (d : Duration (ratio * perSecond)) : Duration perSecond :=
  { count := d.count / Int64.ofNat ratio }

theorem embeds_count : Embeds fun d : Duration perSecond => d.count.toInt where
  le_iff := fun _ _ => Int64.le_iff_toInt_le.symm
  eq_zero_iff := by
    rintro ⟨count⟩
    constructor
    · intro h
      obtain rfl : count = 0 := Int64.toInt_inj.mp h
      rfl
    · intro h
      rw [h]
      rfl

theorem embeds_int32 : Embeds Int32.toInt where
  le_iff := fun _ _ => Int32.le_iff_toInt_le.symm
  eq_zero_iff := by
    intro word
    constructor
    · exact fun h => Int32.toInt_inj.mp h
    · intro h
      rw [h]
      rfl

variable (ratio perSecond)

theorem toInt_coarsen_toInt32 (hratio : 0 < ratio) (hsmall : ratio < 2 ^ 63)
    (d : Duration (ratio * perSecond)) :
    (coarsen ratio d).count.toInt32.toInt = narrow ratio (2 ^ 31) d.count.toInt := by
  have hword : (Int64.ofNat ratio).toInt = ratio := Int64.toInt_ofNat_of_lt hsmall
  have hne : Int64.ofNat ratio ≠ -1 := by
    intro hminus
    rw [hminus] at hword
    have hnegative : (-1 : Int64).toInt = -1 := rfl
    omega
  rw [coarsen, Int64.toInt_toInt32, Int64.toInt_div_of_ne_right _ _ hne, hword, narrow,
    ← Nat.pow_succ']

theorem faithful_coarsen_iff (hratio : 0 < ratio) (hsmall : ratio < 2 ^ 63)
    {d : Duration (ratio * perSecond)} (hd : 0 ≤ d) :
    Faithful (fun d : Duration (ratio * perSecond) => (coarsen ratio d).count.toInt32) d <->
      d = 0 ∨ ((ratio : Int) ≤ d.count.toInt ∧ d.count.toInt < ratio * 2 ^ 31) := by
  have hcount : 0 ≤ d.count.toInt := (embeds_count.nonneg_iff d).mpr hd
  have hrange : forall n, 0 ≤ n -> n ≤ d.count.toInt ->
      exists a : Duration (ratio * perSecond), a.count.toInt = n := by
    intro n hn hle
    refine ⟨{ count := Int64.ofInt n }, ?_⟩
    have hmax := d.count.toInt_lt
    apply Int64.toInt_ofInt_of_le
    · omega
    · omega
  rw [faithful_iff_of_embeds embeds_count embeds_int32
    (toInt_coarsen_toInt32 ratio perSecond hratio hsmall) hrange,
    faithful_narrow_iff hratio (by decide) hcount, embeds_count.eq_zero_iff]
  rfl

end Duration

end Foundation
end EventStoreClient
