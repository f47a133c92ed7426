import FlowBroker.Text.Basic
import Mathlib.Tactic.SplitIfs

namespace FlowBroker.Utf8

theorem toNat_ofNat {n : Nat} (h : n < 256) : (UInt8.ofNat n).toNat = n :=
  UInt8.toNat_ofNat_of_lt' h

theorem tails_ofNat {n : Nat} (h : n < 64) (k code : Nat) (bs : List UInt8) :
    tails (k + 1) code (UInt8.ofNat (n + 128) :: bs) = tails k (code * 64 + n) bs := by
  have hb := toNat_ofNat (n := n + 128) (by omega)
  have htail : isTail (UInt8.ofNat (n + 128)) = true := by
    simp only [isTail, Bool.and_eq_true, decide_eq_true_eq, UInt8.le_iff_toNat_le, hb]
    exact ⟨Nat.le_add_left 128 n, by change n + 128 ≤ 191; omega⟩
  have hpayload : payload (UInt8.ofNat (n + 128)) = n := by
    rw [payload, hb]
    omega
  rw [tails, if_pos htail, hpayload]

theorem step_ofNat {b : UInt8} {more bound n low high : Nat} (hb : 128 ≤ b.toNat)
    (hlead : lead? b = some (more + 1, UInt8.ofNat low, UInt8.ofNat high))
    (hbound : Nat.pow 2 (5 - more) = bound) (hlow : low ≤ n + 128) (hhigh : n + 128 ≤ high)
    (hn : n < 64) (hsize : high < 256) (bs : List UInt8) :
    step b (UInt8.ofNat (n + 128) :: bs) =
      ((tails more (b.toNat % bound * 64 + n) bs).1.map Char.ofNat,
        (tails more (b.toNat % bound * 64 + n) bs).2) := by
  have ht := toNat_ofNat (n := n + 128) (by omega)
  have hpayload : payload (UInt8.ofNat (n + 128)) = n := by
    rw [payload, ht]
    omega
  have hrange : (UInt8.ofNat low ≤ UInt8.ofNat (n + 128) &&
      UInt8.ofNat (n + 128) ≤ UInt8.ofNat high) = true := by
    simp only [Bool.and_eq_true, decide_eq_true_eq, UInt8.le_iff_toNat_le, ht,
      toNat_ofNat (n := low) (by omega), toNat_ofNat hsize]
    exact ⟨hlow, hhigh⟩
  have hnot : ¬b < 0x80 := by
    rw [UInt8.lt_iff_toNat_lt]
    exact Nat.not_lt.2 hb
  have hbits : 6 - (more + 1) = 5 - more := by omega
  rw [step, if_neg hnot, hlead]
  simp only [hrange, if_true, hpayload, Nat.add_sub_cancel, hbits, hbound]

theorem lead?_two : ∀ m < 32, 2 ≤ m →
    lead? (UInt8.ofNat (m + 192)) = some (1, UInt8.ofNat 128, UInt8.ofNat 191) := by
  decide

theorem lead?_three : ∀ m < 16, lead? (UInt8.ofNat (m + 224)) =
    some (2, UInt8.ofNat (if m = 0 then 160 else 128),
      UInt8.ofNat (if m = 13 then 159 else 191)) := by
  decide

theorem lead?_four : ∀ m < 5, lead? (UInt8.ofNat (m + 240)) =
    some (3, UInt8.ofNat (if m = 0 then 144 else 128),
      UInt8.ofNat (if m = 4 then 143 else 191)) := by
  decide

/-- The bytes of a character are read as the character, whatever follows them. -/
theorem step_utf8EncodeChar (c : Char) (rest : List UInt8) :
    ∃ b bs, String.utf8EncodeChar c = b :: bs ∧ step b (bs ++ rest) = (some c, rest) := by
  have hvalid : c.val.toNat < 55296 ∨ 57343 < c.val.toNat ∧ c.val.toNat < 1114112 := c.valid
  have hc {n : Nat} (h : n = c.val.toNat) : Option.map Char.ofNat (some n) = some c := by
    rw [h]
    exact congrArg some (Char.ofNat_toNat c)
  rw [String.utf8EncodeChar]
  generalize c.val.toNat = v at hvalid hc ⊢
  split_ifs with hone htwo hthree
  · refine ⟨_, _, rfl, ?_⟩
    have hb := toNat_ofNat (n := v) (by omega)
    have hlt : UInt8.ofNat v < 0x80 := by
      rw [UInt8.lt_iff_toNat_lt, hb]
      exact Nat.lt_succ_of_le hone
    rw [List.nil_append, step, if_pos hlt, hb]
    exact congrArg (·, rest) (hc rfl)
  · refine ⟨_, _, rfl, ?_⟩
    have hb := toNat_ofNat (n := v / 64 % 32 + 192) (by omega)
    rw [List.cons_append, List.nil_append, step_ofNat (by omega)
      (lead?_two (v / 64 % 32) (by omega) (by omega)) (by decide : Nat.pow 2 5 = 32) (by omega)
      (by omega) (by omega) (by omega), hb]
    simp only [tails]
    rw [hc (by omega)]
  · refine ⟨_, _, rfl, ?_⟩
    have hb := toNat_ofNat (n := v / 4096 % 16 + 224) (by omega)
    rw [List.cons_append, List.cons_append, List.nil_append, step_ofNat (by omega)
      (lead?_three (v / 4096 % 16) (by omega)) (by decide : Nat.pow 2 4 = 16) (by split <;> omega)
      (by split <;> omega) (by omega) (by split <;> omega), hb, tails_ofNat (by omega)]
    simp only [tails]
    rw [hc (by omega)]
  · refine ⟨_, _, rfl, ?_⟩
    have hb := toNat_ofNat (n := v / 262144 % 8 + 240) (by omega)
    rw [List.cons_append, List.cons_append, List.cons_append, List.nil_append, step_ofNat (by omega)
      (lead?_four (v / 262144 % 8) (by omega)) (by decide : Nat.pow 2 3 = 8) (by split <;> omega)
      (by split <;> omega) (by omega) (by split <;> omega), hb, tails_ofNat (by omega),
      tails_ofNat (by omega)]
    simp only [tails]
    rw [hc (by omega)]

theorem chars_encode_append (cs : List Char) (bs : List UInt8) :
    chars (encode cs ++ bs) = cs.map some ++ chars bs := by
  induction cs with
  | nil => rfl
  | cons c cs ih =>
      obtain ⟨b, more, hbytes, hstep⟩ := step_utf8EncodeChar c (encode cs ++ bs)
      have hencode : encode (c :: cs) ++ bs = b :: (more ++ (encode cs ++ bs)) := by
        rw [encode, List.flatMap_cons, hbytes, ← encode]
        simp
      rw [hencode, chars, hstep, ih]
      rfl

theorem lossy_encode (cs : List Char) : lossy (encode cs) = String.ofList cs := by
  have hchars : chars (encode cs) = cs.map some := by
    simpa [chars] using chars_encode_append cs []
  rw [lossy, hchars, List.map_map]
  exact congrArg String.ofList (List.map_id cs)

end FlowBroker.Utf8
