import FlowBroker.Text.Basic
import FlowBroker.TypeSet
import Mathlib.Tactic.SplitIfs

namespace FlowBroker.Utf8

variable {c d : Char} {cs ds : List Char}

theorem cons_ofNat_lt_iff {a b : Nat} (ha : a < 256) (hb : b < 256) {bs bs' : List UInt8} :
    UInt8.ofNat a :: bs < UInt8.ofNat b :: bs' ↔ a < b ∨ a = b ∧ bs < bs' := by
  rw [List.cons_lt_cons_iff, UInt8.ofNat_lt_iff_lt ha hb, ← UInt8.toNat_inj,
    UInt8.toNat_ofNat_of_lt' ha, UInt8.toNat_ofNat_of_lt' hb]

theorem utf8EncodeChar_append_lt (h : c < d) (bs bs' : List UInt8) :
    String.utf8EncodeChar c ++ bs < String.utf8EncodeChar d ++ bs' := by
  have hlt : c.val.toNat < d.val.toNat := h
  have hd : d.val.toNat < 1114112 := by
    have hvalid := d.valid
    simp only [UInt32.isValidChar, Nat.isValidChar] at hvalid
    omega
  -- One digit of base 64 after the other is all that the arithmetic of the cases needs.
  have hthird (n : Nat) : n / 4096 = n / 64 / 64 := by rw [Nat.div_div_eq_div_mul]
  have hfourth (n : Nat) : n / 262144 = n / 64 / 64 / 64 := by
    rw [Nat.div_div_eq_div_mul, Nat.div_div_eq_div_mul]
  rw [String.utf8EncodeChar, String.utf8EncodeChar]
  generalize c.val.toNat = m at hlt ⊢
  generalize d.val.toNat = n at hlt hd ⊢
  split_ifs
  all_goals
    simp (disch := omega) only [List.cons_append, List.nil_append, cons_ofNat_lt_iff, hthird,
      hfourth]
    omega

theorem encode_lt_encode (h : cs < ds) : encode cs < encode ds := by
  induction ds generalizing cs with
  | nil => exact absurd h (List.not_lt_nil cs)
  | cons d ds ih =>
      cases cs with
      | nil =>
          rw [encode, encode, List.flatMap_cons]
          cases hd : String.utf8EncodeChar d with
          | nil => exact absurd hd String.utf8EncodeChar_ne_nil
          | cons b bs => exact List.nil_lt_cons b _
      | cons c cs =>
          rw [encode, encode, List.flatMap_cons, List.flatMap_cons]
          rcases List.cons_lt_cons_iff.1 h with hlt | ⟨rfl, hlt⟩
          · exact utf8EncodeChar_append_lt hlt _ _
          · exact List.append_left_lt (ih hlt)

theorem encode_injective : Function.Injective encode := by
  intro cs ds h
  have hno {as bs : List Char} (heq : encode as = encode bs) : ¬as < bs := by
    intro hlt
    have hbytes := encode_lt_encode hlt
    rw [heq] at hbytes
    exact List.lt_irrefl _ hbytes
  exact List.le_antisymm (hno h.symm) (hno h)

end FlowBroker.Utf8

namespace FlowBroker

/-- Texts in the ascending order of their bytes, none of them twice. -/
def ByteAscending (texts : List String) : Prop :=
  texts.Pairwise fun s t => Utf8.encode s.toList < Utf8.encode t.toList

theorem TypeSet.byteAscending (s : TypeSet) : ByteAscending s.toList :=
  s.ascending.imp fun h => Utf8.encode_lt_encode (String.lt_iff.1 h)

end FlowBroker
