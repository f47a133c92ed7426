import FlowBroker.Text.Basic

namespace FlowBroker.Percent

abbrev Escapes := Char → Bool

def isControl (c : Char) : Bool := c < ' ' || c = '\x7f'

def including (listed : List Char) : Escapes := fun c => isControl c || listed.contains c

def opaquePath : Escapes := including []

def fragment : Escapes := including [' ', '"', '<', '>', '\x60']

def query : Escapes := including [' ', '"', '#', '<', '>']

def specialQuery : Escapes := including [' ', '"', '#', '<', '>', '\'']

def path : Escapes := including [' ', '"', '<', '>', '\x60', '#', '?', '\x7b', '\x7d']

def segment : Escapes :=
  including [' ', '"', '<', '>', '\x60', '#', '?', '\x7b', '\x7d', '/', '%']

def specialSegment : Escapes :=
  including [' ', '"', '<', '>', '\x60', '#', '?', '\x7b', '\x7d', '/', '%', '\\']

def userinfo : Escapes :=
  including [' ', '"', '<', '>', '\x60', '#', '?', '\x7b', '\x7d', '/', ':', ';', '=', '@', '[',
    '\\', ']', '^', '|']

def digit (n : Nat) : Char := if n < 10 then Char.ofNat (48 + n) else Char.ofNat (55 + n)

def byte (b : UInt8) : List Char := ['%', digit (b.toNat / 16), digit (b.toNat % 16)]

def encodeChar (escapes : Escapes) (c : Char) : List Char :=
  if escapes c || 0x7f < c.toNat then (String.utf8EncodeChar c).flatMap byte else [c]

def encode (escapes : Escapes) (cs : List Char) : List Char := cs.flatMap (encodeChar escapes)

/-- The bytes that a text stands for: `%XX` is one byte, and a `%` that begins no such triple
stands for itself. -/
def decode : List Char → List UInt8
  | [] => []
  | '%' :: a :: b :: cs =>
      match Digit.byte? a b with
      | some n => n :: decode cs
      | none => 0x25 :: decode (a :: b :: cs)
  | c :: cs => String.utf8EncodeChar c ++ decode cs

def digits : List Char := "0123456789ABCDEF".toList

theorem digit_mem : ∀ n < 16, digit n ∈ digits := by decide

theorem byte?_digits : ∀ high < 16, ∀ low < 16,
    Digit.byte? (digit high) (digit low) = some (.ofNat (16 * high + low)) := by decide

theorem decode_byte (b : UInt8) (cs : List Char) : decode (byte b ++ cs) = b :: decode cs := by
  have hb := b.toNat_lt
  have hbyte := byte?_digits (b.toNat / 16) (by omega) (b.toNat % 16) (by omega)
  rw [Nat.div_add_mod, UInt8.ofNat_toNat] at hbyte
  rw [byte, List.cons_append, List.cons_append, List.cons_append, List.nil_append, decode, hbyte]

theorem decode_bytes (bs : List UInt8) (cs : List Char) :
    decode (bs.flatMap byte ++ cs) = bs ++ decode cs := by
  induction bs with
  | nil => rfl
  | cons b bs ih => rw [List.flatMap_cons, List.append_assoc, decode_byte, ih, List.cons_append]

theorem decode_cons_of_ne {c : Char} (h : c ≠ '%') (cs : List Char) :
    decode (c :: cs) = String.utf8EncodeChar c ++ decode cs := by
  rw [decode]
  rintro a b ds rfl
  exact (h rfl).elim

section

variable {escapes : Escapes}

/-- Where the percent sign itself is escaped, what is written is read as the text again. -/
theorem decode_encode (h : escapes '%' = true) (cs : List Char) :
    decode (encode escapes cs) = Utf8.encode cs := by
  induction cs with
  | nil => rfl
  | cons c cs ih =>
      rw [encode, List.flatMap_cons, ← encode, Utf8.encode, List.flatMap_cons, ← Utf8.encode,
        encodeChar]
      split
      · rw [decode_bytes, ih]
      · next hplain =>
        have hne : c ≠ '%' := by
          rintro rfl
          simp [h] at hplain
        rw [List.singleton_append, decode_cons_of_ne hne, ih]

theorem not_mem_encode {c : Char} (h : escapes c = true) (hc : c ∉ '%' :: digits)
    (cs : List Char) : c ∉ encode escapes cs := by
  intro hmem
  obtain ⟨d, _, hd⟩ := List.mem_flatMap.1 hmem
  rw [encodeChar] at hd
  split at hd
  · obtain ⟨b, _, hb⟩ := List.mem_flatMap.1 hd
    have hlt := b.toNat_lt
    have hhigh := digit_mem (b.toNat / 16) (by omega)
    have hlow := digit_mem (b.toNat % 16) (by omega)
    simp only [byte, List.mem_cons, List.not_mem_nil, or_false] at hb
    rcases hb with rfl | rfl | rfl
    · exact hc List.mem_cons_self
    · exact hc (List.mem_cons_of_mem _ hhigh)
    · exact hc (List.mem_cons_of_mem _ hlow)
  · next hplain =>
    obtain rfl := List.mem_singleton.1 hd
    simp [h] at hplain

end

end FlowBroker.Percent
