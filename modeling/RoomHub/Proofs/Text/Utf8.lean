import Mathlib.Tactic.SplitIfs
import RoomHub.Text.Utf8

/-!
# UTF-8 has one spelling for each text

`Utf8.decode_eq_ok_iff`: the bytes that are read as some characters are those that these characters
are written as.  Characters of ASCII are single bytes, and all bytes of other characters lie beyond
them (`le_of_mem_encodeChar`).
-/

namespace RoomHub.Text.Utf8

theorem toNat_cases (c : Char) :
    c.toNat < 0xd800 ∨ (0xdfff < c.toNat ∧ c.toNat < 0x110000) := c.valid

theorem toNat_byte {n : Nat} (h : n < 256) : (UInt8.ofNat n).toNat = n :=
  UInt8.toNat_ofNat_of_lt h

theorem byte_eq {b : UInt8} {n : Nat} (h : b.toNat = n) : b = UInt8.ofNat n := by
  rw [← h, UInt8.ofNat_toNat]

theorem toNat_char {n : Nat} (h : n < 0xd800 ∨ (0xdfff < n ∧ n < 0x110000)) :
    (Char.ofNat n).toNat = n := by
  unfold Char.ofNat
  rw [dif_pos (show n.isValidChar from h)]
  rfl

/-! ### Bytes after the first -/

theorem continuation?_eq_some {b : UInt8} {y : Nat} (h : continuation? b = some y) :
    b = UInt8.ofNat (0x80 + y) ∧ y < 0x40 := by
  unfold continuation? at h
  obtain ⟨range, same⟩ := Option.ite_none_right_eq_some.1 h
  have value := Option.some.inj same
  exact ⟨byte_eq (by omega), by omega⟩

theorem continuation?_byte {y : Nat} (h : y < 0x40) :
    continuation? (UInt8.ofNat (0x80 + y)) = some y := by
  unfold continuation?
  rw [toNat_byte (by omega), if_pos (by omega), Nat.add_sub_cancel_left]

/-- What may follow a first byte: the sequence must be neither overlong nor a surrogate nor too
large. -/
def Follows (lead y : Nat) : Prop :=
  y < 0x40 ∧ (lead = 0xe0 → 0x20 ≤ y) ∧ (lead = 0xed → y < 0x20) ∧ (lead = 0xf0 → 0x10 ≤ y) ∧
    (lead = 0xf4 → y < 0x10)

theorem second?_eq_some {lead b : UInt8} {y : Nat} (h : second? lead b = some y) :
    b = UInt8.ofNat (0x80 + y) ∧ Follows lead.toNat y := by
  unfold second? at h
  simp only [beq_iff_eq] at h
  generalize lead.toNat = l at h ⊢
  obtain ⟨range, same⟩ := Option.ite_none_right_eq_some.1 h
  have value := Option.some.inj same
  have bounds : 0x80 ≤ b.toNat ∧ b.toNat < 0xc0 := by
    split_ifs at range <;> omega
  refine ⟨byte_eq (by omega), by omega, ?_⟩
  refine ⟨?_, ?_, ?_, ?_⟩ <;> intro special <;> simp [special] at range <;> omega

theorem second?_byte {lead : UInt8} {y : Nat} (h : Follows lead.toNat y) :
    second? lead (UInt8.ofNat (0x80 + y)) = some y := by
  obtain ⟨small, e0, ed, f0, f4⟩ := h
  unfold second?
  simp only [beq_iff_eq]
  rw [toNat_byte (by omega)]
  generalize lead.toNat = l at e0 ed f0 f4 ⊢
  rw [if_pos ?_, Nat.add_sub_cancel_left]
  constructor
  · split_ifs with h1 h2
    · have := e0 h1
      omega
    · have := f0 h2
      omega
    · omega
  · split_ifs with h1 h2
    · have := ed h1
      omega
    · have := f4 h2
      omega
    · omega

/-! ### One character -/

theorem encodeChar_of_lt {c : Char} (h : c.toNat < 0x80) :
    encodeChar c = [UInt8.ofNat c.toNat] := by
  simp only [encodeChar, if_pos h]

/-- The bytes of a character beyond ASCII are beyond ASCII. -/
theorem le_of_mem_encodeChar {c : Char} (h : 0x80 ≤ c.toNat) {b : UInt8} (mem : b ∈ encodeChar c) :
    0x80 ≤ b.toNat := by
  have valid := toNat_cases c
  unfold encodeChar at mem
  dsimp only at mem
  rw [if_neg (by omega)] at mem
  split_ifs at mem <;> simp only [List.mem_cons, List.not_mem_nil, or_false] at mem <;>
    rcases mem with rfl | rfl | rfl | rfl <;> rw [toNat_byte (by omega)] <;> omega

theorem head_encodeChar (c : Char) (rest : List UInt8) :
    ∃ b t, encodeChar c = b :: t ∧ head b (t ++ rest) = .char c (t.length + 1) := by
  have valid := toNat_cases c
  have whole : Char.ofNat c.toNat = c := Char.ofNat_toNat c
  unfold encodeChar
  dsimp only
  generalize c.toNat = n at valid whole
  split_ifs with h1 h2 h3
  · refine ⟨_, [], rfl, ?_⟩
    unfold head
    rw [toNat_byte (by omega)]
    simp only [if_pos h1, whole]
    rfl
  · refine ⟨_, [_], rfl, ?_⟩
    have lead : (UInt8.ofNat (0xc0 + n / 64)).toNat = 0xc0 + n / 64 := toNat_byte (by omega)
    have second : second? (UInt8.ofNat (0xc0 + n / 64)) (UInt8.ofNat (0x80 + n % 64)) =
        some (n % 64) := second?_byte (by rw [lead]; unfold Follows; omega)
    unfold head
    dsimp only [List.cons_append, List.nil_append]
    rw [lead, if_neg (by omega), if_pos (by omega), second]
    dsimp only
    rw [show (0xc0 + n / 64 - 0xc0) * 64 + n % 64 = n by omega, whole]
    rfl
  · refine ⟨_, [_, _], rfl, ?_⟩
    have lead : (UInt8.ofNat (0xe0 + n / 4096)).toNat = 0xe0 + n / 4096 := toNat_byte (by omega)
    have second : second? (UInt8.ofNat (0xe0 + n / 4096)) (UInt8.ofNat (0x80 + n / 64 % 64)) =
        some (n / 64 % 64) := second?_byte (by rw [lead]; unfold Follows; omega)
    have third : continuation? (UInt8.ofNat (0x80 + n % 64)) = some (n % 64) :=
      continuation?_byte (by omega)
    unfold head
    dsimp only [List.cons_append, List.nil_append]
    rw [lead, if_neg (by omega), if_neg (by omega), if_pos (by omega), second]
    dsimp only
    rw [third]
    dsimp only
    rw [show (0xe0 + n / 4096 - 0xe0) * 4096 + n / 64 % 64 * 64 + n % 64 = n by omega, whole]
    rfl
  · refine ⟨_, [_, _, _], rfl, ?_⟩
    have lead : (UInt8.ofNat (0xf0 + n / 262144)).toNat = 0xf0 + n / 262144 :=
      toNat_byte (by omega)
    have second : second? (UInt8.ofNat (0xf0 + n / 262144)) (UInt8.ofNat (0x80 + n / 4096 % 64)) =
        some (n / 4096 % 64) := second?_byte (by rw [lead]; unfold Follows; omega)
    have third : continuation? (UInt8.ofNat (0x80 + n / 64 % 64)) = some (n / 64 % 64) :=
      continuation?_byte (by omega)
    have fourth : continuation? (UInt8.ofNat (0x80 + n % 64)) = some (n % 64) :=
      continuation?_byte (by omega)
    unfold head
    dsimp only [List.cons_append, List.nil_append]
    rw [lead, if_neg (by omega), if_neg (by omega), if_neg (by omega), if_pos (by omega), second]
    dsimp only
    rw [third]
    dsimp only
    rw [fourth]
    dsimp only
    rw [show (0xf0 + n / 262144 - 0xf0) * 262144 + n / 4096 % 64 * 4096 + n / 64 % 64 * 64 + n % 64
      = n by omega, whole]
    rfl

/-! ### One sequence -/

theorem encodeChar_two {l y : Nat} (lead : 0xc2 ≤ l ∧ l < 0xe0) (small : y < 0x40) :
    encodeChar (Char.ofNat ((l - 0xc0) * 64 + y)) = [UInt8.ofNat l, UInt8.ofNat (0x80 + y)] := by
  unfold encodeChar
  rw [toNat_char (by omega)]
  dsimp only
  rw [if_neg (by omega), if_pos (by omega),
    show 0xc0 + ((l - 0xc0) * 64 + y) / 64 = l by omega,
    show ((l - 0xc0) * 64 + y) % 64 = y by omega]

theorem encodeChar_three {l x y : Nat} (lead : 0xe0 ≤ l ∧ l < 0xf0) (follows : Follows l x)
    (small : y < 0x40) :
    encodeChar (Char.ofNat ((l - 0xe0) * 4096 + x * 64 + y)) =
      [UInt8.ofNat l, UInt8.ofNat (0x80 + x), UInt8.ofNat (0x80 + y)] := by
  -- neither overlong nor a surrogate
  obtain ⟨small', e0, ed, -⟩ := follows
  unfold encodeChar
  rw [toNat_char (by omega)]
  dsimp only
  rw [if_neg (by omega), if_neg (by omega), if_pos (by omega),
    show 0xe0 + ((l - 0xe0) * 4096 + x * 64 + y) / 4096 = l by omega,
    show ((l - 0xe0) * 4096 + x * 64 + y) / 64 % 64 = x by omega,
    show ((l - 0xe0) * 4096 + x * 64 + y) % 64 = y by omega]

theorem encodeChar_four {l w x y : Nat} (lead : 0xf0 ≤ l ∧ l < 0xf5) (follows : Follows l w)
    (small : x < 0x40) (small' : y < 0x40) :
    encodeChar (Char.ofNat ((l - 0xf0) * 262144 + w * 4096 + x * 64 + y)) =
      [UInt8.ofNat l, UInt8.ofNat (0x80 + w), UInt8.ofNat (0x80 + x), UInt8.ofNat (0x80 + y)] := by
  -- neither overlong nor too large
  obtain ⟨small'', -, -, f0, f4⟩ := follows
  unfold encodeChar
  rw [toNat_char (by omega)]
  dsimp only
  rw [if_neg (by omega), if_neg (by omega), if_neg (by omega),
    show 0xf0 + ((l - 0xf0) * 262144 + w * 4096 + x * 64 + y) / 262144 = l by omega,
    show ((l - 0xf0) * 262144 + w * 4096 + x * 64 + y) / 4096 % 64 = w by omega,
    show ((l - 0xf0) * 262144 + w * 4096 + x * 64 + y) / 64 % 64 = x by omega,
    show ((l - 0xf0) * 262144 + w * 4096 + x * 64 + y) % 64 = y by omega]

/-- The bytes of a sequence that is read as a character, by its length. -/
theorem head_cases {lead : UInt8} {rest : List UInt8} {c : Char} {n : Nat}
    (h : head lead rest = .char c n) :
    lead.toNat < 0x80 ∧ c = Char.ofNat lead.toNat ∧ n = 1 ∨
      (∃ b more y, (0xc2 ≤ lead.toNat ∧ lead.toNat < 0xe0) ∧ rest = b :: more ∧
        second? lead b = some y ∧ c = Char.ofNat ((lead.toNat - 0xc0) * 64 + y) ∧ n = 2) ∨
      (∃ b₁ b₂ more x y, (0xe0 ≤ lead.toNat ∧ lead.toNat < 0xf0) ∧ rest = b₁ :: b₂ :: more ∧
        second? lead b₁ = some x ∧ continuation? b₂ = some y ∧
        c = Char.ofNat ((lead.toNat - 0xe0) * 4096 + x * 64 + y) ∧ n = 3) ∨
      ∃ b₁ b₂ b₃ more w x y, (0xf0 ≤ lead.toNat ∧ lead.toNat < 0xf5) ∧
        rest = b₁ :: b₂ :: b₃ :: more ∧ second? lead b₁ = some w ∧ continuation? b₂ = some x ∧
        continuation? b₃ = some y ∧
        c = Char.ofNat ((lead.toNat - 0xf0) * 262144 + w * 4096 + x * 64 + y) ∧ n = 4 := by
  unfold head at h
  dsimp only at h
  split_ifs at h with one two three four
  · cases h
    exact .inl ⟨one, rfl, rfl⟩
  · split at h
    case h_2 => cases h
    split at h
    case h_2 => cases h
    next b more _ y second =>
      cases h
      exact .inr (.inl ⟨b, more, y, two, rfl, second, rfl, rfl⟩)
  · split at h
    case h_2 => cases h
    split at h
    case h_1 => cases h
    split at h
    case h_2 => cases h
    split at h
    case h_2 => cases h
    next b₁ _ x second _ b₂ more _ y third =>
      cases h
      exact .inr (.inr (.inl ⟨b₁, b₂, more, x, y, three, rfl, second, third, rfl, rfl⟩))
  · split at h
    case h_2 => cases h
    split at h
    case h_1 => cases h
    split at h
    case h_2 => cases h
    split at h
    case h_1 => cases h
    split at h
    case h_2 => cases h
    split at h
    case h_2 => cases h
    next b₁ _ w second _ b₂ _ x third _ b₃ more _ y fourth =>
      cases h
      exact .inr (.inr (.inr
        ⟨b₁, b₂, b₃, more, w, x, y, four, rfl, second, third, fourth, rfl, rfl⟩))

/-- A sequence that is read as a character is the one that the character is written as. -/
theorem eq_of_head {lead : UInt8} {rest : List UInt8} {c : Char} {n : Nat}
    (h : head lead rest = .char c n) : lead :: rest = encodeChar c ++ rest.drop (n - 1) := by
  obtain ⟨one, rfl, rfl⟩ | ⟨b, more, y, two, rfl, second, rfl, rfl⟩ |
    ⟨b₁, b₂, more, x, y, three, rfl, second, third, rfl, rfl⟩ |
    ⟨b₁, b₂, b₃, more, w, x, y, four, rfl, second, third, fourth, rfl, rfl⟩ := head_cases h
  · rw [encodeChar_of_lt (by rw [toNat_char (by omega)]; exact one), toNat_char (by omega),
      UInt8.ofNat_toNat]
    rfl
  · obtain ⟨rfl, follows⟩ := second?_eq_some second
    rw [encodeChar_two two follows.1, UInt8.ofNat_toNat]
    rfl
  · obtain ⟨rfl, follows⟩ := second?_eq_some second
    obtain ⟨rfl, small⟩ := continuation?_eq_some third
    rw [encodeChar_three three follows small, UInt8.ofNat_toNat]
    rfl
  · obtain ⟨rfl, follows⟩ := second?_eq_some second
    obtain ⟨rfl, small⟩ := continuation?_eq_some third
    obtain ⟨rfl, small'⟩ := continuation?_eq_some fourth
    rw [encodeChar_four four follows small small', UInt8.ofNat_toNat]
    rfl

/-! ### Texts -/

@[simp] theorem encode_nil : encode [] = [] := rfl

@[simp] theorem encode_cons (c : Char) (cs : List Char) :
    encode (c :: cs) = encodeChar c ++ encode cs := rfl

@[simp] theorem encode_append (cs ds : List Char) : encode (cs ++ ds) = encode cs ++ encode ds :=
  List.flatMap_append

theorem encode_ascii {cs : List Char} (h : ∀ c ∈ cs, c.toNat < 0x80) :
    encode cs = cs.map fun c => UInt8.ofNat c.toNat := by
  induction cs with
  | nil => rfl
  | cons c cs ih =>
    rw [encode_cons, encodeChar_of_lt (h c List.mem_cons_self),
      ih fun d mem => h d (List.mem_cons_of_mem c mem)]
    rfl

theorem decode_encode (cs : List Char) : decode (encode cs) = .ok cs := by
  induction cs with
  | nil => simp [decode]
  | cons c cs ih =>
    obtain ⟨b, t, bytes, read⟩ := head_encodeChar c (encode cs)
    rw [encode_cons, bytes, List.cons_append, decode, read]
    dsimp only
    rw [Nat.add_sub_cancel, List.drop_left, ih]

theorem eq_encode_of_decode {bytes : List UInt8} {cs : List Char} (h : decode bytes = .ok cs) :
    bytes = encode cs := by
  fun_induction decode bytes generalizing cs with
  | case1 =>
    cases h
    rfl
  | case2 => cases h
  | case3 b rest c n read ds more ih =>
    cases h
    rw [eq_of_head read, encode_cons, ← ih more]
  | case4 => cases h

/-- Each text has one spelling, and nothing else is read as the text. -/
theorem decode_eq_ok_iff {bytes : List UInt8} {cs : List Char} :
    decode bytes = .ok cs ↔ bytes = encode cs :=
  ⟨eq_encode_of_decode, fun h => h ▸ decode_encode cs⟩

theorem encode_injective {cs ds : List Char} (h : encode cs = encode ds) : cs = ds := by
  have := decode_encode cs
  rw [h, decode_encode] at this
  exact (Except.ok.inj this).symm

end RoomHub.Text.Utf8
