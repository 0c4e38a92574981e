import RoomHub.Proofs.Except
import RoomHub.Proofs.Text.Utf8
import RoomHub.Text.Base64

/-!
# Base64 has one spelling for each list of bytes

`Base64.decodeUrl_eq_ok_iff`: the symbols that are read as some bytes are those that these bytes are
written as in the URL alphabet, without padding.  Both sides are taken apart into the numbers of the
symbols: `numbers` gives those of bytes, `bytesOf` goes back.
-/

namespace RoomHub.Text.Base64

/-- The byte of the symbol of a number. -/
def symbolByte (n : Nat) : UInt8 := UInt8.ofNat (symbol .url n).toNat

theorem symbol_ascii {n : Nat} (h : n < 64) : (symbol .url n).toNat < 0x80 := by
  have all : ∀ n < 64, (symbol .url n).toNat < 0x80 := by decide +kernel
  exact all n h

theorem symbol_ne_dot {n : Nat} (h : n < 64) : symbol .url n ≠ '.' := by
  have all : ∀ n < 64, symbol .url n ≠ '.' := by decide +kernel
  exact all n h

theorem value?_symbolByte {n : Nat} (h : n < 64) : value? (symbolByte n) = some n := by
  have all : ∀ n < 64, value? (symbolByte n) = some n := by decide +kernel
  exact all n h

theorem value?_eq_some {b : UInt8} {n : Nat} (h : value? b = some n) :
    n < 64 ∧ b = symbolByte n := by
  have all : ∀ k < 256, ∀ n ∈ value? (UInt8.ofNat k), n < 64 ∧ UInt8.ofNat k = symbolByte n := by
    decide +kernel
  have := all b.toNat b.toNat_lt n
  rw [UInt8.ofNat_toNat] at this
  exact this h

theorem valueAt_symbolByte {n : Nat} (h : n < 64) (offset : Nat) :
    valueAt (symbolByte n) offset = .ok n := by
  rw [valueAt, value?_symbolByte h]

theorem valueAt_eq_ok {b : UInt8} {offset n : Nat} (h : valueAt b offset = .ok n) :
    n < 64 ∧ b = symbolByte n := by
  unfold valueAt at h
  split at h
  next found =>
    cases h
    exact value?_eq_some found
  next => cases h

theorem symbolByte_ne_pad {n : Nat} (h : n < 64) : symbolByte n ≠ pad := by
  intro same
  have := value?_symbolByte h
  rw [same] at this
  cases this

/-! ### The numbers of the symbols -/

/-- The numbers of the symbols that bytes are written as. -/
def numbers : List UInt8 → List Nat
  | [] => []
  | [a] => [a.toNat / 4, a.toNat % 4 * 16]
  | [a, b] => [a.toNat / 4, a.toNat % 4 * 16 + b.toNat / 16, b.toNat % 16 * 4]
  | a :: b :: c :: rest =>
    a.toNat / 4 :: (a.toNat % 4 * 16 + b.toNat / 16) :: (b.toNat % 16 * 4 + c.toNat / 64) ::
      c.toNat % 64 :: numbers rest

/-- The bytes that numbers of symbols stand for; no bits may be left over. -/
def bytesOf : List Nat → Option (List UInt8)
  | [] => some []
  | [_] => none
  | [a, b] => if b % 16 = 0 then some [UInt8.ofNat (a * 4 + b / 16)] else none
  | [a, b, c] =>
    if c % 4 = 0 then some [UInt8.ofNat (a * 4 + b / 16), UInt8.ofNat (b % 16 * 16 + c / 4)]
    else none
  | a :: b :: c :: d :: rest =>
    (bytesOf rest).map fun bytes =>
      UInt8.ofNat (a * 4 + b / 16) :: UInt8.ofNat (b % 16 * 16 + c / 4) ::
        UInt8.ofNat (c % 4 * 64 + d) :: bytes

theorem lt_of_mem_numbers {bytes : List UInt8} {n : Nat} (mem : n ∈ numbers bytes) : n < 64 := by
  have bound (b : UInt8) : b.toNat < 256 := b.toNat_lt
  fun_induction numbers bytes with
  | case1 => cases mem
  | case2 a =>
    have := bound a
    simp only [List.mem_cons, List.not_mem_nil, or_false] at mem
    omega
  | case3 a b =>
    have := bound a
    have := bound b
    simp only [List.mem_cons, List.not_mem_nil, or_false] at mem
    omega
  | case4 a b c rest ih =>
    have := bound a
    have := bound b
    have := bound c
    rcases List.mem_cons.1 mem with rfl | mem
    · omega
    rcases List.mem_cons.1 mem with rfl | mem
    · omega
    rcases List.mem_cons.1 mem with rfl | mem
    · omega
    rcases List.mem_cons.1 mem with rfl | mem
    · omega
    · exact ih mem

theorem bytesOf_numbers (bytes : List UInt8) : bytesOf (numbers bytes) = some bytes := by
  have bound (b : UInt8) : b.toNat < 256 := b.toNat_lt
  have same {b : UInt8} {n : Nat} (h : n = b.toNat) : UInt8.ofNat n = b := by
    rw [h, UInt8.ofNat_toNat]
  fun_induction numbers bytes with
  | case1 => rfl
  | case2 a =>
    have := bound a
    rw [bytesOf, if_pos (by omega), same (b := a) (by omega)]
  | case3 a b =>
    have := bound a
    have := bound b
    rw [bytesOf, if_pos (by omega), same (b := a) (by omega), same (b := b) (by omega)]
  | case4 a b c rest ih =>
    have := bound a
    have := bound b
    have := bound c
    rw [bytesOf, ih, Option.map_some, same (b := a) (by omega), same (b := b) (by omega),
      same (b := c) (by omega)]

theorem eq_numbers_of_bytesOf {ns : List Nat} (small : ∀ n ∈ ns, n < 64) {bytes : List UInt8}
    (h : bytesOf ns = some bytes) : ns = numbers bytes := by
  fun_induction bytesOf ns generalizing bytes with
  | case1 =>
    cases h
    rfl
  | case2 => cases h
  | case3 a b whole =>
    cases h
    have := small a (by simp)
    have := small b (by simp)
    rw [numbers, Utf8.toNat_byte (by omega)]
    congr 1
    · omega
    · congr 1
      omega
  | case4 => cases h
  | case5 a b c whole =>
    cases h
    have := small a (by simp)
    have := small b (by simp)
    have := small c (by simp)
    rw [numbers, Utf8.toNat_byte (by omega), Utf8.toNat_byte (by omega)]
    congr 1
    · omega
    · congr 1
      · omega
      · congr 1
        omega
  | case6 => cases h
  | case7 a b c d rest ih =>
    obtain ⟨more, rest, rfl⟩ := Option.map_eq_some_iff.1 h
    have := small a (by simp)
    have := small b (by simp)
    have := small c (by simp)
    have := small d (by simp)
    rw [numbers, Utf8.toNat_byte (by omega), Utf8.toNat_byte (by omega),
      Utf8.toNat_byte (by omega), ← ih (fun n mem => small n (by simp [mem])) rest]
    congr 1
    · omega
    · congr 1
      · omega
      · congr 1
        · omega
        · congr 1
          omega

/-! ### Writing -/

theorem encode_eq_map (bytes : List UInt8) :
    encode .url bytes = (numbers bytes).map (symbol .url) := by
  fun_induction numbers bytes with
  | case1 => rfl
  | case2 => rfl
  | case3 => rfl
  | case4 a b c rest ih => simp only [encode, ih, List.map_cons]

theorem dot_not_mem_encode (bytes : List UInt8) : '.' ∉ encode .url bytes := by
  rw [encode_eq_map, List.mem_map]
  rintro ⟨n, mem, same⟩
  exact symbol_ne_dot (lt_of_mem_numbers mem) same

theorem encode_ascii (bytes : List UInt8) : ∀ c ∈ encode .url bytes, c.toNat < 0x80 := by
  rw [encode_eq_map]
  intro c mem
  obtain ⟨n, listed, rfl⟩ := List.mem_map.1 mem
  exact symbol_ascii (lt_of_mem_numbers listed)

theorem utf8_encode (bytes : List UInt8) :
    Utf8.encode (encode .url bytes) = (numbers bytes).map symbolByte := by
  rw [Utf8.encode_ascii (encode_ascii bytes), encode_eq_map, List.map_map]
  rfl

/-! ### Reading -/

theorem lastValues_map {ns : List Nat} (small : ∀ n ∈ ns, n < 64) (start k : Nat) :
    lastValues start (ns.map symbolByte) k = .ok (ns, false) := by
  induction ns generalizing k with
  | nil => rfl
  | cons n ns ih =>
    have first := small n List.mem_cons_self
    rw [List.map_cons, lastValues, if_neg (symbolByte_ne_pad first), valueAt_symbolByte first,
      ih fun m mem => small m (List.mem_cons_of_mem n mem)]
    rfl

theorem eq_map_of_lastValues {start k : Nat} {group : List UInt8} {ns : List Nat}
    (h : lastValues start group k = .ok (ns, false)) :
    group = ns.map symbolByte ∧ ∀ n ∈ ns, n < 64 := by
  induction group generalizing k ns with
  | nil =>
    cases h
    exact ⟨rfl, fun n mem => by cases mem⟩
  | cons b group ih =>
    rw [lastValues] at h
    split_ifs at h
    · simp at h
    · obtain ⟨n, valued, h⟩ := Except.bind_eq_ok.1 h
      obtain ⟨⟨ms, isPadded⟩, more, h⟩ := Except.bind_eq_ok.1 h
      cases h
      obtain ⟨first, rfl⟩ := valueAt_eq_ok valued
      obtain ⟨rfl, small⟩ := ih more
      exact ⟨rfl, List.forall_mem_cons.2 ⟨first, small⟩⟩

/-- A last group is read as the bytes that its numbers stand for; it is empty only in an empty
text. -/
theorem decodeLast_map {ns : List Nat} (small : ∀ n ∈ ns, n < 64) (short : ns.length ≤ 4)
    {start : Nat} (empty : ns = [] → start = 0) {bytes : List UInt8}
    (stands : bytesOf ns = some bytes) : decodeLast start (ns.map symbolByte) = .ok bytes := by
  unfold decodeLast
  rw [lastValues_map small start 0]
  match ns, short with
  | [], _ =>
    cases stands
    simp [empty rfl, bind, Except.bind, pure, Except.pure]
  | [_], _ => cases stands
  | [a, b], _ =>
    obtain ⟨whole, same⟩ := Option.ite_none_right_eq_some.1 stands
    cases same
    simp [whole, bind, Except.bind, pure, Except.pure]
  | [a, b, c], _ =>
    obtain ⟨whole, same⟩ := Option.ite_none_right_eq_some.1 stands
    cases same
    simp [whole, bind, Except.bind, pure, Except.pure]
  | [a, b, c, d], _ =>
    cases stands
    rfl

theorem exists_of_decodeLast {start : Nat} {group bytes : List UInt8} (short : group.length ≤ 4)
    (h : decodeLast start group = .ok bytes) :
    ∃ ns, group = ns.map symbolByte ∧ (∀ n ∈ ns, n < 64) ∧ bytesOf ns = some bytes := by
  unfold decodeLast at h
  obtain ⟨⟨ns, isPadded⟩, values, h⟩ := Except.bind_eq_ok.1 h
  simp only [bind, Except.bind, pure, Except.pure, throw, throwThe, MonadExceptOf.throw] at h
  cases isPadded with
  | true =>
    match ns, h with
    | [], h =>
      by_cases empty : start = 0 ∧ group.isEmpty = true
      · rw [List.isEmpty_iff.1 empty.2, lastValues] at values
        cases values
      · rw [if_neg empty] at h
        cases h
    | [_], h => cases h
    | _ :: _ :: _, h => cases h
  | false =>
    obtain ⟨rfl, small⟩ := eq_map_of_lastValues values
    rw [List.length_map] at short
    refine ⟨ns, rfl, small, ?_⟩
    simp only [Bool.false_eq_true, if_false] at h
    match ns, short, h with
    | [], _, h =>
      by_cases empty : start = 0 ∧ (([] : List Nat).map symbolByte).isEmpty = true
      · rw [if_pos empty] at h
        cases h
        rfl
      · rw [if_neg empty] at h
        cases h
    | [_], _, h => cases h
    | [a, b], _, h =>
      dsimp only at h
      by_cases whole : b % 16 = 0
      · rw [if_neg (not_not_intro whole)] at h
        cases h
        rw [bytesOf, if_pos whole]
      · rw [if_pos whole] at h
        cases h
    | [a, b, c], _, h =>
      dsimp only at h
      by_cases whole : c % 4 = 0
      · rw [if_neg (not_not_intro whole)] at h
        cases h
        rw [bytesOf, if_pos whole]
      · rw [if_pos whole] at h
        cases h
    | [a, b, c, d], _, h =>
      cases h
      rfl

theorem decodeGroups_map {ns : List Nat} (small : ∀ n ∈ ns, n < 64) (start : Nat)
    (empty : ns = [] → start = 0) {bytes : List UInt8} (stands : bytesOf ns = some bytes) :
    decodeGroups start (ns.map symbolByte) = .ok bytes := by
  match ns with
  | a :: b :: c :: d :: e :: rest =>
    obtain ⟨more, later, rfl⟩ := Option.map_eq_some_iff.1 stands
    have tail : ∀ n ∈ e :: rest, n < 64 := fun n mem => small n (by simp [List.mem_cons.1 mem])
    have read := decodeGroups_map tail (start + 4) (fun none => by cases none) later
    rw [List.map_cons] at read
    simp only [List.map_cons, decodeGroups, valueAt_symbolByte (small a (by simp)),
      valueAt_symbolByte (small b (by simp)), valueAt_symbolByte (small c (by simp)),
      valueAt_symbolByte (small d (by simp)), read]
    rfl
  | [] => exact decodeLast_map small (by simp) empty stands
  | [_] => exact decodeLast_map small (by simp) empty stands
  | [_, _] => exact decodeLast_map small (by simp) empty stands
  | [_, _, _] => exact decodeLast_map small (by simp) empty stands
  | [_, _, _, _] => exact decodeLast_map small (by simp) empty stands

theorem exists_of_decodeGroups {start : Nat} {symbols bytes : List UInt8}
    (h : decodeGroups start symbols = .ok bytes) :
    ∃ ns, symbols = ns.map symbolByte ∧ (∀ n ∈ ns, n < 64) ∧ bytesOf ns = some bytes := by
  fun_induction decodeGroups start symbols generalizing bytes with
  | case1 start a b c d e rest ih =>
    obtain ⟨w, first, h⟩ := Except.bind_eq_ok.1 h
    obtain ⟨x, second, h⟩ := Except.bind_eq_ok.1 h
    obtain ⟨y, third, h⟩ := Except.bind_eq_ok.1 h
    obtain ⟨z, fourth, h⟩ := Except.bind_eq_ok.1 h
    obtain ⟨more, later, h⟩ := Except.bind_eq_ok.1 h
    cases h
    obtain ⟨hw, rfl⟩ := valueAt_eq_ok first
    obtain ⟨hx, rfl⟩ := valueAt_eq_ok second
    obtain ⟨hy, rfl⟩ := valueAt_eq_ok third
    obtain ⟨hz, rfl⟩ := valueAt_eq_ok fourth
    obtain ⟨ns, same, small, stands⟩ := ih later
    refine ⟨w :: x :: y :: z :: ns, by simp [same], ?_, by rw [bytesOf, stands]; rfl⟩
    simpa [hw, hx, hy, hz] using small
  | case2 start group long =>
    refine exists_of_decodeLast ?_ h
    match group, long with
    | [], _ | [_], _ | [_, _], _ | [_, _, _], _ | [_, _, _, _], _ => simp
    | a :: b :: c :: d :: e :: rest, long => exact absurd rfl (long a b c d e rest)

/-- Bytes have one spelling, and nothing else is read as the bytes. -/
theorem decodeUrl_eq_ok_iff {symbols bytes : List UInt8} :
    decodeUrl symbols = .ok bytes ↔ symbols = Utf8.encode (encode .url bytes) := by
  rw [utf8_encode]
  constructor
  · intro h
    unfold decodeUrl at h
    split at h
    · split at h
      · cases h
      · obtain ⟨ns, rfl, small, stands⟩ := exists_of_decodeGroups h
        rw [eq_numbers_of_bytesOf small stands]
    next none =>
      cases h
      rw [List.getLast?_eq_none_iff.1 none]
      rfl
  · rintro rfl
    have small : ∀ n ∈ numbers bytes, n < 64 := fun n => lt_of_mem_numbers
    have read := decodeGroups_map small 0 (fun _ => rfl) (bytesOf_numbers bytes)
    unfold decodeUrl
    split
    next b last =>
      obtain ⟨n, mem, rfl⟩ := List.mem_map.1 (List.mem_of_getLast? last)
      rw [if_neg (by simp [value?_symbolByte (small n mem)]), read]
    next none =>
      rw [List.getLast?_eq_none_iff, List.map_eq_nil_iff] at none
      rw [none] at read
      exact read

theorem encode_injective {a b : List UInt8} (h : encode .url a = encode .url b) : a = b := by
  have read : decodeUrl (Utf8.encode (encode .url a)) = .ok b :=
    decodeUrl_eq_ok_iff.2 (congrArg Utf8.encode h)
  rw [decodeUrl_eq_ok_iff.2 rfl] at read
  exact Except.ok.inj read

end RoomHub.Text.Base64
