import Mathlib.Data.List.TakeWhile
import Mathlib.Tactic.SplitIfs
import RoomHub.Proofs.Except
import RoomHub.Proofs.Text.Base64
import RoomHub.Token.Verifier

/-!
# The parts of a token

A text splits at its last dot in one way (`splitLast_eq_some_iff`, `splitLast_encode`).  The claims
part is handed on exactly if header and signature are right (`signedPart_eq_ok_iff`): the header is
base64 of JSON that names HS256, and the signature is the one spelling of the code of both parts
before it.
-/

namespace RoomHub.Token

open Json Text

/-! ### Splitting at the last dot -/

theorem splitLast_append {before after : List UInt8} (noDot : dot ∉ after) :
    splitLast (before ++ dot :: after) = some (before, after) := by
  have other : ∀ b ∈ after.reverse, (b != dot) = true := fun b mem =>
    bne_iff_ne.mpr fun same => noDot (same ▸ List.mem_reverse.mp mem)
  have turned : (before ++ dot :: after).reverse = after.reverse ++ dot :: before.reverse := by
    rw [List.reverse_append, List.reverse_cons, List.append_assoc, List.singleton_append]
  rw [splitLast, turned]
  simp [List.dropWhile_append_of_pos other, List.takeWhile_append_of_pos other]

theorem splitLast_eq_some_iff {bytes before after : List UInt8} :
    splitLast bytes = some (before, after) ↔ bytes = before ++ dot :: after ∧ dot ∉ after := by
  constructor
  · intro h
    have parts := List.takeWhile_append_dropWhile (p := (· != dot)) (l := bytes.reverse)
    unfold splitLast at h
    simp only at h
    split at h
    next => cases h
    next b more found =>
      cases h
      have isDot : b = dot := by
        have last := List.head_dropWhile_not (· != dot) (l := bytes.reverse)
          (by rw [found]; exact List.cons_ne_nil b more)
        simpa [found] using last
      subst isDot
      constructor
      · have turned := congrArg List.reverse parts
        rw [found, List.reverse_reverse] at turned
        simpa using turned.symm
      · intro mem
        have := List.mem_takeWhile_imp (List.mem_reverse.mp mem)
        simp at this
  · rintro ⟨rfl, noDot⟩
    exact splitLast_append noDot

/-- The byte of a dot stands for nothing but a dot. -/
theorem dot_mem_encodeChar {c : Char} (mem : dot ∈ Utf8.encodeChar c) : c = '.' := by
  by_cases ascii : c.toNat < 0x80
  · rw [Utf8.encodeChar_of_lt ascii, List.mem_singleton] at mem
    have same := congrArg UInt8.toNat mem
    rw [Utf8.toNat_byte (by omega)] at same
    exact Char.toNat_inj.mp same.symm
  · have := Utf8.le_of_mem_encodeChar (by omega) mem
    simp [dot] at this

theorem dot_mem_encode_iff {cs : List Char} : dot ∈ Utf8.encode cs ↔ '.' ∈ cs := by
  rw [Utf8.encode, List.mem_flatMap]
  constructor
  · rintro ⟨c, mem, found⟩
    exact dot_mem_encodeChar found ▸ mem
  · exact fun mem => ⟨'.', mem, by decide⟩

/-- A dot among the bytes of a text is a dot of the text. -/
theorem split_of_encode {cs : List Char} {before after : List UInt8}
    (h : Utf8.encode cs = before ++ dot :: after) :
    ∃ ds es, cs = ds ++ '.' :: es ∧ Utf8.encode ds = before ∧ Utf8.encode es = after := by
  induction cs generalizing before with
  | nil => simp at h
  | cons c cs ih =>
    rw [Utf8.encode_cons, List.append_eq_append_iff] at h
    obtain ⟨more, rfl, later⟩ | ⟨more, first, later⟩ := h
    · obtain ⟨ds, es, rfl, rfl, rfl⟩ := ih later
      exact ⟨c :: ds, es, rfl, rfl, rfl⟩
    · cases more with
      | nil =>
        have behind : Utf8.encode cs = [] ++ dot :: after := later.symm
        obtain ⟨ds, es, rfl, none, rfl⟩ := ih behind
        rw [List.append_nil] at first
        exact ⟨c :: ds, es, rfl, by rw [Utf8.encode_cons, none, List.append_nil, first], rfl⟩
      | cons b more =>
        obtain ⟨rfl, rfl⟩ := List.cons_eq_cons.mp later
        obtain rfl := dot_mem_encodeChar (c := c) (by rw [first]; simp)
        have single : before ++ dot :: more = [dot] := first.symm
        rw [List.append_eq_singleton_iff] at single
        obtain ⟨rfl, rest⟩ | ⟨-, none⟩ := single
        · cases rest
          exact ⟨[], cs, rfl, rfl, rfl⟩
        · cases none

theorem splitLast_encode_iff {cs : List Char} {before after : List UInt8} :
    splitLast (Utf8.encode cs) = some (before, after) ↔
      ∃ ds es, cs = ds ++ '.' :: es ∧ '.' ∉ es ∧ Utf8.encode ds = before ∧ Utf8.encode es = after := by
  rw [splitLast_eq_some_iff]
  constructor
  · rintro ⟨split, noDot⟩
    obtain ⟨ds, es, same, rfl, rfl⟩ := split_of_encode split
    exact ⟨ds, es, same, fun mem => noDot (dot_mem_encode_iff.mpr mem), rfl, rfl⟩
  · rintro ⟨ds, es, rfl, noDot, rfl, rfl⟩
    exact ⟨Utf8.encode_append ds ('.' :: es), fun mem => noDot (dot_mem_encode_iff.mp mem)⟩

/-! ### The three parts -/

theorem decodePart_eq_ok_iff {cs : List Char} {bytes : List UInt8} :
    decodePart (Utf8.encode cs) = .ok bytes ↔ cs = Base64.encode .url bytes := by
  rw [decodePart, Except.mapError_eq_ok, Base64.decodeUrl_eq_ok_iff]
  exact ⟨Utf8.encode_injective, congrArg Utf8.encode⟩

theorem decodeJson_eq_ok_iff {α : Type} {read : Reader α} {bytes : List UInt8} {a : α} :
    decodeJson read bytes = .ok a ↔ Json.decode read bytes = .ok a := by
  rw [decodeJson, Except.mapError_eq_ok]

/-- The signature of two parts as a text. -/
def signatureOf (secret : String) (signed : List Char) : List Char :=
  Base64.encode .url (Digest.hmacSha256 (Utf8.ofText secret) (Utf8.encode signed))

/-- A token with a header that names HS256: only the signature is left to be checked. -/
theorem signedPart_of_header {secret : String} {head : List UInt8} {p s : List Char}
    (noDot : '.' ∉ p) (noDot' : '.' ∉ s) (named : Json.decode header.read head = .ok .hs256) :
    signedPart (Utf8.ofText secret)
        (Utf8.encode (Base64.encode .url head ++ '.' :: p ++ '.' :: s)) =
      if s = signatureOf secret (Base64.encode .url head ++ '.' :: p) then .ok (Utf8.encode p)
      else .error .signature := by
  have outer := splitLast_encode_iff.mpr ⟨Base64.encode .url head ++ '.' :: p, s, rfl, noDot', rfl, rfl⟩
  have inner := splitLast_encode_iff.mpr ⟨Base64.encode .url head, p, rfl, noDot, rfl, rfl⟩
  have decoded : decodePart (Utf8.encode (Base64.encode .url head)) = .ok head :=
    decodePart_eq_ok_iff.mpr rfl
  have algorithm : decodeJson header.read head = .ok .hs256 := decodeJson_eq_ok_iff.mpr named
  have right : Utf8.encode s =
        signature (Utf8.ofText secret) (Utf8.encode (Base64.encode .url head ++ '.' :: p)) ↔
      s = signatureOf secret (Base64.encode .url head ++ '.' :: p) :=
    ⟨fun same => Utf8.encode_injective same, congrArg Utf8.encode⟩
  unfold signedPart
  simp only [outer, inner, decoded, algorithm, bind, Except.bind, ne_eq, not_true_eq_false, if_false,
    ite_not, right]
  rfl

/-- The claims part is handed on exactly if the header names HS256 and the signature is right. -/
theorem signedPart_eq_ok_iff {secret : String} {cs : List Char} {part : List UInt8} :
    signedPart (Utf8.ofText secret) (Utf8.encode cs) = .ok part ↔
      ∃ (head : List UInt8) (p : List Char),
        cs = Base64.encode .url head ++ '.' :: p ++
          '.' :: signatureOf secret (Base64.encode .url head ++ '.' :: p) ∧
        '.' ∉ p ∧ Json.decode header.read head = .ok .hs256 ∧ Utf8.encode p = part := by
  constructor
  · intro h
    unfold signedPart at h
    split at h
    next signed sign outer =>
      split at h
      next before claims inner =>
        obtain ⟨s, sign', rfl, noDot', rfl, rfl⟩ := splitLast_encode_iff.mp outer
        obtain ⟨h', p, rfl, noDot, rfl, rfl⟩ := splitLast_encode_iff.mp inner
        obtain ⟨head, decoded, h⟩ := Except.bind_eq_ok.mp h
        obtain ⟨algorithm, named, h⟩ := Except.bind_eq_ok.mp h
        obtain rfl := decodePart_eq_ok_iff.mp decoded
        dsimp only at h
        by_cases other : algorithm ≠ .hs256
        · rw [if_pos other] at h
          cases h
        rw [if_neg other] at h
        by_cases forged : Utf8.encode sign' ≠ signature (Utf8.ofText secret)
            (Utf8.encode (Base64.encode .url head ++ '.' :: p))
        · rw [if_pos forged] at h
          cases h
        rw [if_neg forged] at h
        cases h
        obtain rfl := Decidable.of_not_not other
        obtain rfl := Utf8.encode_injective (Decidable.of_not_not forged)
        exact ⟨head, p, rfl, noDot, decodeJson_eq_ok_iff.mp named, rfl⟩
      next => cases h
    next => cases h
  · rintro ⟨head, p, rfl, noDot, named, rfl⟩
    have noDot' : '.' ∉ signatureOf secret (Base64.encode .url head ++ '.' :: p) :=
      Base64.dot_not_mem_encode _
    rw [signedPart_of_header noDot noDot' named, if_pos rfl]

end RoomHub.Token
