import RoomHub.Proofs.Json.Written
import RoomHub.Token.Claims
import RoomHub.Token.Registered

/-!
# Written claims are read back

Claims are read back as they were written (`reads_claims`), and the reader of registered claims finds
in them their last second and nothing else (`reads_registered`); a last second before 1970 is of no
use to it.
-/

namespace RoomHub

open Json Text

namespace Claims

theorem reads_present (x : String) : Reads (readOptional readString) (writeText x) (some x) :=
  reads_optional (reads_string x) (opens_text x) rfl (by decide)

theorem reads_claims {c : Claims} (low : -(Decimal.twoTo 63 : Int) ≤ c.exp)
    (high : c.exp < Decimal.twoTo 63) : Reads record.read c.write c := by
  have userId : Gathers record {} [("user_id", writeText c.userId)] { userId := some c.userId } :=
    .cons (takes_known rfl rfl (reads_fieldOf (reads_string c.userId) _)) (.nil _)
  have username : Gathers record { userId := some c.userId }
      (optionalMember "username" (c.username.map writeText))
      { userId := some c.userId, username := c.username.map some } := by
    refine gathers_optional (fun absent => by rw [absent]; rfl) fun x present => ?_
    rw [present]
    exact takes_known rfl rfl (reads_fieldOf (reads_present x) _)
  have role : Gathers record { userId := some c.userId, username := c.username.map some }
      (optionalMember "role" (c.role.map writeText))
      { userId := some c.userId, username := c.username.map some, role := c.role.map some } := by
    refine gathers_optional (fun absent => by rw [absent]; rfl) fun x present => ?_
    rw [present]
    exact takes_known rfl rfl (reads_fieldOf (reads_present x) _)
  refine reads_object (((userId.append username).append role).append
    (.cons (takes_known rfl rfl (reads_fieldOf (reads_signed64 low high) _)) (.nil _))) ?_
  have join (x : Option String) : (x.map some).join = x := by cases x <;> rfl
  show Except.ok _ = Except.ok c
  rw [join, join]

end Claims

namespace Token

theorem reads_tryRead {α : Type} {read : Reader (Tried α)} {written : List Char} {a : Tried α}
    (reads : Reads read written a) : Reads (tryRead read) written a := by
  intro rest closes
  rw [tryRead, reads rest closes]

/-- A last second as a point in time. -/
def timeOf (exp : Int) : Tried Nat :=
  if 0 ≤ exp then .usable exp.toNat else .unusable

theorem reads_time {n : Int} (low : -(Decimal.twoTo 63 : Int) ≤ n) (high : n < Decimal.twoTo 63) :
    Reads readTime (writeInteger n) (timeOf n) := by
  have double : Decimal.twoTo 63 < Decimal.twoTo 64 := by decide
  intro rest closes
  unfold timeOf
  by_cases natural : 0 ≤ n
  · obtain ⟨k, rfl⟩ := Int.eq_ofNat_of_zero_le natural
    obtain ⟨b, tail, bytes, isDig, read⟩ := readNumber_natural (n := k) (by omega) closes
    rw [bytes, readTime, skipBlanks_cons (visible_of_isDigit isDig)]
    dsimp only
    rw [if_neg (apart_of_isDigit isDig (by decide)), if_pos isDig, read, if_pos natural]
    rfl
  · obtain ⟨k, rfl⟩ : ∃ k : Nat, n = -(k : Int) := ⟨n.natAbs, by omega⟩
    obtain ⟨tail, bytes, read⟩ := readNumber_negative (n := k) (by omega) (by omega) closes
    rw [bytes, readTime, skipBlanks_cons rfl]
    dsimp only
    rw [if_pos rfl, read, if_neg natural]
    rfl

theorem reads_registered {c : Claims} (low : -(Decimal.twoTo 63 : Int) ≤ c.exp)
    (high : c.exp < Decimal.twoTo 63) :
    Reads Registered.record.read c.write ⟨timeOf c.exp, .absent, .absent, .absent, .absent⟩ := by
  have userId : Gathers Registered.record {} [("user_id", writeText c.userId)] {} :=
    .cons (takes_unknown rfl (passes_text c.userId) _) (.nil _)
  have username : Gathers Registered.record {}
      (optionalMember "username" (c.username.map writeText)) {} :=
    gathers_optional (fun _ => rfl) fun x _ => takes_unknown rfl (passes_text x) _
  have role : Gathers Registered.record {} (optionalMember "role" (c.role.map writeText)) {} :=
    gathers_optional (fun _ => rfl) fun x _ => takes_unknown rfl (passes_text x) _
  exact reads_object (((userId.append username).append role).append
    (.cons (takes_known rfl rfl (reads_fieldOf (reads_tryRead (reads_time low high)) _)) (.nil _))) rfl

end Token

end RoomHub
