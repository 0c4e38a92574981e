import Mathlib.Tactic.SplitIfs
import RoomHub.Schedule

/-!
# The earliest move

What `earliest` picks is one of the moves (`mem_of_earliest`), and none comes before it
(`le_of_earliest`).
-/

namespace RoomHub

variable {α : Type} {moves : List (Nat × α)} {move other : Nat × α}

theorem mem_of_earliest (first : earliest moves = some move) : move ∈ moves := by
  induction moves generalizing move with
  | nil => cases first
  | cons x moves ih =>
    simp only [earliest] at first
    split at first
    next y found =>
      split_ifs at first
      · exact List.mem_cons_of_mem _ (ih (found.trans first))
      · exact Option.some.inj first ▸ List.mem_cons_self
    · exact Option.some.inj first ▸ List.mem_cons_self

theorem le_of_earliest (first : earliest moves = some move) (listed : other ∈ moves) :
    move.1 ≤ other.1 := by
  induction moves generalizing move with
  | nil => cases listed
  | cons x moves ih =>
    simp only [earliest] at first
    split at first
    next y found =>
      rcases List.mem_cons.mp listed with rfl | later
      · split_ifs at first with sooner
        · exact Option.some.inj first ▸ Nat.le_of_lt sooner
        · exact Option.some.inj first ▸ Nat.le_refl _
      · have bound := ih found later
        split_ifs at first with sooner
        · exact Option.some.inj first ▸ bound
        · obtain rfl := Option.some.inj first
          omega
    next none =>
      rcases List.mem_cons.mp listed with rfl | later
      · exact Option.some.inj first ▸ Nat.le_refl _
      · exfalso
        cases moves with
        | nil => cases later
        | cons y moves =>
          simp only [earliest] at none
          split at none
          · split_ifs at none
          · cases none

end RoomHub
