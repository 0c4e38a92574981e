import RoomHub.Proofs.Calendar.Order
import RoomHub.Wire.Http
import RoomHub.Wire.Socket

/-!
# Records in the order of their timestamps

Messages and entries of the chat log are sent with the texts of their times.  Sorting such records by these
texts sorts them by time, up to the millisecond (`SortsByTime`, `timestamps_in_order`).
-/

namespace RoomHub.Wire

open Calendar

/-- Records of things in time hold texts that sort them by time: a list of records is in the order of its
texts exactly if the things are in the order of time, and sorting by the one is sorting by the other. -/
structure SortsByTime {α β : Type} (record : α → β) (stamp : β → String) (time : α → Instant) :
    Prop where
  sorted : ∀ xs : List α, (∀ x ∈ xs, (time x).FourDigitYear) →
    ((xs.map record).Pairwise (fun o p => stamp o ≤ stamp p) ↔
      xs.Pairwise fun x y => (time x).truncated ≤ (time y).truncated)
  sort : ∀ xs : List α, (∀ x ∈ xs, (time x).FourDigitYear) →
    (xs.map record).mergeSort (fun o p => stamp o ≤ stamp p) =
      (xs.mergeSort fun x y => (time x).truncated ≤ (time y).truncated).map record

theorem sortsByTime {α β : Type} {record : α → β} {stamp : β → String} {time : α → Instant}
    (stamped : ∀ x, stamp (record x) = (time x).toMillisText) : SortsByTime record stamp time where
  sorted xs years := by
    rw [List.pairwise_map]
    refine List.Pairwise.iff_of_mem fun {x y} hx hy => ?_
    rw [stamped, stamped]
    exact Instant.toMillisText_le_iff (years x hx) (years y hy)
  sort xs years := by
    refine (List.map_mergeSort fun x hx y hy => ?_).symm
    rw [stamped, stamped, decide_eq_decide]
    exact (Instant.toMillisText_le_iff (years x hx) (years y hy)).symm

/-- Of two instants in the years 0 to 9999, the earlier one does not have the greater text, and both have
the same text exactly if they lie in the same millisecond.  Such a text has 24 characters and is read back
as the instant up to its millisecond.  Hence the records of messages and of entries of the chat log sort by
time.  The dates in the texts are those of the Gregorian calendar, counted from 1970-01-01. -/
theorem timestamps_in_order :
    (∀ a b : Instant, a.FourDigitYear → b.FourDigitYear →
      (a ≤ b → a.toMillisText ≤ b.toMillisText) ∧
        (a.toMillisText = b.toMillisText ↔
          a.seconds = b.seconds ∧ a.nanos / 1000000 = b.nanos / 1000000)) ∧
    (∀ t : Instant, t.FourDigitYear → t.toMillisText.length = 24 ∧
      Instant.ofMillisText? t.toMillisText = some t.truncated) ∧
    SortsByTime Outbound.ofMessage (·.timestamp) (·.timestamp) ∧
    SortsByTime ChatLine.ofEntry (·.timestamp) (·.timestamp) ∧
    Date.ofDays 0 = ⟨1970, 1, 1⟩ ∧
    ∀ n : Int, (Date.ofDays n).Valid ∧ Date.ofDays (n + 1) = (Date.ofDays n).next :=
  ⟨fun _ _ first second => ⟨fun order =>
      (Instant.toMillisText_le_iff first second).2 (Instant.truncated_mono order),
      Instant.toMillisText_eq_iff first second⟩,
    fun _ year => ⟨Instant.length_toMillisText year, Instant.ofMillisText?_toMillisText year⟩,
    sortsByTime fun _ => rfl, sortsByTime fun _ => rfl, ofDays_zero,
    fun n => ⟨valid_ofDays n, ofDays_succ n⟩⟩

/-- The last millisecond of 1990, in a leap second, and the first instant of 1991. -/
theorem timestamps_in_order_leap :
    ∃ a b : Instant, a.FourDigitYear ∧ b.FourDigitYear ∧ a ≤ b ∧
      a.toMillisText = "1990-12-31T23:59:60.999Z" ∧ b.toMillisText = "1991-01-01T00:00:00.000Z" ∧
      a.toMillisText ≤ b.toMillisText ∧
      Instant.ofMillisText? "1990-12-31T23:59:60.999Z" = some a.truncated := by
  let a : Instant := ⟨662687999, 1999999999, by decide, by decide, by decide⟩
  let b : Instant := ⟨662688000, 0, by decide, by decide, by decide⟩
  have first : a.FourDigitYear := by decide
  have second : b.FourDigitYear := by decide
  have order : a ≤ b := by decide
  have text : a.toMillisText = "1990-12-31T23:59:60.999Z" := by decide +kernel
  refine ⟨a, b, first, second, order, text, by decide +kernel,
    (timestamps_in_order.1 a b first second).1 order, ?_⟩
  rw [← text]
  exact (timestamps_in_order.2.1 a first).2

end RoomHub.Wire
