import Mathlib.Tactic.SplitIfs
import RoomHub.Connection.WritePump
import RoomHub.Proofs.Json.Written
import RoomHub.Proofs.Token.Claims
import RoomHub.Wire.Http

/-!
# The wire format loses nothing

Every record is read back from the text that it is written as, and the text frame that a write pump
begins for a message is read as a client's record of the same kind and content
(`wire_round_trip`).
-/

namespace RoomHub

open Json Text

namespace Wire

/-! ### Records of sockets -/

theorem reads_kind (k : MessageKind) : Reads readKind (writeText k.name) k :=
  reads_choice (by cases k <;> decide)

theorem reads_outbound (o : Outbound) : Reads Outbound.record.read o.write o :=
  reads_object
    (.cons (takes_known rfl rfl (reads_fieldOf (reads_kind o.kind) _))
    (.cons (takes_known rfl rfl (reads_fieldOf (reads_string o.senderId) _))
    (.cons (takes_known rfl rfl (reads_fieldOf (reads_string o.senderName) _))
    (.cons (takes_known rfl rfl (reads_fieldOf (reads_string o.content) _))
    (.cons (takes_known rfl rfl (reads_fieldOf (reads_string o.timestamp) _))
    (.cons (takes_known rfl rfl (reads_fieldOf (reads_string o.roomId) _)) (.nil _))))))) rfl

/-- A client's record has two of the members; the other four are passed over. -/
theorem reads_inbound (o : Outbound) : Reads Inbound.record.read o.write ⟨o.kind, o.content⟩ :=
  reads_object
    (.cons (takes_known rfl rfl (reads_fieldOf (reads_kind o.kind) _))
    (.cons (takes_unknown rfl (passes_text o.senderId) _)
    (.cons (takes_unknown rfl (passes_text o.senderName) _)
    (.cons (takes_known rfl rfl (reads_fieldOf (reads_string o.content) _))
    (.cons (takes_unknown rfl (passes_text o.timestamp) _)
    (.cons (takes_unknown rfl (passes_text o.roomId) _) (.nil _))))))) rfl

/-! ### Records of HTTP answers -/

theorem reads_member (m : Member) : Reads Member.record.read m.write m :=
  reads_object
    (.cons (takes_known rfl rfl (reads_fieldOf (reads_string m.connectionId) _))
    (.cons (takes_known rfl rfl (reads_fieldOf (reads_string m.userId) _))
    (.cons (takes_known rfl rfl (reads_fieldOf (reads_string m.displayName) _)) (.nil _)))) rfl

theorem reads_summary {r : RoomSummary} (small : r.memberCount < Decimal.twoTo 64) :
    Reads RoomSummary.record.read r.write r := by
  have members : Reads (readArray Member.record.read) (writeArray (r.members.map Member.write))
      r.members :=
    reads_array (fun m _ => reads_member m) (fun _ _ => opens_object _) rfl (by decide)
  exact reads_object
    (.cons (takes_known rfl rfl (reads_fieldOf (reads_string r.id) _))
    (.cons (takes_known rfl rfl (reads_fieldOf (reads_unsigned64 small) _))
    (.cons (takes_known rfl rfl (reads_fieldOf members _)) (.nil _)))) rfl

theorem reads_chatLine (e : ChatLine) : Reads ChatLine.record.read e.write e :=
  reads_object
    (.cons (takes_known rfl rfl (reads_fieldOf (reads_string e.roomId) _))
    (.cons (takes_known rfl rfl (reads_fieldOf (reads_string e.senderId) _))
    (.cons (takes_known rfl rfl (reads_fieldOf (reads_string e.senderName) _))
    (.cons (takes_known rfl rfl (reads_fieldOf (reads_string e.content) _))
    (.cons (takes_known rfl rfl (reads_fieldOf (reads_string e.timestamp) _)) (.nil _)))))) rfl

theorem reads_closure (c : Closure) : Reads Closure.record.read c.write c :=
  reads_object
    (.cons (takes_known rfl rfl (reads_fieldOf (reads_string c.message) _))
    (.cons (takes_known rfl rfl (reads_fieldOf (reads_flag c.notified) _)) (.nil _))) rfl

theorem reads_failure (f : Failure) : Reads Failure.record.read f.write f :=
  reads_object
    (.cons (takes_known rfl rfl (reads_fieldOf (reads_string f.error) _))
    (.cons (takes_known rfl rfl (reads_fieldOf (reads_string f.errorCode) _)) (.nil _))) rfl

/-! ### The text frame of a message -/

theorem ofText_messageText (m : Message) :
    Utf8.ofText (messageText m) = Utf8.encode (Outbound.ofMessage m).write := by
  rw [Utf8.ofText, messageText, String.toList_ofList]

/-- Every record is read back as it was written: of claims those with a time of 64 bits, of rooms
those with a number of members of 64 bits.  For a message that comes from its outbox a write pump
begins to write a text frame, and this is read as a client's record of the same kind and content. -/
theorem wire_round_trip :
    (∀ o : Outbound, Json.decode Outbound.record.read (Utf8.encode o.write) = .ok o) ∧
      (∀ c : Claims, -(Decimal.twoTo 63 : Int) ≤ c.exp → c.exp < Decimal.twoTo 63 →
        Json.decode Claims.record.read (Utf8.encode c.write) = .ok c) ∧
      (∀ m : Member, Json.decode Member.record.read (Utf8.encode m.write) = .ok m) ∧
      (∀ r : RoomSummary, r.memberCount < Decimal.twoTo 64 →
        Json.decode RoomSummary.record.read (Utf8.encode r.write) = .ok r) ∧
      (∀ e : ChatLine, Json.decode ChatLine.record.read (Utf8.encode e.write) = .ok e) ∧
      (∀ c : Closure, Json.decode Closure.record.read (Utf8.encode c.write) = .ok c) ∧
      (∀ f : Failure, Json.decode Failure.record.read (Utf8.encode f.write) = .ok f) ∧
      ∀ (m : Message) (pump : WritePump) (config : ConnectionConfig) (sink : Sink) (now : Nat),
        ∃ w s, (pump.perform config sink now (some (.message m)) .queue).1.current = some w ∧
          w.frame = .text s ∧ Inbound.decode (Utf8.ofText s) = .ok ⟨m.kind, m.content⟩ := by
  refine ⟨fun o => decode_encode (reads_outbound o),
    fun c low high => decode_encode (Claims.reads_claims low high),
    fun m => decode_encode (reads_member m), fun r small => decode_encode (reads_summary small),
    fun e => decode_encode (reads_chatLine e), fun c => decode_encode (reads_closure c),
    fun f => decode_encode (reads_failure f), fun m pump config sink now => ?_⟩
  have inbound : Inbound.decode (Utf8.ofText (messageText m)) = .ok ⟨m.kind, m.content⟩ := by
    rw [ofText_messageText]
    exact decode_encode (reads_inbound (Outbound.ofMessage m))
  refine ⟨_, messageText m, rfl, ?_, inbound⟩
  cases sink pump.begun with
  | lasts ms error =>
    dsimp only
    split_ifs <;> rfl
  | never => rfl

/-- The least time and the greatest number of members. -/
theorem wire_round_trip_bounds :
    Json.decode Claims.record.read (Utf8.encode (Claims.write ⟨"u\"\\\n", none, some "é", -9223372036854775808⟩)) =
        .ok ⟨"u\"\\\n", none, some "é", -9223372036854775808⟩ ∧
      Json.decode RoomSummary.record.read
          (Utf8.encode (RoomSummary.write ⟨"r", 18446744073709551615, [⟨"c", "u", "n"⟩]⟩)) =
        .ok ⟨"r", 18446744073709551615, [⟨"c", "u", "n"⟩]⟩ :=
  ⟨wire_round_trip.2.1 _ (by decide) (by decide), wire_round_trip.2.2.2.1 _ (by decide)⟩

end Wire

end RoomHub
