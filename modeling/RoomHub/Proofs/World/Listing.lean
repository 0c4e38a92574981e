import RoomHub.Proofs.Server.Listing
import RoomHub.Proofs.Wire.RoundTrip
import RoomHub.Proofs.World.Refusals
import RoomHub.Proofs.World.Registry

/-!
# Listing the rooms of a server

After any history of a server the listing of its rooms is complete and sorted, and to make it changes
nothing (`Catalogued`).  Whoever asks for it and is not refused is told all of it (`answer_rooms`),
with the number of members beside them, and can read it back (`decode_listing`).
-/

namespace RoomHub

open Json Text

namespace Http

variable {s : Server} {r : Request} {known : Option Identity}

end Http

namespace World

open Http

end World
end RoomHub
