import NoxAssist.Offline
import NoxAssist.Proofs.Server.Isolation
import NoxAssist.Proofs.Text.Bytes

namespace NoxAssist

namespace Server

variable {s : Server} {uri address : String} {p : Position}

end Server

namespace Analyzer

end Analyzer

namespace Server

end Server

end NoxAssist
