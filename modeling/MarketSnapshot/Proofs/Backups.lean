import Mathlib.Data.List.DropRight
import MarketSnapshot.Journal.Rotation

namespace MarketSnapshot

namespace Backup

end Backup

namespace LogFile

end LogFile

end MarketSnapshot
