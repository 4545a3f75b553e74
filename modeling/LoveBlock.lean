import LoveBlock.Types
import LoveBlock.Roster
import LoveBlock.Engine
import LoveBlock.Engine.Turn
import LoveBlock.Engine.Divisors
import LoveBlock.Engine.Ancestry
import LoveBlock.Engine.Batch
import LoveBlock.Engine.Sealing
import LoveBlock.Engine.Authorship
import LoveBlock.Engine.Production
import LoveBlock.Miner
import LoveBlock.Miner.Safety
