import Wmediumd.Basic
import Wmediumd.Header
import Wmediumd.State
import Wmediumd.Medium
import Wmediumd.Mrr
import Wmediumd.Netlink
import Wmediumd.Deliver
import Wmediumd.Loop
import Wmediumd.QueueInvariant
import Wmediumd.Schedule
import Wmediumd.Ack
import Wmediumd.Clients
import Wmediumd.Report
import Wmediumd.Outcome
import Wmediumd.ApiSocket
import Wmediumd.ApiSystem
import Wmediumd.Interference
import Wmediumd.Diagonal
import Wmediumd.MrrReference
import Wmediumd.RateTable
import Wmediumd.Config
import Wmediumd.PathLoss
import Wmediumd.Filter
import Wmediumd.Airtime
import Wmediumd.Copies
import Wmediumd.Collision
