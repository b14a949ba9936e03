import EsphomeProxy.Proto
import EsphomeProxy.Wire
import EsphomeProxy.Transport
import EsphomeProxy.Dispatch
import EsphomeProxy.Batch
import EsphomeProxy.Server.State
import EsphomeProxy.Server.Step
import EsphomeProxy.Server.Locks
import EsphomeProxy.Server.Slots
import EsphomeProxy.Server.Queue
import EsphomeProxy.Server.Entries
import EsphomeProxy.Server.Replies
import EsphomeProxy.Server.Broadcasts
import EsphomeProxy.Server.Shutdown
import EsphomeProxy.Server.Delivery
import EsphomeProxy.Server.Received
