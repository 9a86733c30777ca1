import Hycast.Prod.ChunkInfo
import Hycast.Prod.Layout
import Hycast.Prod.Order
import Hycast.Prod.Store
import Hycast.Codec.Bytes
import Hycast.Codec.Serial
import Hycast.Comms.Receiver
import Hycast.Comms.Delivery
import Hycast.Comms.Cancel
import Hycast.Comms.Upcalls
import Hycast.Comms.Handshake
import Hycast.Comms.Session
import Hycast.Comms.Refusal
import Hycast.Comms.Mcast
import Hycast.Net.InetSockAddr
