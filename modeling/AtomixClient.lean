import AtomixClient.Headers
import AtomixClient.Session
import AtomixClient.Serialize
import AtomixClient.Dispatch
import AtomixClient.Interleaving
import AtomixClient.Invariants
import AtomixClient.Sequencing
import AtomixClient.StateHeaders
import AtomixClient.Watermarks
import AtomixClient.ListPrimitive
import AtomixClient.ReaderChain
import AtomixClient.ChainSafety
import AtomixClient.ChainDelivery
import AtomixClient.Lifecycle
import AtomixClient.Joint
import AtomixClient.Calls
import AtomixClient.StreamAcks
import AtomixClient.Handshake
