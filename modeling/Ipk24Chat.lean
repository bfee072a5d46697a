import Ipk24Chat.Lib.Reactive
import Ipk24Chat.Lib.Mortal
import Ipk24Chat.Lib.Scan
import Ipk24Chat.Lib.Framing
import Ipk24Chat.Lib.Retry
import Ipk24Chat.Lib.Access
import Ipk24Chat.Lib.Numeral
import Ipk24Chat.Lib.Coupling
import Ipk24Chat.Messages.Basic
import Ipk24Chat.Messages.UserCommand
import Ipk24Chat.Messages.Tcp
import Ipk24Chat.Messages.Udp
import Ipk24Chat.Clients.Basic
import Ipk24Chat.Clients.Udp
import Ipk24Chat.Clients.Tcp
import Ipk24Chat.Udp.Encoding
import Ipk24Chat.Udp.Datagram
import Ipk24Chat.Udp.Handling
import Ipk24Chat.Udp.Stepping
import Ipk24Chat.Udp.Confirmation
import Ipk24Chat.Udp.Ledger
import Ipk24Chat.Udp.StopAndWait
import Ipk24Chat.Udp.Bookkeeping
import Ipk24Chat.Udp.ServerPort
import Ipk24Chat.Udp.AtMostOnce
import Ipk24Chat.Udp.Acknowledgement
import Ipk24Chat.Udp.Paths
import Ipk24Chat.Protocol.Admission
import Ipk24Chat.Protocol.Request
import Ipk24Chat.Protocol.Session
import Ipk24Chat.Udp.Session
import Ipk24Chat.Udp.RoundTrip
import Ipk24Chat.Udp.Interrupt
import Ipk24Chat.Tcp.Stepping
import Ipk24Chat.Tcp.Encoding
import Ipk24Chat.Tcp.RoundTrip
import Ipk24Chat.Stdin.Gating
import Ipk24Chat.Stdin.Fate
import Ipk24Chat.Stdin.UserInput
import Ipk24Chat.Wire.Sent
import Ipk24Chat.Tcp.Session
import Ipk24Chat.Tcp.Framing
import Ipk24Chat.Tcp.Grammar
import Ipk24Chat.Wire.CommandLanguage
import Ipk24Chat.Wire.Unambiguous
import Ipk24Chat.Wire.Capacity
import Ipk24Chat.Udp.Counting
import Ipk24Chat.Udp.Numbering
import Ipk24Chat.Udp.JoinAnswers
import Ipk24Chat.Joint.Dialogue
import Ipk24Chat.Joint.TcpTurns
import Ipk24Chat.Joint.UdpTurns
import Ipk24Chat.Joint.Lockstep
import Ipk24Chat.Tcp.Overrun
import Ipk24Chat.Tcp.ReplyText
import Ipk24Chat.Tcp.ReceiveErrors
import Ipk24Chat.Udp.Malformed
import Ipk24Chat.Udp.StrayReply
import Ipk24Chat.Stdin.Refusal
import Ipk24Chat.Stdin.DisplayName
import Ipk24Chat.Udp.Retransmission
import Ipk24Chat.Wire.ErrorName
import Ipk24Chat.Udp.Farewell
import Ipk24Chat.Udp.Wraparound
import Ipk24Chat.Udp.EmptyDatagram
import Ipk24Chat.Udp.Access
import Ipk24Chat.Startup.Options
import Ipk24Chat.Startup.Socket
import Ipk24Chat.Startup.Timing
import Ipk24Chat.Udp.Coupled
import Ipk24Chat.Udp.Duplicates
import Ipk24Chat.Udp.SourcePorts
import Ipk24Chat.Udp.Texts
import Ipk24Chat.Wire.Secrecy
import Ipk24Chat.Wire.Conversation
import Ipk24Chat.Wire.Stream
import Ipk24Chat.Wire.TcpConversation
import Ipk24Chat.Wire.UdpConversation
import Ipk24Chat.Wire.UdpSpoken
import Ipk24Chat.Joint.ExitStatus
import Ipk24Chat.Tcp.Display
import Ipk24Chat.Startup.Parsing
import Ipk24Chat.Startup.Launch
import Ipk24Chat.Udp.ExactlyOnce
import Ipk24Chat.Udp.Silence
import Ipk24Chat.Joint.UdpRefinement
import Ipk24Chat.Joint.Integrity
