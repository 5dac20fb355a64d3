import Iso14443.Lib.Act
import Iso14443.Lib.Byte
import Iso14443.Lib.Run
import Iso14443.Basic
import Iso14443.Lib.ShiftRegister
import Iso14443.Crc
import Iso14443.CrcBurst
import Iso14443.Limits
import Iso14443.Pcb
import Iso14443.Block
import Iso14443.BlockCodec
import Iso14443.Protocol
import Iso14443.ProtocolStep
import Iso14443.ProtocolRun
import Iso14443.WorkLimits
import Iso14443.LimitsExact
import Iso14443.ChainAssembly
import Iso14443.Numbering
import Iso14443.Ats
import Iso14443.AtsGrammar
import Iso14443.Pps
import Iso14443.Pcd
import Iso14443.PcdStep
import Iso14443.FrameBudget
import Iso14443.Picc
import Iso14443.Anticol
import Iso14443.Command
import Iso14443.CommandCodec
import Iso14443.PiccStep
import Iso14443.CardPair
import Iso14443.Selection
import Iso14443.Cascade
import Iso14443.Restart
import Iso14443.Halt
import Iso14443.Sessions
import Iso14443.Extending
import Iso14443.Granting
import Iso14443.WaitingTime
import Iso14443.Link
import Iso14443.LinkStep
import Iso14443.LinkStart
import Iso14443.Negotiation
import Iso14443.LinkSend
import Iso14443.Agreement
import Iso14443.CardWork
import Iso14443.Presence
import Iso14443.Activation
import Iso14443.UidIdentity
import Iso14443.ActivationLink
import Iso14443.Lib.Hoare
import Iso14443.Robust
import Iso14443.Addressing
import Iso14443.CrcModes
import Iso14443.Delivery
import Iso14443.Dialogue
import Iso14443.Loopback
import Iso14443.Lib.StopAndWait
import Iso14443.CommandChunks
import Iso14443.ResponseChunks
import Iso14443.Lib.Relator
import Iso14443.ReaderPair
import Iso14443.Raised
import Iso14443.Lasting
import Iso14443.Resync
import Iso14443.CardThread
import Iso14443.AirLink
import Iso14443.Meeting
import Iso14443.ThreadSteps
import Iso14443.Encounter
import Iso14443.SpecCard
import Iso14443.SpecPair
import Iso14443.SpecReader
import Iso14443.Lib.AlternatingBit
import Iso14443.Provenance
