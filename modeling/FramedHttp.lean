import FramedHttp.Exchange.Direct
import FramedHttp.Exchange.Service
import FramedHttp.Stream.Operation
import FramedHttp.Proofs.Stream.Move
import FramedHttp.Proofs.Content.Reading
import FramedHttp.Proofs.Stream.Run
import FramedHttp.Proofs.Stream.CallbackOrder
import FramedHttp.Proofs.Frame.Conversation
import FramedHttp.Proofs.Wire.ChunkReader
import FramedHttp.Proofs.Wire.MessageReader
import FramedHttp.Proofs.Wire.ReadBack
import FramedHttp.Proofs.Exchange.Arrival
import FramedHttp.Proofs.Exchange.Working
import FramedHttp.Proofs.Exchange.Header
import FramedHttp.Proofs.Exchange.Answer
import FramedHttp.Proofs.Exchange.SingleAnswer
import FramedHttp.Proofs.Content.Following
import FramedHttp.Proofs.Stream.Script
import FramedHttp.Proofs.Stream.Meter
import FramedHttp.Proofs.Stream.Conservation
import FramedHttp.Proofs.Stream.Telling
import FramedHttp.Proofs.Stream.HeaderSection
import FramedHttp.Proofs.Stream.Refusal
import FramedHttp.Proofs.Stream.Listening
import FramedHttp.Proofs.Exchange.BodyReading
import FramedHttp.Proofs.Response.HandOver
import FramedHttp.Proofs.Frame.Completion
import FramedHttp.Proofs.Stream.BodyEnd
import FramedHttp.Proofs.Message.Target
import FramedHttp.Proofs.Stream.Abandoned
import FramedHttp.Proofs.Exchange.Abandoned
import FramedHttp.Proofs.Exchange.HostField
import FramedHttp.Proofs.Exchange.Dispatch
import FramedHttp.Proofs.Frame.ReplyFields
import FramedHttp.Proofs.Stream.BlockingWait
import FramedHttp.Proofs.Stream.OutOfTurn
import FramedHttp.Proofs.Exchange.Conclusion
import FramedHttp.Proofs.Stream.Stages
import FramedHttp.Proofs.Stream.Redispatch
import FramedHttp.Proofs.Frame.DirectUse
import FramedHttp.Proofs.Response.Head
import FramedHttp.Proofs.Response.Account
import FramedHttp.Proofs.Response.Breaking
import FramedHttp.Proofs.Wire.Acts
import FramedHttp.Proofs.Wire.LimitedRoom
import FramedHttp.Proofs.Wire.Announced
import FramedHttp.Proofs.Wire.Bodiless
import FramedHttp.Proofs.Wire.ChunkedEnd
import FramedHttp.Proofs.Frame.ReplyNames
import FramedHttp.Proofs.Frame.Interim
import FramedHttp.Proofs.Wire.ChunkStream
import FramedHttp.Proofs.Content.Scripted
import FramedHttp.Proofs.Exchange.Ending
import FramedHttp.Proofs.Headers.Setting
