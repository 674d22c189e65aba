import Rendezvous.Chat.Completion
import Rendezvous.Contract.Messages
import Rendezvous.Hub.Session
import Rendezvous.Profile.File
import Rendezvous.Program.Account
import Rendezvous.Service.Gateway
import Rendezvous.Service.Worker
import Rendezvous.Tracing.Program
import Rendezvous.Tracing.Record
import Rendezvous.Proofs.Binding.Composite
import Rendezvous.Proofs.Traffic.Runs
import Rendezvous.Proofs.Traffic.Blocked
import Rendezvous.Proofs.FanOut.Delivery
import Rendezvous.Proofs.Recording.Transcript
import Rendezvous.Proofs.Recording.Timing
import Rendezvous.Proofs.Requested.Confined
import Rendezvous.Proofs.Activation.Leaving
import Rendezvous.Proofs.Staffing.Crew
import Rendezvous.Proofs.Abandonment.GivingUp
import Rendezvous.Proofs.Lockstep.Calls
import Rendezvous.Proofs.Release.Once
import Rendezvous.Proofs.Dialogue.Rounds
import Rendezvous.Proofs.Tables.Refusal
import Rendezvous.Proofs.Release.Names
import Rendezvous.Proofs.Conversation.Protocol
import Rendezvous.Proofs.Tracing.Blind
import Rendezvous.Proofs.Chat.RoundTrip
import Rendezvous.Proofs.Template.Rendering
import Rendezvous.Proofs.Tool.Calling
import Rendezvous.Proofs.Payload.Arguments
