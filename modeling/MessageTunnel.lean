import MessageTunnel.Capabilities
import MessageTunnel.Foreign.Api
import MessageTunnel.Proofs.Session.Closing
import MessageTunnel.Quic.Start
import MessageTunnel.Quic.StreamError
import MessageTunnel.Session.Script
import MessageTunnel.Settings.Encode
import MessageTunnel.Settings.Load
import MessageTunnel.Shutdown
import MessageTunnel.Proofs.Dispatch
import MessageTunnel.Proofs.Discipline
import MessageTunnel.Proofs.Session.Delivery
import MessageTunnel.Proofs.Session.Outbound
import MessageTunnel.Proofs.Session.RoundTrip
import MessageTunnel.Proofs.Session.Diagnostics
import MessageTunnel.Proofs.Session.HangUp
import MessageTunnel.Proofs.Session.Convergence
import MessageTunnel.Proofs.Session.Agreement
import MessageTunnel.Proofs.Session.Isolation
import MessageTunnel.Proofs.Session.Refusal
import MessageTunnel.Proofs.Session.Callbacks
import MessageTunnel.Proofs.Trace.Writer
import MessageTunnel.Proofs.Session.Traffic
import MessageTunnel.Proofs.Session.Recording
import MessageTunnel.Proofs.Session.Faithful
import MessageTunnel.Proofs.Session.Rest
import MessageTunnel.Proofs.Session.Directions
import MessageTunnel.Proofs.Session.Schedules
import MessageTunnel.Proofs.Shutdown
import MessageTunnel.Proofs.Trace.Decoding
import MessageTunnel.Proofs.Quic.Classification
import MessageTunnel.Proofs.Storage.Changes
import MessageTunnel.Proofs.Trace.Turns
import MessageTunnel.Proofs.Trace.Registry
import MessageTunnel.Proofs.Trace.Once
import MessageTunnel.Proofs.Session.Calling
import MessageTunnel.Proofs.Trace.Course
import MessageTunnel.Proofs.Trace.Refinement
import MessageTunnel.Proofs.Foreign.Image
import MessageTunnel.Proofs.Settings.Sharing
import MessageTunnel.Proofs.Quic.Parameters
import MessageTunnel.Proofs.Session.Reassembly
import MessageTunnel.Proofs.Trace.LifeCycle
import MessageTunnel.Proofs.Quic.Certificates
import MessageTunnel.Proofs.Settings.RoundTrip
import MessageTunnel.Proofs.Settings.KnownKeys
import MessageTunnel.Proofs.Settings.Naming
import MessageTunnel.Proofs.Trace.FileNames
import MessageTunnel.Proofs.Transport.Contract
import MessageTunnel.Proofs.Foreign.Starting
