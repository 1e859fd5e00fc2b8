import TeleopBridge.Support.Loop
import TeleopBridge.Udp.Gf256
import TeleopBridge.Udp.Gf256Field
import TeleopBridge.Udp.FecV2
import TeleopBridge.Support.TextSearch
import TeleopBridge.Udp.FecTableText
import TeleopBridge.Support.CauchyMatrix
import TeleopBridge.Udp.FecRecovery
import TeleopBridge.Udp.SendQueue
import TeleopBridge.Support.Transition
import TeleopBridge.Support.LittleEndian
import TeleopBridge.Udp.PacketCodec
import TeleopBridge.Udp.TelemetryCodec
import TeleopBridge.Udp.ProcessFrame
import TeleopBridge.Udp.FrameReassembly
import TeleopBridge.Udp.SendQueueEffects
import TeleopBridge.Udp.SendQueueAccounting
import TeleopBridge.Udp.SendQueueCapacity
import TeleopBridge.Udp.BacklogTrim
import TeleopBridge.Udp.KeyframeEviction
import TeleopBridge.Support.LeakyBucket
import TeleopBridge.Udp.Pacer
import TeleopBridge.Udp.PacerRate
import TeleopBridge.Udp.PacerWait
import TeleopBridge.Udp.SendThread
import TeleopBridge.Udp.UdpManager
import TeleopBridge.Udp.SendOrder
import TeleopBridge.Udp.FrameGeneration
import TeleopBridge.Udp.WireOrder
import TeleopBridge.Udp.SendProtection
import TeleopBridge.Udp.SessionReset
import TeleopBridge.Node.Session
import TeleopBridge.Node.Events
import TeleopBridge.Node.Frames
import TeleopBridge.Node.Moves
import TeleopBridge.Node.Residue
import TeleopBridge.Node.Registration
import TeleopBridge.Node.EncoderThread
import TeleopBridge.Node.Preemption
import TeleopBridge.Node.Footprints
import TeleopBridge.Node.Negotiation
import TeleopBridge.Node.Steps
import TeleopBridge.Node.Recovery
import TeleopBridge.Node.NegotiationTimer
import TeleopBridge.Node.ForeignPeer
import TeleopBridge.Node.WantedPeer
import TeleopBridge.Node.HandshakeThreads
import TeleopBridge.Node.Readiness
import TeleopBridge.Udp.ControlPlane
import TeleopBridge.Udp.HandshakeProtocol
import TeleopBridge.Node.SubscriptionThread
import TeleopBridge.Node.Subscriptions
import TeleopBridge.Node.SessionWorkQueue
import TeleopBridge.Support.ScaledFloor
import TeleopBridge.Audio.NtpTime
import TeleopBridge.Audio.AudioReceiver
import TeleopBridge.Audio.PlaybackOrder
import TeleopBridge.Audio.BufferBalance
import TeleopBridge.Audio.LosslessReordering
import TeleopBridge.Video.VideoEncoder
import TeleopBridge.Video.SliceTimestamps
import TeleopBridge.Video.Warmup
import TeleopBridge.Support.NalStream
import TeleopBridge.Video.Bitstream
import TeleopBridge.Video.NalScan
import TeleopBridge.Video.ParserAgreement
import TeleopBridge.Video.AnnexBSplit
import TeleopBridge.Video.ContainerIndependence
import TeleopBridge.Support.SharedHeap
import TeleopBridge.Video.Nv12Balance
import TeleopBridge.Video.Nv12Frames
import TeleopBridge.Video.Nv12Ownership
import TeleopBridge.Pose.RelativePose
import TeleopBridge.Pose.PoseDatagram
import TeleopBridge.Support.BitMask
import TeleopBridge.Support.RigidMotion
import TeleopBridge.Support.FixedLayout
import TeleopBridge.Support.LastWrite
import TeleopBridge.Node.JointTelemetry
import TeleopBridge.Support.Holders
import TeleopBridge.Video.VideoDecoder
import TeleopBridge.Video.DecodePool
import TeleopBridge.Pose.PoseLayout
import TeleopBridge.Support.ThreadGrid
import TeleopBridge.Video.CudaConverter
import TeleopBridge.Video.CudaConversion
import TeleopBridge.Video.CudaResources
import TeleopBridge.Video.PipelineTeardown
import TeleopBridge.Video.PipelineCalls
import TeleopBridge.Udp.LossyDelivery
import TeleopBridge.Grpc.PendingRpcs
import TeleopBridge.Grpc.Cancellation
import TeleopBridge.Video.ParameterSetEmission
import TeleopBridge.Video.V4l2Buffers
import TeleopBridge.Video.VideoRecorder
import TeleopBridge.Grpc.AudioStreamConfig
