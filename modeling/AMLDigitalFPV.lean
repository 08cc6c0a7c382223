import AMLDigitalFPV.Library.Backlog
import AMLDigitalFPV.Library.BigEndian
import AMLDigitalFPV.Library.BoundedQueue
import AMLDigitalFPV.Library.Conservation
import AMLDigitalFPV.Library.Custody
import AMLDigitalFPV.Library.FloatingPoint
import AMLDigitalFPV.Library.Items
import AMLDigitalFPV.Library.Mailbox
import AMLDigitalFPV.Library.Pacing
import AMLDigitalFPV.Library.Refinement
import AMLDigitalFPV.Library.Rtp
import AMLDigitalFPV.Library.RunLength
import AMLDigitalFPV.Library.Runs
import AMLDigitalFPV.Library.Sections
import AMLDigitalFPV.Library.Transition
import AMLDigitalFPV.FrameRingBuffer
import AMLDigitalFPV.FrameRingBuffer.Calls
import AMLDigitalFPV.KvConfig
import AMLDigitalFPV.KvConfig.Rendering
import AMLDigitalFPV.Aml.Submit
import AMLDigitalFPV.Aml.DisplayThread
import AMLDigitalFPV.Aml.Lifecycle
import AMLDigitalFPV.MiniMp4.Nal
import AMLDigitalFPV.MiniMp4.Mux
import AMLDigitalFPV.MiniMp4.H26x
import AMLDigitalFPV.MiniMp4.Layout
import AMLDigitalFPV.MiniMp4.Boxes
import AMLDigitalFPV.MiniMp4.Index
import AMLDigitalFPV.MiniMp4.Movie
import AMLDigitalFPV.MiniMp4.IndexSize
import AMLDigitalFPV.MiniMp4.Data
import AMLDigitalFPV.MiniMp4.ParameterSets
import AMLDigitalFPV.MiniMp4.Recording
import AMLDigitalFPV.MiniMp4.FileImage
import AMLDigitalFPV.MiniMp4.RecordedFile
import AMLDigitalFPV.MiniMp4.AnnexB
import AMLDigitalFPV.MiniMp4.Demux
import AMLDigitalFPV.MiniMp4.DemuxProgress
import AMLDigitalFPV.MiniMp4.DemuxPass
import AMLDigitalFPV.MiniMp4.DemuxMovie
import AMLDigitalFPV.MiniMp4.RoundTrip
import AMLDigitalFPV.MiniMp4.RefusedFile
import AMLDigitalFPV.MiniMp4.Playback
import AMLDigitalFPV.MiniMp4.KeyFrames
import AMLDigitalFPV.MiniMp4.AccessUnits
import AMLDigitalFPV.MiniMp4.FirstPicture
import AMLDigitalFPV.MiniMp4.Sizes
import AMLDigitalFPV.DvrRecorder.State
import AMLDigitalFPV.DvrRecorder.Writer
import AMLDigitalFPV.DvrRecorder.Worker
import AMLDigitalFPV.DvrRecorder.WriterSpec
import AMLDigitalFPV.DvrRecorder.WorkerSpec
import AMLDigitalFPV.DvrRecorder.Script
import AMLDigitalFPV.DvrRecorder.WriteFailure
import AMLDigitalFPV.DvrRecorder.Invariant
import AMLDigitalFPV.DvrRecorder.Sessions
import AMLDigitalFPV.DvrRecorder.Lockstep
import AMLDigitalFPV.DvrRecorder.Independence
import AMLDigitalFPV.DvrRecorder.Iterations
import AMLDigitalFPV.DvrRecorder.Disk
import AMLDigitalFPV.DvrRecorder.StorageError
import AMLDigitalFPV.DvrRecorder.FileLength
import AMLDigitalFPV.DvrRecorder.Seek
import AMLDigitalFPV.DvrRecorder.TargetFile
import AMLDigitalFPV.DvrRecorder.FileNames
import AMLDigitalFPV.DvrRecorder.Handles
import AMLDigitalFPV.DvrRecorder.Rotation
import AMLDigitalFPV.DvrRecorder.Stages
import AMLDigitalFPV.DvrRecorder.FrameDuration
import AMLDigitalFPV.DvrRecorder.Turns
import AMLDigitalFPV.DvrRecorder.Threads
import AMLDigitalFPV.DvrRecorder.Exit
import AMLDigitalFPV.DvrRecorder.Footage
import AMLDigitalFPV.DvrRecorder.Films
import AMLDigitalFPV.DvrRecorder.Views
import AMLDigitalFPV.AudioReceiver.Threads
import AMLDigitalFPV.AudioReceiver.Running
import AMLDigitalFPV.AudioReceiver.Queue
import AMLDigitalFPV.GstRtpReceiver.Receiver
import AMLDigitalFPV.GstRtpReceiver.ReceiverSpec
import AMLDigitalFPV.GstRtpReceiver.PauseFlag
import AMLDigitalFPV.GstRtpReceiver.PlaybackRate
import AMLDigitalFPV.GstRtpReceiver.Release
import AMLDigitalFPV.GstRtpReceiver.ReadSocket
import AMLDigitalFPV.GstRtpReceiver.BufferCycle
import AMLDigitalFPV.GstRtpReceiver.Forwarding
import AMLDigitalFPV.GstRtpReceiver.AudioPayload
import AMLDigitalFPV.Main.Threads
import AMLDigitalFPV.Main.Shutdown
import AMLDigitalFPV.Main.AudioToggle
import AMLDigitalFPV.Main.DecodeThread
import AMLDigitalFPV.Main.FrameRate
