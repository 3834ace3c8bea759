import UniMrcp.Mpf.JitterBuffer.Origin
import UniMrcp.Mpf.JitterBuffer.Config
import UniMrcp.Apt.PollerTask
import UniMrcp.Mpf.RtcpTimers
import UniMrcp.MrcpEngine.Synth.Speaker
import UniMrcp.MrcpEngine.Synth.Queue
import UniMrcp.MrcpEngine.Recog.Completion
import UniMrcp.MrcpEngine.Recorder.Record
import UniMrcp.MrcpEngine.Verifier.Verification
import UniMrcp.MrcpServer.Association
import UniMrcp.MrcpV2Transport.ClientAgent.Attachment
import UniMrcp.MrcpV2Transport.ServerAgent.Tables
import UniMrcp.MrcpV2Transport.ServerAgent.Replies
import UniMrcp.Apt.TaskTree.Coordination
import UniMrcp.Apt.TaskMsg
import UniMrcp.Mpf.Context.Topology
import UniMrcp.Mpf.Rtp.ReportBlock
import UniMrcp.Mpf.Rtp.Deviation
import UniMrcp.Mpf.Rtcp.Understood
import UniMrcp.MediaFailures
import UniMrcp.MrcpServer.Engines
import UniMrcp.MrcpServer.Idle
import UniMrcp.Mrcp.Stream.ContentLength
import UniMrcp.Mpf.Dtmf.Events
import UniMrcp.UniRtsp.Message.RoundTrip
import UniMrcp.UniRtsp.Server.Responses
import UniMrcp.UniRtsp.Client.Lifetime
import UniMrcp.Mrcp.TypedFields.RoundTrip
import UniMrcp.AliRecog.Audio
import UniMrcp.AliRecog.Plugin.Requests
import UniMrcp.AliRecog.Pool.Exclusive
import UniMrcp.AliSynth.Playback.Frames
import UniMrcp.AliSynth.Playback.Raised
import UniMrcp.AliSynth.Pool.Exclusive
import UniMrcp.Sdp.Bounds
import UniMrcp.Mpf.Path.Formats
import UniMrcp.Mpf.RtpStream.Agreement
import UniMrcp.MrcpUniRtsp.ClientAgent.Answers
import UniMrcp.Mpf.MediaBuffer
import UniMrcp.Mpf.ActivityDetector
import UniMrcp.Mpf.Rtp.Payload
import UniMrcp.Mpf.Rtp.Source
import UniMrcp.Mpf.Rtp.Transmitter
import UniMrcp.Apt.CyclicQueue
import UniMrcp.Mpf.FrameBuffer
import UniMrcp.Mpf.Mixer
import UniMrcp.Mpf.DtmfDetector
import UniMrcp.Mpf.RtpPorts
import UniMrcp.Apt.NlsmlDoc
import UniMrcp.Apt.MultipartContent
import UniMrcp.Mrcp.Stream.RoundTrip
import UniMrcp.MrcpUniRtsp.Tunnel
