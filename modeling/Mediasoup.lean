import Mediasoup.Channel.Message
import Mediasoup.Runs
import Mediasoup.Worker.State
import Mediasoup.Worker.Handlers
import Mediasoup.Worker.Spec
import Mediasoup.Worker.Lifecycle
import Mediasoup.Worker.Registry
import Mediasoup.Worker.Answers
import Mediasoup.Worker.System
import Mediasoup.Worker.Stored
import Mediasoup.RTC.DirectTransport
import Mediasoup.RTC.Accounting
import Mediasoup.Worker.Hosted
import Mediasoup.FlatBuffers.Builder
import Mediasoup.RTC.RtcpFeedback
import Mediasoup.FBS.Transport
