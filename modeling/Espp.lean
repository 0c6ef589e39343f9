import Espp.Rtsp.Text
import Espp.Rtsp.Session
import Espp.Rtsp.Parse
import Espp.Rtsp.Handle
import Espp.Rtsp.Answer
import Espp.Rtsp.Wire
import Espp.Rtsp.Setup
import Espp.Rtsp.Reader
import Espp.Rtsp.Stream
import Espp.Cli.LineInput
import Espp.Cli.Editor
import Espp.Cli.History
import Espp.Math.RangeMapper
import Espp.Math.Inversion
import Espp.Math.IntRangeMapper
