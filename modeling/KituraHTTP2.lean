import KituraHTTP2.RequestBody
import KituraHTTP2.DroppedRequest
import KituraHTTP2.HTTP2ServerResponse
import KituraHTTP2.ResponseBytes
import KituraHTTP2.ProcessIncomingData
import KituraHTTP2.HTTP2ConnectionUpgradeFactory
import KituraHTTP2.Base64Url
import KituraHTTP2.SessionPointer
import KituraHTTP2.ResponseHeaders
import KituraHTTP2.ResponseReset
import KituraHTTP2.Authority
import KituraHTTP2.BuiltRequest
import KituraHTTP2.RequestURL
import KituraHTTP2.RequestHeaders
import KituraHTTP2.Lib.LiveTable
import KituraHTTP2.ClosedStreams
import KituraHTTP2.RemoteAddress
import KituraHTTP2.Lib.Chunks
import KituraHTTP2.Lib.Reader
import KituraHTTP2.RequestReading
import KituraHTTP2.ChunkedSending
import KituraHTTP2.FailedSend
import KituraHTTP2.Nghttp2.Hd.Search
import KituraHTTP2.Nghttp2.Hd.StaticTable
import KituraHTTP2.Nghttp2.HeadersRead
import KituraHTTP2.Nghttp2.Delivery
