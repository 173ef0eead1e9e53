import KituraHTTP2.Platform

/-!
# Requests and responses

The objects `HTTP2ServerRequest` and `HTTP2ServerResponse`, by their contents: the fields that the
session sets, fills and hands to the delegate.  The methods that only read them, and the response's
`end`, which needs the session, come later.
-/

namespace KituraHTTP2

variable {P : Platform}

/-- An `HTTP2ServerRequest`. -/
structure HTTP2ServerRequest (P : Platform) where
  /-- the set of headers received with the incoming request -/
  headers : P.HeadersContainer
  /-- the received `:path`, in UTF-8 -/
  url : Bytes
  urlURL : P.URL
  /-- the IP address of the client -/
  remoteAddress : String
  method : String
  /-- the data received in the data frames -/
  reqData : Option Bytes

/-- `HTTP2ServerRequest(url:urlURL:remoteAddress:)` -/
def HTTP2ServerRequest.new (url : Bytes) (urlURL : P.URL) (remoteAddress : String) :
    HTTP2ServerRequest P where
  headers := P.emptyHeaders
  url := url
  urlURL := urlURL
  remoteAddress := remoteAddress
  method := "GET"
  reqData := none

/-- KituraNet's `ServerRequest`, of an HTTP/1 request that asks for an upgrade. -/
structure ServerRequest (P : Platform) where
  headers : P.HeadersContainer
  url : Bytes
  urlURL : P.URL
  remoteAddress : String
  method : String
  /-- the data that `readAllData(into:)` reads; `none` where it throws -/
  allData : Option Bytes

/-- `HTTP2ServerRequest(request:)` -/
def HTTP2ServerRequest.ofServerRequest (request : ServerRequest P) : HTTP2ServerRequest P where
  headers := P.appendAll P.emptyHeaders request.headers
  url := request.url
  urlURL := request.urlURL
  remoteAddress := request.remoteAddress
  method := request.method
  reqData := request.allData

/-- The body of a request: `reqData`, read as empty where it is `nil`. -/
def HTTP2ServerRequest.body (request : HTTP2ServerRequest P) : Bytes := request.reqData.getD []

/-- `request.reqData?.append(data)`, or `request.reqData = Data(data)` for the first chunk. -/
def HTTP2ServerRequest.appendReqData (request : HTTP2ServerRequest P) (data : Bytes) :
    HTTP2ServerRequest P :=
  { request with reqData := match request.reqData with
      | some reqData => some (reqData ++ data)
      | none => some data }

@[simp]
lemma HTTP2ServerRequest.body_appendReqData (request : HTTP2ServerRequest P) (data : Bytes) :
    (request.appendReqData data).body = request.body ++ data := by
  unfold appendReqData body
  cases request.reqData with
  | none => simp
  | some reqData => simp

/-- An `HTTP2ServerResponse`. -/
structure HTTP2ServerResponse (P : Platform) where
  /-- the raw value of the status code -/
  statusCode : Option ℤ
  headers : P.HeadersContainer
  /-- the bytes of the header names and values, kept for nghttp2 -/
  headersStrings : List Bytes
  /-- the data written so far, `nil` before the first write -/
  frameData : Option Bytes
  /-- the stream to send the response to -/
  stream : StreamId

/-- `HTTP2ServerResponse(session:streamId:)`, built at the time `SPIUtils.httpDate()` names. -/
def HTTP2ServerResponse.new (P : Platform) (streamId : StreamId) (date : String) :
    HTTP2ServerResponse P where
  statusCode := some 200
  headers := P.assign P.emptyHeaders "Date" (some [date])
  headersStrings := []
  frameData := none
  stream := streamId

@[simp]
lemma HTTP2ServerResponse.stream_new (streamId : StreamId) (date : String) :
    (HTTP2ServerResponse.new P streamId date).stream = streamId := rfl

end KituraHTTP2
