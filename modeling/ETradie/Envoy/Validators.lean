import ETradie.Kernel.IpAddress

namespace ETradie.Envoy

open Kernel

abbrev Headers := List (String × String)

inductive FilterError where
  | invalidHeader (header reason : String)
  | invalidMethod (method : String)
  | payloadTooLarge (size maxSize : Nat)
  | rateLimitExceeded (limitType : String) (retryAfterSecs : Nat)
  | invalidContentType (contentType : String)
  | missingRequiredHeader (header : String)
  | headerSizeLimitExceeded (size maxSize : Nat)
  | headerCountLimitExceeded (count maxCount : Nat)
  | invalidTraceId (traceId reason : String)
  | internalError (message : String)
deriving DecidableEq

def FilterError.message : FilterError → String
  | .invalidHeader header reason => "Invalid header '" ++ header ++ "': " ++ reason
  | .invalidMethod method => "HTTP method '" ++ method ++ "' not allowed"
  | .payloadTooLarge size maxSize =>
    "Request payload too large: " ++ toString size ++ " bytes (max: " ++ toString maxSize ++
      " bytes)"
  | .rateLimitExceeded limitType retryAfterSecs =>
    limitType ++ " rate limit exceeded. Retry after " ++ toString retryAfterSecs ++ " seconds"
  | .invalidContentType contentType => "Content-Type '" ++ contentType ++ "' not allowed"
  | .missingRequiredHeader header => "Required header '" ++ header ++ "' is missing"
  | .headerSizeLimitExceeded size maxSize =>
    "Header size " ++ toString size ++ " bytes exceeds maximum " ++ toString maxSize ++ " bytes"
  | .headerCountLimitExceeded count maxCount =>
    "Header count " ++ toString count ++ " exceeds maximum " ++ toString maxCount
  | .invalidTraceId traceId reason => "Invalid trace ID '" ++ traceId ++ "': " ++ reason
  | .internalError message => "Internal error: " ++ message

inductive SecurityEventCode where
  | rateLimitGlobal
  | rateLimitIp
  | invalidHeader
  | invalidMethod
  | payloadTooLarge
  | invalidContentType
  | missingRequiredHeader
  | headerSizeLimitExceeded
  | headerCountLimitExceeded
  | invalidTraceId
deriving DecidableEq

structure SecurityEvent where
  code : SecurityEventCode
  traceId : String
  timestampMs : Nat
  details : String
deriving DecidableEq

structure FilterDecision where
  allowed : Bool
  reason : Option String
  event : Option SecurityEvent
deriving DecidableEq

def FilterDecision.allow : FilterDecision where
  allowed := true
  reason := none
  event := none

def FilterDecision.deny (reason : String) (event : SecurityEvent) : FilterDecision where
  allowed := false
  reason := some reason
  event := some event

variable (cm : CaseMap) (code : FilterError → SecurityEventCode) (traceId : String) (now : Nat)

def denyDecision
    (err : FilterError) : FilterDecision :=
  .deny err.message ⟨code err, traceId, now, err.message⟩

def decisionOf :
    Except FilterError Unit → FilterDecision
  | .ok _ => .allow
  | .error err => denyDecision code traceId now err

def eqIgnoreAsciiCase (s t : String) : Bool :=
  s.toList.map Char.toLower == t.toList.map Char.toLower

def isControl (c : Char) : Bool := c.toNat < 32 || (127 ≤ c.toNat && c.toNat ≤ 159)

def isAsciiAlphanumeric (c : Char) : Bool := c.isAlphanum

def findHeader (name : String) (headers : Headers) : Option String :=
  (headers.find? (fun h => eqIgnoreAsciiCase h.1 name)).map Prod.snd

def parseUsize (s : String) : Option Nat :=
  let digits :=
    match s.toList with
    | '+' :: rest => rest
    | cs => cs
  if digits.isEmpty || !digits.all Char.isDigit then none
  else if digitsValue digits < 2 ^ 32 then some (digitsValue digits)
  else none

def maxHeaderSize : Nat := 8 * 1024

def maxHeaderCount : Nat := 100

def maxUserAgentSize : Nat := 500

def traceIdLength : Nat := 32

def allowedContentTypes : List String :=
  ["application/json", "text/event-stream", "application/x-www-form-urlencoded",
    "multipart/form-data", "text/plain"]

def requiredHeaders : List String := ["user-agent"]

def validateAscii (value fieldName : String) : Except FilterError Unit :=
  if !isAscii value then .error (.invalidHeader fieldName "Contains non-ASCII characters")
  else if value.toList.any (fun c => isControl c && c != '\t') then
    .error (.invalidHeader fieldName "Contains control characters")
  else .ok ()

def validateHeaderCount (count : Nat) : Except FilterError Unit :=
  if maxHeaderCount < count then .error (.headerCountLimitExceeded count maxHeaderCount)
  else .ok ()

def validateHeaderSize (headers : Headers) : Except FilterError Unit :=
  let totalSize := (headers.map (fun h => h.1.utf8ByteSize + h.2.utf8ByteSize + 4)).sum
  if maxHeaderSize < totalSize then .error (.headerSizeLimitExceeded totalSize maxHeaderSize)
  else .ok ()

def validateUserAgent (userAgent : String) : Except FilterError Unit :=
  if userAgent.isEmpty then .error (.missingRequiredHeader "User-Agent")
  else if maxUserAgentSize < userAgent.utf8ByteSize then
    .error (.invalidHeader "User-Agent"
      ("Exceeds maximum length of " ++ toString maxUserAgentSize ++ " characters"))
  else validateAscii userAgent "User-Agent"

def validateTraceId : Except FilterError Unit :=
  if traceId.isEmpty then .error (.invalidTraceId traceId "Trace ID cannot be empty")
  else if traceIdLength * 2 < traceId.utf8ByteSize then
    .error (.invalidTraceId traceId
      ("Trace ID too long (max " ++ toString (traceIdLength * 2) ++ " characters)"))
  else if !traceId.toList.all (fun c => isAsciiAlphanumeric c || c == '-' || c == '_') then
    .error (.invalidTraceId traceId
      "Trace ID contains invalid characters (only alphanumeric, dash, underscore allowed)")
  else .ok ()

def validateHeaderValue (name value : String) : Except FilterError Unit := do
  if value.isEmpty then
    throw (.invalidHeader name "Header value is empty")
  validateAscii value name
  if value.toList.contains '\x00' then
    throw (.invalidHeader name "Header value contains null bytes")
  if value.toList.contains '\r' || value.toList.contains '\n' then
    throw (.invalidHeader name "Header value contains CRLF injection attempt")

def validateRequiredHeaders (headers : Headers) : List String → Except FilterError Unit
  | [] => .ok ()
  | required :: rest =>
    if headers.any (fun h => eqIgnoreAsciiCase h.1 required) then
      validateRequiredHeaders headers rest
    else .error (.missingRequiredHeader required)

def validateHeaderValues : Headers → Except FilterError Unit
  | [] => .ok ()
  | (name, value) :: rest => do
      validateHeaderValue name value
      if eqIgnoreAsciiCase name "user-agent" then
        validateUserAgent value
      validateHeaderValues rest

variable (path method : String)

def isMethodRequiringContentType : Bool := cm.upper method ∈ ["POST", "PUT", "PATCH"]

def isContentTypeAllowed (contentType : String) : Bool :=
  let normalized := cm.lower (trimSpace ((splitText ';' contentType).headD ""))
  allowedContentTypes.any (fun allowed => normalized == cm.lower allowed)

def validateContentType (contentType : String) : Except FilterError Unit :=
  if contentType.isEmpty then .error (.invalidContentType "(empty)")
  else if isContentTypeAllowed cm contentType then .ok ()
  else .error (.invalidContentType contentType)

def validateContentTypeHeader (headers : Headers) (method : String) :
    Except FilterError Unit :=
  match findHeader "content-type" headers with
  | some contentType => validateContentType cm contentType
  | none =>
    if isMethodRequiringContentType cm method then
      .error (.missingRequiredHeader "content-type")
    else .ok ()

def validateTraceIdHeader (headers : Headers) : Except FilterError Unit :=
  match findHeader "x-trace-id" headers with
  | some traceId => validateTraceId traceId
  | none => .ok ()

def headerEventCode : FilterError → SecurityEventCode
  | .invalidHeader .. => .invalidHeader
  | .missingRequiredHeader .. => .missingRequiredHeader
  | .invalidContentType .. => .invalidContentType
  | .headerSizeLimitExceeded .. => .headerSizeLimitExceeded
  | .headerCountLimitExceeded .. => .headerCountLimitExceeded
  | .invalidTraceId .. => .invalidTraceId
  | _ => .invalidHeader

def validateHeaders (headers : Headers)
    (method : String) : FilterDecision :=
  decisionOf headerEventCode traceId now do
    validateHeaderCount headers.length
    validateHeaderSize headers
    validateRequiredHeaders headers requiredHeaders
    validateHeaderValues headers
    validateContentTypeHeader cm headers method
    validateTraceIdHeader headers

def maxRequestBodySize : Nat := 10 * 1024 * 1024

def allowedHttpMethods : List String := ["GET", "POST", "PUT", "DELETE", "PATCH", "HEAD", "OPTIONS"]

def validateHttpMethod : Except FilterError Unit :=
  if cm.upper method ∈ allowedHttpMethods then .ok ()
  else .error (.invalidMethod (cm.upper method))

def extractQueryString : Option String :=
  match path.toList.dropWhile (fun c => c != '?') with
  | _ :: query => some (String.ofList query)
  | [] => none

def validatePathStructure : Except FilterError Unit :=
  if path.isEmpty then .error (.internalError "Request path is empty")
  else if path.toList.head? != some '/' then
    .error (.internalError "Request path must start with /")
  else if containsText path ".." then
    .error (.internalError "Path traversal attempt detected")
  else if path.toList.contains '\x00' then .error (.internalError "Null byte in path")
  else if 2048 < path.utf8ByteSize then .error (.internalError "Request path too long")
  else .ok ()

def validateQueryString (query : String) : Except FilterError Unit :=
  if 4096 < query.utf8ByteSize then .error (.internalError "Query string too long")
  else if query.toList.contains '\x00' then
    .error (.internalError "Null byte in query string")
  else .ok ()

def validateMethodPathCombination (path : String) : Except FilterError Unit :=
  if cm.upper method = "GET" ∧ 2048 < ((extractQueryString path).getD "").utf8ByteSize then
    .error (.internalError "Query string too long for GET request")
  else .ok ()

def validateStructure : Except FilterError Unit := do
  validatePathStructure path
  if let some query := extractQueryString path then
    validateQueryString query
  validateMethodPathCombination cm method path

def validateSize (headers : Headers) : Except FilterError Unit :=
  match (findHeader "content-length" headers).bind parseUsize with
  | some size =>
    if maxRequestBodySize < size then .error (.payloadTooLarge size maxRequestBodySize)
    else .ok ()
  | none => .ok ()

def requestEventCode : FilterError → SecurityEventCode
  | .invalidMethod .. => .invalidMethod
  | .payloadTooLarge .. => .payloadTooLarge
  | _ => .invalidHeader

def validateRequest (method path : String)
    (headers : Headers) : FilterDecision :=
  decisionOf requestEventCode traceId now do
    validateHttpMethod cm method
    validateStructure cm path method
    validateSize headers

end ETradie.Envoy
