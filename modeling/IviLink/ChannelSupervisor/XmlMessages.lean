import IviLink.ChannelSupervisor.Messages
import IviLink.Lib.CString

/-!
# The XML of the messages

Negotiators and their clients send each other documents as text. What arrives is handed to the
XML library as a pointer to its first byte; the library reads a string, and the size that arrives
with the pointer is not passed on. The decoded message keeps the document.

A document is the tree that the library has built: every node knows its first child and its next
sibling, and what is asked of the null node is empty. How a text becomes a tree is the library's
matter: `load` is a parameter.
-/

namespace IviLink.ChannelSupervisor.Messages

open IviLink.Lib

abbrev Text := List Char

/-! ## Documents -/

inductive XmlNode
  | null
  | node (name value : Text) (attributes : List (Text × Text)) (first_child next_sibling : XmlNode)
  deriving DecidableEq, Repr

namespace XmlNode

def first_child : XmlNode → XmlNode
  | null => null
  | node _ _ _ first_child _ => first_child

def value : XmlNode → Text
  | null => []
  | node _ value _ _ _ => value

/-- `attribute(name).value()`: empty where there is no such attribute. -/
def attributeValue (name : Text) : XmlNode → Text
  | null => []
  | node _ _ attributes _ _ =>
    match attributes.find? fun a => a.1 = name with
    | some a => a.2
    | none => []

/-- The first of a node and its siblings with this name. -/
def named (name : Text) : XmlNode → XmlNode
  | null => null
  | node n value attributes first_child next_sibling =>
    if n = name then node n value attributes first_child next_sibling
    else next_sibling.named name

def child (name : Text) (x : XmlNode) : XmlNode := x.first_child.named name

/-- A node and its siblings, with a new last one. -/
def addSibling : XmlNode → XmlNode → XmlNode
  | null, new => new
  | node name value attributes first_child next_sibling, new =>
    node name value attributes first_child (next_sibling.addSibling new)

/-- Appends a child to the first of a node and its siblings with this name. -/
def addChildTo (name : Text) : XmlNode → XmlNode → XmlNode
  | null, _ => null
  | node n value attributes first_child next_sibling, new =>
    if n = name then node n value attributes (first_child.addSibling new) next_sibling
    else node n value attributes first_child (next_sibling.addChildTo name new)

/-- A node with nothing but text below it, and no sibling. -/
def leaf (name : Text) (attributes : List (Text × Text)) (text : Text) : XmlNode :=
  node name [] attributes (node [] text [] null null) null

def element (name : Text) : XmlNode := node name [] [] null null

/-- A node of type `node_pcdata`. -/
def pcdata (text : Text) : XmlNode := node [] text [] null null

def append_child : XmlNode → XmlNode → XmlNode
  | null, _ => null
  | node name value attributes first_child next_sibling, new =>
    node name value attributes (first_child.addSibling new) next_sibling

/-- `append_attribute(name).set_value(value)` -/
def appendAttributeAndValue (name value : Text) : XmlNode → XmlNode
  | null => null
  | node n v attributes first_child next_sibling =>
    node n v (attributes ++ [(name, value)]) first_child next_sibling

/-- `attribute(name).set_value(value)`: nothing where there is no such attribute. -/
def setAttribute (name value : Text) : XmlNode → XmlNode
  | null => null
  | node n v attributes first_child next_sibling =>
    node n v (attributes.replaceF fun a => if a.1 = name then some (name, value) else none)
      first_child next_sibling

/-- `set_value`, which an element does not take. -/
def set_value (value : Text) : XmlNode → XmlNode
  | null => null
  | node n v attributes first_child next_sibling =>
    node n (if n = [] then value else v) attributes first_child next_sibling

/-- A change of the first child. -/
def withFirstChild (f : XmlNode → XmlNode) : XmlNode → XmlNode
  | null => null
  | node n v attributes first_child next_sibling =>
    node n v attributes (f first_child) next_sibling

/-- A change of the first of a node and its siblings with this name. -/
def withNamed (name : Text) (f : XmlNode → XmlNode) : XmlNode → XmlNode
  | null => null
  | node n v attributes first_child next_sibling =>
    if n = name then f (node n v attributes first_child next_sibling)
    else node n v attributes first_child (next_sibling.withNamed name f)

/-- A change of `child(name)`. -/
def withChild (name : Text) (f : XmlNode → XmlNode) (x : XmlNode) : XmlNode :=
  x.withFirstChild (withNamed name f)

end XmlNode

/-- `xml_document`: the node above all others. -/
abbrev XmlDocument := XmlNode

/-! ## Numbers -/

/-- `isspace` -/
def isspace (c : Char) : Bool := c = ' ' || (9 ≤ c.toNat && c.toNat ≤ 13)

def decimal (s : Text) : Nat :=
  (s.takeWhile Char.isDigit).foldl (fun n c => 10 * n + (c.toNat - '0'.toNat)) 0

/-- `LONG_MAX` of 64 bits. -/
def LONG_MAX : Int := 9223372036854775807

/-- `strtol(s, &ptr, 10)` -/
def strtol (s : Text) : Int :=
  match s.dropWhile isspace with
  | '-' :: rest => max (-LONG_MAX - 1) (-decimal rest)
  | '+' :: rest => min LONG_MAX (decimal rest)
  | rest => min LONG_MAX (decimal rest)

/-- `XmlHelper::extractIntegerFromNode` -/
def extractIntegerFromNode (node : XmlNode) : Int32 :=
  let valueStr := node.first_child.value
  if valueStr = [] then 0 else Int32.ofInt (strtol valueStr)

/-- `convertIntegerToString` -/
def convertIntegerToString : Int → Text
  | .ofNat n => Nat.toDigits 10 n
  | .negSucc n => '-' :: Nat.toDigits 10 (n + 1)

/-- `XmlHelper::appendIntegerNode` -/
def appendIntegerNode (node : XmlNode) (name : Text) (value : Int32) : XmlNode :=
  node.append_child ((XmlNode.element name).append_child
    (.pcdata (convertIntegerToString value.toInt)))

/-- `XmlHelper::appendCharStringNode` -/
def appendCharStringNode (node : XmlNode) (name value : Text) : XmlNode :=
  node.append_child
    (if value = [] then .element name else (XmlNode.element name).append_child (.pcdata value))

/-! ## What all messages have -/

def XML_MESSAGE_TAG : Text := "message".toList
def CHANNEL_ID_TAG : Text := "channel-id".toList
def CHANNEL_TAG_TAG : Text := "tag".toList
def MESSAGE_NAME_TAG : Text := "name".toList
def XML_ERROR_TAG : Text := "error".toList
def XML_ERROR_CODE_TAG : Text := "code".toList
def CLIENT_ID_XML_TAG : Text := "client-id".toList
def REQUEST_ID_XML_TAG : Text := "request-id".toList

/-- `XmlHelper::parseTag` -/
def parseTag (doc : XmlDocument) : Text :=
  ((doc.child XML_MESSAGE_TAG).child CHANNEL_TAG_TAG).first_child.value

/-- `XmlHelper::parseChannelID` -/
def parseChannelID (doc : XmlDocument) : UInt32 :=
  let cid := ((doc.child XML_MESSAGE_TAG).child CHANNEL_ID_TAG).first_child.value
  if cid = [] then 0 else UInt32.ofInt (strtol cid)

/-- `XmlHelper::getMessageNameFromDoc` -/
def getMessageNameFromDoc (doc : XmlDocument) : Text :=
  (doc.child XML_MESSAGE_TAG).attributeValue MESSAGE_NAME_TAG

/-- The type whose name a document has, in a map from types to names. -/
def parseType {T : Type} (types : List (T × Text)) (unknown : T) (doc : XmlDocument) : T :=
  let name := getMessageNameFromDoc doc
  if name = [] then unknown
  else
    match types.find? fun it => name = it.2 with
    | some it => it.1
    | none => unknown

/-- `Message::Message(pugi::xml_document*)` -/
structure Message where
  mMessageDoc : XmlDocument
  mTag : Text
  mChannelID : UInt32
  deriving DecidableEq, Repr

def Message.ofDocument (doc : XmlDocument) : Message := ⟨doc, parseTag doc, parseChannelID doc⟩

/-- What is done to `mMessageDocMainNode`. -/
def Message.withMain (m : Message) (f : XmlNode → XmlNode) : Message :=
  { m with mMessageDoc := m.mMessageDoc.withChild XML_MESSAGE_TAG f }

/-- `Message::Message(const char*, UInt32)`: the tag is a string in memory. -/
def Message.new (tag : Text) (channelId : UInt32) : Message :=
  let mTag := cString '\x00' tag
  let document := (XmlNode.element []).append_child (.element XML_MESSAGE_TAG)
  Message.withMain ⟨document, mTag, channelId⟩ fun main =>
    appendCharStringNode (appendIntegerNode main CHANNEL_ID_TAG channelId.toInt32)
      CHANNEL_TAG_TAG mTag

/-! ## Messages with an error -/

/-- A number that a peer has sent need not be one of the enumeration. -/
structure MessageWithError extends Message where
  mErrorCode : Int
  mErrorStr : Text
  deriving DecidableEq, Repr

/-- `ERRORCODE_SUCCESS` -/
def ERRORCODE_SUCCESS : Int := 0

/-- `mErrorStr` of a new message. -/
def success : Text := "Success".toList

/-- `appendErrorNode(ERRORCODE_SUCCESS, "Success")` -/
def appendErrorNode (doc : XmlDocument) : XmlDocument :=
  match doc with
  | .null => .null
  | .node n value attributes first_child next_sibling =>
    .node n value attributes
      (first_child.addChildTo XML_MESSAGE_TAG
        (.leaf XML_ERROR_TAG [(XML_ERROR_CODE_TAG, "0".toList)] success))
      next_sibling

/-- `MessageWithError::MessageWithError(pugi::xml_document*)` -/
def MessageWithError.ofDocument (doc : XmlDocument) : MessageWithError :=
  let message := Message.ofDocument doc
  match (doc.child XML_MESSAGE_TAG).child XML_ERROR_TAG with
  | .null => ⟨{ message with mMessageDoc := appendErrorNode doc }, ERRORCODE_SUCCESS, success⟩
  | mErrorNode =>
    let errorCodeString := mErrorNode.attributeValue XML_ERROR_CODE_TAG
    if errorCodeString = [] then ⟨message, ERRORCODE_SUCCESS, success⟩
    else ⟨message, strtol errorCodeString, mErrorNode.first_child.value⟩

/-- `MessageWithError::MessageWithError(const char*, UInt32)` -/
def MessageWithError.new (tag : Text) (channelID : UInt32) : MessageWithError :=
  ⟨(Message.new tag channelID).withMain fun main =>
      main.append_child
        (((XmlNode.element XML_ERROR_TAG).appendAttributeAndValue XML_ERROR_CODE_TAG
          (convertIntegerToString ERRORCODE_SUCCESS)).append_child (.pcdata success)),
    ERRORCODE_SUCCESS, success⟩

/-- `setError`: the code is an enumeration, which is an `int`. -/
def MessageWithError.setError (m : MessageWithError) (errorCode : Int32) (errorString : Text) :
    MessageWithError :=
  let mErrorStr := cString '\x00' errorString
  ⟨m.toMessage.withMain (XmlNode.withChild XML_ERROR_TAG fun mErrorNode =>
      (mErrorNode.setAttribute XML_ERROR_CODE_TAG
        (convertIntegerToString errorCode.toInt)).withFirstChild (XmlNode.set_value mErrorStr)),
    errorCode.toInt, mErrorStr⟩

/-! ## Requests, responses and notifications -/

/-- `RequestTypesMap` -/
def mRequestTypes : List (RequestType × Text) :=
  [(.allocateChannel, "allocate-channel".toList),
    (.caAllocationDone, "ca-allocation-done".toList),
    (.deallocateChannel, "deallocate-channel".toList),
    (.updateChannelInfo, "update-channelInfo".toList),
    (.invalidateTimedoutRequest, "invalidate-request-on-timeout".toList)]

/-- `Response::ResponseType`, with those that no negotiator sends. -/
inductive ResponseType
  | unknown
  | allocateChannel
  | deallocateChannel
  | caAllocationDone
  | updateChannelInfo
  deriving DecidableEq, Repr

/-- `ResponseTypesMap` -/
def mResponseTypes : List (ResponseType × Text) :=
  [(.allocateChannel, "allocate-channel".toList),
    (.deallocateChannel, "deallocate-channel".toList),
    (.caAllocationDone, "ca-allocation-done".toList),
    (.updateChannelInfo, "update-channleInfo".toList)]

/-- `NotificationTypeMap` -/
def mNotificationTypeMap : List (NotificationType × Text) :=
  [(.allocate, "allocate-channel".toList),
    (.checkMap, "check-the-map".toList),
    (.caAllocate, "allocate-in-connectivity-agent".toList),
    (.mapAddCid, "add-cid-in-map".toList),
    (.deallocate, "deallocate-channel".toList),
    (.updateChannelInfo, "update-channelInfo".toList),
    (.clientDisconnected, "client-disconnected".toList),
    (.invalidateTimedoutRequest, "request-timed-out".toList)]

structure Request extends Message where
  mRequestType : RequestType
  deriving DecidableEq, Repr

structure Response extends MessageWithError where
  mResponseType : ResponseType
  deriving DecidableEq, Repr

structure Notification extends MessageWithError where
  mNotificationType : NotificationType
  mClientID : Int32
  mRequestID : UInt32
  deriving DecidableEq, Repr

/-- `Request::Request(pugi::xml_document*)` -/
def Request.ofDocument (doc : XmlDocument) : Request :=
  ⟨Message.ofDocument doc, parseType mRequestTypes .unknown doc⟩

/-- `Response::Response(pugi::xml_document*)` -/
def Response.ofDocument (doc : XmlDocument) : Response :=
  ⟨MessageWithError.ofDocument doc, parseType mResponseTypes .unknown doc⟩

/-- `Notification::Notification(pugi::xml_document*)` -/
def Notification.ofDocument (doc : XmlDocument) : Notification :=
  let main := doc.child XML_MESSAGE_TAG
  ⟨MessageWithError.ofDocument doc, parseType mNotificationTypeMap .unknown doc,
    extractIntegerFromNode (main.child CLIENT_ID_XML_TAG),
    (extractIntegerFromNode (main.child REQUEST_ID_XML_TAG)).toUInt32⟩

/-! ## Building -/

def MESSAGE_TYPE_TAG : Text := "type".toList

/-- `operator[]` of a map from types to names. -/
def nameOf {T : Type} [DecidableEq T] (types : List (T × Text)) (t : T) : Text :=
  match types.find? fun it => it.1 = t with
  | some it => it.2
  | none => []

/-- The name of the type, where it is known. -/
def appendName {T : Type} [DecidableEq T] (types : List (T × Text)) (unknown t : T)
    (main : XmlNode) : XmlNode :=
  if t = unknown then main
  else main.appendAttributeAndValue MESSAGE_NAME_TAG (nameOf types t)

/-- `XmlHelper::appendType` -/
def appendType (main : XmlNode) (value : Text) : XmlNode :=
  main.appendAttributeAndValue MESSAGE_TYPE_TAG value

/-- `Request::Request(const char*, UInt32, RequestType)` -/
def Request.new (tag : Text) (chID : UInt32) (requestType : RequestType) : Request :=
  ⟨(Message.new tag chID).withMain fun main =>
      appendType (appendName mRequestTypes .unknown requestType main) "request".toList,
    requestType⟩

/-- `Response::Response(const char*, UInt32, ResponseType)` -/
def Response.new (tag : Text) (chID : UInt32) (responseType : ResponseType) : Response :=
  let m := MessageWithError.new tag chID
  let message := m.toMessage.withMain fun main =>
    appendType (appendName mResponseTypes .unknown responseType main) "response".toList
  ⟨{ m with toMessage := message }, responseType⟩

/-- `Notification::Notification(const char*, UInt32, Int32, UInt32, NotificationType)` -/
def Notification.new (tag : Text) (channelID : UInt32) (clientID : Int32) (reqID : UInt32)
    (notificationType : NotificationType) : Notification :=
  let m := MessageWithError.new tag channelID
  let message := m.toMessage.withMain fun main =>
    let named := appendName mNotificationTypeMap .unknown notificationType main
    let withClient := appendIntegerNode named CLIENT_ID_XML_TAG clientID
    let withRequest := appendIntegerNode withClient REQUEST_ID_XML_TAG reqID.toInt32
    appendType withRequest "notification".toList
  ⟨{ m with toMessage := message }, notificationType, clientID, reqID⟩

/-! ## Receiving -/

section Receiving

variable (load : List UInt8 → XmlDocument)

/-- `xml_document::load(contents)` of a pointer to the start of this memory. -/
def loadContents (contents : List UInt8) : XmlDocument := load (cString 0 contents)

/-- `NegotiatorClient::OnAsyncRequest`, with what lies behind the payload. -/
def decodeResponse (pPayload behind : List UInt8) : Response :=
  .ofDocument (loadContents load (pPayload ++ behind))

/-- `NegotiatorIPCHandler::OnAsyncRequest` -/
def decodeRequest (pPayload behind : List UInt8) : Request :=
  .ofDocument (loadContents load (pPayload ++ behind))

/-- `data` of `NegotiatorTube::onDataReceived`: `bzero` of `read_size` bytes, and `receiveData` into
the first of them. -/
def tubeData (read_size : Nat) (received : List UInt8) : List UInt8 :=
  received ++ (List.replicate read_size 0).drop received.length

/-- `NegotiatorTube::onDataReceived` -/
def decodeNotification (read_size : Nat) (received behind : List UInt8) : Notification :=
  .ofDocument (loadContents load (tubeData read_size received ++ behind))

/-- Who receives messages: the clients, and the negotiator from its clients and from its peer. For
the peer the size is what the callback has announced. -/
inductive Receiver
  | negotiatorClient
  | negotiatorIPCHandler
  | negotiatorTube (read_size : Nat)
  deriving DecidableEq, Repr

inductive Decoded
  | response (response : Response)
  | request (request : Request)
  | notification (notification : Notification)
  deriving DecidableEq, Repr

/-- What is decoded of the bytes received, with what lies behind them or their array. -/
def decode (p : Receiver) (received behind : List UInt8) : Decoded :=
  match p with
  | .negotiatorClient => .response (decodeResponse load received behind)
  | .negotiatorIPCHandler => .request (decodeRequest load received behind)
  | .negotiatorTube read_size => .notification (decodeNotification load read_size received behind)

end Receiving

end IviLink.ChannelSupervisor.Messages
