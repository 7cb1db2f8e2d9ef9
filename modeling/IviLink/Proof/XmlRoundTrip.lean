import IviLink.ChannelSupervisor.XmlMessages

/-!
# The round trip of the messages

A message that a constructor has built, and whose error has been set as often as one likes, is
the message that the other side gets: the same tag, channel, type, error and numbers. Numbers go
through `int` on the way out and through `long` on the way in, so that those from 2^31 on have a
sign in the text.

The library prints the document and reads it again: that it gets the same document is assumed of
the document in question. It is not so for all, as it skips a text of nothing but blanks.
-/

namespace IviLink.ChannelSupervisor.Messages

open IviLink.Lib XmlNode

variable {tag text : Text} {channelId reqID : UInt32} {clientID : Int32}

/-! ## Numbers -/

theorem decimal_toDigits (n : Nat) : decimal (Nat.toDigits 10 n) = n := by
  have hall : (Nat.toDigits 10 n).takeWhile Char.isDigit = Nat.toDigits 10 n := by
    rw [List.takeWhile_eq_self_iff]
    intro c hc
    exact Nat.isDigit_of_mem_toDigits (by decide) (by decide) hc
  have hvalue := @Nat.ofDigitChars_ten_toDigits n
  rw [Nat.ofDigitChars_eq_foldl] at hvalue
  rw [decimal, hall]
  exact hvalue

theorem not_isspace_of_isDigit {c : Char} (hc : c.isDigit = true) :
    isspace c = false ∧ c ≠ '-' ∧ c ≠ '+' := by
  rw [Char.isDigit_iff_toNat] at hc
  have hzero : '0'.toNat = 48 := rfl
  refine ⟨?_, ?_, ?_⟩
  · have hblank : c ≠ ' ' := by
      rintro rfl
      simp at hc
    simp only [isspace, hblank, decide_false, Bool.false_or, Bool.and_eq_false_iff,
      decide_eq_false_iff_not]
    omega
  · rintro rfl
    simp at hc
  · rintro rfl
    simp at hc

theorem strtol_toDigits {n : Nat} (hn : (n : Int) ≤ LONG_MAX) :
    strtol (Nat.toDigits 10 n) = n := by
  have hvalue := decimal_toDigits n
  cases hd : Nat.toDigits 10 n with
  | nil => exact absurd hd Nat.toDigits_ne_nil
  | cons c rest =>
    have hdigit : c.isDigit = true := by
      refine Nat.isDigit_of_mem_toDigits (b := 10) (n := n) (by decide) (by decide) ?_
      rw [hd]
      exact List.mem_cons_self
    obtain ⟨hspace, hminus, hplus⟩ := not_isspace_of_isDigit hdigit
    rw [hd] at hvalue
    have hdrop : (c :: rest).dropWhile isspace = c :: rest := by
      rw [List.dropWhile_cons, hspace]
      rfl
    rw [strtol, hdrop]
    split
    · rename_i heq
      exact absurd (List.cons.inj heq).1 hminus
    · rename_i heq
      exact absurd (List.cons.inj heq).1 hplus
    · rw [hvalue]
      exact min_eq_right hn

/-- A number is read as it was written. -/
theorem strtol_convertIntegerToString {i : Int} (hl : -LONG_MAX - 1 ≤ i) (hu : i ≤ LONG_MAX) :
    strtol (convertIntegerToString i) = i := by
  cases i with
  | ofNat n => exact strtol_toDigits hu
  | negSucc n =>
    have hminus : isspace '-' = false := rfl
    rw [convertIntegerToString, strtol, List.dropWhile_cons, hminus]
    simp only [Bool.false_eq_true, if_false]
    rw [decimal_toDigits]
    exact max_eq_right hl

theorem convertIntegerToString_ne_nil (i : Int) : convertIntegerToString i ≠ [] := by
  cases i with
  | ofNat n => exact Nat.toDigits_ne_nil
  | negSucc n => simp [convertIntegerToString]

theorem strtol_int32 (i : Int32) : strtol (convertIntegerToString i.toInt) = i.toInt := by
  have hle := i.le_toInt
  have hlt := i.toInt_lt
  exact strtol_convertIntegerToString (by rw [LONG_MAX]; omega) (by rw [LONG_MAX]; omega)

/-- A channel id is read as it was before it became an `int`. -/
theorem ofInt_toInt32 (n : UInt32) : UInt32.ofInt n.toInt32.toInt = n := by
  have hint : n.toInt32.toInt = (n.toNat : Int).bmod (2 ^ 32) :=
    BitVec.toInt_eq_toNat_bmod n.toBitVec
  have hmod : n.toInt32.toInt % 2 ^ 32 = (n.toNat : Int) % 2 ^ 32 := by
    rw [hint]
    exact Int.bmod_emod
  have hlt := n.toNat_lt
  have hnat : ((n.toNat : Int) % 2 ^ 32).toNat = n.toNat := by omega
  rw [UInt32.ofInt, hmod, hnat, UInt32.ofNat_toNat]

/-! ## What the constructors build -/

def mainDoc (attributes : List (Text × Text)) (children : XmlNode) : XmlDocument :=
  .node [] [] [] (.node XML_MESSAGE_TAG [] attributes children .null) .null

def numberNode (name : Text) (value : Int32) (next : XmlNode) : XmlNode :=
  .node name [] [] (.pcdata (convertIntegerToString value.toInt)) next

def tagNode (tag : Text) (next : XmlNode) : XmlNode :=
  .node CHANNEL_TAG_TAG [] [] (if tag = [] then .null else .pcdata tag) next

def errorNode (code : Int) (text : Text) (next : XmlNode) : XmlNode :=
  .node XML_ERROR_TAG [] [(XML_ERROR_CODE_TAG, convertIntegerToString code)] (.pcdata text) next

/-- The attributes of a message of type `t`. -/
def typeAttributes {T : Type} [DecidableEq T] (types : List (T × Text)) (unknown t : T)
    (kind : Text) : List (Text × Text) :=
  (if t = unknown then [] else [(MESSAGE_NAME_TAG, nameOf types t)]) ++ [(MESSAGE_TYPE_TAG, kind)]

/-- The layout of a message. -/
structure Formed (m : Message) (attributes : List (Text × Text)) (rest : XmlNode) : Prop where
  doc : m.mMessageDoc = mainDoc attributes
    (numberNode CHANNEL_ID_TAG m.mChannelID.toInt32 (tagNode m.mTag rest))

variable {attributes : List (Text × Text)} {rest : XmlNode}

/-- The main node is changed. -/
theorem Formed.withMain {m : Message} (h : Formed m attributes rest) {f : XmlNode → XmlNode}
    {attributes' : List (Text × Text)} {rest' : XmlNode}
    (hf : ∀ children, children =
        numberNode CHANNEL_ID_TAG m.mChannelID.toInt32 (tagNode m.mTag rest) →
      f (.node XML_MESSAGE_TAG [] attributes children .null) =
        .node XML_MESSAGE_TAG [] attributes'
          (numberNode CHANNEL_ID_TAG m.mChannelID.toInt32 (tagNode m.mTag rest')) .null) :
    Formed (m.withMain f) attributes' rest' := by
  constructor
  have hmain := hf _ rfl
  rw [Message.withMain, h.doc]
  show XmlNode.node [] [] [] (f _) .null = _
  rw [hmain]
  rfl

theorem appendCharStringNode_eq (main : XmlNode) (value : Text) :
    appendCharStringNode main CHANNEL_TAG_TAG value =
      main.append_child (tagNode value .null) := by
  rw [appendCharStringNode, tagNode]
  split <;> rfl

theorem formed_new : Formed (Message.new tag channelId) [] .null := by
  constructor
  simp only [Message.new, appendCharStringNode_eq]
  rfl

theorem Formed.ofDocument {m : Message} (h : Formed m attributes rest) :
    Message.ofDocument m.mMessageDoc = m := by
  have htag : parseTag m.mMessageDoc = m.mTag := by
    rw [h.doc]
    show (if m.mTag = [] then XmlNode.null else .pcdata m.mTag).value = m.mTag
    split
    case isTrue hempty => exact hempty.symm
    case isFalse => rfl
  have hid : parseChannelID m.mMessageDoc = m.mChannelID := by
    rw [h.doc]
    show (if convertIntegerToString m.mChannelID.toInt32.toInt = [] then 0
      else UInt32.ofInt (strtol (convertIntegerToString m.mChannelID.toInt32.toInt))) =
        m.mChannelID
    rw [if_neg (convertIntegerToString_ne_nil _), strtol_int32, ofInt_toInt32]
  rw [Message.ofDocument, htag, hid]

/-! ## Messages with an error -/

/-- The layout of a message with an error, whose code is an `int`. -/
structure FormedError (m : MessageWithError) (attributes : List (Text × Text)) (rest : XmlNode) :
    Prop where
  formed : Formed m.toMessage attributes (errorNode m.mErrorCode m.mErrorStr rest)
  code : ∃ errorCode : Int32, m.mErrorCode = errorCode.toInt

theorem formedError_new : FormedError (MessageWithError.new tag channelId) [] .null where
  formed := formed_new.withMain fun children hc => by
    rw [hc]
    rfl
  code := ⟨0, rfl⟩

theorem FormedError.setError {m : MessageWithError} (h : FormedError m attributes rest)
    (errorCode : Int32) (errorString : Text) :
    FormedError (m.setError errorCode errorString) attributes rest where
  formed := h.formed.withMain fun children hc => by
    rw [hc]
    rfl
  code := ⟨errorCode, rfl⟩

theorem FormedError.ofDocument {m : MessageWithError} (h : FormedError m attributes rest) :
    MessageWithError.ofDocument m.mMessageDoc = m := by
  have hmessage := h.formed.ofDocument
  have herror : (m.mMessageDoc.child XML_MESSAGE_TAG).child XML_ERROR_TAG =
      errorNode m.mErrorCode m.mErrorStr rest := by
    rw [h.formed.doc]
    rfl
  obtain ⟨errorCode, hcode⟩ := h.code
  rw [MessageWithError.ofDocument, herror, hmessage]
  show (if convertIntegerToString m.mErrorCode = [] then _ else _) = m
  rw [if_neg (convertIntegerToString_ne_nil _), hcode]
  show MessageWithError.mk _ (strtol (convertIntegerToString errorCode.toInt)) m.mErrorStr = m
  rw [strtol_int32, ← hcode]

/-- The type is known by its name. -/
theorem getMessageNameFromDoc_eq {T : Type} [DecidableEq T] {types : List (T × Text)}
    {unknown t : T} {kind : Text} {children : XmlNode} :
    getMessageNameFromDoc (mainDoc (typeAttributes types unknown t kind) children) =
      if t = unknown then [] else nameOf types t := by
  by_cases ht : t = unknown
  · rw [typeAttributes, if_pos ht, if_pos ht]
    rfl
  · rw [typeAttributes, if_neg ht, if_neg ht]
    rfl

theorem parseType_request {t : RequestType} {kind : Text} {children : XmlNode} :
    parseType mRequestTypes .unknown
      (mainDoc (typeAttributes mRequestTypes .unknown t kind) children) = t := by
  rw [parseType, getMessageNameFromDoc_eq]
  cases t <;> decide

theorem parseType_response {t : ResponseType} {kind : Text} {children : XmlNode} :
    parseType mResponseTypes .unknown
      (mainDoc (typeAttributes mResponseTypes .unknown t kind) children) = t := by
  rw [parseType, getMessageNameFromDoc_eq]
  cases t <;> decide

theorem parseType_notification {t : NotificationType} {kind : Text} {children : XmlNode} :
    parseType mNotificationTypeMap .unknown
      (mainDoc (typeAttributes mNotificationTypeMap .unknown t kind) children) = t := by
  rw [parseType, getMessageNameFromDoc_eq]
  cases t <;> decide

/-! ## Every message that is built -/

def requestAttributes (t : RequestType) : List (Text × Text) :=
  typeAttributes mRequestTypes .unknown t "request".toList

def responseAttributes (t : ResponseType) : List (Text × Text) :=
  typeAttributes mResponseTypes .unknown t "response".toList

def notificationAttributes (t : NotificationType) : List (Text × Text) :=
  typeAttributes mNotificationTypeMap .unknown t "notification".toList

def numberNodes (clientID : Int32) (reqID : UInt32) : XmlNode :=
  numberNode CLIENT_ID_XML_TAG clientID (numberNode REQUEST_ID_XML_TAG reqID.toInt32 .null)

theorem formed_request {t : RequestType} :
    Formed (Request.new tag channelId t).toMessage (requestAttributes t) .null :=
  formed_new.withMain fun children hc => by
    rw [hc, appendName, requestAttributes, typeAttributes]
    split <;> rfl

theorem formed_response {t : ResponseType} :
    FormedError (Response.new tag channelId t).toMessageWithError (responseAttributes t)
      .null where
  formed := formedError_new.formed.withMain fun children hc => by
    rw [hc, appendName, responseAttributes, typeAttributes]
    split <;> rfl
  code := ⟨0, rfl⟩

theorem formed_notification {t : NotificationType} :
    FormedError (Notification.new tag channelId clientID reqID t).toMessageWithError
      (notificationAttributes t) (numberNodes clientID reqID) where
  formed := formedError_new.formed.withMain fun children hc => by
    rw [hc, notificationAttributes, typeAttributes]
    simp only [appendName]
    split <;> rfl
  code := ⟨0, rfl⟩

/-- What the constructors build and `setError` changes. -/
inductive Built : Decoded → Prop
  | request (tag : Text) (chID : UInt32) (requestType : RequestType) :
    Built (.request (.new tag chID requestType))
  | response (tag : Text) (chID : UInt32) (responseType : ResponseType) :
    Built (.response (.new tag chID responseType))
  | notification (tag : Text) (channelID : UInt32) (clientID : Int32) (reqID : UInt32)
      (notificationType : NotificationType) :
    Built (.notification (.new tag channelID clientID reqID notificationType))
  | responseError {r : Response} (h : Built (.response r)) (errorCode : Int32)
      (errorString : Text) :
    Built (.response
      { r with toMessageWithError := r.toMessageWithError.setError errorCode errorString })
  | notificationError {n : Notification} (h : Built (.notification n)) (errorCode : Int32)
      (errorString : Text) :
    Built (.notification
      { n with toMessageWithError := n.toMessageWithError.setError errorCode errorString })

namespace Decoded

def mMessageDoc : Decoded → XmlDocument
  | response r => r.mMessageDoc
  | request r => r.mMessageDoc
  | notification n => n.mMessageDoc

/-- Who gets such messages. -/
def For : Decoded → Receiver → Prop
  | response _, p => p = .negotiatorClient
  | request _, p => p = .negotiatorIPCHandler
  | notification _, p => ∃ read_size, p = .negotiatorTube read_size

/-- The layout of each kind. -/
def Layout : Decoded → Prop
  | request r => Formed r.toMessage (requestAttributes r.mRequestType) .null
  | response r =>
    FormedError r.toMessageWithError (responseAttributes r.mResponseType) .null
  | notification n =>
    FormedError n.toMessageWithError (notificationAttributes n.mNotificationType)
      (numberNodes n.mClientID n.mRequestID)

end Decoded

theorem Built.layout {d : Decoded} (h : Built d) : d.Layout := by
  induction h with
  | request => exact formed_request
  | response => exact formed_response
  | notification => exact formed_notification
  | responseError _ errorCode errorString ih => exact ih.setError errorCode errorString
  | notificationError _ errorCode errorString ih => exact ih.setError errorCode errorString

/-- The document has all that the message has. -/
def ofDocument (p : Receiver) (doc : XmlDocument) : Decoded :=
  match p with
  | .negotiatorClient => .response (.ofDocument doc)
  | .negotiatorIPCHandler => .request (.ofDocument doc)
  | .negotiatorTube _ => .notification (.ofDocument doc)

theorem extractIntegerFromNode_numberNode {name : Text} {value : Int32} {next : XmlNode} :
    extractIntegerFromNode (numberNode name value next) = value := by
  show (if convertIntegerToString value.toInt = [] then 0
    else Int32.ofInt (strtol (convertIntegerToString value.toInt))) = value
  rw [if_neg (convertIntegerToString_ne_nil _), strtol_int32, Int32.ofInt_toInt]

theorem Decoded.Layout.ofDocument {d : Decoded} (h : d.Layout) {p : Receiver} (hp : d.For p) :
    Messages.ofDocument p d.mMessageDoc = d := by
  cases d with
  | request r =>
    cases hp
    have hmessage := Formed.ofDocument h
    have htype : parseType mRequestTypes .unknown r.mMessageDoc = r.mRequestType := by
      rw [h.doc]
      exact parseType_request
    show Decoded.request ⟨_, _⟩ = _
    rw [mMessageDoc, hmessage, htype]
  | response r =>
    cases hp
    have hmessage := FormedError.ofDocument h
    have htype : parseType mResponseTypes .unknown r.mMessageDoc = r.mResponseType := by
      rw [h.formed.doc]
      exact parseType_response
    show Decoded.response ⟨_, _⟩ = _
    rw [mMessageDoc, hmessage, htype]
  | notification n =>
    obtain ⟨read_size, rfl⟩ := hp
    have hmessage := FormedError.ofDocument h
    have htype :
        parseType mNotificationTypeMap .unknown n.mMessageDoc = n.mNotificationType := by
      rw [h.formed.doc]
      exact parseType_notification
    have hclient : (n.mMessageDoc.child XML_MESSAGE_TAG).child CLIENT_ID_XML_TAG =
        numberNode CLIENT_ID_XML_TAG n.mClientID
          (numberNode REQUEST_ID_XML_TAG n.mRequestID.toInt32 .null) := by
      rw [h.formed.doc]
      rfl
    have hrequest : (n.mMessageDoc.child XML_MESSAGE_TAG).child REQUEST_ID_XML_TAG =
        numberNode REQUEST_ID_XML_TAG n.mRequestID.toInt32 .null := by
      rw [h.formed.doc]
      rfl
    show Decoded.notification ⟨_, _, _, _⟩ = _
    rw [mMessageDoc, hmessage, htype, hclient, hrequest, extractIntegerFromNode_numberNode,
      extractIntegerFromNode_numberNode, UInt32.toUInt32_toInt32]

/-! ## Over the wire -/

theorem head?_append_ne_nil {received behind : List UInt8} (hz : 0 ∉ received)
    (hend : behind.head? = some 0) : cString 0 (received ++ behind) = received := by
  obtain ⟨rest, rfl⟩ := List.head?_eq_some_iff.mp hend
  exact cString_terminated hz rest

theorem cString_tubeData {read_size : Nat} {received behind : List UInt8} (hz : 0 ∉ received)
    (hend : behind.head? = some 0) :
    cString 0 (tubeData read_size received ++ behind) = received := by
  rw [tubeData, List.append_assoc, List.drop_replicate]
  refine head?_append_ne_nil hz ?_
  cases read_size - received.length with
  | zero => exact hend
  | succ n => rfl

section Library

variable {load : List UInt8 → XmlDocument} {print : XmlDocument → List UInt8}

theorem decode_eq {p : Receiver} {received behind : List UInt8} (hz : 0 ∉ received)
    (hend : behind.head? = some 0) :
    decode load p received behind = ofDocument p (load received) := by
  cases p with
  | negotiatorClient =>
    rw [decode, decodeResponse, loadContents, head?_append_ne_nil hz hend]
    rfl
  | negotiatorIPCHandler =>
    rw [decode, decodeRequest, loadContents, head?_append_ne_nil hz hend]
    rfl
  | negotiatorTube read_size =>
    rw [decode, decodeNotification, loadContents, cString_tubeData hz hend]
    rfl

/-- **Whatever message a constructor has built, and whatever errors have been set in it, is decoded
to itself on the other side**, document and all, if the library reads the document that it has
printed and if the memory behind the text starts with a zero byte. -/
theorem decode_built {d : Decoded} (hd : Built d) {p : Receiver} (hp : d.For p)
    (hlibrary : load (print d.mMessageDoc) = d.mMessageDoc) (hz : 0 ∉ print d.mMessageDoc)
    {behind : List UInt8} (hend : behind.head? = some 0) :
    decode load p (print d.mMessageDoc) behind = d := by
  rw [decode_eq hz hend, hlibrary]
  exact hd.layout.ofDocument hp

end Library

/-- A refusal. -/
def refused : Response :=
  let r := Response.new "navigation".toList 5 .allocateChannel
  { r with toMessageWithError := r.toMessageWithError.setError 100 "busy".toList }

def refusedText : List UInt8 :=
  ("<message name=\"allocate-channel\" type=\"response\">\n\t<channel-id>5</channel-id>\n" ++
    "\t<tag>navigation</tag>\n\t<error code=\"100\">busy</error>\n</message>\n").toList.map
      fun c => UInt8.ofNat c.toNat

/-- What the library does with the refusal and with its text. -/
theorem decode_built_refused :
    decode (fun text => if text = refusedText then refused.mMessageDoc else .null)
      .negotiatorClient refusedText [0] = .response refused := by
  have hround := @decode_built
    (fun text => if text = refusedText then refused.mMessageDoc else .null)
    (fun doc => if doc = refused.mMessageDoc then refusedText else [])
    (.response refused) (.responseError (.response _ _ _) _ _) .negotiatorClient rfl
    (by simp [Decoded.mMessageDoc])
    (by rw [Decoded.mMessageDoc, if_pos rfl]; decide +kernel) [0] rfl
  simpa [Decoded.mMessageDoc] using hround

end IviLink.ChannelSupervisor.Messages
