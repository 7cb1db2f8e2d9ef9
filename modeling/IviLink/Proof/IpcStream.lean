import IviLink.Proof.IpcReceive

/-!
# Streams through the receiving socket

What `CIpcSocket` makes of a stream that `recv` returns in pieces. A header may
be cut anywhere (`header_feed`). A payload may not: `recvReqRespData` finds a
payload complete only if it came in one piece, and hands on a shorter message or
fails an assertion otherwise. A request or trigger without payload is never
handed on at all, since the socket then asks `recv` for no bytes and takes the
answer for the end of the stream.

So the cuts the socket decodes are exactly those that keep every payload whole
(`WholePayloads`), both for a single message and for a stream of them.
-/

namespace IviLink.Ipc

open IviLink.Lib

/-! ## Feeding -/

/-- Events handed on before what the rest of the stream gives. -/
def prepend (evs : List Event) :
    Except Failure (Receiver × List Event) → Except Failure (Receiver × List Event)
  | .error f => .error f
  | .ok (w, evs') => .ok (w, evs ++ evs')

theorem feed_cons {w w₁ : Receiver} {dir : DirectionId} {c : List UInt8} {evs : List Event}
    (h : socketReady w dir (.bytes c) = .ok (w₁, evs, true)) (cs : List (List UInt8)) :
    feed dir w (c :: cs) = prepend evs (feed dir w₁ cs) := by
  rw [feed, h]
  show (match feed dir w₁ cs with
    | .error f => .error f
    | .ok (w', evs') => .ok (w', evs ++ evs')) = prepend evs (feed dir w₁ cs)
  cases feed dir w₁ cs <;> rfl

theorem feed_lost {w w₁ : Receiver} {dir : DirectionId} {c : List UInt8} {evs : List Event}
    (h : socketReady w dir (.bytes c) = .ok (w₁, evs, false)) (cs : List (List UInt8)) :
    feed dir w (c :: cs) = .ok (w₁, evs) := by
  rw [feed, h]

@[simp] theorem prepend_nil (r : Except Failure (Receiver × List Event)) :
    prepend [] r = r := by
  cases r <;> rfl

theorem prepend_eq_ok {evs evs' : List Event} {r : Except Failure (Receiver × List Event)}
    {w : Receiver} (h : prepend evs r = .ok (w, evs')) :
    ∃ rest, r = .ok (w, rest) ∧ evs' = evs ++ rest := by
  cases r with
  | error f => exact absurd h (by simp [prepend])
  | ok p =>
    obtain ⟨w₁, rest⟩ := p
    injection h with h
    injection h with h₁ h₂
    exact ⟨rest, by rw [h₁], h₂.symm⟩

theorem prepend_singleton_eq_ok {e e' : Event} {evs : List Event}
    {r : Except Failure (Receiver × List Event)} {w : Receiver}
    (h : prepend [e] r = .ok (w, e' :: evs)) : e = e' ∧ r = .ok (w, evs) := by
  obtain ⟨rest, hr, hevs⟩ := prepend_eq_ok h
  rw [List.singleton_append] at hevs
  injection hevs with he hrest
  exact ⟨he.symm, hrest ▸ hr⟩

theorem Cut.step {w w₁ : Receiver} {dir : DirectionId} {c : List UInt8}
    {cs : List (List UInt8)} {evs : List Event} (h : Cut dir w (c :: cs))
    (hs : socketReady w dir (.bytes c) = .ok (w₁, evs, true)) : Cut dir w₁ cs :=
  h.2.2 w₁ evs hs

theorem Cut.cons {w w₁ : Receiver} {dir : DirectionId} {c : List UInt8}
    {cs : List (List UInt8)} {evs : List Event} (hc : c ≠ []) (hle : c.length ≤ w.asked)
    (hs : socketReady w dir (.bytes c) = .ok (w₁, evs, true)) :
    Cut dir w (c :: cs) ↔ Cut dir w₁ cs := by
  refine ⟨fun h => h.step hs, fun h => ⟨hc, fun _ => hle, fun w' evs' hs' => ?_⟩⟩
  rw [hs] at hs'
  injection hs' with hs'
  injection hs' with hs'
  exact hs' ▸ h

/-- Pieces without a byte in them are no pieces. -/
theorem Cut.eq_nil {w : Receiver} {dir : DirectionId} {cs : List (List UInt8)}
    (h : Cut dir w cs) (hflat : cs.flatten = []) : cs = [] := by
  cases cs with
  | nil => rfl
  | cons c cs =>
    rw [List.flatten_cons, List.append_eq_nil_iff] at hflat
    exact absurd hflat.1 h.1

/-! ## Headers -/

theorem InHeader.asked {dir : DirectionId} {reqs : MsgId → Option RequestData}
    {l : List UInt8} {w : Receiver} (h : InHeader dir reqs l w) :
    w.asked = MSG_HEADER_SIZE - l.length := by
  rw [Receiver.asked, h.mode, ← h.haveInBuffer]

/-- **A header may be cut anywhere.** Its last piece makes the socket act on it. -/
theorem header_feed {dir : DirectionId} {reqs : MsgId → Option RequestData} {m : Message} :
    ∀ {hs : List (List UInt8)} {l : List UInt8} {w : Receiver}, InHeader dir reqs l w →
      l.length < MSG_HEADER_SIZE → (∀ c ∈ hs, c ≠ []) → l ++ hs.flatten = m.header.bytes →
      ∃ w₁, HeaderRead dir reqs m w₁ ∧ ∀ w₂ evs, headerReady w₁ = .ok (w₂, evs, true) →
        ∀ cs, feed dir w (hs ++ cs) = prepend evs (feed dir w₂ cs)
          ∧ (Cut dir w (hs ++ cs) ↔ Cut dir w₂ cs)
  | [], l, w, _, hlt, _, heq => by
      have hlen := congrArg List.length heq
      rw [List.flatten_nil, List.append_nil, MsgHeader.length_bytes] at hlen
      exact absurd hlen (Nat.ne_of_lt hlt)
  | c :: hs, l, w, hw, hlt, hne, heq => by
      have hc := hne c List.mem_cons_self
      have hne' : ∀ c' ∈ hs, c' ≠ [] := fun c' hm => hne c' (List.mem_cons_of_mem _ hm)
      rw [List.flatten_cons, ← List.append_assoc] at heq
      have hlen := congrArg List.length heq
      rw [List.length_append, MsgHeader.length_bytes] at hlen
      have hle : c.length ≤ w.asked := by
        have : MSG_HEADER_SIZE = 12 := rfl
        rw [hw.asked]
        rw [List.length_append] at hlen
        omega
      by_cases hdone : (l ++ c).length = MSG_HEADER_SIZE
      · -- the rest of the pieces holds no byte, so there is none
        have hrest : hs.flatten = [] := by
          refine List.eq_nil_of_length_eq_zero ?_
          rw [hdone] at hlen
          exact Nat.add_left_cancel (hlen.trans rfl)
        have hnil : hs = [] := by
          cases hs with
          | nil => rfl
          | cons c' hs' =>
            have hc' := hne' c' List.mem_cons_self
            rw [List.flatten_cons, List.append_eq_nil_iff] at hrest
            exact absurd hrest.1 hc'
        subst hnil
        rw [List.flatten_nil, List.append_nil] at heq
        obtain ⟨w₁, hread, hstep⟩ := hw.done hc heq
        refine ⟨w₁, hread, fun w₂ evs hready cs => ?_⟩
        have hs := hstep w₂ evs hready
        exact ⟨feed_cons hs cs, Cut.cons hc hle hs⟩
      · have hlt' : (l ++ c).length < MSG_HEADER_SIZE := by
          have : MSG_HEADER_SIZE = 12 := rfl
          omega
        obtain ⟨w', hs, hw'⟩ := hw.piece hc hlt'
        obtain ⟨w₁, hread, hstep⟩ := header_feed hw' hlt' hne' heq
        refine ⟨w₁, hread, fun w₂ evs hready cs => ?_⟩
        obtain ⟨hfeed, hcut⟩ := hstep w₂ evs hready cs
        refine ⟨?_, (Cut.cons hc hle hs).trans hcut⟩
        rw [List.cons_append, feed_cons hs, prepend_nil, hfeed]

/-- The pieces of a stream that starts with a header begin with the pieces of that header: the
socket never asks for more. -/
theorem header_split {dir : DirectionId} {reqs : MsgId → Option RequestData} {m : Message} :
    ∀ {cs : List (List UInt8)} {l rest tail : List UInt8} {w : Receiver}, InHeader dir reqs l w →
      l.length < MSG_HEADER_SIZE → l ++ rest = m.header.bytes → Cut dir w cs →
      cs.flatten = rest ++ tail →
      ∃ hs cs', cs = hs ++ cs' ∧ (∀ c ∈ hs, c ≠ []) ∧ hs.flatten = rest ∧ cs'.flatten = tail
  | [], l, rest, tail, w, _, hlt, heq, _, hcs => by
      have hrest : rest = [] := (List.append_eq_nil_iff.mp hcs.symm).1
      have hlen := congrArg List.length heq
      rw [hrest, List.append_nil, MsgHeader.length_bytes] at hlen
      exact absurd hlen (Nat.ne_of_lt hlt)
  | c :: cs, l, rest, tail, w, hw, hlt, heq, hcut, hcs => by
      obtain ⟨hc, hle, hnext⟩ := hcut
      have hlen := congrArg List.length heq
      rw [List.length_append, MsgHeader.length_bytes] at hlen
      have hask : w.asked = rest.length := by
        have : MSG_HEADER_SIZE = 12 := rfl
        rw [hw.asked]
        omega
      have hclen : c.length ≤ rest.length := by
        have hpos : w.asked ≠ 0 := by
          have : MSG_HEADER_SIZE = 12 := rfl
          omega
        exact hask ▸ hle hpos
      rw [List.flatten_cons] at hcs
      -- the piece is the front of what is left of the header
      obtain ⟨rest', rfl⟩ : ∃ rest', rest = c ++ rest' := by
        refine ⟨rest.drop c.length, ?_⟩
        have htake : c = rest.take c.length := by
          have := congrArg (List.take c.length) hcs
          rwa [List.take_left, List.take_append_of_le_length hclen] at this
        conv_lhs => rw [← List.take_append_drop c.length rest]
        rw [← htake]
      have hcs' : cs.flatten = rest' ++ tail := by
        rw [List.append_assoc] at hcs
        exact List.append_cancel_left hcs
      rw [← List.append_assoc] at heq
      by_cases hdone : (l ++ c).length = MSG_HEADER_SIZE
      · have hnil : rest' = [] := by
          refine List.eq_nil_of_length_eq_zero ?_
          have h12 : MSG_HEADER_SIZE = 12 := rfl
          simp only [List.length_append] at hdone hlen
          omega
        subst hnil
        refine ⟨[c], cs, rfl, ?_, by simp, by simpa using hcs'⟩
        intro c' hm
        rw [List.mem_singleton.mp hm]
        exact hc
      · have hlt' : (l ++ c).length < MSG_HEADER_SIZE := by
          have h12 : MSG_HEADER_SIZE = 12 := rfl
          simp only [List.length_append] at hdone hlen ⊢
          omega
        obtain ⟨w', hs, hw'⟩ := hw.piece hc hlt'
        obtain ⟨hs', cs', rfl, hne, hflat, htail⟩ :=
          header_split hw' hlt' heq (hnext w' [] hs) hcs'
        refine ⟨c :: hs', cs', rfl, ?_, by rw [List.flatten_cons, hflat], htail⟩
        intro c' hm
        cases hm with
        | head => exact hc
        | tail _ hm => exact hne c' hm

/-- A socket between two messages reads a header, in whatever pieces, and waits for its
payload. -/
theorem Idle.header_feed {w : Receiver} {m : Message} {p : List (List UInt8)} (hw : Idle w)
    (dir : DirectionId) (hlen : m.payload.length ≤ BUFFER_SIZE)
    (hne : m.type = .response → m.payload ≠ []) (hpieces : ∀ c ∈ p, c ≠ [])
    (hhs : p.flatten = m.header.bytes) :
    ∃ w₁, Awaits dir w.requests m w₁ ∧
      ∀ cs, feed dir w (p ++ cs) = feed dir w₁ cs ∧ (Cut dir w (p ++ cs) ↔ Cut dir w₁ cs) := by
  obtain ⟨w₁, hread, hstep⟩ := Ipc.header_feed (m := m) (hw.inHeader dir) (by decide) hpieces hhs
  obtain ⟨w₂, hready, hawaits⟩ := hread.awaits hlen hne
  refine ⟨w₂, hawaits, fun cs => ?_⟩
  simpa using hstep w₂ [] hready cs

/-- A response without payload is answered by its header alone. -/
theorem Idle.empty_response_feed {w : Receiver} {m : Message} {hs : List (List UInt8)}
    (hw : Idle w) (dir : DirectionId) (ht : m.type = .response) (hnil : m.payload = [])
    (hpieces : ∀ c ∈ hs, c ≠ []) (hhs : hs.flatten = m.header.bytes) :
    ∃ w₁, Idle w₁ ∧ w₁.requests = m.answered w.requests ∧
      ∀ cs, feed dir w (hs ++ cs) = prepend [m.event dir w.requests] (feed dir w₁ cs)
        ∧ (Cut dir w (hs ++ cs) ↔ Cut dir w₁ cs) := by
  obtain ⟨w₁, hread, hstep⟩ := Ipc.header_feed (m := m) (hw.inHeader dir) (by decide) hpieces hhs
  obtain ⟨w₂, hready, hidle, hreqs⟩ := hread.empty_response ht hnil
  exact ⟨w₂, hidle, hreqs, fun cs => hstep w₂ _ hready cs⟩

/-! ## Payloads -/

/-- A payload cut in two or more is not handed on: the stream gives nothing, an assertion, or
something shorter first. -/
theorem Awaits.cut_short {dir : DirectionId} {reqs : MsgId → Option RequestData} {m : Message}
    {w w' : Receiver} {c : List UInt8} {cs : List (List UInt8)} {evs : List Event}
    (h : Awaits dir reqs m w) (hlt : c.length < m.payload.length)
    (hcut : Cut dir w (c :: cs)) (hfeed : feed dir w (c :: cs) = .ok (w', evs)) :
    evs = [] ∨ ∃ e rest, evs = e :: rest ∧ e.size < m.payload.length := by
  cases hs : socketReady w dir (.bytes c) with
  | error f => rw [feed, hs] at hfeed; exact absurd hfeed (by simp)
  | ok p =>
    obtain ⟨w₁, evs₁, b⟩ := p
    obtain ⟨rfl, rfl, hshort⟩ := h.short hcut.1 hlt hs
    rw [feed_cons hs, prepend_nil] at hfeed
    exact short_feed hshort (Cut.step hcut hs) hfeed

/-- Asked for no bytes, the socket takes the answer for the end of the stream. -/
theorem Awaits.empty_lost {dir : DirectionId} {reqs : MsgId → Option RequestData} {m : Message}
    {w : Receiver} (h : Awaits dir reqs m w) (ht : m.type ≠ .response) (hnil : m.payload = [])
    (c : List UInt8) (cs : List (List UInt8)) :
    ∃ w', feed dir w (c :: cs) = .ok (w', [.error .connectionLost]) := by
  have hleft : w.socket.leftToReceive = 0 := by rw [h.leftToReceive, hnil]; rfl
  have hrecv : recvReqRespData w w.socket.leftToReceive (.bytes c)
      = .ok (.failed .connectionLost, w) := by
    have hs : w.socket.readingSocket ≠ none := by rw [h.readingSocket]; simp
    simp [recvReqRespData, receive, hleft, hs]
  refine ⟨(w.toHeader.invalidateRequestsForDirection dir).toHeader, feed_lost ?_ cs⟩
  rw [socketReady]
  simp only [readFrom_self h.readingSocket]
  have hmode := h.mode
  cases hm : m.type with
  | request =>
    simp only [Message.mode, hm] at hmode
    simp only [consumeData, hmode, consumeRequestData, consumeIncoming, hrecv, h.readingSocket,
      Option.getD_some]
  | trigger =>
    simp only [Message.mode, hm] at hmode
    simp only [consumeData, hmode, consumeTriggerData, consumeIncoming, hrecv, h.readingSocket,
      Option.getD_some]
  | response => exact absurd hm ht

/-- The first piece of a payload is no longer than the payload, and when it is as long it is
the payload. -/
theorem Awaits.first_piece {dir : DirectionId} {reqs : MsgId → Option RequestData} {m : Message}
    {w : Receiver} {c tail : List UInt8} {cs : List (List UInt8)} (h : Awaits dir reqs m w)
    (hne : m.payload ≠ []) (hcut : Cut dir w (c :: cs))
    (hflat : (c :: cs).flatten = m.payload ++ tail) :
    c.length < m.payload.length ∨ c = m.payload ∧ cs.flatten = tail := by
  have hmode : w.socket.mode ≠ .header := by
    rw [h.mode, Message.mode]; split <;> simp
  have hle : c.length ≤ m.payload.length := by
    have hpos := List.length_pos_of_ne_nil hne
    have hask := Receiver.asked_of_mode hmode
    rw [h.leftToReceive] at hask
    exact hask ▸ hcut.2.1 (by omega)
  rcases Nat.lt_or_eq_of_le hle with hlt | heq
  · exact .inl hlt
  · rw [List.flatten_cons] at hflat
    exact .inr (List.append_inj hflat heq)

/-! ## One message -/

/-- The call a message is dispatched by, with its payload whole. -/
def Message.dispatch (m : Message) (dir : DirectionId) : Event :=
  match m.type with
  | .request => .request m.id m.payload (some dir)
  | .trigger => .trigger m.id m.payload (some dir)
  | .response => .response m.id m.payload

theorem Message.size_dispatch (m : Message) (dir : DirectionId) :
    (m.dispatch dir).size = m.payload.length := by
  rw [Message.dispatch]
  split <;> rfl

/-- A message is dispatched unless it is a response nobody waits for with room for it. -/
theorem Message.event_eq_dispatch (m : Message) (dir : DirectionId)
    (reqs : MsgId → Option RequestData) :
    m.event dir reqs = m.dispatch dir ↔ (m.type = .response → (m.waiting reqs).isSome) := by
  cases ht : m.type with
  | request => simp [Message.event, Message.dispatch, ht]
  | trigger => simp [Message.event, Message.dispatch, ht]
  | response => simp [Message.event, Message.dispatch, ht, Option.isSome_iff_ne_none]

/-- The payload came whole and is dispatched, with the socket between messages again. -/
def Dispatched (dir : DirectionId) (m : Message) (w : Receiver) (cs : List (List UInt8)) : Prop :=
  ∃ w', feed dir w cs = .ok (w', [m.dispatch dir]) ∧ Idle w'

theorem Awaits.dispatched_iff {dir : DirectionId} {reqs : MsgId → Option RequestData}
    {m : Message} {w : Receiver} {cs : List (List UInt8)} (h : Awaits dir reqs m w)
    (hne : m.payload ≠ []) (hlen : m.payload.length ≤ BUFFER_SIZE) (hcut : Cut dir w cs)
    (hflat : cs.flatten = m.payload) :
    Dispatched dir m w cs ↔
      cs.length = 1 ∧ (m.type = .response → (m.waiting reqs).isSome) := by
  cases cs with
  | nil => exact absurd hflat.symm hne
  | cons c cs =>
    have hflat' : (c :: cs).flatten = m.payload ++ [] := by rw [hflat, List.append_nil]
    have hwhole := payload_whole h hne hlen
    constructor
    · rintro ⟨w', hfeed, -⟩
      rcases h.first_piece hne hcut hflat' with hlt | ⟨rfl, hnil⟩
      · rcases h.cut_short hlt hcut hfeed with hnone | ⟨e, rest, he, hsize⟩
        · exact absurd hnone (by simp)
        · injection he with he
          rw [← he, Message.size_dispatch] at hsize
          exact absurd hsize (Nat.lt_irrefl _)
      · obtain ⟨w₁, hs, -, -⟩ := hwhole
        rw [feed_cons hs] at hfeed
        obtain ⟨rest, -, hevs⟩ := prepend_eq_ok hfeed
        have hcs : cs = [] := (Cut.step hcut hs).eq_nil hnil
        injection hevs with hevs
        exact ⟨by rw [hcs]; rfl, (m.event_eq_dispatch dir reqs).mp hevs.symm⟩
    · rintro ⟨hone, hfits⟩
      obtain rfl : cs = [] := List.eq_nil_of_length_eq_zero (Nat.succ.inj hone)
      obtain rfl : c = m.payload := by simpa using hflat
      obtain ⟨w₁, hs, hidle, -⟩ := hwhole
      refine ⟨w₁, ?_, hidle⟩
      rw [feed_cons hs, (m.event_eq_dispatch dir reqs).mpr hfits]
      rfl

/-- **A payload reaches its handler exactly when one `recv` returns all of it** and, for the
response to a pending request, the request's buffer has room for it. The header before it may
come in any pieces. -/
theorem payload_dispatched_iff {dir : DirectionId} {w : Receiver} {m : Message}
    {hs : List (List UInt8)} (hw : Idle w) (hne : m.payload ≠ [])
    (hlen : m.payload.length ≤ BUFFER_SIZE)
    (hpending : m.type = .response → (w.requests m.id).isSome)
    (hcut : Cut dir w hs) (hhs : hs.flatten = m.header.bytes) :
    ∃ w₁, feed dir w hs = .ok (w₁, []) ∧ ∀ cs, Cut dir w₁ cs → cs.flatten = m.payload →
      (Dispatched dir m w₁ cs ↔ cs.length = 1 ∧
        ∀ d, m.type = .response → w.requests m.id = some d → m.payload.length ≤ d.bufferSize) := by
  obtain ⟨hs', cs', rfl, hpieces, hflat, htail⟩ := header_split (m := m)
    (hw.inHeader dir) (by decide) (List.nil_append _) hcut (hhs.trans (List.append_nil _).symm)
  obtain ⟨w₁, hawaits, hstep⟩ := hw.header_feed dir hlen (fun _ => hne) hpieces hflat
  obtain rfl : cs' = [] := ((hstep cs').2.mp hcut).eq_nil htail
  refine ⟨w₁, (hstep []).1, fun cs hc hcs => ?_⟩
  rw [hawaits.dispatched_iff hne hlen hc hcs]
  refine and_congr_right fun _ => ⟨fun hfits d ht hd => ?_, fun hfits ht => ?_⟩
  · have := hfits ht
    rw [Message.waiting, hd] at this
    simpa using this
  · obtain ⟨d, hd⟩ := Option.isSome_iff_exists.mp (hpending ht)
    rw [Message.waiting, hd]
    simpa using hfits d ht hd

/-! ### A socket to try it on -/

/-- A socket as its constructor leaves it, with no request pending. -/
def fresh : Receiver where
  socket := {
    mode := .header
    msgId := 0
    unknownResponse := true
    currentBufBegin := ⟨.own, 0⟩
    currentBuf := ⟨.own, 0⟩
    haveInBuffer := 0
    leftToReceive := 0
    readingSocket := none
    buffer := List.replicate BUFFER_SIZE 0 }
  requests := fun _ => none
  memory := fun _ => []

theorem idle_fresh : Idle fresh where
  own := List.length_replicate
  response := fun _ _ h => absurd h (by simp [fresh])
  mode := rfl
  haveInBuffer := rfl
  readingSocket := rfl

/-- A request with two bytes of payload. -/
def twoBytes : Message := ⟨.request, 7, [1, 2]⟩

/-- The header of a message in one piece. -/
theorem cut_header (m : Message) : Cut 1 fresh [m.header.bytes] :=
  ⟨List.ne_nil_of_length_pos (by simp), fun _ => (MsgHeader.length_bytes _).le,
    fun _ _ _ => trivial⟩

theorem payload_dispatched_iff_twoBytes :
    ∃ w₁, feed 1 fresh [twoBytes.header.bytes] = .ok (w₁, []) ∧
      ∀ cs, Cut 1 w₁ cs → cs.flatten = [1, 2] →
        (Dispatched 1 twoBytes w₁ cs ↔ cs.length = 1 ∧
          ∀ d, twoBytes.type = .response → fresh.requests 7 = some d → 2 ≤ d.bufferSize) :=
  payload_dispatched_iff (m := twoBytes) idle_fresh (by decide) (by decide) (fun h => nomatch h)
    (cut_header twoBytes) rfl

set_option maxRecDepth 100000 in
theorem feed_twoBytes_cut :
    feed 1 fresh [twoBytes.header.bytes, [1], [2]] = .error .assertion := rfl

/-- The two bytes may come one by one, and the second then fails the assertion that compares
what was received with what is left. -/
theorem twoBytes_cut_asserts :
    ∃ w₁, feed 1 fresh [twoBytes.header.bytes] = .ok (w₁, []) ∧ Cut 1 w₁ [[1], [2]]
      ∧ feed 1 w₁ [[1], [2]] = .error .assertion ∧ ¬ Dispatched 1 twoBytes w₁ [[1], [2]] := by
  obtain ⟨w₁, hawaits, hstep⟩ := idle_fresh.header_feed 1 (m := twoBytes)
    (p := [twoBytes.header.bytes]) (by decide) (fun _ => by decide)
    (by simp [← List.length_eq_zero_iff]) rfl
  have hfeed : feed 1 w₁ [[1], [2]] = .error .assertion := by
    rw [← (hstep [[1], [2]]).1]
    exact feed_twoBytes_cut
  have hmode : w₁.socket.mode ≠ .header := by rw [hawaits.mode]; decide
  refine ⟨w₁, (hstep []).1, ⟨by simp, fun _ => ?_, fun w₂ evs hs => ⟨by simp, fun hpos => ?_,
    fun _ _ _ => trivial⟩⟩, hfeed, ?_⟩
  · rw [Receiver.asked_of_mode hmode, hawaits.leftToReceive]
    decide
  · exact Nat.one_le_iff_ne_zero.mpr hpos
  · rintro ⟨w', hok, -⟩
    rw [hfeed] at hok
    exact absurd hok (by simp)

/-! ## A stream of messages -/

/-- The bytes one message is on the wire: what `send` writes when both its calls of `::send` go
through whole. -/
def Message.wire (m : Message) : List UInt8 :=
  (send m.id m.type m.payload [.wrote MSG_HEADER_SIZE, .wrote m.payload.length]).1

theorem Message.wire_eq {m : Message} (h : m.payload.length ≤ BUFFER_SIZE) :
    m.wire = m.header.bytes ++ m.payload := by
  have hsize : m.payload.length < 4294967295 - MSG_HEADER_SIZE := by
    have : BUFFER_SIZE = 4096 := rfl
    have : MSG_HEADER_SIZE = 12 := rfl
    omega
  have hh : m.header.bytes.take MSG_HEADER_SIZE = m.header.bytes :=
    List.take_of_length_le (MsgHeader.length_bytes _).le
  rw [wire, send, if_neg (not_not.mpr hsize)]
  simp only [sendLoop, SendResult.written]
  by_cases hpos : m.payload.length > 0
  · simp only [if_pos hpos, List.take_length, reduceCtorEq, if_false]
    rw [← hh]
    rfl
  · have hnil : m.payload = [] := List.eq_nil_of_length_eq_zero (by omega)
    simp only [reduceCtorEq, if_false, hnil, List.append_nil]
    rw [← hh, Message.header, hnil]
    rfl

/-- The bytes of messages written back to back. -/
def wire (ms : List Message) : List UInt8 := ms.flatMap Message.wire

/-- What has to come out of the messages, each against the requests that are then pending. -/
def expected (dir : DirectionId) : (MsgId → Option RequestData) → List Message → List Event
  | _, [] => []
  | reqs, m :: ms => m.event dir reqs :: expected dir (m.answered reqs) ms

/-- Every header comes in pieces of its own and every payload in exactly one; only a response
may have none. -/
def WholePayloads : List Message → List (List UInt8) → Prop
  | [], cs => cs = []
  | m :: ms, cs => ∃ hs rest, (∀ c ∈ hs, c ≠ []) ∧ hs.flatten = m.header.bytes ∧
      (if m.payload = [] then m.type = .response ∧ cs = hs ++ rest
        else cs = hs ++ m.payload :: rest) ∧
      WholePayloads ms rest

/-- The stream is decoded: exactly its messages come out, nothing is reported lost, and the
socket is between messages again. -/
def Decoded (dir : DirectionId) (ms : List Message) (w : Receiver) (cs : List (List UInt8)) :
    Prop :=
  ∃ w', feed dir w cs = .ok (w', expected dir w.requests ms) ∧ Idle w'

theorem wire_cons {m : Message} (h : m.payload.length ≤ BUFFER_SIZE) (ms : List Message) :
    wire (m :: ms) = m.header.bytes ++ (m.payload ++ wire ms) := by
  rw [wire, List.flatMap_cons, Message.wire_eq h, List.append_assoc]
  rfl

/-- A stream that keeps its payloads whole is decoded. -/
theorem decoded_of_wholePayloads (dir : DirectionId) :
    ∀ {ms : List Message} {w : Receiver} {cs : List (List UInt8)}, Idle w →
      (∀ m ∈ ms, m.payload.length ≤ BUFFER_SIZE) → WholePayloads ms cs → Decoded dir ms w cs
  | [], w, cs, hw, _, hcs => by
      obtain rfl : cs = [] := hcs
      exact ⟨w, rfl, hw⟩
  | m :: ms, w, cs, hw, hlen, ⟨hs, rest, hpieces, hhs, hcs, hrest⟩ => by
      have hm := hlen m List.mem_cons_self
      have hms : ∀ m' ∈ ms, m'.payload.length ≤ BUFFER_SIZE :=
        fun m' h => hlen m' (List.mem_cons_of_mem _ h)
      by_cases hnil : m.payload = []
      · rw [if_pos hnil] at hcs
        obtain ⟨ht, rfl⟩ := hcs
        obtain ⟨w₁, hidle, hreqs, hstep⟩ :=
          hw.empty_response_feed dir ht hnil hpieces hhs
        obtain ⟨w', hfeed, hidle'⟩ := decoded_of_wholePayloads dir hidle hms hrest
        refine ⟨w', ?_, hidle'⟩
        rw [(hstep rest).1, hfeed, hreqs]
        rfl
      · rw [if_neg hnil] at hcs
        subst hcs
        obtain ⟨w₁, hawaits, hstep⟩ :=
          hw.header_feed dir hm (fun _ => hnil) hpieces hhs
        obtain ⟨w₂, hs₂, hidle, hreqs⟩ := payload_whole hawaits hnil hm
        obtain ⟨w', hfeed, hidle'⟩ := decoded_of_wholePayloads dir hidle hms hrest
        refine ⟨w', ?_, hidle'⟩
        rw [(hstep _).1, feed_cons hs₂, hfeed, hreqs]
        rfl

/-- The first event of a stream accounts for all bytes of its first message. -/
theorem expected_head {dir : DirectionId} {reqs : MsgId → Option RequestData} {m : Message}
    {ms : List Message} {evs : List Event} (h : evs = expected dir reqs (m :: ms)) :
    evs ≠ [] ∧ ∀ e rest, evs = e :: rest → e = m.event dir reqs := by
  subst h
  refine ⟨by simp [expected], fun e rest he => ?_⟩
  injection he with he
  exact he.symm

/-- Only a stream that keeps its payloads whole is decoded. -/
theorem wholePayloads_of_decoded {dir : DirectionId} :
    ∀ {ms : List Message} {w w' : Receiver} {cs : List (List UInt8)}, Idle w →
      (∀ m ∈ ms, m.payload.length ≤ BUFFER_SIZE) → Cut dir w cs → cs.flatten = wire ms →
      feed dir w cs = .ok (w', expected dir w.requests ms) → WholePayloads ms cs
  | [], w, w', cs, _, _, hcut, hflat, _ => hcut.eq_nil hflat
  | m :: ms, w, w', cs, hw, hlen, hcut, hflat, hfeed => by
      have hm := hlen m List.mem_cons_self
      have hms : ∀ m' ∈ ms, m'.payload.length ≤ BUFFER_SIZE :=
        fun m' h => hlen m' (List.mem_cons_of_mem _ h)
      rw [wire_cons hm] at hflat
      obtain ⟨hs, cs, rfl, hpieces, hhs, htail⟩ := header_split (m := m) (hw.inHeader dir)
        (by decide) (List.nil_append _) hcut hflat
      by_cases hempty : m.type = .response ∧ m.payload = []
      · obtain ⟨ht, hnil⟩ := hempty
        obtain ⟨w₁, hidle, hreqs, hstep⟩ :=
          hw.empty_response_feed dir ht hnil hpieces hhs
        obtain ⟨hfeed₁, hcut₁⟩ := hstep cs
        rw [hfeed₁] at hfeed
        obtain ⟨-, hfeed₂⟩ := prepend_singleton_eq_ok hfeed
        rw [← hreqs] at hfeed₂
        rw [hnil, List.nil_append] at htail
        have hrest := wholePayloads_of_decoded hidle hms (hcut₁.mp hcut) htail hfeed₂
        exact ⟨hs, cs, hpieces, hhs, by rw [if_pos hnil]; exact ⟨ht, rfl⟩, hrest⟩
      · have hne : m.type = .response → m.payload ≠ [] := fun ht hnil => hempty ⟨ht, hnil⟩
        obtain ⟨w₁, hawaits, hstep⟩ := hw.header_feed dir hm hne hpieces hhs
        obtain ⟨hfeed₁, hcut₁⟩ := hstep cs
        rw [hfeed₁] at hfeed
        obtain ⟨hsome, hhead⟩ := expected_head (rfl : expected dir w.requests (m :: ms) = _)
        cases cs with
        | nil =>
          injection hfeed with hfeed
          injection hfeed with _ hevs
          exact absurd hevs.symm hsome
        | cons c cs =>
          by_cases hnil : m.payload = []
          · -- no request or trigger without payload gets past its header
            obtain ⟨w₂, hlost⟩ := hawaits.empty_lost (fun ht => hne ht hnil) hnil c cs
            rw [hlost] at hfeed
            injection hfeed with hfeed
            injection hfeed with _ hevs
            have hev := hhead _ _ hevs.symm
            cases ht : m.type with
            | request => simp [Message.event, ht] at hev
            | trigger => simp [Message.event, ht] at hev
            | response => exact absurd hnil (hne ht)
          · rcases hawaits.first_piece hnil (hcut₁.mp hcut) htail with hlt | ⟨rfl, hms'⟩
            · rcases hawaits.cut_short hlt (hcut₁.mp hcut) hfeed with hnone | ⟨e, rest, he, hsize⟩
              · exact absurd hnone hsome
              · rw [hhead e rest he, Message.size_event] at hsize
                exact absurd hsize (Nat.lt_irrefl _)
            · obtain ⟨w₂, hs₂, hidle, hreqs⟩ := payload_whole hawaits hnil hm
              rw [feed_cons hs₂] at hfeed
              obtain ⟨-, hfeed₂⟩ := prepend_singleton_eq_ok hfeed
              rw [← hreqs] at hfeed₂
              have hrest := wholePayloads_of_decoded hidle hms
                (Cut.step (hcut₁.mp hcut) hs₂) hms' hfeed₂
              exact ⟨hs, cs, hpieces, hhs, by rw [if_neg hnil], hrest⟩

/-- **A stream is decoded exactly when its cut keeps every payload whole and no request or
trigger in it is without payload.** -/
theorem stream_decoded_iff {dir : DirectionId} {ms : List Message} {w : Receiver}
    {cs : List (List UInt8)} (hw : Idle w) (hlen : ∀ m ∈ ms, m.payload.length ≤ BUFFER_SIZE)
    (hcut : Cut dir w cs) (hwire : cs.flatten = wire ms) :
    Decoded dir ms w cs ↔ WholePayloads ms cs :=
  ⟨fun ⟨_, hfeed, _⟩ => wholePayloads_of_decoded hw hlen hcut hwire hfeed,
    decoded_of_wholePayloads dir hw hlen⟩

/-! ### Two requests without payload -/

/-- A request without payload. -/
def emptyRequest : Message := ⟨.request, 7, []⟩

/-- The headers of two such requests. -/
def emptyRequests : List (List UInt8) := [emptyRequest.header.bytes, emptyRequest.header.bytes]

theorem emptyRequests_feed :
    ∃ w₁, Awaits 1 fresh.requests emptyRequest w₁ ∧ ∀ cs,
      feed 1 fresh (emptyRequest.header.bytes :: cs) = feed 1 w₁ cs
        ∧ (Cut 1 fresh (emptyRequest.header.bytes :: cs) ↔ Cut 1 w₁ cs) :=
  idle_fresh.header_feed 1 (m := emptyRequest) (p := [emptyRequest.header.bytes]) (by decide)
    (fun h => nomatch h) (by simp [← List.length_eq_zero_iff]) rfl

theorem cut_emptyRequests : Cut 1 fresh emptyRequests := by
  obtain ⟨w₁, hawaits, hstep⟩ := emptyRequests_feed
  have hmode : w₁.socket.mode ≠ .header := by rw [hawaits.mode]; decide
  refine (hstep _).2.mpr ⟨by simp [← List.length_eq_zero_iff], fun hpos => ?_, fun _ _ _ => trivial⟩
  rw [Receiver.asked_of_mode hmode, hawaits.leftToReceive] at hpos
  exact absurd rfl hpos

theorem stream_decoded_iff_emptyRequests :
    Decoded 1 [emptyRequest, emptyRequest] fresh emptyRequests
      ↔ WholePayloads [emptyRequest, emptyRequest] emptyRequests :=
  stream_decoded_iff idle_fresh (by decide) cut_emptyRequests (by decide)

/-- The first of two requests without payload is never dispatched, and the socket reports the
connection lost with the second still unread. -/
theorem emptyRequests_lost :
    Cut 1 fresh emptyRequests ∧ emptyRequests.flatten = wire [emptyRequest, emptyRequest]
      ∧ (∃ w', feed 1 fresh emptyRequests = .ok (w', [.error .connectionLost]))
      ∧ ¬ Decoded 1 [emptyRequest, emptyRequest] fresh emptyRequests := by
  obtain ⟨w₁, hawaits, hstep⟩ := emptyRequests_feed
  obtain ⟨w', hlost⟩ := hawaits.empty_lost (by decide) rfl emptyRequest.header.bytes []
  have hfeed : feed 1 fresh emptyRequests = .ok (w', [.error .connectionLost]) :=
    (hstep _).1.trans hlost
  refine ⟨cut_emptyRequests, by decide, ⟨w', hfeed⟩, ?_⟩
  rintro ⟨w'', hok, -⟩
  rw [hfeed] at hok
  injection hok with hok
  injection hok with _ hok
  exact absurd hok (by decide)

end IviLink.Ipc
