import IviLink.Ipc.Sending
import Mathlib.Data.List.TakeDrop
import Mathlib.Tactic.Common

/-!
# Messages that are sent as a whole

An interrupted call of `::send` is made again, and a call that fails ends in an error.
What is left are the calls that take some of their bytes only: they count as done, and
if none of the calls of a message fails, the message is reported as sent. So a message
goes out as a whole, or an error is reported, exactly if the kernel does not cut short
a message none of whose calls fails.
-/

namespace IviLink.Ipc.Sending

open Directions (CSockInfo findClientSocket)

variable {strerror : Int → String} {errno : Int} {s : CIpcSocket} {sock : Nat} {m : Message}
  {results as : List SendResult} {a b : SendResult} {r : Sent}

/-! ## Answers of the kernel -/

/-- The loop ends with the first answer. -/
theorem retry_of_answers (h : answers results = a :: as) :
    ∃ rest, retry results = some (a, rest) ∧ answers rest = as := by
  induction results with
  | nil => cases h
  | cons x results ih =>
    cases x with
    | eintr => exact ih h
    | wrote n =>
      obtain ⟨rfl, rfl⟩ := List.cons.inj h
      exact ⟨results, rfl, rfl⟩
    | failed =>
      obtain ⟨rfl, rfl⟩ := List.cons.inj h
      exact ⟨results, rfl, rfl⟩

theorem answers_ne_eintr (h : a ∈ answers results) : a ≠ .eintr := by
  have := (List.mem_filter.mp h).2
  exact of_decide_eq_true this

theorem sendLoop_of_retry {x : SendResult × List SendResult} (h : retry results = some x) :
    sendLoop results = x := by
  induction results with
  | nil => cases h
  | cons y results ih =>
    cases y with
    | eintr => exact ih h
    | wrote n => exact Option.some.inj h
    | failed => exact Option.some.inj h

/-! ## One message -/

/-- A message without a payload is sent by one call. -/
theorem sendOver_header (hm : m.payloadSize = 0) (h : answers results = a :: as) :
    sendOver strerror errno s sock m results = some
      (if a = .failed then
        s.closed sock (a.written m.header.bytes) (BaseError.FormErrnoDescr strerror errno)
      else ⟨s, a.written m.header.bytes, .NoIpcError⟩) := by
  obtain ⟨rest, hretry, -⟩ := retry_of_answers h
  have hnone : ¬ (a ≠ .failed ∧ m.payloadSize > 0) := by
    rintro ⟨-, hpos⟩
    omega
  simp only [sendOver, hretry, if_neg hnone]
  split <;> rfl

/-- A message with a payload whose header fails. -/
theorem sendOver_failed (h : answers results = .failed :: as) :
    sendOver strerror errno s sock m results = some
      (s.closed sock [] (BaseError.FormErrnoDescr strerror errno)) := by
  obtain ⟨rest, hretry, -⟩ := retry_of_answers h
  simp [sendOver, hretry, SendResult.written]

/-- A message with a payload is sent by two calls. -/
theorem sendOver_payload (hm : m.payloadSize > 0) (h : answers results = a :: b :: as)
    (ha : a ≠ .failed) :
    sendOver strerror errno s sock m results = some
      (if b = .failed then
        s.closed sock (a.written m.header.bytes ++ b.written m.pPayload)
          (BaseError.FormErrnoDescr strerror errno)
      else ⟨s, a.written m.header.bytes ++ b.written m.pPayload, .NoIpcError⟩) := by
  obtain ⟨rest, hretry, hrest⟩ := retry_of_answers h
  obtain ⟨rest', hretry', -⟩ := retry_of_answers hrest
  have hboth : a ≠ .failed ∧ m.payloadSize > 0 := ⟨ha, hm⟩
  simp only [sendOver, hretry, if_pos hboth, hretry']
  split <;> rfl

/-- **The two views of `send` agree**: on a connected, known direction it puts the same bytes on
the socket and reports the same. -/
theorem send_eq_of_sendOver (hsize : m.payloadSize < 4294967295 - MSG_HEADER_SIZE)
    (h : sendOver strerror errno s sock m results = some r) :
    Ipc.send m.id m.msgType m.pPayload results =
      (r.out, if r.err.isNoError then .ok else .connectionLost) := by
  unfold sendOver at h
  split at h
  · cases h
  · next res rest hretry =>
    have hloop := sendLoop_of_retry hretry
    unfold Ipc.send
    have hfits : ¬ ¬ m.pPayload.length < 4294967295 - MSG_HEADER_SIZE := not_not.mpr hsize
    rw [if_neg hfits]
    simp only [hloop]
    split at h
    · next hboth =>
      split at h
      · cases h
      · next res' rest' hretry' =>
        have hpos : m.pPayload.length > 0 := hboth.2
        rw [if_neg hboth.1, if_pos hpos, sendLoop_of_retry hretry']
        split at h
        · next hfailed =>
          obtain rfl := Option.some.inj h
          simp [CIpcSocket.closed, hfailed, BaseError.isNoError, Message.header, Message.payloadSize]
        · next hfailed =>
          obtain rfl := Option.some.inj h
          simp [hfailed, BaseError.isNoError, BaseError.NoIpcError, Message.header,
            Message.payloadSize]
    · next hnot =>
      split at h
      · next hfailed =>
        obtain rfl := Option.some.inj h
        simp [CIpcSocket.closed, hfailed, BaseError.isNoError, Message.header, Message.payloadSize]
      · next hfailed =>
        have hzero : ¬ m.pPayload.length > 0 := fun hpos => hnot ⟨hfailed, hpos⟩
        obtain rfl := Option.some.inj h
        rw [if_neg hfailed, if_neg hzero]
        simp [BaseError.isNoError, BaseError.NoIpcError, Message.header, Message.payloadSize]

/-! ## Whole messages -/

theorem take_append_take_iff {α : Type*} {l l' : List α} {n k : Nat} :
    l.take n ++ l'.take k = l ++ l' ↔ l.length ≤ n ∧ l'.length ≤ k := by
  constructor
  · intro h
    have hlen := congrArg List.length h
    simp only [List.length_append, List.length_take] at hlen
    omega
  · rintro ⟨hl, hl'⟩
    rw [List.take_of_length_le hl, List.take_of_length_le hl']

theorem wholeOrError_closed {k : Int} {out : List UInt8} {descr : String} :
    (s.closed k out descr).WholeOrError m := Or.inr rfl

theorem wholeOrError_sent {out : List UInt8} :
    (Sent.mk s out .NoIpcError).WholeOrError m ↔ out = m.bytes := by
  constructor
  · rintro (⟨-, h⟩ | h)
    · exact h
    · cases h
  · intro h
    exact Or.inl ⟨rfl, h⟩

/-- Over the socket of the direction. -/
theorem sendOver_whole_iff (h : Answered m results) :
    ∃ r, sendOver strerror errno s sock m results = some r ∧
      (r.WholeOrError m ↔ TakenWhole m results) := by
  unfold Answered at h
  unfold TakenWhole
  by_cases hm : m.payloadSize > 0
  · have hsizes : m.sizes = [MSG_HEADER_SIZE, m.payloadSize] := if_pos hm
    rw [hsizes] at h ⊢
    match hans : answers results with
    | [] => rw [hans] at h; simp at h
    | [_] => rw [hans] at h; simp at h
    | a :: b :: as =>
      have ha := answers_ne_eintr (hans ▸ List.mem_cons_self : a ∈ answers results)
      have hb := answers_ne_eintr (hans ▸ List.mem_cons_of_mem _ List.mem_cons_self :
        b ∈ answers results)
      cases a with
      | eintr => exact absurd rfl ha
      | failed =>
        refine ⟨_, sendOver_failed hans, ?_⟩
        exact iff_of_true wholeOrError_closed fun hok => absurd rfl (hok _ List.mem_cons_self)
      | wrote n =>
        refine ⟨_, sendOver_payload hm hans (by simp), ?_⟩
        cases b with
        | eintr => exact absurd rfl hb
        | failed =>
          refine iff_of_true wholeOrError_closed ?_
          intro hok
          exact absurd rfl (hok _ (List.mem_cons_of_mem _ List.mem_cons_self))
        | wrote k =>
          rw [if_neg (by simp), wholeOrError_sent]
          simp only [SendResult.written, Message.bytes, take_append_take_iff]
          simp [MSG_HEADER_SIZE, Message.payloadSize]
  · have hsizes : m.sizes = [MSG_HEADER_SIZE] := if_neg hm
    have hzero : m.payloadSize = 0 := Nat.eq_zero_of_not_pos hm
    rw [hsizes] at h ⊢
    match hans : answers results with
    | [] => rw [hans] at h; simp at h
    | a :: as =>
      refine ⟨_, sendOver_header hzero hans, ?_⟩
      have ha := answers_ne_eintr (hans ▸ List.mem_cons_self : a ∈ answers results)
      cases a with
      | eintr => exact absurd rfl ha
      | failed =>
        exact iff_of_true wholeOrError_closed fun hok => absurd rfl (hok _ List.mem_cons_self)
      | wrote n =>
        have hnil : m.pPayload = [] := List.eq_nil_of_length_eq_zero hzero
        rw [if_neg (by simp), wholeOrError_sent]
        simp [SendResult.written, Message.bytes, hnil, MSG_HEADER_SIZE, List.take_eq_self_iff]

/-- **A message is sent as a whole, or an error is reported**, exactly if no call of `::send` takes
some of its bytes only, or one of the calls of the message fails. -/
theorem send_whole_or_error_iff (strerror : Int → String) (errno : Int) (s : CIpcSocket)
    (m : Message) (pDirId : Option DirectionId) (results : List SendResult)
    (h : Answered m results) :
    ∃ r, send strerror errno s m pDirId results = some r ∧
      (r.WholeOrError m ↔ (Reaches s m pDirId → TakenWhole m results)) := by
  unfold send
  split
  · next hconn =>
    refine ⟨_, rfl, iff_of_true (Or.inr rfl) ?_⟩
    rintro ⟨hreach, -⟩
    rw [hconn] at hreach
    cases hreach
  · next hconn =>
    split
    · next hsize => exact ⟨_, rfl, iff_of_true (Or.inr rfl) fun hreach => absurd hreach.2.1 hsize⟩
    · next hsize =>
      split
      · next hnone =>
        refine ⟨_, rfl, iff_of_true wholeOrError_closed ?_⟩
        rintro ⟨-, -, hsome⟩
        rw [hnone] at hsome
        cases hsome
      · next info hinfo =>
        have hreach : Reaches s m pDirId :=
          ⟨Bool.eq_true_of_not_eq_false hconn, not_not.mp hsize, by rw [hinfo]; rfl⟩
        obtain ⟨r, hr, hiff⟩ : ∃ r, sendOver strerror errno s info.sock m results = some r ∧
            (r.WholeOrError m ↔ TakenWhole m results) := sendOver_whole_iff h
        exact ⟨r, hr, hiff.trans ⟨fun htaken _ => htaken, fun htaken => htaken hreach⟩⟩

/-- A message of two bytes, and the client's only connection. -/
def twoBytes : Message := ⟨7, .request, [1, 2], by decide⟩

def connected : CIpcSocket := ⟨true, [⟨5, 1⟩], [], 0⟩

/-- The header's call is interrupted once, and both take all they are given. -/
theorem send_whole_or_error_twoBytes :
    ∃ r, send (fun _ => "") 0 connected twoBytes none [.eintr, .wrote 12, .wrote 2] = some r ∧
      (r.WholeOrError twoBytes ↔
        (Reaches connected twoBytes none → TakenWhole twoBytes [.eintr, .wrote 12, .wrote 2])) :=
  send_whole_or_error_iff _ _ _ _ _ _ (Nat.le_refl 2)

theorem send_reports_partial_message :
    ¬ ∀ (s : CIpcSocket) (m : Message) (pDirId : Option DirectionId) (results : List SendResult)
      (r : Sent), send (fun _ => "") 0 s m pDirId results = some r → r.WholeOrError m := by
  intro h
  have hpartial := h connected twoBytes none [.wrote 12, .wrote 1] _ rfl
  exact absurd (wholeOrError_sent.mp hpartial) (by decide)

end IviLink.Ipc.Sending
