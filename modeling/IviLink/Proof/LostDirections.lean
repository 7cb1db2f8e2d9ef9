import IviLink.Ipc.Directions
import Mathlib.Data.List.Pairwise

/-!
# Which requests a lost direction takes with it

The container records a direction with a request, and the request is sent over a
direction. They are the same for a request that names one. A request that names
none is recorded with 1 and sent over the first connection, whatever its id, so
losing a direction fails exactly the requests sent over it as long as no such
stray request is pending when its own direction, or direction 1, is lost.
-/

namespace IviLink.Ipc.Directions

open IviLink.Lib

/-! ## The container -/

theorem mem_invalidate {dirId : DirectionId} {requests : List Entry} {e : Entry} :
    e ∈ (invalidateRequestsForDirection dirId requests).1 ↔ e ∈ requests ∧ e.mDirID ≠ dirId := by
  induction requests with
  | nil => simp [invalidateRequestsForDirection]
  | cons a rest ih =>
    unfold invalidateRequestsForDirection
    by_cases ha : a.mDirID = dirId
    · simp only [if_pos ha, ih, List.mem_cons]
      constructor
      · rintro ⟨hm, hne⟩
        exact ⟨Or.inr hm, hne⟩
      · rintro ⟨rfl | hm, hne⟩
        · exact absurd ha hne
        · exact ⟨hm, hne⟩
    · simp only [if_neg ha, List.mem_cons, ih]
      constructor
      · rintro (rfl | ⟨hm, hne⟩)
        · exact ⟨Or.inl rfl, ha⟩
        · exact ⟨Or.inr hm, hne⟩
      · rintro ⟨rfl | hm, hne⟩
        · exact Or.inl rfl
        · exact Or.inr ⟨hm, hne⟩

theorem mem_signalled {dirId : DirectionId} {requests : List Entry} {id : MsgId} :
    id ∈ (invalidateRequestsForDirection dirId requests).2 ↔
      ∃ e ∈ requests, e.mDirID = dirId ∧ e.id = id := by
  induction requests with
  | nil => simp [invalidateRequestsForDirection]
  | cons a rest ih =>
    unfold invalidateRequestsForDirection
    by_cases ha : a.mDirID = dirId
    · simp only [if_pos ha, List.mem_cons, ih]
      constructor
      · rintro (rfl | ⟨e, hm, he⟩)
        · exact ⟨a, Or.inl rfl, ha, rfl⟩
        · exact ⟨e, Or.inr hm, he⟩
      · rintro ⟨e, rfl | hm, hd, hid⟩
        · exact Or.inl hid.symm
        · exact Or.inr ⟨e, hm, hd, hid⟩
    · simp only [if_neg ha, List.mem_cons, ih]
      constructor
      · rintro ⟨e, hm, he⟩
        exact ⟨e, Or.inr hm, he⟩
      · rintro ⟨e, rfl | hm, hd, hid⟩
        · exact absurd hd ha
        · exact ⟨e, hm, hd, hid⟩

theorem invalidate_sublist (dirId : DirectionId) (requests : List Entry) :
    (invalidateRequestsForDirection dirId requests).1.Sublist requests := by
  induction requests with
  | nil => exact List.Sublist.slnil
  | cons a rest ih =>
    unfold invalidateRequestsForDirection
    by_cases ha : a.mDirID = dirId
    · simp only [if_pos ha]
      exact ih.cons a
    · simp only [if_neg ha]
      exact ih.cons_cons a

/-- A connection that is looked up by its direction has that direction. -/
theorem findClientSocket_dirId {mSockets : List CSockInfo} {dirId : DirectionId}
    {info : CSockInfo} (h : findClientSocket mSockets (some dirId) = some info) :
    info.dirId = dirId := by
  have h := List.find?_some h
  simpa using h

/-! ## What is recorded -/

/-- The container and the caller agree about the requests. -/
structure Recorded (s : State) : Prop where
  /-- Ids are keys. -/
  ids : s.requests.Pairwise (fun a b => a.id ≠ b.id)
  /-- The direction a request names is recorded, or 1. -/
  recorded : ∀ e ∈ s.requests, e.mDirID = e.pDirId.getD 1
  /-- A request that names a direction goes out on it. -/
  sent : ∀ e ∈ s.requests, ∀ dirId socket, e.pDirId = some dirId → e.sentOver = some socket →
    socket = dirId
  /-- The caller's own entry. -/
  caller : ∀ c, s.mRequestMutex = some c → ∀ e ∈ s.requests, e.id = c.id → e.pDirId = c.pDirId

theorem Recorded.initial (count : DirectionId) : Recorded (State.initial count) where
  ids := List.Pairwise.nil
  recorded := fun e he => absurd he List.not_mem_nil
  sent := fun e he => absurd he List.not_mem_nil
  caller := fun c hc => by cases hc

/-- Fewer entries, and the same caller or none. -/
theorem Recorded.fewer {s s' : State} (h : Recorded s) (hsub : s'.requests.Sublist s.requests)
    (hcaller : ∀ c, s'.mRequestMutex = some c → s.mRequestMutex = some c) : Recorded s' where
  ids := h.ids.sublist hsub
  recorded := fun e he => h.recorded e (hsub.subset he)
  sent := fun e he => h.sent e (hsub.subset he)
  caller := fun c hc e he => h.caller c (hcaller c hc) e (hsub.subset he)

theorem Recorded.leave {s : State} (h : Recorded s) (id : MsgId) : Recorded (s.leave id) :=
  h.fewer List.filter_sublist fun c hc => by cases hc

/-- A new entry. -/
theorem Recorded.insert {s : State} (h : Recorded s) {id : MsgId} {pDirId : Option DirectionId}
    {requests : List Entry} (hins : Directions.insert s.requests id pDirId = some requests) :
    Recorded { s with requests := requests, mRequestMutex := some ⟨id, pDirId, false⟩ } := by
  unfold Directions.insert at hins
  split at hins
  · cases hins
  · next hnew =>
    have hnew : ∀ e ∈ s.requests, e.id ≠ id := by simpa using hnew
    cases hins
    constructor
    case ids =>
      refine List.pairwise_append.mpr ⟨h.ids, List.pairwise_singleton _ _, ?_⟩
      intro a ha b hb
      rw [List.mem_singleton.mp hb]
      exact hnew a ha
    case recorded =>
      intro e he
      rcases List.mem_append.mp he with he | he
      · exact h.recorded e he
      · rw [List.mem_singleton.mp he]
        cases pDirId <;> rfl
    case sent =>
      intro e he dirId socket hp hover
      rcases List.mem_append.mp he with he | he
      · exact h.sent e he dirId socket hp hover
      · rw [List.mem_singleton.mp he] at hover
        cases hover
    case caller =>
      intro c hc e he hid
      cases hc
      rcases List.mem_append.mp he with he | he
      · exact absurd hid (hnew e he)
      · rw [List.mem_singleton.mp he]

/-- A request that has gone out. -/
theorem Recorded.markSent {s : State} (h : Recorded s) {id : MsgId}
    {pDirId : Option DirectionId} (hc : s.mRequestMutex = some ⟨id, pDirId, false⟩)
    {info : CSockInfo} (hinfo : findClientSocket s.mSockets pDirId = some info) :
    Recorded { s with
      requests := Directions.markSent s.requests id info.dirId
      mRequestMutex := some ⟨id, pDirId, true⟩ } := by
  have hmem : ∀ e ∈ Directions.markSent s.requests id info.dirId, ∃ e₀ ∈ s.requests,
      e = if e₀.id = id then { e₀ with sentOver := some info.dirId } else e₀ := by
    intro e he
    obtain ⟨e₀, he₀, heq⟩ := List.mem_map.mp he
    exact ⟨e₀, he₀, heq.symm⟩
  constructor
  case ids =>
    refine List.pairwise_map.mpr (h.ids.imp ?_)
    intro a b hab
    split <;> split <;> exact hab
  case recorded =>
    intro e he
    obtain ⟨e₀, he₀, rfl⟩ := hmem e he
    split <;> exact h.recorded e₀ he₀
  case sent =>
    intro e he dirId socket hp hover
    obtain ⟨e₀, he₀, rfl⟩ := hmem e he
    split at hp
    · next hid =>
      -- the connection was looked up by the direction the call names
      rw [if_pos hid] at hover
      have hcaller := h.caller _ hc e₀ he₀ hid
      have hp : e₀.pDirId = some dirId := hp
      rw [show (⟨id, pDirId, false⟩ : Caller).pDirId = pDirId from rfl] at hcaller
      rw [← hcaller, hp] at hinfo
      cases hover
      exact findClientSocket_dirId hinfo
    · next hid =>
      rw [if_neg hid] at hover
      exact h.sent e₀ he₀ dirId socket hp hover
  case caller =>
    intro c hc' e he hid
    cases hc'
    obtain ⟨e₀, he₀, rfl⟩ := hmem e he
    split at hid
    · next hid₀ =>
      rw [if_pos hid₀]
      exact h.caller _ hc e₀ he₀ hid₀
    · next hid₀ => exact absurd hid hid₀

theorem recorded_step {s s' : State} {ev : Event} (h : Recorded s) (hs : next s ev = some s') :
    Recorded s' := by
  cases ev with
  | connect sock =>
    simp only [next] at hs
    split at hs <;> cases hs
    exact h.fewer (List.Sublist.refl _) fun c hc => hc
  | accept sock =>
    simp only [next] at hs
    split at hs <;> cases hs
    exact h.fewer (List.Sublist.refl _) fun c hc => hc
  | elsewhere =>
    cases hs
    exact h.fewer (List.Sublist.refl _) fun c hc => hc
  | insert id pDirId =>
    simp only [next] at hs
    split at hs
    · split at hs
      · cases hs
        exact h
      · next hins =>
        cases hs
        exact h.insert hins
    · cases hs
  | send ok =>
    simp only [next] at hs
    split at hs
    · next hc =>
      split at hs
      · cases hs
        exact h.leave _
      · next hinfo =>
        split at hs
        · cases hs
          exact h.markSent hc hinfo
        · cases hs
          exact h.leave _
    · cases hs
  | finish =>
    simp only [next] at hs
    split at hs <;> cases hs
    exact h.leave _
  | close sock =>
    simp only [next] at hs
    split at hs
    · split at hs <;> cases hs
      · exact h
      · exact h.fewer (List.Sublist.refl _) fun c hc => hc
    · cases hs
  | closeAll =>
    simp only [next] at hs
    split at hs <;> cases hs
    exact h.fewer (List.Sublist.refl _) fun c hc => hc
  | connectionLost =>
    simp only [next] at hs
    split at hs <;> cases hs
    exact h.fewer (invalidate_sublist _ _) fun c hc => hc

/-! ## Losses -/

/-- Of the requests that have gone out, the loss of a direction fails and signals exactly those
that went out on it, and leaves exactly the others in the container. -/
def Exact (s : State) : Event → Prop
  | .connectionLost => ∀ dirId rest s', s.closing = dirId :: rest →
    next s .connectionLost = some s' →
    ∃ new, s'.failed = s.failed ++ new ∧ ∀ e ∈ s.requests, ∀ socket, e.sentOver = some socket →
      (e.id ∈ new ↔ socket = dirId) ∧ (e ∈ s'.requests ↔ socket ≠ dirId)
  | _ => True

/-- No request without a direction that went out on another direction than 1 is pending when
that direction is lost, or direction 1. -/
def NoStray (s : State) : Event → Prop
  | .connectionLost => ∀ dirId rest, s.closing = dirId :: rest → ∀ e ∈ s.requests,
    e.pDirId = none → ∀ socket, e.sentOver = some socket → socket ≠ 1 → dirId ≠ 1 ∧ dirId ≠ socket
  | _ => True

/-- An id has one entry. -/
theorem Recorded.unique {s : State} (h : Recorded s) {a b : Entry} (ha : a ∈ s.requests)
    (hb : b ∈ s.requests) (hid : a.id = b.id) : a = b := by
  by_contra hne
  have _ : Std.Symm fun x y : Entry => x.id ≠ y.id := ⟨fun _ _ hxy => hxy.symm⟩
  exact h.ids.forall ha hb hne hid

/-- A loss signals the requests recorded with the direction. -/
theorem Recorded.mem_signalled_iff {s : State} (h : Recorded s) {e : Entry} (he : e ∈ s.requests)
    (dirId : DirectionId) :
    e.id ∈ (invalidateRequestsForDirection dirId s.requests).2 ↔ e.mDirID = dirId := by
  rw [mem_signalled]
  constructor
  · rintro ⟨e', he', hd, hid⟩
    rwa [h.unique he' he hid] at hd
  · intro hd
    exact ⟨e, he, hd, rfl⟩

/-- A request that names its direction has gone out on the one recorded. -/
theorem Recorded.named {s : State} (h : Recorded s) {e : Entry} (he : e ∈ s.requests)
    {dirId socket : DirectionId} (hp : e.pDirId = some dirId) (hover : e.sentOver = some socket) :
    e.mDirID = socket := by
  have hrec := h.recorded e he
  rw [hp, Option.getD_some] at hrec
  rw [hrec, h.sent e he dirId socket hp hover]

/-- A loss is exact if what is recorded agrees with what was used, as far as the direction
lost is concerned. -/
theorem Recorded.exact_iff_agree {s : State} (h : Recorded s) {dirId : DirectionId}
    {rest : List DirectionId} (hc : s.closing = dirId :: rest) :
    Exact s .connectionLost ↔
      ∀ e ∈ s.requests, ∀ socket, e.sentOver = some socket → (e.mDirID = dirId ↔ socket = dirId) := by
  have hnext : next s .connectionLost = some { s with
      closing := rest
      requests := (invalidateRequestsForDirection dirId s.requests).1
      failed := s.failed ++ (invalidateRequestsForDirection dirId s.requests).2 } := by
    unfold next
    rw [hc]
  constructor
  · intro hexact e he socket hover
    obtain ⟨new, hnew, hall⟩ := hexact dirId rest _ hc hnext
    obtain rfl := List.append_cancel_left hnew
    rw [← h.mem_signalled_iff he dirId]
    exact (hall e he socket hover).1
  · intro hagree dirId' rest' s' hc' hs'
    rw [hc] at hc'
    cases hc'
    rw [hnext] at hs'
    cases hs'
    refine ⟨_, rfl, ?_⟩
    intro e he socket hover
    have hiff := hagree e he socket hover
    constructor
    · rw [h.mem_signalled_iff he dirId, hiff]
    · rw [mem_invalidate, Ne, hiff]
      exact ⟨fun hm => hm.2, fun hne => ⟨he, hne⟩⟩

theorem exact_iff {s : State} (h : Recorded s) (ev : Event) : Exact s ev ↔ NoStray s ev := by
  cases ev with
  | connectionLost =>
    cases hc : s.closing with
    | nil =>
      constructor
      · intro _ dirId rest hc'
        rw [hc] at hc'
        cases hc'
      · intro _ dirId rest s' hc'
        rw [hc] at hc'
        cases hc'
    | cons dirId rest =>
      rw [h.exact_iff_agree hc]
      constructor
      · intro hagree dirId' rest' hc' e he hp socket hover hne
        rw [hc] at hc'
        cases hc'
        have hiff := hagree e he socket hover
        have hrec := h.recorded e he
        rw [hp, Option.getD_none] at hrec
        rw [hrec] at hiff
        constructor
        · rintro rfl
          exact hne (hiff.mp rfl)
        · rintro rfl
          exact hne (hiff.mpr rfl).symm
      · intro hstray e he socket hover
        cases hp : e.pDirId with
        | some named => rw [h.named he hp hover]
        | none =>
          have hrec := h.recorded e he
          rw [hp, Option.getD_none] at hrec
          have hfar := hstray dirId rest hc e he hp socket hover
          rw [hrec]
          by_cases hone : socket = 1
          · rw [hone]
          · obtain ⟨hd, hover'⟩ := hfar hone
            exact ⟨fun h1 => absurd h1.symm hd, fun h2 => absurd h2.symm hover'⟩
  | connect _ | accept _ | elsewhere | insert _ _ | send _ | finish | close _ | closeAll =>
    exact Iff.rfl

end IviLink.Ipc.Directions
