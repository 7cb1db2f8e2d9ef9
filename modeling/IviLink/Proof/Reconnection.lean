import IviLink.Hal.CConnectivityAgent
import IviLink.Lib.Run
import IviLink.Proof.Allocator

/-!
# Connecting again

The first connection works: the manager is made, the service channel is allocated and
the carrier unlocked. A second one does not: a replaced carrier is never unlocked, and
a new manager asks for a service channel that is still registered. So what holds of the
service path holds as long as nothing is connected twice.
-/

namespace IviLink.Hal.CConnectivityAgent

open IviLink.L1
open IviLink.Lib

variable {ι : Type}

/-! ## A working service path -/

/-- Frames that come over the carrier in use are handed on, and the service channel is there for
them, once on each level. -/
structure Working (a : CConnectivityAgent ι) : Prop where
  carrier : ∃ c, a.getCurrentCarrierAdapter = some c ∧ c.mIsFrameProcessingAllowed = true
    ∧ c.mpFrameReceiver = true
  registered : a.stub.mL1ChannelRegistry CA_SERVICE_CHANNEL ≠ none
  opened : ∃ l, a.stub.channelAllocator.mpL0Interface = some l ∧ l.IsOpen CA_SERVICE_CHANNEL

/-- What holds of every agent: adapters come locked, and there is a manager or a connection only
after the service channel was allocated. -/
structure Regular (a : CConnectivityAgent ι) : Prop where
  locked : ∀ i c, (a.mFinders i).mpAdapter = some c → c.mIsFrameProcessingAllowed = false
  first : a.stub.mL1ChannelRegistry CA_SERVICE_CHANNEL = none →
    a.mpManager = none ∧ a.mConnectionEstablished = false

theorem regular_init : Regular (init : CConnectivityAgent ι) where
  locked := fun _ _ h => absurd h (by simp [init, CConnectionFinder.init])
  first := fun _ => ⟨rfl, rfl⟩

/-! ## Handshakes -/

theorem onConnected_eq {a : CConnectivityAgent ι} {stub : L1InterfaceStub} {c : Carrier}
    (hs : a.stub.OnConnected = some stub) (hc : a.getCurrentCarrierAdapter = some c) :
    a.onConnected = some ({ a with stub := stub }.atCarrier Carrier.unlockFrameProcessing) := by
  rw [onConnected, hs]
  dsimp only
  rw [hc]

/-- A manager that is made while the service channel is registered ends in an assertion. -/
theorem onConnected_again {a : CConnectivityAgent ι} (pAdapter : Carrier)
    (hr : a.stub.mL1ChannelRegistry CA_SERVICE_CHANNEL ≠ none) :
    (a.newManager pAdapter).onConnected = none := by
  have hassert : (a.newManager pAdapter).stub.OnConnected = none := by
    simp [newManager, L1InterfaceStub.OnConnected, L1InterfaceStub.allocateChannelLocally, hr]
  rw [onConnected, hassert]

/-- The first manager gets a working service path. -/
theorem onConnected_first {a : CConnectivityAgent ι} (pAdapter : Carrier)
    (hr : a.stub.mL1ChannelRegistry CA_SERVICE_CHANNEL = none) :
    ∃ a', (a.newManager pAdapter).onConnected = some a' ∧ a'.Working
      ∧ a'.mFinders = a.mFinders := by
  have hclosed : CChannelAllocator.Serves ⟨some .init⟩ fun _ => False :=
    ⟨.init, rfl, fun c => ⟨False.elim, fun _ => L0.L0Interface.init_isClosed c⟩⟩
  obtain ⟨hresult, l, hl, hserves⟩ :=
    hclosed.allocateChannel CA_SERVICE_CHANNEL id .safetyCritical
  have hstub : (a.newManager pAdapter).stub.OnConnected
      = some { (a.newManager pAdapter).stub with
          channelAllocator := (CChannelAllocator.allocateChannel ⟨some .init⟩ .safetyCritical
            CA_SERVICE_CHANNEL).1
          mL1ChannelRegistry := Function.update a.stub.mL1ChannelRegistry CA_SERVICE_CHANNEL
            (some ⟨.transitionClient, .safetyCritical, -1⟩) } := by
    simp [newManager, L1InterfaceStub.OnConnected, L1InterfaceStub.allocateChannelLocally, hr,
      hresult, ConnectivityAgentError.isNoError]
  refine ⟨_, onConnected_eq hstub rfl, ⟨?_, ?_, l, hl, (hserves _).1 (.inl rfl)⟩, rfl⟩
  · exact ⟨pAdapter.registerFrameReceiver.unlockFrameProcessing, rfl, rfl, rfl⟩
  · show Function.update a.stub.mL1ChannelRegistry CA_SERVICE_CHANNEL _ CA_SERVICE_CHANNEL ≠ none
    rw [Function.update_self]
    exact Option.some_ne_none _

section Handshake

variable {a : CConnectivityAgent ι} (pAdapter : Carrier)

theorem initAdapterHandshake_first (hm : a.mpManager = none)
    (hr : a.stub.mL1ChannelRegistry CA_SERVICE_CHANNEL = none) :
    ∃ a', a.initAdapterHandshake (some pAdapter) .noError = some (a', .noError) ∧ a'.Working
      ∧ a'.mFinders = a.mFinders := by
  obtain ⟨a', ha', hworking, hfinders⟩ :=
    onConnected_first (a := { a with mGenderType := pAdapter.mGenderType }) pAdapter hr
  refine ⟨a', ?_, hworking, hfinders⟩
  rw [initAdapterHandshake, if_pos (show ConnectivityAgentError.noError.isNoError = true from rfl)]
  dsimp only
  split
  · rw [ha']
    rfl
  · rename_i hsome
    exact absurd (hsome.symm.trans hm) (by simp)

/-- Any later handshake ends in an assertion or leaves a locked carrier. -/
theorem initAdapterHandshake_again
    (hr : a.stub.mL1ChannelRegistry CA_SERVICE_CHANNEL ≠ none) :
    a.initAdapterHandshake (some pAdapter) .noError = none
      ∨ ∃ a', a.initAdapterHandshake (some pAdapter) .noError = some (a', .noError)
        ∧ a'.getCurrentCarrierAdapter = some pAdapter.registerFrameReceiver
        ∧ a'.mFinders = a.mFinders ∧ a'.stub.mL1ChannelRegistry = a.stub.mL1ChannelRegistry := by
  rw [initAdapterHandshake, if_pos (show ConnectivityAgentError.noError.isNoError = true from rfl)]
  dsimp only
  split
  · left
    rw [onConnected_again (a := { a with mGenderType := pAdapter.mGenderType }) pAdapter hr]
    rfl
  · exact .inr ⟨_, rfl, rfl, rfl, rfl⟩

theorem initAdapterHandshake_fails {pAdapter : Option Carrier}
    {handshakeResult : ConnectivityAgentError}
    (h : pAdapter = none ∨ handshakeResult.isNoError = false) :
    ∃ result, a.initAdapterHandshake pAdapter handshakeResult = some (a, result)
      ∧ result.isNoError = false := by
  cases pAdapter with
  | none => exact ⟨_, rfl, rfl⟩
  | some pAdapter =>
    have hresult := h.resolve_left (by simp)
    exact ⟨_, by rw [initAdapterHandshake, if_neg (by simp [hresult])], hresult⟩

end Handshake

/-! ## Steps -/

variable [DecidableEq ι]

/-- A finder's report is taken up, and the handshake with its adapter succeeds. -/
def Succeeds (a : CConnectivityAgent ι) : Event ι → Prop
  | .connectionFound i handshakeResult => (a.mFinders i).mState = .waitAck
      ∧ a.mConnectionEstablished = false ∧ (a.mFinders i).mpAdapter ≠ none
      ∧ handshakeResult.isNoError = true
  | _ => False

/-- No assertion fails, and after a handshake that succeeds the service path works. -/
def Restores (a : CConnectivityAgent ι) (e : Event ι) : Prop :=
  ∃ a', a.step e = some a' ∧ (a.Succeeds e → a'.Working)

/-- No finder reports while there is a connection, and no handshake succeeds once the service
channel is registered. -/
def Once (a : CConnectivityAgent ι) : Event ι → Prop
  | .connectionFound i handshakeResult => (a.mFinders i).mState = .waitAck →
      a.mConnectionEstablished = false
      ∧ (a.Succeeds (.connectionFound i handshakeResult) →
        a.stub.mL1ChannelRegistry CA_SERVICE_CHANNEL = none)
  | _ => True

/-- The agent has taken the adapter a finder has found. -/
def taken (a : CConnectivityAgent ι) (i : ι) : CConnectivityAgent ι :=
  { a with mFinders := Function.update a.mFinders i { a.mFinders i with mpAdapter := none } }

/-- A report that is taken up, up to the handshake. -/
theorem connectionFound_eq {a : CConnectivityAgent ι} {i : ι}
    (hw : (a.mFinders i).mState = .waitAck) (he : a.mConnectionEstablished = false)
    (handshakeResult : ConnectivityAgentError) :
    a.connectionFound i handshakeResult
      = match (a.taken i).initAdapterHandshake (a.mFinders i).mpAdapter handshakeResult with
        | none => none
        | some (a, result) =>
          if result.isNoError then
            some { a with
              mConnectionEstablished := true
              mFinders := fun i => (a.mFinders i).stopSearch }
          else
            some { a with
              mFinders := Function.update a.mFinders i (a.mFinders i).continueSearch } := by
  rw [connectionFound, if_pos hw, if_neg (by simp [he])]
  dsimp only
  rw [CConnectionFinder.getConnectedAdapter, if_pos hw]
  rfl

theorem connectionFound_iff {a : CConnectivityAgent ι} (h : Regular a) (i : ι)
    (handshakeResult : ConnectivityAgentError) :
    a.Restores (.connectionFound i handshakeResult)
      ↔ a.Once (.connectionFound i handshakeResult) := by
  by_cases hw : (a.mFinders i).mState = .waitAck
  swap
  · refine ⟨fun _ hw' => absurd hw' hw, fun _ => ⟨a, ?_, fun hs => absurd hs.1 hw⟩⟩
    rw [step, connectionFound, if_neg hw]
  cases he : a.mConnectionEstablished with
  | true =>
    constructor
    · rintro ⟨a', hstep, -⟩
      rw [step, connectionFound, if_pos hw, if_pos he] at hstep
      exact absurd hstep (by simp)
    · intro honce
      exact absurd ((honce hw).1.symm.trans he) (by simp)
  | false =>
    by_cases hs : a.Succeeds (.connectionFound i handshakeResult)
    · obtain ⟨-, -, hadapter, hresult⟩ := id hs
      obtain ⟨pAdapter, hadapter⟩ := Option.ne_none_iff_exists'.mp hadapter
      obtain rfl := of_decide_eq_true hresult
      by_cases hr : a.stub.mL1ChannelRegistry CA_SERVICE_CHANNEL = none
      · refine ⟨fun _ _ => ⟨he, fun _ => hr⟩, fun _ => ?_⟩
        obtain ⟨a', ha', hworking, -⟩ := initAdapterHandshake_first pAdapter
          (a := a.taken i) (h.first hr).1 hr
        refine ⟨{ a' with
          mConnectionEstablished := true
          mFinders := fun i => (a'.mFinders i).stopSearch }, ?_, fun _ => ?_⟩
        · rw [step, connectionFound_eq hw he, hadapter, ha']
          rfl
        · exact ⟨hworking.carrier, hworking.registered, hworking.opened⟩
      · refine ⟨fun hrestores => ?_, fun honce => absurd ((honce hw).2 hs) hr⟩
        obtain ⟨a'', hstep, hworking⟩ := hrestores
        rw [step, connectionFound_eq hw he, hadapter] at hstep
        have hlocked := h.locked i pAdapter hadapter
        rcases initAdapterHandshake_again pAdapter (a := a.taken i) hr with
          hnone | ⟨a', ha', hcarrier, -⟩
        · rw [hnone] at hstep
          exact absurd hstep (by simp)
        · rw [ha'] at hstep
          obtain rfl := Option.some.inj hstep
          obtain ⟨c, hc, hallowed, -⟩ := (hworking hs).carrier
          have heq : pAdapter.registerFrameReceiver = c :=
            Option.some.inj (hcarrier.symm.trans hc)
          rw [← heq] at hallowed
          exact absurd (hallowed.symm.trans hlocked) (by simp)
    · refine ⟨fun _ _ => ⟨he, fun hs' => absurd hs' hs⟩, fun _ => ?_⟩
      have hfails : (a.mFinders i).mpAdapter = none ∨ handshakeResult.isNoError = false := by
        by_contra hno
        rw [not_or, Bool.not_eq_false] at hno
        exact hs ⟨hw, he, hno⟩
      obtain ⟨result, hinit, hresult⟩ := initAdapterHandshake_fails (a := a.taken i) hfails
      refine ⟨{ a.taken i with
        mFinders := Function.update (a.taken i).mFinders i
          ((a.taken i).mFinders i).continueSearch }, ?_, fun hs' => absurd hs' hs⟩
      rw [step, connectionFound_eq hw he, hinit]
      dsimp only
      rw [if_neg (by simp [hresult])]

/-- **A step restores the service path exactly if it connects nothing twice.** -/
theorem restores_iff {a : CConnectivityAgent ι} (h : Regular a) (e : Event ι) :
    a.Restores e ↔ a.Once e := by
  cases e with
  | connectionFound i handshakeResult => exact connectionFound_iff h i handshakeResult
  | threadFunc => exact ⟨fun _ => trivial, fun _ => ⟨_, rfl, False.elim⟩⟩
  | setReady i gender => exact ⟨fun _ => trivial, fun _ => ⟨_, rfl, False.elim⟩⟩
  | onConnectionProblem => exact ⟨fun _ => trivial, fun _ => ⟨_, rfl, False.elim⟩⟩
  | breaks => exact ⟨fun _ => trivial, fun _ => ⟨_, rfl, False.elim⟩⟩

/-- One finder changes. -/
theorem locked_update {fs : ι → CConnectionFinder} {i : ι} {f : CConnectionFinder}
    (h : ∀ j c, (fs j).mpAdapter = some c → c.mIsFrameProcessingAllowed = false)
    (hf : ∀ c, f.mpAdapter = some c → c.mIsFrameProcessingAllowed = false) :
    ∀ j c, (Function.update fs i f j).mpAdapter = some c → c.mIsFrameProcessingAllowed = false := by
  intro j c hc
  by_cases hj : j = i
  · subst hj
    rw [Function.update_self] at hc
    exact hf c hc
  · rw [Function.update_of_ne hj] at hc
    exact h j c hc

theorem taken_locked {a : CConnectivityAgent ι} (h : Regular a) (i : ι) :
    ∀ j c, ((a.taken i).mFinders j).mpAdapter = some c → c.mIsFrameProcessingAllowed = false :=
  locked_update h.locked fun _ hc => absurd hc (by simp)

theorem connectionFound_regular {a a' : CConnectivityAgent ι} {i : ι}
    {handshakeResult : ConnectivityAgentError} (h : Regular a)
    (hstep : a.connectionFound i handshakeResult = some a') : Regular a' := by
  by_cases hw : (a.mFinders i).mState = .waitAck
  swap
  · rw [connectionFound, if_neg hw] at hstep
    exact Option.some.inj hstep ▸ h
  cases he : a.mConnectionEstablished with
  | true =>
    rw [connectionFound, if_pos hw, if_pos he] at hstep
    exact absurd hstep (by simp)
  | false =>
    rw [connectionFound_eq hw he] at hstep
    -- after a success the service channel is registered, and every finder has stopped
    have hsuccess : ∀ a'' : CConnectivityAgent ι, a''.mFinders = (a.taken i).mFinders →
        a''.stub.mL1ChannelRegistry CA_SERVICE_CHANNEL ≠ none →
        Regular { a'' with
          mConnectionEstablished := true
          mFinders := fun i => (a''.mFinders i).stopSearch } := by
      intro a'' hfinders hr
      refine ⟨fun j c hc => taken_locked h i j c ?_, fun hn => absurd hn hr⟩
      rw [← hfinders, ← CConnectionFinder.stopSearch_mpAdapter]
      exact hc
    by_cases hfails : (a.mFinders i).mpAdapter = none ∨ handshakeResult.isNoError = false
    · obtain ⟨result, hinit, hresult⟩ := initAdapterHandshake_fails (a := a.taken i) hfails
      rw [hinit] at hstep
      dsimp only at hstep
      rw [if_neg (by simp [hresult])] at hstep
      obtain rfl := Option.some.inj hstep
      refine ⟨locked_update (taken_locked h i) fun c hc => taken_locked h i i c ?_, h.first⟩
      rwa [CConnectionFinder.continueSearch_mpAdapter] at hc
    · rw [not_or, Bool.not_eq_false] at hfails
      obtain ⟨pAdapter, hadapter⟩ := Option.ne_none_iff_exists'.mp hfails.1
      obtain rfl := of_decide_eq_true hfails.2
      rw [hadapter] at hstep
      by_cases hr : a.stub.mL1ChannelRegistry CA_SERVICE_CHANNEL = none
      · obtain ⟨a'', ha'', hworking, hfinders⟩ := initAdapterHandshake_first
          pAdapter (a := a.taken i) (h.first hr).1 hr
        rw [ha''] at hstep
        exact Option.some.inj hstep ▸ hsuccess a'' hfinders hworking.registered
      · rcases initAdapterHandshake_again pAdapter (a := a.taken i) hr with
          hnone | ⟨a'', ha'', -, hfinders, hreg⟩
        · rw [hnone] at hstep
          exact absurd hstep (by simp)
        · rw [ha''] at hstep
          exact Option.some.inj hstep ▸ hsuccess a'' hfinders fun hn => hr (hreg ▸ hn)

theorem regular_step {a a' : CConnectivityAgent ι} {e : Event ι} (h : Regular a)
    (hstep : a.step e = some a') : Regular a' := by
  cases e with
  | connectionFound i handshakeResult => exact connectionFound_regular h hstep
  | threadFunc =>
    obtain rfl := Option.some.inj hstep
    rw [threadFunc]
    split
    · exact ⟨fun i c hc => h.locked i c (by simpa using hc), h.first⟩
    · split
      · exact ⟨h.locked, fun hn => ⟨(h.first hn).1, rfl⟩⟩
      · exact h
  | setReady i gender =>
    obtain rfl := Option.some.inj hstep
    refine ⟨locked_update h.locked fun c hc => ?_, h.first⟩
    obtain ⟨g, -, rfl⟩ := Option.map_eq_some_iff.mp hc
    rfl
  | onConnectionProblem =>
    obtain rfl := Option.some.inj hstep
    rw [onConnectionProblem, disconnect]
    split
    · exact ⟨h.locked, h.first⟩
    · exact ⟨h.locked, fun hn => ⟨rfl, (h.first hn).2⟩⟩
  | breaks =>
    obtain rfl := Option.some.inj hstep
    refine ⟨h.locked, fun hn => ⟨?_, (h.first hn).2⟩⟩
    show a.mpManager.map _ = none
    rw [(h.first hn).1]
    rfl

/-- **The service path works after every connection exactly if nothing is connected twice.** In
any run of handshakes, losses and disconnects. -/
theorem reconnection_works (es : List (Event ι)) :
    Along step Restores (init : CConnectivityAgent ι) es ↔ Along step Once init es :=
  along_iff (fun _ e h => restores_iff h e) (fun _ _ _ h hs => regular_step h hs) regular_init

/-- A finder looks for a connection and finds one. -/
def finds : List (Event Unit) := [.threadFunc, .setReady () (some .clientGender)]

/-- The report of the finder, and a handshake that succeeds. -/
def reports : Event Unit := .connectionFound () .noError

/-- **After a loss the new carrier is in use and locked.** After a disconnect the next report or,
if the loss was noticed before, the next handshake that succeeds ends in an assertion. -/
theorem second_connection_fails :
    (∃ a, run step init (finds ++ [reports, .breaks, .threadFunc] ++ finds) = some a
      ∧ a.Succeeds reports ∧ ¬ a.Restores reports)
    ∧ run step init (finds ++ [reports, .onConnectionProblem] ++ finds ++ [reports]) = none
    ∧ run step init (finds ++ [reports, .breaks, .threadFunc, .onConnectionProblem] ++ finds
      ++ [reports]) = none := by
  refine ⟨?_, rfl, rfl⟩
  have hrun : ∃ a, run step init (finds ++ [reports, .breaks, .threadFunc] ++ finds) = some a
      ∧ a.Succeeds reports ∧ (a.step reports).map getCurrentCarrierAdapter
        = some (some ⟨false, false, true, .clientGender⟩) :=
    ⟨_, rfl, ⟨rfl, rfl, by decide, rfl⟩, rfl⟩
  obtain ⟨a, hr, hs, hlocked⟩ := hrun
  refine ⟨a, hr, hs, ?_⟩
  rintro ⟨a', hstep, hworking⟩
  obtain ⟨c, hc, hallowed, -⟩ := (hworking hs).carrier
  rw [hstep, Option.map_some, hc] at hlocked
  rw [Option.some.inj (Option.some.inj hlocked)] at hallowed
  exact absurd hallowed (by decide)

end IviLink.Hal.CConnectivityAgent
