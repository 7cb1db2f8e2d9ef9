import IviLink.L0.Peers

/-!
# The rendezvous for one channel

What L1 makes of two requests, one on each side, as a protocol of its own: each side
has a place for the channel (`Slot`), and they exchange three words about it. A word
that finds no buffer on the service channel is never sent. `meetings` are the
situations the two sides can get into. That they get into no other is checked once,
over the list.
-/

namespace IviLink.L1.Rendezvous

open IviLink.L0

/-- What a side has about a channel. -/
inductive Slot
  | idle
  /-- Its client has asked. -/
  | requestedClient
  /-- The other side has asked. -/
  | requestedAgent
  /-- Open, and its client had asked first or at the same time. -/
  | client
  /-- Open, and the other side had asked first. -/
  | agent
  /-- Open on both sides, and the client knows. -/
  | operational
  deriving DecidableEq, Repr

inductive Word
  | request
  | granted
  | refused
  deriving DecidableEq, Repr

def Slot.isOpen : Slot → Bool
  | .client => true
  | .agent => true
  | .operational => true
  | _ => false

/-- A word is sent if there is a buffer for it. -/
def sends (hasBuffer : Bool) (word : Word) : List Word := if hasBuffer then [word] else []

/-- The side's client asks for the channel. -/
def Slot.request (hasBuffer : Bool) : Slot → Slot × List Word
  | .idle => (.requestedClient, sends hasBuffer .request)
  | .requestedAgent => (.agent, sends hasBuffer .request)
  | s => (s, [])

/-- A word arrives. -/
def Slot.receive (hasBuffer : Bool) : Word → Slot → Slot × List Word
  | .request, .idle => (.requestedAgent, [])
  | .request, .requestedClient => (.client, sends hasBuffer .granted)
  | .request, .requestedAgent => (.requestedAgent, [])
  | .request, s => (s, sends hasBuffer .refused)
  | .granted, .client => (.operational, [])
  | .granted, .operational => (.operational, [])
  | .granted, .agent => if hasBuffer then (.operational, [.granted]) else (.idle, [])
  | .granted, _ => (.idle, [])
  | .refused, _ => (.idle, [])

/-- The two sides, and the words on the way to each. -/
structure Meeting where
  own : Slot
  peer : Slot
  toOwn : List Word
  toPeer : List Word
  deriving DecidableEq, Repr

namespace Meeting

/-- The same, seen from the other side. -/
def swap (m : Meeting) : Meeting := ⟨m.peer, m.own, m.toPeer, m.toOwn⟩

@[simp] theorem swap_swap (m : Meeting) : m.swap.swap = m := rfl

/-- The client of this side asks. -/
def request (hasBuffer : Bool) (m : Meeting) : Meeting :=
  { m with
    own := (m.own.request hasBuffer).1
    toPeer := m.toPeer ++ (m.own.request hasBuffer).2 }

/-- The next word on the way to this side arrives. -/
def deliver (hasBuffer : Bool) (m : Meeting) : Meeting :=
  match m.toOwn with
  | [] => m
  | word :: rest =>
    { m with
      own := (m.own.receive hasBuffer word).1
      toOwn := rest
      toPeer := m.toPeer ++ (m.own.receive hasBuffer word).2 }

end Meeting

/-- The situations in which every word was sent. -/
def heard : List Meeting :=
  [⟨.idle, .idle, [], []⟩,
    -- one side has asked
    ⟨.idle, .requestedClient, [.request], []⟩, ⟨.requestedAgent, .requestedClient, [], []⟩,
    -- so has the other, later
    ⟨.agent, .requestedClient, [], [.request]⟩, ⟨.agent, .client, [.granted], []⟩,
    -- or both have before they knew
    ⟨.requestedClient, .requestedClient, [.request], [.request]⟩,
    ⟨.requestedClient, .client, [.request, .granted], []⟩,
    ⟨.client, .client, [.granted], [.granted]⟩,
    -- one client knows, then both do
    ⟨.client, .operational, [.granted], []⟩, ⟨.operational, .operational, [], []⟩]

/-- The situations after some word found no buffer. -/
def unheard : List Meeting :=
  [⟨.requestedClient, .idle, [], []⟩, ⟨.requestedClient, .requestedClient, [], []⟩,
    ⟨.requestedClient, .requestedClient, [.request], []⟩, ⟨.agent, .requestedClient, [], []⟩,
    ⟨.requestedClient, .client, [.request], []⟩, ⟨.requestedClient, .client, [], []⟩,
    ⟨.requestedClient, .client, [.granted], []⟩, ⟨.requestedClient, .client, [.refused], []⟩,
    ⟨.requestedClient, .client, [], [.request]⟩,
    ⟨.idle, .client, [], []⟩, ⟨.agent, .client, [], []⟩, ⟨.client, .client, [], []⟩,
    ⟨.client, .client, [.granted], []⟩, ⟨.client, .operational, [], []⟩]

/-- A situation of the list, from either side. -/
def Among (l : List Meeting) (m : Meeting) : Prop := m ∈ l ∨ m.swap ∈ l

instance (l : List Meeting) : DecidablePred (Among l) := fun m =>
  inferInstanceAs (Decidable (m ∈ l ∨ m.swap ∈ l))

def meetings : List Meeting := heard ++ unheard

theorem Among.swap {l : List Meeting} {m : Meeting} (h : Among l m) : Among l m.swap :=
  Or.symm h

/-- What holds of all situations of a list and of their counterparts holds of all among it. -/
theorem Among.all {l : List Meeting} {P : Meeting → Prop}
    (h : ∀ m ∈ l, P m ∧ P m.swap) {m : Meeting} (hm : Among l m) : P m := by
  rcases hm with hm | hm
  · exact (h m hm).1
  · exact (h m.swap hm).2

/-- **The two sides get into no other situation**, whatever words find no buffer. -/
theorem meetings_closed (hasBuffer : Bool) {m : Meeting} (h : Among meetings m) :
    Among meetings (m.request hasBuffer) ∧ Among meetings (m.deliver hasBuffer) :=
  Among.all (P := fun m => Among meetings (m.request hasBuffer)
    ∧ Among meetings (m.deliver hasBuffer)) (by cases hasBuffer <;> decide +kernel) h

/-- Nor into one of the second kind, as long as every word is sent. -/
theorem heard_closed {m : Meeting} (h : Among heard m) :
    Among heard (m.request true) ∧ Among heard (m.deliver true) :=
  Among.all (P := fun m => Among heard (m.request true) ∧ Among heard (m.deliver true))
    (by decide) h

/-- A side that knows of a request does not hear another. -/
theorem requestedAgent_waits {m : Meeting} (h : Among meetings m)
    (hword : m.toOwn.head? = some .request) : m.own ≠ .requestedAgent :=
  Among.all (P := fun m => m.toOwn.head? = some .request → m.own ≠ .requestedAgent) (by decide)
    h hword

/-- A client that knows stays so. -/
theorem operational_stays {m : Meeting} (h : Among meetings m) (ho : m.own = .operational)
    (hasBuffer : Bool) : (m.request hasBuffer).own = .operational
      ∧ (m.deliver hasBuffer).own = .operational :=
  Among.all (P := fun m => m.own = .operational → (m.request hasBuffer).own = .operational
    ∧ (m.deliver hasBuffer).own = .operational) (by cases hasBuffer <;> decide +kernel) h ho

/-- **What one client knows to be open is open on the other side.** -/
theorem operational_agreed {m : Meeting} (h : Among meetings m) (ho : m.own = .operational) :
    m.peer.isOpen = true :=
  Among.all (P := fun m => m.own = .operational → m.peer.isOpen = true) (by decide) h ho

/-- Where every word was sent the other client knows too, once it has heard them. -/
theorem heard_agreed {m : Meeting} (h : Among heard m) (ho : m.own = .operational)
    (hword : m.toPeer = []) : m.peer = .operational :=
  Among.all (P := fun m => m.own = .operational → m.toPeer = [] → m.peer = .operational)
    (by decide) h ho hword

theorem heard_sub {m : Meeting} (h : Among heard m) : Among meetings m :=
  h.imp (List.mem_append_left _) (List.mem_append_left _)

end IviLink.L1.Rendezvous
