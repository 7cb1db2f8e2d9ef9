import IviLink.Ipc.Socket
import IviLink.Lib.Run
import Mathlib.Data.List.Basic

/-!
# The clients a stub tells about a lost carrier

`L1InterfaceStub` enters the direction of each client that connects in the vector
`mClientDirections`, and goes through the vector when the carrier is lost. When a
client is lost `std::remove` is called and what it returns is dropped: the elements
that stay are moved to the front, and the vector keeps its length, with what was
behind them. So the vector is never shorter than what has connected, and one loss
is enough for it to differ from the clients that are there, for good.

What is connected is what the callbacks of `CIpc` say: a direction id is taken by
one client at a time, and lost only while it is there.
-/

namespace IviLink.L1

open IviLink.Ipc (DirectionId)
open IviLink.Lib

/-- The part of the stub that is about its clients. -/
structure ClientDirections where
  mClientDirections : List DirectionId
  connected : List DirectionId
  /-- For each loss of the carrier the directions connected then, and the directions that
  `E_CONNECTION_LOST_NTF` was sent to. -/
  notified : List (List DirectionId × List DirectionId)
  deriving DecidableEq, Repr

namespace ClientDirections

def init : ClientDirections := ⟨[], [], []⟩

/-- What a range holds after `std::remove`. -/
def stdRemove (l : List DirectionId) (dirId : DirectionId) : List DirectionId :=
  l.filter (· ≠ dirId) ++ l.drop (l.filter (· ≠ dirId)).length

def OnConnection (s : ClientDirections) (dirId : DirectionId) : ClientDirections :=
  { s with mClientDirections := s.mClientDirections ++ [dirId] }

def OnConnectionLost (s : ClientDirections) (dirId : DirectionId) : ClientDirections :=
  { s with mClientDirections := stdRemove s.mClientDirections dirId }

/-- One `asyncRequest` for each element. -/
def OnDisconnected (s : ClientDirections) : ClientDirections :=
  { s with notified := s.notified ++ [(s.connected, s.mClientDirections)] }

inductive Event
  | OnConnection (dirId : DirectionId)
  | OnConnectionLost (dirId : DirectionId)
  | OnDisconnected
  deriving DecidableEq, Repr

def step (s : ClientDirections) : Event → Option ClientDirections
  | .OnConnection dirId =>
    if dirId ∈ s.connected then none
    else some { s.OnConnection dirId with connected := s.connected ++ [dirId] }
  | .OnConnectionLost dirId =>
    if dirId ∈ s.connected then
      some { s.OnConnectionLost dirId with connected := s.connected.erase dirId }
    else none
  | .OnDisconnected => some s.OnDisconnected

/-- The vector holds each connected direction once and no other, and so did what was told
whenever the carrier was lost. -/
structure Mirrors (s : ClientDirections) : Prop where
  directions : s.mClientDirections.Perm s.connected
  told : ∀ r ∈ s.notified, r.2.Perm r.1

instance : DecidablePred Mirrors := fun s =>
  decidable_of_iff (s.mClientDirections.Perm s.connected ∧ ∀ r ∈ s.notified, r.2.Perm r.1)
    ⟨fun h => ⟨h.1, h.2⟩, fun h => ⟨h.directions, h.told⟩⟩

variable {s s' : ClientDirections} {e : Event}

/-! ## The vector never gets shorter -/

theorem length_stdRemove (l : List DirectionId) (dirId : DirectionId) :
    (stdRemove l dirId).length = l.length := by
  have hle : (l.filter (· ≠ dirId)).length ≤ l.length := List.length_filter_le _ l
  rw [stdRemove, List.length_append, List.length_drop]
  omega

theorem length_step (h : step s e = some s') :
    s.connected.length ≤ s.mClientDirections.length →
      s'.connected.length ≤ s'.mClientDirections.length := by
  intro hle
  cases e with
  | OnConnection dirId =>
    rw [step] at h
    split at h
    · cases h
    · cases h
      simp only [OnConnection, List.length_append, List.length_singleton]
      omega
  | OnConnectionLost dirId =>
    rw [step] at h
    split at h
    · next hmem =>
      cases h
      simp only [OnConnectionLost, length_stdRemove, List.length_erase_of_mem hmem]
      omega
    · cases h
  | OnDisconnected =>
    cases h
    exact hle

/-- More elements than clients. -/
def Outgrown (s : ClientDirections) : Prop := s.connected.length < s.mClientDirections.length

theorem outgrown_of_lost {dirId : DirectionId}
    (hle : s.connected.length ≤ s.mClientDirections.length)
    (h : step s (.OnConnectionLost dirId) = some s') : s'.Outgrown := by
  rw [step] at h
  split at h
  · next hmem =>
    cases h
    have hpos : 0 < s.connected.length := List.length_pos_of_mem hmem
    simp only [Outgrown, OnConnectionLost, length_stdRemove, List.length_erase_of_mem hmem]
    omega
  · cases h

theorem outgrown_step (h : step s e = some s') (hout : s.Outgrown) : s'.Outgrown := by
  cases e with
  | OnConnection dirId =>
    rw [step] at h
    split at h
    · cases h
    · cases h
      simp only [Outgrown, OnConnection, List.length_append, List.length_singleton] at hout ⊢
      omega
  | OnConnectionLost dirId => exact outgrown_of_lost (Nat.le_of_lt hout) h
  | OnDisconnected =>
    cases h
    exact hout

theorem Outgrown.not_mirrors (h : s.Outgrown) : ¬ s.Mirrors := by
  intro hm
  have hlen := hm.directions.length_eq
  rw [Outgrown] at h
  omega

/-! ## As long as no client is lost -/

theorem mirrors_step (hm : s.Mirrors) (he : ∀ dirId, e ≠ .OnConnectionLost dirId)
    (h : step s e = some s') : s'.Mirrors := by
  cases e with
  | OnConnection dirId =>
    rw [step] at h
    split at h
    · cases h
    · cases h
      exact ⟨hm.directions.append_right [dirId], hm.told⟩
  | OnConnectionLost dirId => exact absurd rfl (he dirId)
  | OnDisconnected =>
    cases h
    refine ⟨hm.directions, ?_⟩
    intro r hr
    rcases List.mem_append.mp hr with hr | hr
    · exact hm.told r hr
    · rw [List.mem_singleton.mp hr]
      exact hm.directions

/-- **The vector mirrors the clients exactly until one is lost**, whatever connects, is lost and
is told in between. -/
theorem mirrors_iff {es : List Event} {s : ClientDirections} (h : run step init es = some s) :
    s.Mirrors ↔ ∀ dirId, .OnConnectionLost dirId ∉ es := by
  constructor
  · intro hm dirId hmem
    have hslips : ¬ Along step (fun _ e => ∀ dirId, e ≠ .OnConnectionLost dirId) init es := by
      intro halong
      exact halong.forall_mem h _ hmem dirId rfl
    have hout : s.Outgrown :=
      run_of_not_along (I := fun t => t.connected.length ≤ t.mClientDirections.length)
        (fun _ _ _ hle ht => length_step ht hle)
        (fun t e t' hle he ht => by
          obtain ⟨lost, hlost⟩ := not_forall_not.mp he
          exact outgrown_of_lost hle (hlost ▸ ht))
        (fun _ _ _ _ hout ht => outgrown_step ht hout) (Nat.le_refl 0) h hslips
    exact hout.not_mirrors hm
  · intro hnone
    refine run_invariant (P := fun _ e => ∀ dirId, e ≠ .OnConnectionLost dirId)
      (fun _ _ _ hm he ht => mirrors_step hm he ht) ⟨List.Perm.refl _, ?_⟩
      (along_of_mem ?_) h
    · intro r hr
      exact absurd hr List.not_mem_nil
    · rintro e he - dirId rfl
      exact hnone dirId he

/-- Two clients come, and the carrier is lost. -/
theorem mirrors_iff_two :
    Mirrors ⟨[1, 2], [1, 2], [([1, 2], [1, 2])]⟩ := by
  have hrun : run step init [.OnConnection 1, .OnConnection 2, .OnDisconnected]
      = some ⟨[1, 2], [1, 2], [([1, 2], [1, 2])]⟩ := rfl
  refine (mirrors_iff hrun).mpr ?_
  intro dirId
  simp

/-- The first of two clients is lost: the other one is told twice. -/
theorem client_told_twice :
    run step init [.OnConnection 1, .OnConnection 2, .OnConnectionLost 1, .OnDisconnected]
        = some ⟨[2, 2], [2], [([2], [2, 2])]⟩
      ∧ ¬ ∀ (es : List Event) (s : ClientDirections), run step init es = some s → s.Mirrors := by
  refine ⟨rfl, ?_⟩
  intro h
  have hm := h [.OnConnection 1, .OnConnection 2, .OnConnectionLost 1, .OnDisconnected] _ rfl
  revert hm
  decide

end ClientDirections

end IviLink.L1
