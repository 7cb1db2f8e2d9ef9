import IviLink.ProfileManager.Roles

/-!
# Two managers end up with different roles

The two links deliver in order, so what a manager has compared, what it keeps and
what is on the way to it make up, in this order, all that the other one has drawn
(`heard`). A manager draws again only after a comparison that did not tell the two
apart, and not at all once one did (`Phase`). So the numbers compared with each
other have the same place on both sides, the side that decides first has nothing
more on the way to it, and the other one decides by the same two numbers.
-/

namespace IviLink.ProfileManager

open IviLink.L0 (Side)
open IviLink.Lib

/-- The numbers drawn, in order. -/
def drawn (notes : List Note) : List UInt32 :=
  notes.filterMap fun
    | .drew number => some number
    | .compared _ _ => none

/-- The comparisons made, in order. -/
def compared (notes : List Note) : List (UInt32 × UInt32) :=
  notes.filterMap fun
    | .drew _ => none
    | .compared mRoleNubmer number => some (mRoleNubmer, number)

@[simp] theorem drawn_append (ns ns' : List Note) : drawn (ns ++ ns') = drawn ns ++ drawn ns' :=
  List.filterMap_append

@[simp] theorem compared_append (ns ns' : List Note) :
    compared (ns ++ ns') = compared ns ++ compared ns' :=
  List.filterMap_append

@[simp] theorem onGot_send (number : UInt32) :
    onGotNegotiateNuber (sendNegotiateNumber number) = number := by
  rw [onGotNegotiateNuber, sendNegotiateNumber, List.take_of_length_le (by simp), ofLE32_le32,
    swap32_swap32]

theorem RoleNumber.val_ne (r : RoleNumber) : r.val ≠ -1 := by
  intro h
  have hb := r.bounded
  rw [h] at hb
  revert hb
  decide

/-- The role that a comparison of two different numbers gives. -/
def roleOf (mine theirs : UInt32) : Role :=
  if mine > theirs then .PMP_ROLE_MASTER else .PMP_ROLE_SLAVE

theorem roleOf_ne_none (mine theirs : UInt32) : roleOf mine theirs ≠ .PMP_ROLE_NONE := by
  unfold roleOf
  split <;> exact Role.noConfusion

/-- The other side gets the other role. -/
theorem roleOf_swap {mine theirs : UInt32} (h : mine ≠ theirs) :
    (roleOf mine theirs = .PMP_ROLE_MASTER ∧ roleOf theirs mine = .PMP_ROLE_SLAVE) ∨
      (roleOf theirs mine = .PMP_ROLE_MASTER ∧ roleOf mine theirs = .PMP_ROLE_SLAVE) := by
  unfold roleOf
  by_cases hgt : mine > theirs
  · exact Or.inl ⟨if_pos hgt, if_neg (UInt32.lt_asymm hgt)⟩
  · have hlt : theirs > mine :=
      UInt32.lt_of_le_of_ne (UInt32.not_lt.mp hgt) h
    exact Or.inr ⟨if_pos hlt, if_neg hgt⟩

/-! ## One manager -/

/-- How far a manager is, by what it has drawn and compared. -/
inductive Phase (m : PmpComponentManager) (ds : List UInt32) (cs : List (UInt32 × UInt32)) : Prop
  | waiting (done : m.mInitializationDone = false) (role : m.mRole = .PMP_ROLE_NONE)
      (number : m.mRoleNubmer = -1) (draws : ds = []) (compares : cs = [])
  /-- It waits for a number to compare the last one it drew with. -/
  | drawing (done : m.mInitializationDone = true) (role : m.mRole = .PMP_ROLE_NONE)
      (number : m.mRoleNubmer ≠ -1) (draws : ds = cs.map Prod.fst ++ [m.mRoleNubmer])
      (ties : ∀ c ∈ cs, c.1 = c.2)
  | decided (earlier : List (UInt32 × UInt32)) (mine theirs : UInt32)
      (done : m.mInitializationDone = true) (role : m.mRole = roleOf mine theirs)
      (number : m.mRoleNubmer ≠ -1) (draws : ds = cs.map Prod.fst)
      (compares : cs = earlier ++ [(mine, theirs)]) (ties : ∀ c ∈ earlier, c.1 = c.2)
      (differ : mine ≠ theirs)

/-- The number that came too early, if one did. -/
def PmpComponentManager.kept (m : PmpComponentManager) : List UInt32 :=
  if m.mRoleNubmer = -1 ∧ m.mOtherRoleNumber ≠ -1 then [m.mOtherRoleNumber] else []

variable {m : PmpComponentManager} {ds : List UInt32} {cs : List (UInt32 × UInt32)}

theorem PmpComponentManager.kept_eq_nil (h : m.mRoleNubmer ≠ -1) : m.kept = [] :=
  if_neg fun hm => h hm.1

theorem Phase.fst_initial (h : Phase m ds cs) : cs.map Prod.fst <+: ds := by
  cases h with
  | waiting _ _ _ draws compares => simp [draws, compares]
  | drawing _ _ _ draws _ =>
    rw [draws]
    exact List.prefix_append ..
  | decided _ _ _ _ _ _ draws _ _ _ => exact draws ▸ List.prefix_refl _

theorem Phase.length_le (h : Phase m ds cs) : ds.length ≤ cs.length + 1 := by
  cases h with
  | waiting _ _ _ draws compares =>
    rw [draws]
    exact Nat.zero_le _
  | drawing _ _ _ draws _ =>
    rw [draws, List.length_append, List.length_map, List.length_singleton]
  | decided _ _ _ _ _ _ draws _ _ _ =>
    rw [draws, List.length_map]
    omega

/-- A manager that has a number to compare compares it with the one that comes. -/
theorem Phase.onNegotiateRole (done : m.mInitializationDone = true)
    (role : m.mRole = .PMP_ROLE_NONE) (number : m.mRoleNubmer ≠ -1)
    (draws : ds = cs.map Prod.fst ++ [m.mRoleNubmer]) (ties : ∀ c ∈ cs, c.1 = c.2)
    (next : RoleNumber) (n : UInt32) :
    let r := m.onNegotiateRole next n
    Phase r.state (ds ++ drawn r.told) (cs ++ compared r.told) ∧
      compared r.told = [(m.mRoleNubmer, n)] ∧ r.state.mRoleNubmer ≠ -1 ∧
      r.sent.map onGotNegotiateNuber = drawn r.told ∧ ∀ d ∈ drawn r.told, d ≠ -1 := by
  by_cases htie : m.mRoleNubmer = n
  · have hr : m.onNegotiateRole next n =
        ⟨{ m with mRoleNubmer := next.val }, [sendNegotiateNumber next.val],
          [.compared m.mRoleNubmer n, .drew next.val]⟩ := by
      rw [PmpComponentManager.onNegotiateRole, if_neg number, if_pos htie]
      rfl
    rw [hr]
    refine ⟨.drawing done role next.val_ne ?_ ?_, rfl, next.val_ne, ?_, ?_⟩
    · simp [drawn, compared, draws]
    · intro c hc
      rcases List.mem_append.mp hc with hc | hc
      · exact ties c hc
      · rw [List.mem_singleton.mp hc]
        exact htie
    · simp [drawn]
    · intro d hd
      rw [List.mem_singleton.mp hd]
      exact next.val_ne
  · have hr : m.onNegotiateRole next n =
        ⟨{ m with mRole := roleOf m.mRoleNubmer n }, [], [.compared m.mRoleNubmer n]⟩ := by
      rw [PmpComponentManager.onNegotiateRole, if_neg number, if_neg htie]
      rfl
    rw [hr]
    refine ⟨.decided cs m.mRoleNubmer n done rfl number ?_ rfl ties htie, rfl, number, rfl, ?_⟩
    · simp [drawn, compared, draws]
    · exact fun d hd => absurd hd List.not_mem_nil

/-! ## Both -/

/-- What holds of two managers. -/
structure Negotiation (w : PmpComponentManagers) : Prop where
  phase : ∀ i, Phase (w.state i) (drawn (w.told i)) (compared (w.told i))
  heard : ∀ i, drawn (w.told i.other) = (compared (w.told i)).map Prod.snd ++ (w.state i).kept
    ++ (w.link i).map onGotNegotiateNuber
  valid : ∀ i, ∀ n ∈ drawn (w.told i), n ≠ -1

theorem Negotiation.init : Negotiation PmpComponentManagers.init where
  phase := fun _ => .waiting rfl rfl rfl rfl rfl
  heard := fun _ => rfl
  valid := fun _ _ hn => absurd hn List.not_mem_nil

variable {w w' : PmpComponentManagers} {i : Side}

theorem Negotiation.snd_initial (h : Negotiation w) (i : Side) :
    (compared (w.told i)).map Prod.snd <+: drawn (w.told i.other) := by
  rw [h.heard i, List.append_assoc]
  exact List.prefix_append ..

theorem Negotiation.compared_length_le (h : Negotiation w) (i : Side) :
    (compared (w.told i)).length ≤ (drawn (w.told i.other)).length := by
  have hle := (h.snd_initial i).length_le
  rwa [List.length_map] at hle

/-- The numbers compared with each other have the place of the comparison on both sides. -/
theorem Negotiation.getElem (h : Negotiation w) {k : Nat} {mine theirs : UInt32}
    (hc : (compared (w.told i))[k]? = some (mine, theirs)) :
    (drawn (w.told i))[k]? = some mine ∧ (drawn (w.told i.other))[k]? = some theirs := by
  have hfst : ((compared (w.told i)).map Prod.fst)[k]? = some mine := by
    rw [List.getElem?_map, hc]
    rfl
  have hsnd : ((compared (w.told i)).map Prod.snd)[k]? = some theirs := by
    rw [List.getElem?_map, hc]
    rfl
  have hinitial : ∀ {l l' : List UInt32} {n : UInt32}, l <+: l' → l[k]? = some n →
      l'[k]? = some n := by
    intro l l' n hl hn
    obtain ⟨hk, rfl⟩ := List.getElem?_eq_some_iff.mp hn
    exact List.prefix_iff_getElem?.mp hl k hk
  exact ⟨hinitial (h.phase i).fst_initial hfst, hinitial (h.snd_initial i) hsnd⟩

/-- Both sides have compared as many numbers as the side that has decided. -/
theorem Negotiation.nothing_more (h : Negotiation w) {earlier : List (UInt32 × UInt32)}
    {mine theirs : UInt32} (draws : drawn (w.told i) = (compared (w.told i)).map Prod.fst)
    (compares : compared (w.told i) = earlier ++ [(mine, theirs)]) (differ : mine ≠ theirs) :
    (drawn (w.told i.other)).length = (compared (w.told i)).length := by
  have hlast : (compared (w.told i))[earlier.length]? = some (mine, theirs) := by
    rw [compares]
    exact List.getElem?_concat_length ..
  have hlen : (compared (w.told i)).length = earlier.length + 1 := by
    rw [compares, List.length_append, List.length_singleton]
  have hown : (drawn (w.told i)).length = earlier.length + 1 := by
    rw [draws, List.length_map, hlen]
  have hle := h.compared_length_le i
  have hle' := h.compared_length_le i.other
  rw [Side.other_other] at hle'
  obtain ⟨hmine, htheirs⟩ := h.getElem hlast
  cases h.phase i.other with
  | waiting _ _ _ draws' _ =>
    rw [draws'] at hle
    simp only [List.length_nil] at hle
    omega
  | decided _ _ _ _ _ _ draws' _ _ _ =>
    rw [draws', List.length_map] at hle ⊢
    omega
  | drawing _ _ _ draws' ties =>
    rw [draws', List.length_append, List.length_map, List.length_singleton] at hle ⊢
    by_contra hmore
    -- the comparison of the same two numbers there would have been a tie
    obtain ⟨c, hc⟩ : ∃ c, (compared (w.told i.other))[earlier.length]? = some c :=
      ⟨_, List.getElem?_eq_getElem (by omega)⟩
    have hpair : (compared (w.told i.other))[earlier.length]? = some (c.1, c.2) := hc
    obtain ⟨htheirs', hmine'⟩ := h.getElem hpair
    rw [Side.other_other] at hmine'
    have htie := ties c (List.mem_of_getElem? hc)
    apply differ
    rw [← Option.some.inj (hmine.symm.trans hmine').symm,
      ← Option.some.inj (htheirs.symm.trans htheirs').symm, htie]

/-- A manager reacts: to what, and what has to be known of the reaction. -/
theorem Negotiation.react (h : Negotiation w) {rest : List (List UInt8)}
    {r : PmpComponentManager.Done}
    (phase : Phase r.state (drawn (w.told i) ++ drawn r.told) (compared (w.told i) ++ compared r.told))
    (sent : r.sent.map onGotNegotiateNuber = drawn r.told)
    (heard : (w.state i).kept ++ (w.link i).map onGotNegotiateNuber
      = (compared r.told).map Prod.snd ++ r.state.kept ++ rest.map onGotNegotiateNuber)
    (valid : ∀ d ∈ drawn r.told, d ≠ -1) :
    Negotiation (({ w with link := Function.update w.link i rest } :
      PmpComponentManagers).react Side.other i r) := by
  have hne : i ≠ i.other := fun heq => i.other_ne heq.symm
  constructor
  case phase =>
    intro j
    rcases Side.eq_or i j with rfl | rfl
    · rw [Duplex.react_state_self, Duplex.react_told_self, drawn_append, compared_append]
      exact phase
    · rw [Duplex.react_state_ne _ _ _ i.other_ne, Duplex.react_told_ne _ _ _ i.other_ne]
      exact h.phase i.other
  case heard =>
    intro j
    rcases Side.eq_or i j with rfl | rfl
    · have hrest : ({ w with link := Function.update w.link j rest } :
          PmpComponentManagers).link j = rest := Function.update_self ..
      rw [Duplex.react_told_ne _ _ _ j.other_ne, Duplex.react_told_self, Duplex.react_state_self,
        Duplex.react_link_ne _ _ _ hne, hrest, compared_append, List.map_append,
        List.append_assoc, List.append_assoc, ← List.append_assoc _ r.state.kept, ← heard,
        ← List.append_assoc]
      exact h.heard j
    · have hrest : ({ w with link := Function.update w.link i rest } :
          PmpComponentManagers).link i.other = w.link i.other :=
        Function.update_of_ne i.other_ne ..
      rw [Side.other_other, Duplex.react_told_self, Duplex.react_told_ne _ _ _ i.other_ne,
        Duplex.react_state_ne _ _ _ i.other_ne, Duplex.react_link_peer, hrest, drawn_append,
        List.map_append, sent, ← List.append_assoc]
      have hother := h.heard i.other
      rw [Side.other_other] at hother
      exact congrArg (· ++ drawn r.told) hother
  case valid =>
    intro j n hn
    rcases Side.eq_or i j with rfl | rfl
    · rw [Duplex.react_told_self, drawn_append] at hn
      rcases List.mem_append.mp hn with hn | hn
      · exact h.valid j n hn
      · exact valid n hn
    · rw [Duplex.react_told_ne _ _ _ i.other_ne] at hn
      exact h.valid i.other n hn

theorem Negotiation.endInitialization (h : Negotiation w) (first second : RoleNumber) :
    Negotiation (w.react Side.other i ((w.state i).endInitialization first second)) := by
  have hsame : w = { w with link := Function.update w.link i (w.link i) } := by
    rw [Function.update_eq_self]
  have hdone : (w.state i).mInitializationDone = true →
      Negotiation (w.react Side.other i ((w.state i).endInitialization first second)) := by
    intro hd
    rw [PmpComponentManager.endInitialization, if_pos hd, Duplex.react_nothing]
    exact h
  cases h.phase i with
  | drawing done _ _ _ _ => exact hdone done
  | decided _ _ _ done _ _ _ _ _ _ => exact hdone done
  | waiting done role number draws compares =>
    rw [hsame]
    set n : PmpComponentManager :=
      { w.state i with mInitializationDone := true, mRoleNubmer := first.val } with hn
    by_cases hother : (w.state i).mOtherRoleNumber = -1
    · have hr : (w.state i).endInitialization first second =
          ⟨n, [sendNegotiateNumber first.val], [.drew first.val]⟩ := by
        rw [PmpComponentManager.endInitialization, if_neg (by rw [done]; exact Bool.noConfusion)]
        exact if_neg fun hne => hne hother
      have hkept : (w.state i).kept = [] := if_neg fun hm => hm.2 hother
      rw [hr]
      apply h.react
      · refine .drawing rfl role first.val_ne ?_ ?_
        · rw [draws, compares]
          rfl
        · rw [compares]
          exact fun c hc => absurd hc List.not_mem_nil
      · simp [drawn]
      · rw [hkept]
        simp [compared, PmpComponentManager.kept_eq_nil (m := n) first.val_ne]
      · intro d hd
        rw [List.mem_singleton.mp hd]
        exact first.val_ne
    · -- the number kept is compared at once
      obtain ⟨hphase, hcompared, hnumber, hsent, hvalid⟩ :=
        @Phase.onNegotiateRole n [first.val] [] rfl role first.val_ne rfl
          (fun c hc => absurd hc List.not_mem_nil) second (w.state i).mOtherRoleNumber
      set r' := n.onNegotiateRole second (w.state i).mOtherRoleNumber with hr'
      have hr : (w.state i).endInitialization first second =
          ⟨r'.state, [sendNegotiateNumber first.val] ++ r'.sent, [.drew first.val] ++ r'.told⟩ := by
        rw [PmpComponentManager.endInitialization, if_neg (by rw [done]; exact Bool.noConfusion)]
        exact if_pos hother
      have hkept : (w.state i).kept = [(w.state i).mOtherRoleNumber] := if_pos ⟨number, hother⟩
      rw [hr]
      apply h.react
      · rw [draws, compares, drawn_append, compared_append]
        exact hphase
      · rw [List.map_append, drawn_append, hsent]
        simp [drawn]
      · rw [hkept, compared_append, hcompared, PmpComponentManager.kept_eq_nil hnumber]
        simp [compared]
      · intro d hd
        rw [drawn_append] at hd
        rcases List.mem_append.mp hd with hd | hd
        · rw [List.mem_singleton.mp hd]
          exact first.val_ne
        · exact hvalid d hd

theorem Negotiation.deliver (h : Negotiation w) (next : RoleNumber) {data : List UInt8}
    {rest : List (List UInt8)} (hlink : w.link i = data :: rest) :
    Negotiation (({ w with link := Function.update w.link i rest } : PmpComponentManagers).react
      Side.other i ((w.state i).onNegotiateRole next (onGotNegotiateNuber data))) := by
  have hheard := h.heard i
  rw [hlink, List.map_cons] at hheard
  cases h.phase i with
  | waiting done role number draws compares =>
    -- one number may come early, not two: the other side would have compared one of this side's
    have hfirst : (w.state i).mOtherRoleNumber = -1 := by
      by_contra hkept
      have hle := h.compared_length_le i.other
      have hone := (h.phase i.other).length_le
      rw [Side.other_other, draws, List.length_nil] at hle
      rw [hheard, compares, PmpComponentManager.kept, if_pos ⟨number, hkept⟩] at hone
      simp only [List.map_nil, List.nil_append, List.length_append, List.length_cons,
        List.length_nil] at hone
      omega
    have hvalid : onGotNegotiateNuber data ≠ -1 := by
      apply h.valid i.other
      rw [hheard]
      exact List.mem_append_right _ List.mem_cons_self
    have hr : (w.state i).onNegotiateRole next (onGotNegotiateNuber data) =
        ⟨{ w.state i with mOtherRoleNumber := onGotNegotiateNuber data }, [], []⟩ := if_pos number
    rw [hr]
    apply h.react
    · refine .waiting done role number ?_ ?_
      · rw [draws]
        rfl
      · rw [compares]
        rfl
    · rfl
    · have hbefore : (w.state i).kept = [] := if_neg fun hm => hm.2 hfirst
      have hafter : ({ w.state i with mOtherRoleNumber := onGotNegotiateNuber data } :
          PmpComponentManager).kept = [onGotNegotiateNuber data] := if_pos ⟨number, hvalid⟩
      rw [hbefore, hlink, hafter]
      rfl
    · exact fun d hd => absurd hd List.not_mem_nil
  | drawing done role number draws ties =>
    obtain ⟨hphase, hcompared, hnumber, hsent, hvalid⟩ :=
      Phase.onNegotiateRole done role number draws ties next (onGotNegotiateNuber data)
    refine h.react hphase hsent ?_ hvalid
    rw [PmpComponentManager.kept_eq_nil number, PmpComponentManager.kept_eq_nil hnumber, hlink,
      hcompared]
    rfl
  | decided earlier mine theirs done role number draws compares ties differ =>
    have hlen := h.nothing_more draws compares differ
    rw [hheard] at hlen
    simp only [List.length_append, List.length_map, List.length_cons] at hlen
    omega

/-- Nothing comes to a manager that has a role. -/
theorem Negotiation.link_eq_nil (h : Negotiation w) (hrole : (w.state i).mRole ≠ .PMP_ROLE_NONE) :
    w.link i = [] := by
  cases h.phase i with
  | waiting _ role _ _ _ => exact absurd role hrole
  | drawing _ role _ _ _ => exact absurd role hrole
  | decided _ _ _ _ _ number draws compares _ differ =>
    have hlen := h.nothing_more draws compares differ
    rw [h.heard i, PmpComponentManager.kept_eq_nil number] at hlen
    simp only [List.append_nil, List.length_append, List.length_map] at hlen
    exact List.eq_nil_of_length_eq_zero (by omega)

theorem Negotiation.done_of_role (h : Negotiation w)
    (hrole : (w.state i).mRole ≠ .PMP_ROLE_NONE) : (w.state i).mInitializationDone = true := by
  cases h.phase i with
  | waiting _ role _ _ _ => exact absurd role hrole
  | drawing done _ _ _ _ => exact done
  | decided _ _ _ done _ _ _ _ _ _ => exact done

/-- A role once obtained stays. -/
theorem Negotiation.role_step {a : PmpComponentManagers.Action} (h : Negotiation w)
    (hs : PmpComponentManagers.step w a = some w')
    (hrole : (w.state i).mRole ≠ .PMP_ROLE_NONE) : (w'.state i).mRole = (w.state i).mRole := by
  cases Duplex.step_cases hs with
  | @act j r _ hr =>
    obtain rfl := Option.some.inj hr
    by_cases hij : i = j
    · subst hij
      rw [Duplex.react_state_self, PmpComponentManager.endInitialization,
        if_pos (h.done_of_role hrole)]
    · rw [Duplex.react_state_ne _ _ _ hij]
  | @deliver j next data rest _ hlink hr =>
    have hij : i ≠ j := by
      rintro rfl
      rw [h.link_eq_nil hrole] at hlink
      cases hlink
    rw [Duplex.react_state_ne _ _ _ hij]

/-- Once nothing is on the way any more both managers have decided, by the same two numbers. -/
theorem Negotiation.roles (h : Negotiation w) (hdone : ∀ i, (w.state i).mInitializationDone = true)
    (hlink : ∀ i, w.link i = []) :
    ∃ i : Side, (w.state i).mRole = .PMP_ROLE_MASTER ∧
      (w.state i.other).mRole = .PMP_ROLE_SLAVE := by
  have hheard : ∀ i : Side, (drawn (w.told i.other)).length = (compared (w.told i)).length := by
    intro i
    have hnumber : (w.state i).mRoleNubmer ≠ -1 := by
      cases h.phase i with
      | waiting done _ _ _ _ => exact absurd (done.symm.trans (hdone i)) Bool.noConfusion
      | drawing _ _ number _ _ => exact number
      | decided _ _ _ _ _ number _ _ _ _ => exact number
    rw [h.heard i, PmpComponentManager.kept_eq_nil hnumber, hlink i]
    simp
  have ha := hheard .a
  have hb := hheard .b
  have hle : ∀ i, (compared (w.told i)).length ≤ (drawn (w.told i)).length := by
    intro i
    have hle := (h.phase i).fst_initial.length_le
    rwa [List.length_map] at hle
  have hlea := hle .a
  have hleb := hle .b
  simp only [Side.other] at ha hb
  cases h.phase .a with
  | waiting done _ _ _ _ => exact absurd (done.symm.trans (hdone .a)) Bool.noConfusion
  | drawing _ _ _ draws _ =>
    rw [draws, List.length_append, List.length_map, List.length_singleton] at hb
    omega
  | decided earlier mine theirs _ role _ draws compares _ differ =>
    cases h.phase .b with
    | waiting done _ _ _ _ => exact absurd (done.symm.trans (hdone .b)) Bool.noConfusion
    | drawing _ _ _ draws' _ =>
      rw [draws', List.length_append, List.length_map, List.length_singleton] at ha
      omega
    | decided earlier' mine' theirs' _ role' _ _ compares' _ _ =>
      have hlast : (compared (w.told .a))[earlier.length]? = some (mine, theirs) := by
        rw [compares]
        exact List.getElem?_concat_length ..
      have hsame : earlier'.length = earlier.length := by
        have hlen := congrArg List.length compares
        have hlen' := congrArg List.length compares'
        rw [List.length_append, List.length_singleton] at hlen hlen'
        omega
      have hlast' : (compared (w.told .b))[earlier.length]? = some (mine', theirs') := by
        rw [compares', ← hsame]
        exact List.getElem?_concat_length ..
      obtain ⟨hmine, htheirs⟩ := h.getElem hlast
      obtain ⟨hmine', htheirs'⟩ := h.getElem hlast'
      obtain rfl := Option.some.inj (htheirs.symm.trans hmine')
      obtain rfl := Option.some.inj (htheirs'.symm.trans hmine)
      rcases roleOf_swap differ with ⟨hmaster, hslave⟩ | ⟨hmaster, hslave⟩
      · exact ⟨.a, role.trans hmaster, role'.trans hslave⟩
      · exact ⟨.b, role'.trans hmaster, role.trans hslave⟩

theorem negotiation_step {a : PmpComponentManagers.Action} (h : Negotiation w)
    (hs : PmpComponentManagers.step w a = some w') : Negotiation w' := by
  cases Duplex.step_cases hs with
  | act hr =>
    obtain rfl := Option.some.inj hr
    exact h.endInitialization ..
  | deliver hlink hr =>
    obtain rfl := Option.some.inj hr
    exact h.deliver _ hlink

theorem negotiation_run {as : List PmpComponentManagers.Action}
    (h : run PmpComponentManagers.step .init as = some w) : Negotiation w :=
  run_invariant (P := fun _ _ => True) (fun _ _ _ hn _ hs => negotiation_step hn hs)
    Negotiation.init (along_of_mem fun _ _ _ => trivial) h

/-- **The negotiation ends with one master**: in any order of the two initialisations and of the
deliveries, and whatever is drawn. Each side compares its k-th number with the k-th number of the
other side; when both sides are initialised and nothing is on the way one of them is the master
and the other one the slave; and a side that has a role keeps it. -/
theorem one_master {as : List PmpComponentManagers.Action}
    (h : run PmpComponentManagers.step .init as = some w) :
    (∀ (i : Side) (k : Nat) (mine theirs : UInt32),
        (compared (w.told i))[k]? = some (mine, theirs) →
          (drawn (w.told i))[k]? = some mine ∧ (drawn (w.told i.other))[k]? = some theirs) ∧
      ((∀ i, (w.state i).mInitializationDone = true) → (∀ i, w.link i = []) →
        ∃ i : Side, (w.state i).mRole = .PMP_ROLE_MASTER ∧
          (w.state i.other).mRole = .PMP_ROLE_SLAVE) ∧
      ∀ (bs : List PmpComponentManagers.Action) (w' : PmpComponentManagers) (i : Side),
        run PmpComponentManagers.step w bs = some w' →
          (w.state i).mRole ≠ .PMP_ROLE_NONE → (w'.state i).mRole = (w.state i).mRole := by
  have hn := negotiation_run h
  refine ⟨fun i k mine theirs hc => hn.getElem hc, hn.roles, ?_⟩
  intro bs w' i hr hrole
  have hkeep := run_invariant (P := fun _ _ => True)
    (I := fun v => Negotiation v ∧ (v.state i).mRole = (w.state i).mRole)
    (fun v a v' hv _ hs => ⟨negotiation_step hv.1 hs,
      (hv.1.role_step hs (hv.2 ▸ hrole)).trans hv.2⟩)
    ⟨hn, rfl⟩ (along_of_mem fun _ _ _ => trivial) hr
  exact hkeep.2

def five : RoleNumber := ⟨5, by decide, by decide⟩
def seven : RoleNumber := ⟨7, by decide, by decide⟩
def nine : RoleNumber := ⟨9, by decide, by decide⟩

/-- A tie: side `b` ends its initialisation when the number of the other side, 5, is there already
and draws 5 as well, then 9; the other side draws 7. -/
def tie : List PmpComponentManagers.Action :=
  [.act .a (five, five), .deliver .b five, .act .b (five, nine), .deliver .a seven,
    .deliver .a five, .deliver .b five]

theorem one_master_tie :
    ∃ w, run PmpComponentManagers.step .init tie = some w ∧
      compared (w.told .a) = [(5, 5), (7, 9)] ∧
      ∃ i : Side, (w.state i).mRole = .PMP_ROLE_MASTER ∧
        (w.state i.other).mRole = .PMP_ROLE_SLAVE := by
  have hends : (run PmpComponentManagers.step .init tie).map (fun w =>
      (w.state .a).mInitializationDone && (w.state .b).mInitializationDone &&
        decide (w.link .a = [] ∧ w.link .b = [] ∧ compared (w.told .a) = [(5, 5), (7, 9)]))
      = some true := by
    decide +kernel
  obtain ⟨w, hw, hends⟩ := Option.map_eq_some_iff.mp hends
  simp only [Bool.and_eq_true, decide_eq_true_eq] at hends
  obtain ⟨⟨hdonea, hdoneb⟩, hlinka, hlinkb, hcompared⟩ := hends
  refine ⟨w, hw, hcompared, (one_master hw).2.1 ?_ ?_⟩
  · rintro (_ | _)
    exacts [hdonea, hdoneb]
  · rintro (_ | _)
    exacts [hlinka, hlinkb]

end IviLink.ProfileManager
