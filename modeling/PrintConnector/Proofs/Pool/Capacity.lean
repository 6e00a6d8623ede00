import PrintConnector.Proofs.Pool.Balance

namespace PrintConnector.Pool

variable {limits : Limits} {pool next : Pool} {who ticket : Nat} {broken : Bool}

theorem Balanced.arrive (balanced : Balanced limits 0 pool)
    (stepped : pool.arrive? who = some next) : Balanced limits 0 next := by
  unfold arrive? at stepped
  split at stepped
  · contradiction
  · rename_i absent
    split at stepped
    · cases stepped
      exact balanced
    · split at stepped
      · rename_i free
        cases stepped
        exact balanced.enter absent (Nat.sub_add_cancel free) rfl rfl fun _ => rfl
      · rename_i full
        cases stepped
        exact balanced.enter absent rfl rfl rfl fun free => absurd free full

theorem Balanced.proceed (balanced : Balanced limits 0 pool)
    (stepped : pool.proceed? who = some next) : Balanced limits 0 next := by
  unfold proceed? at stepped
  split at stepped
  · rename_i waits
    split at stepped
    · contradiction
    · cases stepped
      exact balanced.dismiss waits rfl
  · rename_i called
    split at stepped
    · cases stepped
      exact balanced.moveTo called 0 rfl (.inr (Nat.le_refl 1)) (fun _ => rfl) rfl rfl
    · cases stepped
      exact balanced.dismiss_handSlot called rfl rfl
  · contradiction

/-- The session that was parked last goes from the shelf into a hand. -/
theorem Balanced.look (balanced : Balanced limits 0 pool)
    (stepped : pool.look? who = some next) : Balanced limits 0 next := by
  unfold look? at stepped
  split at stepped
  · rename_i ticket session rest admitted shelf
    cases stepped
    have idle : pool.idle = rest.length + 1 := by simp [idle, shelf]
    have onShelf (serial : Nat) : pool.onShelf serial =
        Roster.tally rest (fun session => session.serial = serial) +
          (decide (session.serial = serial)).toNat := by
      rw [onShelf, shelf]
      exact Roster.tally_cons _
    have tickets := balanced.tickets
    have tickets_lt := balanced.tickets_lt
    rw [shelf, List.map_cons] at tickets tickets_lt
    refine balanced.exchange admitted 0 rfl rfl (.inr ?_) ?_ ?_ (List.pairwise_cons.mp tickets).2
      (fun ticket member => tickets_lt ticket (List.mem_cons_of_mem _ member))
      (fun isOpen free => ⟨isOpen, free⟩) rfl ?_
    · change rest.length + pool.free + 1 + 0 + 0 ≤ pool.idle + pool.free + 0 + 0 + 0
      omega
    · intro serial
      change (decide (session.serial = serial)).toNat + Roster.tally rest _ +
        pool.closed.count serial + pool.timesOpened serial =
          0 + pool.onShelf serial + pool.closed.count serial + pool.timesOpened serial
      rw [onShelf]
      omega
    · change 1 + rest.length + pool.closed.length + pool.opened =
        0 + pool.idle + pool.closed.length + pool.opened
      omega
    · intro isSealed
      rw [balanced.emptied isSealed] at shelf
      contradiction
  · rename_i admitted shelf
    cases stepped
    exact balanced.moveTo admitted 0 rfl (.inl shelf) (fun _ => rfl) rfl rfl
  · contradiction

theorem Balanced.connected (balanced : Balanced limits 0 pool)
    (stepped : pool.connected? who = some next) : Balanced limits 0 next := by
  unfold connected? at stepped
  split at stepped
  · rename_i connects
    cases stepped
    refine balanced.exchange connects 0 rfl rfl (.inr (Nat.le_refl _)) ?_ ?_ balanced.tickets
      balanced.tickets_lt (fun isOpen free => ⟨isOpen, free⟩) rfl balanced.emptied
    · intro serial
      change (decide (pool.opened = serial)).toNat + pool.onShelf serial +
        pool.closed.count serial + (if serial < pool.opened then 1 else 0) =
          0 + pool.onShelf serial + pool.closed.count serial +
            (if serial < pool.opened + 1 then 1 else 0)
      by_cases newest : pool.opened = serial
      · subst newest
        simp only [decide_true, Bool.toNat_true, Nat.lt_irrefl, if_false, Nat.lt_succ_self, if_true]
        omega
      · have same : serial < pool.opened + 1 ↔ serial < pool.opened := by omega
        simp [newest, same]
    · change 1 + pool.idle + pool.closed.length + pool.opened =
        0 + pool.idle + pool.closed.length + (pool.opened + 1)
      omega
  · contradiction

theorem Balanced.withdraw (balanced : Balanced limits 0 pool)
    (stepped : pool.withdraw? who = some next) : Balanced limits 0 next := by
  unfold withdraw? at stepped
  split at stepped
  · rename_i waits
    cases stepped
    exact balanced.dismiss waits rfl
  · rename_i called
    cases stepped
    exact balanced.dismiss_handSlot called rfl rfl
  · rename_i admitted
    cases stepped
    exact balanced.dismiss_handSlot admitted rfl rfl
  · rename_i connects
    cases stepped
    exact balanced.dismiss_handSlot connects rfl rfl
  · contradiction

theorem Balanced.judge (balanced : Balanced limits 0 pool)
    (stepped : pool.judge? who broken = some next) : Balanced limits 0 next := by
  unfold judge? at stepped
  split at stepped
  · rename_i borrows
    cases stepped
    exact balanced.moveTo borrows 0 rfl (.inr (Nat.le_refl 0)) (fun _ => rfl) rfl rfl
  · contradiction

theorem Balanced.renew (balanced : Balanced limits 0 pool)
    (stepped : pool.renew? who = some next) : Balanced limits 0 next := by
  unfold renew? at stepped
  split at stepped
  · rename_i borrows
    cases stepped
    exact balanced.moveTo borrows 0 rfl (.inr (Nat.le_refl 0)) (fun _ => rfl) rfl rfl
  · contradiction

/-- The session in hand is closed or goes to the shelf under a new ticket. -/
theorem Balanced.giveBack (balanced : Balanced limits 0 pool)
    (stepped : pool.giveBack? who = some next) : Balanced limits 0 next := by
  unfold giveBack? at stepped
  split at stepped
  · rename_i session broken borrows
    split at stepped
    · cases stepped
      refine balanced.exchange borrows 0 rfl rfl (.inr (Nat.le_refl _)) ?_ ?_ balanced.tickets
        balanced.tickets_lt (fun isOpen free => ⟨isOpen, free⟩) rfl balanced.emptied
      · intro serial
        change 0 + pool.onShelf serial + (pool.closed ++ [session.serial]).count serial +
          pool.timesOpened serial = (decide (session.serial = serial)).toNat +
            pool.onShelf serial + pool.closed.count serial + pool.timesOpened serial
        rw [List.count_append, List.count_singleton]
        by_cases same : session.serial = serial
        · simp only [same, BEq.rfl, if_true, decide_true, Bool.toNat_true]
          omega
        · simp only [same, beq_iff_eq, if_false, decide_false, Bool.toNat_false]
          omega
      · change 0 + pool.idle + (pool.closed ++ [session.serial]).length + pool.opened =
          1 + pool.idle + pool.closed.length + pool.opened
        rw [List.length_append, List.length_singleton]
        omega
    · rename_i kept
      cases stepped
      refine balanced.exchange borrows 0 rfl rfl (.inr ?_) ?_ ?_ ?_ ?_
        (fun isOpen free => ⟨isOpen, free⟩) rfl fun isSealed => ?_
      · change pool.parked.length + 1 + pool.free + 0 + 0 + 0 ≤
          pool.parked.length + pool.free + 0 + 1 + 0
        omega
      · intro serial
        change 0 + Roster.tally ((pool.nextTicket, session) :: pool.parked) _ +
          pool.closed.count serial + pool.timesOpened serial =
            (decide (session.serial = serial)).toNat + pool.onShelf serial +
              pool.closed.count serial + pool.timesOpened serial
        rw [Roster.tally_cons, onShelf]
        omega
      · change 0 + (pool.parked.length + 1) + pool.closed.length + pool.opened =
          1 + pool.parked.length + pool.closed.length + pool.opened
        omega
      · exact List.pairwise_cons.mpr ⟨balanced.tickets_lt, balanced.tickets⟩
      · intro ticket member
        rcases List.mem_cons.mp member with rfl | older
        · exact Nat.lt_succ_self _
        · exact Nat.lt_succ_of_lt (balanced.tickets_lt ticket older)
      · simp_all
  · contradiction

theorem Balanced.freeSlot (balanced : Balanced limits 0 pool)
    (stepped : pool.freeSlot? who = some next) : Balanced limits 0 next := by
  unfold freeSlot? at stepped
  split at stepped
  · rename_i emptied
    cases stepped
    exact balanced.dismiss_handSlot emptied rfl rfl
  · rename_i ticket parked
    cases stepped
    have loosened : Balanced limits 1 (pool.moveTo who (.leaving ticket)) :=
      balanced.moveTo parked 1 rfl (.inr (Nat.le_refl 1)) (fun _ => rfl) rfl rfl
    exact loosened.handSlot
  · contradiction

/-- The reapers are not in the accounts. -/
theorem Balanced.withReapers (balanced : Balanced limits 0 pool) (reapers : Roster Nat) :
    Balanced limits 0 { pool with reapers } :=
  { balanced with }

theorem Balanced.startReaper (balanced : Balanced limits 0 pool)
    (stepped : pool.startReaper? who = some next) : Balanced limits 0 next := by
  unfold startReaper? at stepped
  split at stepped
  · rename_i leaves
    cases stepped
    exact (balanced.dismiss leaves rfl).withReapers _
  · contradiction

theorem Balanced.takeBack (balanced : Balanced limits 0 pool)
    (stepped : pool.takeBack? who = some next) : Balanced limits 0 next := by
  unfold takeBack? at stepped
  split at stepped
  · rename_i leaves
    cases stepped
    exact (balanced.dismiss leaves rfl).closeParked
  · contradiction

theorem Balanced.reap (balanced : Balanced limits 0 pool)
    (stepped : pool.reap? ticket = some next) : Balanced limits 0 next := by
  unfold reap? at stepped
  split at stepped
  · split at stepped
    · cases stepped
      exact (balanced.withReapers _).closeParked
    · contradiction
  · contradiction

theorem Balanced.shutGate (balanced : Balanced limits 0 pool) :
    Balanced limits 0 pool.shutGate :=
  { balanced with line := fun isOpen => by simp [Pool.shutGate] at isOpen }

theorem Balanced.sealUp (balanced : Balanced limits 0 pool) : Balanced limits 0 pool.sealUp :=
  { balanced with
    covered := Nat.zero_le _
    placed := by
      intro serial
      have before := balanced.placed serial
      have shelf : (pool.parked.map fun parked => parked.2.serial).count serial =
          pool.onShelf serial := by
        rw [List.count_eq_countP, List.countP_map]
        rfl
      change pool.inHand serial + 0 +
        (pool.closed ++ pool.parked.map fun parked => parked.2.serial).count serial =
          pool.timesOpened serial
      rw [List.count_append, shelf]
      omega
    opened := by
      have before := balanced.opened
      change pool.borrowed + 0 +
        (pool.closed ++ pool.parked.map fun parked => parked.2.serial).length = pool.opened
      rw [idle] at before
      rw [List.length_append, List.length_map]
      omega
    tickets := .nil
    tickets_lt := fun _ member => by cases member
    emptied := fun _ => rfl }

/-- Every step keeps the accounts. -/
theorem Balanced.step {action : Action} (balanced : Balanced limits 0 pool)
    (stepped : pool.step? action = some next) : Balanced limits 0 next := by
  cases action with
  | arrive who => exact balanced.arrive stepped
  | proceed who => exact balanced.proceed stepped
  | look who => exact balanced.look stepped
  | connected who => exact balanced.connected stepped
  | withdraw who => exact balanced.withdraw stepped
  | judge who broken => exact balanced.judge stepped
  | renew who => exact balanced.renew stepped
  | giveBack who => exact balanced.giveBack stepped
  | freeSlot who => exact balanced.freeSlot stepped
  | startReaper who => exact balanced.startReaper stepped
  | takeBack who => exact balanced.takeBack stepped
  | reap ticket => exact balanced.reap stepped
  | shutGate =>
      cases stepped
      exact balanced.shutGate
  | sealUp =>
      cases stepped
      exact balanced.sealUp
  | elapse milliseconds | age milliseconds =>
      cases stepped
      exact { balanced with }

theorem Balanced.run {actions : List Action} (balanced : Balanced limits 0 pool)
    (ran : pool.run? actions = some next) : Balanced limits 0 next := by
  induction actions generalizing pool with
  | nil =>
      cases ran
      exact balanced
  | cons action actions ih =>
      rw [run?, List.foldlM_cons, Option.bind_eq_bind, Option.bind_eq_some_iff] at ran
      obtain ⟨middle, stepped, rest⟩ := ran
      exact ih (balanced.step stepped) rest

/-- How a pool stands between any two steps. -/
structure Accounted (limits : Limits) (pool : Pool) : Prop where
  slots : pool.free + pool.held = limits.slots
  /-- No borrower is at two stages. -/
  borrowers : pool.borrowers.Distinct
  /-- A live session is in the hands of one borrower or parked once. -/
  live_once : ∀ serial, pool.IsLive serial → pool.inHand serial + pool.onShelf serial = 1
  /-- A session that is closed or was never opened is nowhere. -/
  gone : ∀ serial, ¬ pool.IsLive serial → pool.inHand serial + pool.onShelf serial = 0
  /-- For every parked session there is a slot whose holder will look for it. -/
  covered : pool.idle ≤ pool.free + pool.granted + pool.releasing
  /-- A borrower that connects has a session that is about to live. -/
  bounded : pool.live + pool.connecting ≤ limits.slots
  /-- While somebody is in line and nobody is about to look, what is parked is
  parked by those who are about to free a slot.  A shut gate has no line. -/
  served : 0 < pool.waiting → pool.gateOpen = true ∨ pool.isSealed = true → pool.granted = 0 →
    pool.idle ≤ pool.releasing ∧ (pool.releasing = 0 → pool.parked = [])

/-- The stages that hold a slot and matter to the sessions are different ones. -/
theorem stages_le_held (pool : Pool) :
    pool.connecting + pool.borrowed + pool.granted + pool.releasing ≤ pool.held := by
  unfold connecting borrowed granted releasing held
  induction pool.borrowers with
  | nil => exact Nat.le_refl 0
  | cons borrower rest ih =>
      obtain ⟨who, stage⟩ := borrower
      have here : stage.isConnecting.toNat + stage.isBorrowing.toNat + stage.isGranted.toNat +
          stage.isReleasing.toNat ≤ stage.holdsSlot.toNat := by
        cases stage <;> simp [Stage.isConnecting, Stage.isBorrowing, Stage.isGranted,
          Stage.isReleasing, Stage.holdsSlot, Stage.session?]
      simp only [Roster.tally_cons]
      omega

theorem Balanced.live_eq (balanced : Balanced limits 0 pool) :
    pool.live = pool.borrowed + pool.idle := by
  have opened := balanced.opened
  rw [live]
  omega

/-- A session has one place among hands, shelf and closed ones. -/
theorem Balanced.places (balanced : Balanced limits 0 pool) (serial : Nat) :
    pool.inHand serial + pool.onShelf serial + pool.closed.count serial =
      if serial < pool.opened then 1 else 0 :=
  balanced.placed serial

theorem Balanced.accounted (balanced : Balanced limits 0 pool) : Accounted limits pool where
  slots := balanced.slots
  borrowers := balanced.borrowers
  live_once := by
    rintro serial ⟨wasOpened, isOpen⟩
    have places := balanced.places serial
    rw [if_pos wasOpened, List.count_eq_zero.mpr isOpen] at places
    exact places
  gone := by
    intro serial gone
    have places := balanced.places serial
    by_cases wasOpened : serial < pool.opened
    · have isClosed : serial ∈ pool.closed := by
        by_contra isOpen
        exact gone ⟨wasOpened, isOpen⟩
      have once := List.count_pos_iff.mpr isClosed
      rw [if_pos wasOpened] at places
      omega
    · rw [if_neg wasOpened] at places
      omega
  covered := balanced.covered
  bounded := by
    have slots := balanced.slots
    have covered := balanced.covered
    have held := pool.stages_le_held
    rw [balanced.live_eq]
    omega
  served := by
    intro inLine gate lookers
    have covered := balanced.covered
    have bound : pool.idle ≤ pool.releasing := by
      rcases gate with isOpen | isSealed
      · have line := balanced.line isOpen
        omega
      · simp [idle, balanced.emptied isSealed]
    exact ⟨bound, fun releasing => List.eq_nil_of_length_eq_zero (by rw [idle] at bound; omega)⟩

/-- Slots and sessions add up after every run of a pool: any borrowers come,
wait, connect, give up and return sessions in any order, reapers fire and the
pool is closed at any time. -/
theorem run_accounted {limits : Limits} {actions : List Action} {pool : Pool}
    (ran : (start limits).run? actions = some pool) : Accounted limits pool :=
  ((start_balanced limits).run ran).accounted

/-- One slot: the first borrower parks its session and hands its slot to the
second, who was in line, while a third one waits. -/
theorem handover_accounted :
    ∃ pool, (start ⟨1, 1000, 1000, 1000⟩).run?
        [.arrive 0, .look 0, .connected 0, .arrive 1, .arrive 2, .giveBack 0, .freeSlot 0] =
          some pool ∧
      pool.idle = 1 ∧ pool.granted = 1 ∧ pool.waiting = 1 ∧
      Accounted ⟨1, 1000, 1000, 1000⟩ pool := by
  have ran : (start ⟨1, 1000, 1000, 1000⟩).run?
      [.arrive 0, .look 0, .connected 0, .arrive 1, .arrive 2, .giveBack 0, .freeSlot 0] =
        some _ := rfl
  exact ⟨_, ran, rfl, rfl, rfl, run_accounted ran⟩

end PrintConnector.Pool
