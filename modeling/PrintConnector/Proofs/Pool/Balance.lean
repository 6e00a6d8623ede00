import PrintConnector.Pool.Step
import PrintConnector.Proofs.Roster

/-! The slots and the sessions of a pool add up.

A slot is free or held by one borrower, and a session that was opened is in one
place: in the hands of one borrower, parked, or closed.  A parked session is
matched by a slot through which somebody can still come to look for it: a free
one, one that was granted to a borrower who has not looked yet, or one that is
about to be freed by whoever parked the session.  That bounds the open sessions
by the slots, although no slot is held for a parked one.
-/

namespace PrintConnector.Pool

open Roster (Distinct)

namespace Stage

def isWaiting : Stage → Bool
  | .waiting => true
  | _ => false

/-- Was granted a slot and has not looked for a parked session yet. -/
def isGranted : Stage → Bool
  | .called | .admitted => true
  | _ => false

def isConnecting : Stage → Bool
  | .connecting => true
  | _ => false

def isBorrowing (stage : Stage) : Bool :=
  stage.session?.isSome

/-- Has parked its session and is about to free its slot. -/
def isReleasing : Stage → Bool
  | .parked _ => true
  | _ => false

/-- Has the session with a serial in hand. -/
def hasInHand (serial : Nat) (stage : Stage) : Bool :=
  stage.session?.any fun session => session.serial = serial

end Stage

/-- The slots that were granted to borrowers or are held by them. -/
def held (pool : Pool) : Nat :=
  pool.borrowers.tally Stage.holdsSlot

def waiting (pool : Pool) : Nat :=
  pool.borrowers.tally Stage.isWaiting

def granted (pool : Pool) : Nat :=
  pool.borrowers.tally Stage.isGranted

def connecting (pool : Pool) : Nat :=
  pool.borrowers.tally Stage.isConnecting

def borrowed (pool : Pool) : Nat :=
  pool.borrowers.tally Stage.isBorrowing

def releasing (pool : Pool) : Nat :=
  pool.borrowers.tally Stage.isReleasing

/-- How many borrowers have the session with a serial in hand. -/
def inHand (pool : Pool) (serial : Nat) : Nat :=
  pool.borrowers.tally (Stage.hasInHand serial)

/-- How many times the session with a serial is parked. -/
def onShelf (pool : Pool) (serial : Nat) : Nat :=
  pool.parked.tally fun session => session.serial = serial

/-- How many times the session with a serial was opened. -/
def timesOpened (pool : Pool) (serial : Nat) : Nat :=
  if serial < pool.opened then 1 else 0

/-- The session with a serial was opened and is not closed. -/
def IsLive (pool : Pool) (serial : Nat) : Prop :=
  serial < pool.opened ∧ serial ∉ pool.closed

/-- The accounts of a pool while `loose` slots pass from one hand to another. -/
structure Balanced (limits : Limits) (loose : Nat) (pool : Pool) : Prop where
  borrowers : pool.borrowers.Distinct
  slots : pool.free + pool.held + loose = limits.slots
  covered : pool.idle ≤ pool.free + pool.granted + pool.releasing + loose
  /-- Every session that was opened is in one place. -/
  placed : ∀ serial, pool.inHand serial + pool.onShelf serial + pool.closed.count serial =
    pool.timesOpened serial
  opened : pool.borrowed + pool.idle + pool.closed.length = pool.opened
  /-- The newest session is parked first, under the highest ticket. -/
  tickets : (pool.parked.map (·.1)).Pairwise (· > ·)
  tickets_lt : ∀ ticket ∈ pool.parked.map (·.1), ticket < pool.nextTicket
  /-- Nobody is in line while a slot is free. -/
  line : pool.gateOpen = true → 0 < pool.free → pool.waiting = 0
  emptied : pool.isSealed = true → pool.parked = []

variable {limits : Limits} {loose : Nat} {pool next : Pool} {who ticket : Nat}
  {old new : Stage}

theorem Balanced.parkedDistinct (balanced : Balanced limits loose pool) :
    pool.parked.Distinct :=
  balanced.tickets.imp fun above => Nat.ne_of_gt above

theorem start_balanced (limits : Limits) : Balanced limits 0 (start limits) where
  borrowers := List.nodup_nil
  slots := rfl
  covered := Nat.zero_le _
  placed serial := by simp [start, inHand, onShelf, Roster.tally, timesOpened]
  opened := rfl
  tickets := .nil
  tickets_lt := by simp [start]
  line _ _ := rfl
  emptied _ := rfl

/-- A borrower moves on while the rest of the pool changes.  What the borrower
and the rest win and lose must come out even. -/
theorem Balanced.exchange (balanced : Balanced limits loose pool)
    (found : pool.stage? who = some old) {rest : Pool} (loose' : Nat)
    (others : rest.borrowers = pool.borrowers)
    (slots : rest.free + new.holdsSlot.toNat + loose' = pool.free + old.holdsSlot.toNat + loose)
    (looks : rest.parked = [] ∨
      rest.idle + pool.free + old.isGranted.toNat + old.isReleasing.toNat + loose ≤
        pool.idle + rest.free + new.isGranted.toNat + new.isReleasing.toNat + loose')
    (placed : ∀ serial, (new.hasInHand serial).toNat + rest.onShelf serial +
        rest.closed.count serial + pool.timesOpened serial =
      (old.hasInHand serial).toNat + pool.onShelf serial + pool.closed.count serial +
        rest.timesOpened serial)
    (opened : new.isBorrowing.toNat + rest.idle + rest.closed.length + pool.opened =
      old.isBorrowing.toNat + pool.idle + pool.closed.length + rest.opened)
    (tickets : (rest.parked.map (·.1)).Pairwise (· > ·))
    (tickets_lt : ∀ ticket ∈ rest.parked.map (·.1), ticket < rest.nextTicket)
    (line : rest.gateOpen = true → 0 < rest.free → pool.gateOpen = true ∧ 0 < pool.free)
    (leavesLine : new.isWaiting = false) (emptied : rest.isSealed = true → rest.parked = []) :
    Balanced limits loose' (rest.moveTo who new) := by
  have count (kind : Stage → Bool) :
      (rest.moveTo who new).borrowers.tally kind + (kind old).toNat =
        pool.borrowers.tally kind + (kind new).toNat := by
    rw [moveTo, others]
    exact balanced.borrowers.tally_update found kind
  exact {
    borrowers := by
      rw [moveTo, others]
      exact balanced.borrowers.update
    slots := by
      have before := balanced.slots
      have held : (rest.moveTo who new).held + _ = pool.held + _ := count Stage.holdsSlot
      change rest.free + (rest.moveTo who new).held + loose' = limits.slots
      omega
    covered := by
      have before := balanced.covered
      have granted : (rest.moveTo who new).granted + _ = pool.granted + _ := count Stage.isGranted
      have releasing : (rest.moveTo who new).releasing + _ = pool.releasing + _ :=
        count Stage.isReleasing
      change rest.idle ≤
        rest.free + (rest.moveTo who new).granted + (rest.moveTo who new).releasing + loose'
      rcases looks with empty | looks
      · simp [idle, empty]
      · omega
    placed := by
      intro serial
      have before := balanced.placed serial
      have even := placed serial
      have inHand : (rest.moveTo who new).inHand serial + _ = pool.inHand serial + _ :=
        count (Stage.hasInHand serial)
      change (rest.moveTo who new).inHand serial + rest.onShelf serial + rest.closed.count serial =
        rest.timesOpened serial
      omega
    opened := by
      have before := balanced.opened
      have borrowed : (rest.moveTo who new).borrowed + _ = pool.borrowed + _ :=
        count Stage.isBorrowing
      change (rest.moveTo who new).borrowed + rest.idle + rest.closed.length = rest.opened
      omega
    tickets := tickets
    tickets_lt := tickets_lt
    line := by
      intro isOpen free
      have ⟨wasOpen, wasFree⟩ := line isOpen free
      have before := balanced.line wasOpen wasFree
      have waiting : (rest.moveTo who new).waiting + _ = pool.waiting + _ := count Stage.isWaiting
      rw [leavesLine, Bool.toNat_false] at waiting
      omega
    emptied := emptied }

/-- A borrower moves on, with the session in hand if there is one, and nothing
else changes. -/
theorem Balanced.moveTo (balanced : Balanced limits loose pool)
    (found : pool.stage? who = some old) (loose' : Nat)
    (slots : new.holdsSlot.toNat + loose' = old.holdsSlot.toNat + loose)
    (looks : pool.parked = [] ∨ old.isGranted.toNat + old.isReleasing.toNat + loose ≤
      new.isGranted.toNat + new.isReleasing.toNat + loose')
    (session : ∀ serial, new.hasInHand serial = old.hasInHand serial)
    (borrows : new.isBorrowing = old.isBorrowing) (leavesLine : new.isWaiting = false) :
    Balanced limits loose' (pool.moveTo who new) :=
  balanced.exchange found loose' rfl (by omega) (looks.imp_right fun _ => by omega)
    (fun serial => by rw [session serial]) (by rw [borrows]) balanced.tickets balanced.tickets_lt
    (fun isOpen free => ⟨isOpen, free⟩) leavesLine balanced.emptied

/-- A borrower without a session comes in, in line or with a slot that was
free. -/
theorem Balanced.enter (balanced : Balanced limits loose pool)
    (absent : pool.stage? who = none) {free : Nat}
    (slots : free + new.holdsSlot.toNat = pool.free) (looks : new.isGranted = new.holdsSlot)
    (emptyHanded : new.session? = none) (line : 0 < free → new.isWaiting = false) :
    Balanced limits loose { pool with free, borrowers := pool.borrowers.add who new } := by
  have count (kind : Stage → Bool) : (pool.borrowers.add who new).tally kind =
      pool.borrowers.tally kind + (kind new).toNat := Roster.tally_add kind
  exact {
    borrowers := balanced.borrowers.add absent
    slots := by
      have before := balanced.slots
      change free + (pool.borrowers.add who new).tally Stage.holdsSlot + loose = limits.slots
      rw [held] at before
      rw [count]
      omega
    covered := by
      have before := balanced.covered
      change pool.idle ≤ free + (pool.borrowers.add who new).tally Stage.isGranted +
        (pool.borrowers.add who new).tally Stage.isReleasing + loose
      rw [granted, releasing] at before
      rw [count, count, looks]
      omega
    placed := by
      intro serial
      have none : Stage.hasInHand serial new = false := by simp [Stage.hasInHand, emptyHanded]
      have inHand : (pool.borrowers.add who new).tally (Stage.hasInHand serial) =
          pool.inHand serial := by
        rw [count, none]
        rfl
      change (pool.borrowers.add who new).tally (Stage.hasInHand serial) + _ + _ = _
      rw [inHand]
      exact balanced.placed serial
    opened := by
      have none : new.isBorrowing = false := by simp [Stage.isBorrowing, emptyHanded]
      have borrowed : (pool.borrowers.add who new).tally Stage.isBorrowing = pool.borrowed := by
        rw [count, none]
        rfl
      change (pool.borrowers.add who new).tally Stage.isBorrowing + _ + _ = _
      rw [borrowed]
      exact balanced.opened
    tickets := balanced.tickets
    tickets_lt := balanced.tickets_lt
    line := by
      intro isOpen isFree
      change 0 < free at isFree
      have before := balanced.line isOpen (by omega)
      change (pool.borrowers.add who new).tally Stage.isWaiting = 0
      rw [count, line isFree]
      exact before
    emptied := balanced.emptied }

/-- Only a slot that is held lets its holder look or be about to free it. -/
theorem Stage.looks_le_holdsSlot (stage : Stage) :
    stage.isGranted.toNat + stage.isReleasing.toNat ≤ stage.holdsSlot.toNat := by
  cases stage <;> simp [isGranted, isReleasing, holdsSlot]

/-- A borrower without a session leaves, and a slot it held comes loose. -/
theorem Balanced.dismiss (balanced : Balanced limits loose pool)
    (found : pool.stage? who = some old) (emptyHanded : old.session? = none) :
    Balanced limits (loose + old.holdsSlot.toNat) (pool.dismiss who) := by
  have count := balanced.borrowers.tally_remove found
  exact {
    borrowers := balanced.borrowers.remove
    slots := by
      have before := balanced.slots
      have held : (pool.dismiss who).held + _ = pool.held := count Stage.holdsSlot
      change pool.free + (pool.dismiss who).held + _ = limits.slots
      omega
    covered := by
      have before := balanced.covered
      have granted : (pool.dismiss who).granted + _ = pool.granted := count Stage.isGranted
      have releasing : (pool.dismiss who).releasing + _ = pool.releasing := count Stage.isReleasing
      have bound := old.looks_le_holdsSlot
      change pool.idle ≤ pool.free + (pool.dismiss who).granted + (pool.dismiss who).releasing + _
      omega
    placed := by
      intro serial
      have inHand : (pool.dismiss who).inHand serial + _ = pool.inHand serial :=
        count (Stage.hasInHand serial)
      rw [Stage.hasInHand, emptyHanded, Option.any_none, Bool.toNat_false, Nat.add_zero] at inHand
      rw [inHand]
      exact balanced.placed serial
    opened := by
      have borrowed : (pool.dismiss who).borrowed + _ = pool.borrowed := count Stage.isBorrowing
      rw [Stage.isBorrowing, emptyHanded, Option.isSome_none, Bool.toNat_false,
        Nat.add_zero] at borrowed
      rw [borrowed]
      exact balanced.opened
    tickets := balanced.tickets
    tickets_lt := balanced.tickets_lt
    line := by
      intro isOpen free
      have before := balanced.line isOpen free
      have waiting : (pool.dismiss who).waiting + _ = pool.waiting := count Stage.isWaiting
      omega
    emptied := balanced.emptied }

/-- The borrower that has waited longest is one that waits. -/
theorem stage_of_firstWaiting (distinct : pool.borrowers.Distinct)
    (first : pool.firstWaiting? = some who) : pool.stage? who = some .waiting := by
  obtain ⟨borrower, found, rfl⟩ := Option.map_eq_some_iff.mp first
  have waits := List.find?_some found
  refine distinct.entry_of_mem ?_
  rw [← of_decide_eq_true waits]
  exact List.mem_of_find?_eq_some found

theorem waiting_eq_zero (nobody : pool.firstWaiting? = none) : pool.waiting = 0 := by
  refine List.countP_eq_zero.mpr fun borrower member waits => ?_
  have absent := List.find?_eq_none.mp (Option.map_eq_none_iff.mp nobody) borrower member
  cases stage : borrower.2 <;> simp_all [Stage.isWaiting]

/-- A loose slot ends with whoever has waited longest or with the free ones. -/
theorem Balanced.handSlot (balanced : Balanced limits 1 pool) :
    Balanced limits 0 pool.handSlot := by
  have freed (line : pool.gateOpen = true → pool.waiting = 0) :
      Balanced limits 0 { pool with free := pool.free + 1 } := {
    balanced with
    slots := by
      have before := balanced.slots
      change pool.free + 1 + pool.held + 0 = limits.slots
      omega
    covered := by
      have before := balanced.covered
      change pool.idle ≤ pool.free + 1 + pool.granted + pool.releasing + 0
      omega
    line := fun isOpen _ => line isOpen }
  unfold Pool.handSlot
  split
  · rename_i who first
    have waits : pool.firstWaiting? = some who := by
      cases gate : pool.gateOpen <;> simp_all
    exact balanced.moveTo (stage_of_firstWaiting balanced.borrowers waits) 0 rfl (.inr (Nat.le_refl 1))
      (fun _ => rfl) rfl rfl
  · rename_i nobody
    refine freed fun isOpen => waiting_eq_zero ?_
    simpa only [isOpen, if_true] using nobody

/-- A borrower that holds a slot and no session leaves and hands the slot on. -/
theorem Balanced.dismiss_handSlot (balanced : Balanced limits 0 pool)
    (found : pool.stage? who = some old) (emptyHanded : old.session? = none)
    (holds : old.holdsSlot = true) : Balanced limits 0 (pool.dismiss who).handSlot := by
  have loosened := balanced.dismiss found emptyHanded
  rw [holds] at loosened
  exact loosened.handSlot

/-- A parked session is closed. -/
theorem Balanced.closeParked (balanced : Balanced limits loose pool) :
    Balanced limits loose (pool.closeParked ticket) := by
  rw [Pool.closeParked]
  split
  · rename_i session found
    have count := balanced.parkedDistinct.tally_remove found
    have length : (pool.parked.remove ticket).length + 1 = pool.parked.length := by
      simpa [Roster.tally] using count fun _ => true
    have fewer : ((pool.parked.remove ticket).map (·.1)).Sublist (pool.parked.map (·.1)) :=
      List.filter_sublist.map _
    exact {
      borrowers := balanced.borrowers
      slots := balanced.slots
      covered := by
        have before := balanced.covered
        change (pool.parked.remove ticket).length ≤
          pool.free + pool.granted + pool.releasing + loose
        rw [idle] at before
        omega
      placed := by
        intro serial
        have before := balanced.placed serial
        have onShelf : (pool.parked.remove ticket).tally _ + _ = pool.onShelf serial :=
          count fun session => session.serial = serial
        change pool.inHand serial + (pool.parked.remove ticket).tally _ +
          (pool.closed ++ [session.serial]).count serial = pool.timesOpened serial
        rw [List.count_append, List.count_singleton]
        by_cases same : session.serial = serial
        · simp only [same, decide_true, Bool.toNat_true, BEq.rfl, if_true] at onShelf ⊢
          omega
        · simp only [same, decide_false, Bool.toNat_false, beq_iff_eq, if_false] at onShelf ⊢
          omega
      opened := by
        have before := balanced.opened
        change pool.borrowed + (pool.parked.remove ticket).length +
          (pool.closed ++ [session.serial]).length = pool.opened
        rw [idle] at before
        rw [List.length_append, List.length_singleton]
        omega
      tickets := balanced.tickets.sublist fewer
      tickets_lt := fun other member => balanced.tickets_lt other (fewer.subset member)
      line := balanced.line
      emptied := by
        intro isSealed
        have none := balanced.emptied isSealed
        simp [none] at found }
  · exact balanced

end PrintConnector.Pool
