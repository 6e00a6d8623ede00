import PrintConnector.Proofs.Pool.Exchange
import PrintConnector.Proofs.Service.Entry

namespace PrintConnector.Service

open Cache (Disk Edition Entry Fault Snapshot)

variable {history : List Event} {origin after service : Service} {who number : Nat} {call : Call}
  {request : Request} {entry : Entry} {error : Error} {edition : Edition} {marker : Option String}
  {fault : Option Fault}

theorem Consistent.snapshot {snapshot : Snapshot}
    (consistent : Consistent origin history service) (known : service.entry? number = some entry)
    (held : entry.snapshot? = some snapshot) : Genuine history snapshot.edition := by
  obtain ⟨edition, current, rfl⟩ := Option.map_eq_some_iff.mp held
  obtain ⟨who, bytes, sent, isOf, -⟩ := consistent.entries number entry known edition current
  exact ⟨entry.printer, who, bytes, entry.marker, sent, isOf⟩

theorem Consistent.awaitLock (consistent : Consistent origin history service)
    (found : service.call? who = some call) (rests : call.phase.rests = true) :
    Consistent origin history (service.awaitLock who number) :=
  (consistent.enqueue who number).move found rests
    ⟨(consistent.calls who call found).asked, nofun, trivial⟩

theorem Consistent.begin (consistent : Consistent origin history service)
    (found : service.call? who = some call) (rests : call.phase.rests = true) :
    Consistent origin history (service.begin who request fault) := by
  have asked := (consistent.calls who call found).asked
  cases request with
  | refresh printer =>
      rw [Service.begin]
      split
      · rename_i after number created
        obtain ⟨next, calls⟩ := consistent.findOrCreate created
        exact next.awaitLock ((calls who).trans found) rests
      · exact consistent.leave found rests trivial
  | cached printer =>
      rw [Service.begin]
      split
      · exact consistent.awaitLock found rests
      · exact consistent.leave found rests trivial
  | invalidate printer =>
      rw [Service.begin]
      split
      · exact (consistent.strike printer).awaitLock found rests
      · exact consistent.leave found rests trivial
  | shutdown =>
      exact (consistent.relist (List.nil_subset _)).takeUp found rests trivial
        ⟨asked, nofun, trivial⟩
  | ask query => exact consistent.move found rests ⟨asked, nofun, trivial⟩

theorem Consistent.locked (consistent : Consistent origin history service)
    (found : service.call? who = some call) (rests : call.phase.rests = true)
    (known : service.entry? number = some entry) (held : entry.isHeldBy who = true)
    (asks : call.request = request) :
    Consistent origin history (service.locked who number entry request) := by
  have asked := (consistent.calls who call found).asked
  cases request with
  | refresh printer =>
      rw [Service.locked]
      split
      · rename_i listed
        refine consistent.move found rests ⟨asked, ?_, nofun⟩
        intro other grip
        obtain rfl := Option.some.inj grip
        exact ⟨printer, asks, entry, known, held, consistent.listed_printer listed known⟩
      · have moved : Consistent origin history (service.setPhase who .starting) :=
          consistent.move found rests ⟨asked, nofun, trivial⟩
        exact (moved.unlock (loose_setPhase found nofun)).sweep
  | invalidate printer => exact consistent.takeUp found rests trivial ⟨asked, nofun, trivial⟩
  | cached _ | shutdown | ask _ =>
      refine consistent.leave found rests ?_
      cases snapshot : entry.snapshot? with
      | none => trivial
      | some snapshot => exact consistent.snapshot known snapshot

theorem Consistent.refuse (consistent : Consistent origin history service)
    (found : service.call? who = some call) (rests : call.phase.rests = true)
    (grip : call.phase.grip? = some number) :
    Consistent origin history (service.refuse who number entry error) := by
  obtain ⟨asked, held, -⟩ := consistent.calls who call found
  unfold Service.refuse
  split
  · exact consistent.leave found rests trivial
  · refine consistent.move found rests ⟨asked, ?_, trivial⟩
    intro other same
    exact held other (grip.trans same)

theorem Consistent.fetched {exchange : Exchange (PpdReply Nat)}
    {outcome : Option (Except Error (PpdReply Nat))}
    (consistent : Consistent origin history service)
    (found : service.call? who = some call) (fetching : call.phase = .fetching number exchange)
    (finished : exchange.position = .finished outcome)
    (known : service.entry? number = some entry) :
    Consistent origin history (service.fetched who number entry outcome) := by
  have rests : call.phase.rests = true := by rw [fetching]; rfl
  have grip : call.phase.grip? = some number := by rw [fetching]; rfl
  obtain ⟨asked, held, sound⟩ := consistent.calls who call found
  unfold Service.fetched
  split
  · exact consistent.leave found rests trivial
  · exact consistent.refuse found rests grip
  · split
    · rename_i snapshot
      exact consistent.leave found rests (consistent.snapshot known snapshot)
    · exact consistent.refuse found rests grip
  · rename_i download marker
    obtain ⟨printer, asks, same, knownAgain, first, named⟩ := held number grip
    obtain rfl := Option.some.inj (known.symm.trans knownAgain)
    refine consistent.takeUp found rests trivial ⟨asked, ?_, ?_⟩
    · intro other same
      exact held other (grip.trans same)
    · refine ⟨printer, download, .opening, asks, ?_, ?_⟩
      · change Roster.entry? (service.jobs.add who _) who = _
        rw [Roster.entry_add, consistent.idle_of_rests found rests, if_pos rfl,
          (consistent.early known).1, named]
        rfl
      · rw [fetching] at sound
        refine sound download marker ?_
        rw [Exchange.reply?, finished]

theorem Consistent.settle {outcome : Except Error Edition}
    (consistent : Consistent origin history service)
    (found : service.call? who = some call)
    (replaced : call.phase = .replaced number marker outcome)
    (known : service.entry? number = some entry) :
    Consistent origin history (service.settle who number entry marker outcome) := by
  obtain ⟨asked, held, sound⟩ := consistent.calls who call found
  have grip : call.phase.grip? = some number := by rw [replaced]; rfl
  cases outcome with
  | error error => exact consistent.refuse found (by rw [replaced]; rfl) grip
  | ok edition =>
      rw [replaced] at sound
      obtain ⟨printer, asks, bytes, came, isOf, stored⟩ := sound
      obtain ⟨same, refreshes, _, knownAgain, first, named⟩ := held number grip
      obtain rfl := Option.some.inj (known.symm.trans knownAgain)
      obtain rfl := Request.refresh.inj (asks.symm.trans refreshes)
      have sent : Sent history printer who bytes marker := ⟨by rw [← asks]; exact asked, came⟩
      have file : entry.file = ⟨Cache.stemOf printer, number⟩ := by
        rw [(consistent.early known).1, named]
      have renewed {state : Service} (sameDisk : state.disk = service.disk) :
          EntrySound history state number { entry with marker, current := some edition } := by
        intro other current
        obtain rfl := Option.some.inj current
        refine ⟨who, bytes, ?_, isOf, .inl ?_⟩
        · rw [named]
          exact sent
        · rw [file, sameDisk]
          exact stored
      have changed : Consistent origin history (service.setEntry number fun entry =>
          { entry with marker, current := some edition }) := by
        refine consistent.setEntry (fun _ => rfl) (fun _ => rfl) (fun _ _ _ _ _ first => first) ?_
        intro old same
        obtain rfl := Option.some.inj (known.symm.trans same)
        exact renewed rfl
      refine changed.finish found (consistent.idle found ?_)
        ⟨printer, who, bytes, marker, sent, isOf⟩ ?_
      · rintro ⟨job, fits⟩
        rw [replaced] at fits
        cases job <;> exact fits
      · intro other old renews changedTo
        obtain ⟨same, again, gripping⟩ := grip_of_renews renews
        obtain rfl := Option.some.inj (found.symm.trans again)
        obtain rfl := Option.some.inj (grip.symm.trans gripping)
        rw [entry?_setEntry, if_pos rfl, known] at changedTo
        obtain rfl := Option.some.inj changedTo
        exact renewed rfl

/-- A refresh that failed strikes its entry off the list. -/
theorem Consistent.unlist (consistent : Consistent origin history service)
    (found : service.call? who = some call) (failed : call.phase = .failed number error) :
    Consistent origin history
      ((service.strikeEntry number entry).setPhase who (.unlisted number error)) := by
  obtain ⟨asked, held, -⟩ := consistent.calls who call found
  have rests : call.phase.rests = true := by rw [failed]; rfl
  rw [failed] at held
  unfold strikeEntry
  split
  · exact (consistent.strike _).move found rests ⟨asked, held, trivial⟩
  · exact consistent.move found rests ⟨asked, held, trivial⟩

/-- The exchange of a refresh goes on without an answer. -/
theorem Consistent.fetch {pool : Pool} {exchange next : Exchange (PpdReply Nat)}
    (consistent : Consistent origin history service)
    (found : service.call? who = some call) (fetching : call.phase = .fetching number exchange)
    (known : ∀ reply, next.reply? = some reply → exchange.reply? = some reply) :
    Consistent origin history ({ service with pool }.setPhase who (.fetching number next)) := by
  obtain ⟨asked, held, sound⟩ := consistent.calls who call found
  rw [fetching] at held sound
  refine (consistent.withPool pool).move found (by rw [fetching]; rfl) ⟨asked, held, ?_⟩
  intro download marker reply
  exact sound download marker (known _ reply)

/-- The exchange of a request past the cache goes on. -/
theorem Consistent.ask {query : Query} {pool : Pool} {exchange next : Exchange (Reply Nat)}
    (consistent : Consistent origin history service)
    (found : service.call? who = some call) (asking : call.phase = .asking query exchange) :
    Consistent origin history ({ service with pool }.setPhase who (.asking query next)) :=
  (consistent.withPool pool).move found (by rw [asking]; rfl)
    ⟨(consistent.calls who call found).asked, nofun, trivial⟩

theorem Consistent.go (consistent : Consistent origin history service)
    (gone : service.go? who fault = some after) : Consistent origin history after := by
  obtain ⟨call, found, taken⟩ := Option.bind_eq_some_iff.mp gone
  obtain ⟨asked, held, sound⟩ := consistent.calls who call found
  split at taken
  · rename_i starting
    obtain rfl := Option.some.inj taken
    exact consistent.begin found (by rw [starting]; rfl)
  · rename_i number queued
    obtain ⟨entry, known, turn⟩ := Option.bind_eq_some_iff.mp taken
    split at turn
    · rename_i first
      obtain rfl := Option.some.inj turn
      exact consistent.locked found (by rw [queued]; rfl) known first rfl
    · contradiction
  · rename_i number exchange fetching
    split at taken
    · rename_i outcome finished
      obtain ⟨entry, known, same⟩ := Option.bind_eq_some_iff.mp taken
      obtain rfl := Option.some.inj same
      exact consistent.fetched found fetching finished known
    · obtain ⟨⟨pool, next⟩, moved, same⟩ := Option.bind_eq_some_iff.mp taken
      obtain rfl := Option.some.inj same
      exact consistent.fetch found fetching fun _ => Exchange.reply?_go moved
  · rename_i number marker outcome replaced
    obtain ⟨entry, known, same⟩ := Option.bind_eq_some_iff.mp taken
    obtain rfl := Option.some.inj same
    exact consistent.settle found replaced known
  · rename_i number error failed
    obtain ⟨entry, known, same⟩ := Option.bind_eq_some_iff.mp taken
    obtain rfl := Option.some.inj same
    exact consistent.unlist found failed
  · rename_i number error unlisted
    obtain rfl := Option.some.inj taken
    have moved : Consistent origin history ((service.addJob who (.discard [number])).setPhase who
        (.discarding (.refreshed (.error error)))) :=
      consistent.takeUp found (by rw [unlisted]; rfl) trivial ⟨asked, nofun, trivial⟩
    exact moved.unlock (loose_setPhase found nofun)
  · rename_i discarded
    obtain rfl := Option.some.inj taken
    exact (consistent.withPool _).move found (by rw [discarded]; rfl) ⟨asked, nofun, trivial⟩
  · rename_i result _ discarded
    obtain rfl := Option.some.inj taken
    rw [discarded] at sound
    exact consistent.leave found (by rw [discarded]; rfl) sound
  · rename_i sealing
    obtain rfl := Option.some.inj taken
    exact (consistent.withPool _).leave found (by rw [sealing]; rfl) trivial
  · rename_i query exchange asking
    split at taken
    · rename_i outcome _
      obtain rfl := Option.some.inj taken
      refine consistent.leave found (by rw [asking]; rfl) ?_
      cases outcome <;> trivial
    · obtain ⟨⟨pool, next⟩, moved, same⟩ := Option.bind_eq_some_iff.mp taken
      obtain rfl := Option.some.inj same
      exact consistent.ask found asking
  · contradiction
  · contradiction
  · contradiction

/-- The document of a reply is taken in under the number of a download. -/
theorem Consistent.receive {reply : PpdReply (List UInt8)} {taken : PpdReply Nat}
    (consistent : Consistent origin history service)
    (received : service.receive reply = (after, taken)) :
    Consistent origin history after ∧ (∀ who, after.call? who = service.call? who) ∧
      ∀ who download marker, .answered who (.ok (.ppd reply)) ∈ history →
        taken = .document download marker → Traceable history after.disk who download marker := by
  cases reply with
  | unchanged =>
      obtain ⟨rfl, rfl⟩ := Prod.mk.inj received
      exact ⟨consistent, fun _ => rfl, nofun⟩
  | document bytes marker =>
      obtain ⟨rfl, rfl⟩ := Prod.mk.inj received
      refine ⟨?_, fun _ => rfl, ?_⟩
      · exact consistent.undisturbed rfl rfl rfl rfl rfl (Disk.spares_download 0 _ _ bytes)
          (fun _ => id) (consistent.counted.download bytes)
      · intro who download known came same
        obtain ⟨rfl, rfl⟩ := PpdReply.document.inj same
        refine ⟨Nat.lt_succ_self _, ?_⟩
        intro other found
        change Roster.entry? (service.disk.downloads.add service.disk.nextDownload bytes) _ = _ at found
        rw [Roster.entry_add, consistent.counted _ (Nat.le_refl _), if_pos rfl] at found
        obtain rfl := Option.some.inj found
        exact came

theorem Consistent.receiveAny {reply : Reply (List UInt8)} {taken : Reply Nat}
    (consistent : Consistent origin history service)
    (received : service.receiveAny reply = (after, taken)) :
    Consistent origin history after ∧ ∀ who, after.call? who = service.call? who := by
  cases reply with
  | ppd reply =>
      obtain ⟨rfl, -⟩ := Prod.mk.inj received
      obtain ⟨kept, calls, -⟩ := consistent.receive rfl
      exact ⟨kept, calls⟩
  | printers _ | attributes _ =>
      obtain ⟨rfl, -⟩ := Prod.mk.inj received
      exact ⟨consistent, fun _ => rfl⟩

theorem Consistent.connected {outcome : Except Error Unit}
    (consistent : Consistent origin history service)
    (connected : service.connected? who outcome = some after) :
    Consistent origin history after := by
  obtain ⟨call, found, taken⟩ := Option.bind_eq_some_iff.mp connected
  split at taken
  · rename_i number exchange fetching
    obtain ⟨⟨pool, next⟩, moved, same⟩ := Option.bind_eq_some_iff.mp taken
    obtain rfl := Option.some.inj same
    exact consistent.fetch found fetching fun _ => Exchange.reply?_connected moved
  · rename_i query exchange asking
    obtain ⟨⟨pool, next⟩, _, same⟩ := Option.bind_eq_some_iff.mp taken
    obtain rfl := Option.some.inj same
    exact consistent.ask found asking
  · contradiction

theorem Consistent.reconnected {outcome : Except Error Unit}
    (consistent : Consistent origin history service)
    (reconnected : service.reconnected? who outcome = some after) :
    Consistent origin history after := by
  obtain ⟨call, found, taken⟩ := Option.bind_eq_some_iff.mp reconnected
  split at taken
  · rename_i number exchange fetching
    obtain ⟨⟨pool, next⟩, moved, same⟩ := Option.bind_eq_some_iff.mp taken
    obtain rfl := Option.some.inj same
    exact consistent.fetch found fetching fun _ => Exchange.reply?_reconnected moved
  · rename_i query exchange asking
    obtain ⟨⟨pool, next⟩, _, same⟩ := Option.bind_eq_some_iff.mp taken
    obtain rfl := Option.some.inj same
    exact consistent.ask found asking
  · contradiction

theorem Consistent.answered {outcome : Except Error (Reply (List UInt8))}
    (consistent : Consistent origin history service)
    (answered : service.answered? who outcome = some after)
    (came : .answered who outcome ∈ history) : Consistent origin history after := by
  obtain ⟨call, found, taken⟩ := Option.bind_eq_some_iff.mp answered
  split at taken
  · rename_i number exchange reply fetching
    cases received : service.receive reply with
    | mk next known =>
        rw [received] at taken
        obtain ⟨kept, calls, traceable⟩ := consistent.receive received
        obtain ⟨⟨pool, after⟩, moved, same⟩ := Option.bind_eq_some_iff.mp taken
        obtain rfl := Option.some.inj same
        have foundThere : next.call? who = some call := (calls who).trans found
        obtain ⟨asked, held, -⟩ := kept.calls who call foundThere
        rw [fetching] at held
        refine (kept.withPool pool).move foundThere (by rw [fetching]; rfl) ⟨asked, held, ?_⟩
        intro download marker given
        exact traceable who download marker came (Except.ok.inj (Exchange.reply?_answered moved given))
  · rename_i number exchange error fetching
    obtain ⟨⟨pool, next⟩, moved, same⟩ := Option.bind_eq_some_iff.mp taken
    obtain rfl := Option.some.inj same
    refine consistent.fetch found fetching ?_
    intro reply known
    exact nomatch Exchange.reply?_answered moved known
  · rename_i query exchange reply asking
    cases received : service.receiveAny reply with
    | mk next known =>
        rw [received] at taken
        obtain ⟨kept, calls⟩ := consistent.receiveAny received
        obtain ⟨⟨pool, after⟩, _, same⟩ := Option.bind_eq_some_iff.mp taken
        obtain rfl := Option.some.inj same
        exact kept.ask ((calls who).trans found) asking
  · rename_i query exchange error asking
    obtain ⟨⟨pool, next⟩, _, same⟩ := Option.bind_eq_some_iff.mp taken
    obtain rfl := Option.some.inj same
    exact consistent.ask found asking
  · contradiction

end PrintConnector.Service
