import PrintConnector.Proofs.Service.Call
import PrintConnector.Proofs.Service.Job

namespace PrintConnector.Service

open Cache (Disk Edition Entry Snapshot)

variable {history events : List Event} {event : Event} {origin fresh after service : Service}
  {who : Nat} {request : Request} {settings : Settings}

theorem start_inv (started : start settings = .ok service) :
    service = { pool := .start (.ofSettings settings) } := by
  unfold start at started
  cases valid : settings.validate with
  | error error =>
      rw [valid] at started
      contradiction
  | ok sound =>
      rw [valid] at started
      exact (Except.ok.inj started).symm

theorem start_consistent (started : start settings = .ok service) :
    Consistent service [] service := by
  obtain rfl := start_inv started
  refine
    { follows := ⟨Nat.le_refl _, fun _ entry _ found => ⟨entry, found, rfl, rfl⟩⟩
      named := fun _ member => absurd member List.not_mem_nil
      listed := fun _ member => absurd member List.not_mem_nil
      counted := fun _ _ => rfl
      calls := ?_
      jobs := ?_
      staged := ?_
      entries := ?_ }
  · intro who call found
    contradiction
  · intro who job found
    contradiction
  · intro who bytes found
    contradiction
  · intro number entry found
    contradiction

/-- A new call comes. -/
theorem Consistent.enter (consistent : Consistent origin history service)
    (entered : service.enter? who request = some after) (asked : .call who request ∈ history) :
    Consistent origin history after := by
  unfold enter? at entered
  split at entered
  · contradiction
  · rename_i absent
    obtain rfl := Option.some.inj entered
    have missing : service.call? who = none := by
      simpa [Roster.has, call?] using absent
    let calls := service.calls.add who { request }
    have added (other : Nat) : calls.entry? other =
        (service.call? other).or (if other = who then some { request } else none) :=
      Roster.entry_add
    have unknown : service.phase? who = none := by rw [phase?, missing]; rfl
    have idle : service.jobs.entry? who = none := by
      cases working : service.jobs.entry? who with
      | none => rfl
      | some job =>
          have fits := consistent.jobs who job working
          rw [unknown] at fits
          cases job <;> exact fits.elim
    have spared : service.Spares history who (fun _ => False) { service with calls } := by
      refine ⟨rfl, rfl, rfl, ?_, fun _ _ => rfl, .refl _ _ _⟩
      intro other different
      change calls.entry? other = _
      rw [added, if_neg different, Option.or_none]
    refine consistent.act spared consistent.counted ?_ ?_ (consistent.staged who)
      (fun _ _ _ _ _ => id) ?_
    · intro call found
      change calls.entry? who = some call at found
      rw [added, missing, if_pos rfl] at found
      obtain rfl := Option.some.inj found
      refine ⟨asked, ?_, trivial⟩
      intro number grip
      contradiction
    · intro job working
      rw [idle] at working
      contradiction
    · rintro number entry _ ((⟨_, _, renewing⟩ | ⟨_, _, _, _, renewing, -⟩) | touched)
      · rw [unknown] at renewing
        contradiction
      · rw [unknown] at renewing
        contradiction
      · exact touched.elim

theorem Consistent.poolStep {action : Pool.Action}
    (consistent : Consistent origin history service)
    (taken : service.poolStep? action = some after) : Consistent origin history after := by
  obtain ⟨pool, _, same⟩ := Option.bind_eq_some_iff.mp taken
  obtain rfl := Option.some.inj same
  exact consistent.withPool pool

/-- Whatever happens, the service stays consistent, unless a call is given up. -/
theorem Consistent.step (consistent : Consistent origin history service)
    (taken : service.step? event = some after) (lasting : ∀ who, event ≠ .abandon who) :
    Consistent origin (history ++ [event]) after := by
  have kept : Consistent origin (history ++ [event]) service :=
    consistent.later (List.subset_append_left _ _)
  have happened : event ∈ history ++ [event] := by simp
  cases event with
  | call who request => exact kept.enter taken happened
  | go who fault => exact kept.go taken
  | connected who result => exact kept.connected taken
  | reconnected who result => exact kept.reconnected taken
  | answered who result => exact kept.answered taken happened
  | abandon who => exact absurd rfl (lasting who)
  | work who fault => exact kept.work taken
  | reap ticket => exact kept.poolStep taken
  | lose download =>
      obtain rfl := Option.some.inj taken
      exact kept.undisturbed rfl rfl rfl rfl rfl (Disk.spares_removeDownload 0 _ _ download)
        (fun _ => id) (kept.counted.removeDownload download)
  | removeDirectory =>
      obtain rfl := Option.some.inj taken
      exact kept.undisturbed rfl rfl rfl rfl rfl (Disk.spares_removeDirectory 0 _ _ happened)
        nofun kept.counted
  | elapse milliseconds => exact kept.poolStep taken
  | age milliseconds => exact kept.poolStep taken

theorem Consistent.run (consistent : Consistent origin history service)
    (ran : service.run? events = some after) (lasting : ∀ who, .abandon who ∉ events) :
    Consistent origin (history ++ events) after := by
  induction events generalizing history service with
  | nil =>
      obtain rfl := Option.some.inj ran
      rw [List.append_nil]
      exact consistent
  | cons event events ih =>
      rw [run?, List.foldlM_cons, Option.bind_eq_bind, Option.bind_eq_some_iff] at ran
      obtain ⟨next, taken, rest⟩ := ran
      have first : ∀ who, event ≠ .abandon who := by
        rintro who rfl
        exact lasting who List.mem_cons_self
      have others : ∀ who, .abandon who ∉ events :=
        fun who member => lasting who (List.mem_cons_of_mem _ member)
      rw [List.append_cons]
      exact ih (consistent.step taken first) rest others

theorem run?_append {front back : List Event} :
    service.run? (front ++ back) = (service.run? front).bind fun next => next.run? back := by
  rw [run?, List.foldlM_append]
  rfl

/-- What the cache holds and has given out, for a service that was started fresh. -/
structure Coherent (fresh : Service) (events : List Event) (service : Service) : Prop where
  /-- An entry that nobody has locked is of the document in its file, and its
  marker came with that document. -/
  held : ∀ number entry edition, service.entry? number = some entry → entry.line = [] →
    entry.current = some edition →
    ∃ who bytes, Sent events entry.printer who bytes entry.marker ∧ edition.IsOf bytes ∧
      service.disk.Stores (Removed events) entry.file bytes
  named : ∀ number entry, service.entry? number = some entry →
    entry.file = ⟨Cache.stemOf entry.printer, number⟩
  /-- An entry has the file that it has had since it was created. -/
  lasting : ∀ front back earlier number old entry, front ++ back = events →
    fresh.run? front = some earlier → earlier.entry? number = some old →
    service.entry? number = some entry → entry.file = old.file
  given : ∀ who snapshot,
    service.phase? who = some (.finished (.refreshed (.ok snapshot))) ∨
      service.phase? who = some (.finished (.cached (some snapshot))) →
    ∃ printer sender bytes marker, Sent events printer sender bytes marker ∧
      snapshot.edition.IsOf bytes ∧ snapshot.edition.capabilities.IsOf bytes

theorem Consistent.held (consistent : Consistent origin history service) {number : Nat}
    {entry : Entry} {edition : Edition} (found : service.entry? number = some entry)
    (free : entry.line = []) (current : entry.current = some edition) :
    ∃ who bytes, Sent history entry.printer who bytes entry.marker ∧ edition.IsOf bytes ∧
      service.disk.Stores (Removed history) entry.file bytes := by
  obtain ⟨who, bytes, sent, isOf, stored | ⟨other, renews⟩⟩ :=
    consistent.entries number entry found edition current
  · exact ⟨who, bytes, sent, isOf, stored⟩
  · obtain ⟨_, same, again, first, _⟩ := consistent.holds_of_renews renews
    obtain rfl := Option.some.inj (found.symm.trans again)
    rw [Entry.isHeldBy, free] at first
    contradiction

theorem Consistent.given (consistent : Consistent origin history service) {result : Result}
    (finished : service.phase? who = some (.finished result)) : ResultSound history result := by
  obtain ⟨call, found, doing⟩ := call?_of_phase? finished
  have sound := (consistent.calls who call found).sound
  rw [doing] at sound
  exact sound

/-- However calls and failures follow each other, what the cache holds and gives
out stays coherent, as long as no call is given up. -/
theorem run_coherent (started : start settings = .ok fresh) (ran : fresh.run? events = some service)
    (completed : ∀ who, .abandon who ∉ events) : Coherent fresh events service := by
  have consistent : Consistent fresh events service := (start_consistent started).run ran completed
  refine
    { held := fun _ _ _ => consistent.held
      named := fun _ _ found => (consistent.early found).1
      lasting := ?_
      given := ?_ }
  · rintro front back earlier number old entry rfl reached found later
    rw [run?_append, reached] at ran
    have early : Consistent fresh front earlier :=
      (start_consistent started).run reached fun who member =>
        completed who (List.mem_append_left _ member)
    have since : Consistent earlier (front ++ back) service := by
      refine { early with follows := ?_ : Consistent earlier front earlier }.run ran fun who member =>
        completed who (List.mem_append_right _ member)
      exact ⟨Nat.le_refl _, fun _ entry _ found => ⟨entry, found, rfl, rfl⟩⟩
    obtain ⟨first, known, -, file⟩ :=
      since.follows.entries number entry (early.early found).2 later
    obtain rfl := Option.some.inj (found.symm.trans known)
    exact file
  · rintro who snapshot (finished | finished)
    · obtain ⟨printer, sender, bytes, marker, sent, isOf⟩ := consistent.given finished
      exact ⟨printer, sender, bytes, marker, sent, isOf, isOf.capabilities⟩
    · obtain ⟨printer, sender, bytes, marker, sent, isOf⟩ := consistent.given finished
      exact ⟨printer, sender, bytes, marker, sent, isOf, isOf.capabilities⟩

/-- A printer is refreshed for the first time, up to the end of the call. -/
def firstRefresh : List Event :=
  [.call 0 (.refresh "office"), .go 0 none, .go 0 none, .go 0 none, .go 0 none,
    .connected 0 (.ok ()), .go 0 none, .go 0 none,
    .answered 0 (.ok (.ppd (.document [42, 80, 80, 68] (some "m1")))), .go 0 none, .go 0 none,
    .go 0 none, .go 0 none, .work 0 none, .work 0 none, .work 0 none, .work 0 none, .work 0 none,
    .work 0 none, .go 0 none]

/-- After the first refresh of a printer its entry is free and holds something. -/
theorem firstRefresh_coherent :
    ∃ fresh service entry, start (.standard "cache") = .ok fresh ∧
      fresh.run? firstRefresh = some service ∧ service.entry? 0 = some entry ∧ entry.line = [] ∧
      entry.current.isSome = true ∧ (∀ who, .abandon who ∉ firstRefresh) ∧
      Coherent fresh firstRefresh service := by
  have started : start (.standard "cache") =
      .ok { pool := .start (.ofSettings (.standard "cache")) } := rfl
  have ran : run? { pool := .start (.ofSettings (.standard "cache")) } firstRefresh = some _ := rfl
  have completed : ∀ who, .abandon who ∉ firstRefresh := by simp [firstRefresh]
  exact ⟨_, _, _, started, ran, rfl, rfl, rfl, completed, run_coherent started ran completed⟩

end PrintConnector.Service
