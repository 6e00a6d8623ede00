import PrintConnector.Proofs.Service.Carry
import PrintConnector.Proofs.Service.Renewal

namespace PrintConnector.Service

open Cache (Copy Disk Edition Entry FileName stemOf)

variable {origin before after service : Service} {event : Event}
  {events front more : List Event} {who number download : Nat} {printer : String}
  {request : Request} {phase : Phase} {marker : Option String} {edition : Edition}
  {target name : FileName} {progress : Replacement} {bytes : List UInt8}

/-- A call has a new document for an entry in hand. -/
inductive Replaces (service : Service) (who number : Nat) : Prop where
  | replacing {marker : Option String}
      (doing : service.phase? who = some (.replacing number marker))
  | replaced {marker : Option String} {edition : Edition}
      (doing : service.phase? who = some (.replaced number marker (.ok edition)))

/-- A refresh was given up while it had a new document for an entry in hand. -/
def Deserted (origin : Service) (events : List Event) (who number : Nat) : Prop :=
  ∃ front back between, events = front ++ .abandon who :: back ∧
    origin.run? front = some between ∧ between.Replaces who number

theorem Deserted.append (deserted : Deserted origin events who number) (more : List Event) :
    Deserted origin (events ++ more) who number := by
  obtain ⟨front, back, between, rfl, reached, replaces⟩ := deserted
  exact ⟨front, back ++ more, between, by simp, reached, replaces⟩

/-- A document that a refresh was sent is on its way into a file. -/
structure Fetched (origin : Service) (events : List Event) (service : Service)
    (who number : Nat) (printer : String) (marker : Option String) (bytes : List UInt8) :
    Prop where
  sent : Sent events printer who bytes marker
  owner : service.call? who = some ⟨.refresh printer, .replacing number marker⟩ ∨
    service.phase? who = some (.finished .abandoned) ∧ Deserted origin events who number

structure Traced (origin : Service) (events : List Event) (service : Service) : Prop where
  asked : ∀ who call, service.call? who = some call → .call who call.request ∈ events
  heard : ∀ who request number exchange download marker,
    service.call? who = some ⟨request, .fetching number exchange⟩ →
    exchange.reply? = some (.document download marker) →
    ∃ bytes, Came events who bytes marker ∧ Brings service.disk download bytes
  copied : ∀ who download target progress,
    service.jobs.entry? who = some (.replace download target progress) →
    ∃ number printer marker bytes, target = ⟨stemOf printer, number⟩ ∧
      progress.Copies service.disk download bytes ∧
      Fetched origin events service who number printer marker bytes

theorem start_traced (started : start settings = .ok service) : Traced service [] service := by
  obtain rfl := start_inv started
  refine ⟨?_, ?_, ?_⟩
  · intro who call found
    contradiction
  · intro who request number exchange download marker found
    contradiction
  · intro who download target progress working
    contradiction

namespace Traced

theorem asked_step (traced : Traced origin front before) (orderly : before.Orderly)
    (taken : before.step? event = some after) {call : Call}
    (found : after.call? who = some call) : .call who call.request ∈ front ++ [event] := by
  cases earlier : before.call? who with
  | none =>
      obtain ⟨request, rfl, rfl⟩ := orderly.entered taken earlier found
      exact List.mem_append_right _ (List.mem_singleton_self _)
  | some old =>
      obtain ⟨next, known, -⟩ := orderly.next_phase taken earlier
      obtain rfl := Option.some.inj (found.symm.trans known)
      exact List.mem_append_left _ (traced.asked who old earlier)

theorem heard_step (traced : Traced origin front before) (orderly : before.Orderly)
    (taken : before.step? event = some after) {exchange : Exchange (PpdReply Nat)}
    (found : after.call? who = some ⟨request, .fetching number exchange⟩)
    (replied : exchange.reply? = some (.document download marker)) :
    ∃ bytes, Came (front ++ [event]) who bytes marker ∧ Brings after.disk download bytes := by
  obtain ⟨counted, fades⟩ := orderly.downloads_fade taken
  have kept {earlier : Exchange (PpdReply Nat)}
      (asked : before.call? who = some ⟨request, .fetching number earlier⟩)
      (had : earlier.reply? = some (.document download marker)) :
      ∃ bytes, Came (front ++ [event]) who bytes marker ∧ Brings after.disk download bytes := by
    obtain ⟨bytes, came, brings⟩ := traced.heard who _ _ _ download marker asked had
    exact ⟨bytes, List.mem_append_left _ came, brings.fade counted fades⟩
  by_cases caller : event.caller? = some who
  · rcases reply_source (move_of_step taken) caller found replied with
      ⟨earlier, asked, had⟩ | ⟨bytes, rfl, rfl, disk⟩
    · exact kept asked had
    · refine ⟨bytes, List.mem_append_right _ (List.mem_singleton_self _), ?_⟩
      rw [disk]
      exact brings_download orderly.counted
  · rw [(orderly.stays taken caller).1] at found
    exact kept found replied

theorem copied_step (traced : Traced origin front before) (orderly : before.Orderly)
    (reached : origin.run? front = some before) (taken : before.step? event = some after)
    (working : after.jobs.entry? who = some (.replace download target progress)) :
    ∃ number printer marker bytes, target = ⟨stemOf printer, number⟩ ∧
      progress.Copies after.disk download bytes ∧
      Fetched origin (front ++ [event]) after who number printer marker bytes := by
  obtain ⟨counted, fades⟩ := orderly.downloads_fade taken
  have longer : front ⊆ front ++ [event] := List.subset_append_left _ _
  by_cases caller : event.caller? = some who
  · cases orderly.hauls (move_of_step taken) caller working with
    | @take _ _ exchange marker _ _ asked concluded known file =>
        obtain ⟨printer, rfl, _, again, -, named⟩ := orderly.holds asked rfl
        obtain rfl := Option.some.inj (known.symm.trans again)
        have replied : exchange.reply? = some (.document download marker) := by
          simp [Exchange.reply?, concluded]
        obtain ⟨bytes, came, brings⟩ := traced.heard who _ _ _ download marker asked replied
        refine ⟨_, printer, marker, bytes, ?_, brings, ⟨?_, longer came⟩,
          .inl (call?_setPhase_self asked)⟩
        · rw [← file, (orderly.named _ _ known).1, named]
        · exact longer (traced.asked who _ asked)
    | prepare earlier prepared =>
        obtain ⟨number, printer, marker, bytes, named, copies, sent, owner⟩ :=
          traced.copied who download target _ earlier
        exact ⟨number, printer, marker, bytes, named, copies.prepared prepared, sent.later longer,
          owner.imp_right fun given => ⟨given.1, given.2.append _⟩⟩
    | place earlier =>
        obtain ⟨number, printer, marker, bytes, named, ⟨sound, whole⟩, sent, owner⟩ :=
          traced.copied who download target _ earlier
        exact ⟨number, printer, marker, bytes, named, whole ▸ sound.edition who, sent.later longer,
          owner.imp_right fun given => ⟨given.1, given.2.append _⟩⟩
    | desert asked earlier =>
        obtain ⟨number, printer, marker, bytes, named, copies, sent, owner⟩ :=
          traced.copied who download target _ earlier
        refine ⟨number, printer, marker, bytes, named, copies.fade counted fades, sent.later longer,
          .inr ⟨phase?_of_call? (finish_call? asked), front, [], before, rfl, reached, ?_⟩⟩
        rcases owner with owner | ⟨concluded, -⟩
        · exact .replacing (phase?_of_call? owner)
        · exact absurd ((phase?_of_call? asked).symm.trans concluded) (by simp)
  · obtain ⟨calls, jobs⟩ := orderly.stays taken caller
    rw [jobs] at working
    obtain ⟨number, printer, marker, bytes, named, copies, sent, owner⟩ :=
      traced.copied who download target progress working
    refine ⟨number, printer, marker, bytes, named, copies.fade counted fades, sent.later longer, ?_⟩
    unfold phase?
    rw [calls]
    exact owner.imp_right fun given => ⟨given.1, given.2.append _⟩

theorem step (traced : Traced origin front before) (orderly : before.Orderly)
    (reached : origin.run? front = some before) (taken : before.step? event = some after) :
    Traced origin (front ++ [event]) after where
  asked _ _ := traced.asked_step orderly taken
  heard _ _ _ _ _ _ := traced.heard_step orderly taken
  copied _ _ _ _ := traced.copied_step orderly reached taken

/-- Whoever puts a document in a file puts it there as the server has sent it. -/
theorem placed (traced : Traced origin front before) (orderly : before.Orderly)
    (taken : before.step? event = some after) (caller : event.caller? = some who)
    (places : Places before after who name) :
    ∃ number printer marker bytes, name = ⟨stemOf printer, number⟩ ∧
      after.disk.content? name = some bytes ∧ after.call? who = before.call? who ∧
      (∃ download edition, after.jobs.entry? who =
        some (.replace download name (.cleaning (.ok edition))) ∧ edition.IsOf bytes) ∧
      Fetched origin front before who number printer marker bytes := by
  obtain ⟨download, copy, earlier, working⟩ := places
  obtain ⟨number, printer, marker, bytes, named, ⟨sound, whole⟩, fetched⟩ :=
    traced.copied who download name _ earlier
  have done := working
  refine ⟨number, printer, marker, bytes, named, ?_⟩
  generalize placed : Replacement.cleaning (.ok (copy.edition who)) = progress at working
  cases orderly.hauls (move_of_step taken) caller working with
  | take => contradiction
  | prepare again prepared =>
      obtain ⟨-, -, rfl⟩ := Job.replace.inj (Option.some.inj (earlier.symm.trans again))
      exact absurd placed.symm prepared.not_done
  | place again replaced =>
      obtain ⟨found, staged, -, contents⟩ := Disk.content?_replace replaced
      obtain ⟨job, known, stages⟩ := orderly.staged who found staged
      obtain rfl := Option.some.inj (earlier.symm.trans known)
      obtain rfl : found = bytes := Eq.trans stages whole
      exact ⟨(contents name).trans (if_pos rfl), rfl,
        ⟨download, _, done, whole ▸ sound.edition who⟩, fetched⟩
  | desert _ again =>
      obtain ⟨-, -, rfl⟩ := Job.replace.inj (Option.some.inj (earlier.symm.trans again))
      contradiction

end Traced

end PrintConnector.Service
