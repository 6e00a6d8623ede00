import PrintConnector.Cache.Disk
import PrintConnector.Proofs.Roster

namespace PrintConnector.Cache.Disk

variable {disk before after : Disk} {name other : FileName} {who number : Nat}
  {bytes piece : List UInt8} {fault : Option Fault} {gone : Prop}
  {touched : FileName → Prop}

theorem lookup_filter_ne {files : List (FileName × List UInt8)} :
    (files.filter fun file => decide (file.1 ≠ name)).lookup other =
      if other = name then none else files.lookup other := by
  refine (lookup_filter (fun key : FileName => decide (key ≠ name))).trans ?_
  by_cases same : other = name <;> simp [same]

theorem content?_delete :
    (disk.delete name).content? other = if other = name then none else disk.content? other :=
  lookup_filter_ne

theorem content?_deleteAll (names : List FileName) :
    (names.foldl delete disk).content? other =
      if other ∈ names then none else disk.content? other := by
  induction names generalizing disk with
  | nil => simp
  | cons name names ih =>
      rw [List.foldl_cons, ih, content?_delete]
      by_cases first : other = name <;> by_cases later : other ∈ names <;> simp [first, later]

/-- A file has some bytes in it, unless the directory is gone. -/
def Stores (disk : Disk) (gone : Prop) (name : FileName) (bytes : List UInt8) : Prop :=
  gone ∨ disk.content? name = some bytes

/-- What is done for one call touches only some files. -/
structure Spares (gone : Prop) (who : Nat) (touched : FileName → Prop) (before after : Disk) :
    Prop where
  next : before.nextDownload ≤ after.nextDownload
  downloads : ∀ number bytes, number < before.nextDownload →
    after.downloads.entry? number = some bytes → before.downloads.entry? number = some bytes
  staged : ∀ other bytes, other ≠ who → after.staged.entry? other = some bytes →
    before.staged.entry? other = some bytes
  files : ∀ name bytes, ¬ touched name → before.Stores gone name bytes →
    after.Stores gone name bytes

theorem Spares.refl (who : Nat) (touched : FileName → Prop) (disk : Disk) :
    disk.Spares gone who touched disk :=
  ⟨Nat.le_refl _, fun _ _ _ found => found, fun _ _ _ found => found, fun _ _ _ stored => stored⟩

/-- Downloads get numbers that none has had. -/
def IsCounted (disk : Disk) : Prop :=
  ∀ number, disk.nextDownload ≤ number → disk.downloads.entry? number = none

theorem IsCounted.download (counted : disk.IsCounted) (bytes : List UInt8) :
    (disk.download bytes).IsCounted := by
  intro number after
  have late : disk.nextDownload < number := after
  have different : number ≠ disk.nextDownload := Nat.ne_of_gt late
  rw [Disk.download]
  simp [Roster.entry_add, counted number (Nat.le_of_lt late), different]

theorem IsCounted.removeDownload (counted : disk.IsCounted) (download : Nat) :
    (disk.removeDownload download).IsCounted := by
  intro number after
  rw [Disk.removeDownload]
  simp [Roster.entry_remove, counted number after]

theorem spares_download (who : Nat) (touched : FileName → Prop) (disk : Disk)
    (bytes : List UInt8) : disk.Spares gone who touched (disk.download bytes) := by
  refine ⟨Nat.le_succ _, ?_, fun _ _ _ found => found, fun _ _ _ stored => stored⟩
  intro number other earlier found
  have different : number ≠ disk.nextDownload := Nat.ne_of_lt earlier
  rw [download] at found
  simpa [Roster.entry_add, different] using found

theorem spares_removeDownload (who : Nat) (touched : FileName → Prop) (disk : Disk)
    (download : Nat) : disk.Spares gone who touched (disk.removeDownload download) := by
  refine ⟨Nat.le_refl _, ?_, fun _ _ _ found => found, fun _ _ _ stored => stored⟩
  intro number other _ found
  rw [removeDownload] at found
  simp only [Roster.entry_remove] at found
  split at found
  · contradiction
  · exact found

theorem spares_unstage (who : Nat) (touched : FileName → Prop) (disk : Disk) :
    disk.Spares gone who touched (disk.unstage who) := by
  refine ⟨Nat.le_refl _, fun _ _ _ found => found, ?_, fun _ _ _ stored => stored⟩
  intro other bytes different found
  rw [unstage] at found
  simpa [Roster.entry_remove, different] using found

theorem staged_unstage : (disk.unstage who).staged.entry? who = none := by
  rw [unstage]
  simp [Roster.entry_remove]

theorem orFault_ok {α : Type} {result : Except Error α} {value : α}
    (done : orFault fault result = .ok value) : result = .ok value := by
  cases fault with
  | none => exact done
  | some fault => contradiction

theorem readDownload_inv (read : disk.readDownload number fault = .ok bytes) :
    disk.downloads.entry? number = some bytes := by
  have done := orFault_ok read
  split at done
  · rename_i found
    obtain rfl := Except.ok.inj done
    exact found
  · contradiction

theorem stage_inv (staged : disk.stage who fault = .ok after) :
    after = { disk with staged := disk.staged.add who [] } := by
  have done := orFault_ok staged
  split at done
  · contradiction
  · exact (Except.ok.inj done).symm

theorem spares_stage (touched : FileName → Prop) (staged : disk.stage who fault = .ok after) :
    disk.Spares gone who touched after := by
  obtain rfl := stage_inv staged
  refine ⟨Nat.le_refl _, fun _ _ _ found => found, ?_, fun _ _ _ stored => stored⟩
  intro other bytes different found
  simpa [Roster.entry_add, different] using found

/-- What is written goes to the end of the staging file, if that is there. -/
theorem append_inv (appended : disk.append who piece fault = .ok after) :
    after = { disk with staged := after.staged } ∧
      (∀ bytes, after.staged.entry? who = some bytes →
        ∃ front, disk.staged.entry? who = some front ∧ bytes = front ++ piece) ∧
      ∀ other, other ≠ who → after.staged.entry? other = disk.staged.entry? other := by
  have done := orFault_ok appended
  split at done
  · rename_i front found
    obtain rfl := Except.ok.inj done
    refine ⟨rfl, ?_, ?_⟩
    · intro bytes grown
      simp only [Roster.entry_update, found] at grown
      exact ⟨front, found, by simpa using grown.symm⟩
    · intro other different
      simp [Roster.entry_update, different]
  · rename_i missing
    obtain rfl := Except.ok.inj done
    refine ⟨rfl, ?_, fun _ _ => rfl⟩
    intro bytes found
    rw [missing] at found
    contradiction

theorem spares_append (touched : FileName → Prop)
    (appended : disk.append who piece fault = .ok after) : disk.Spares gone who touched after := by
  obtain ⟨same, -, others⟩ := append_inv appended
  rw [same]
  refine ⟨Nat.le_refl _, fun _ _ _ found => found, ?_, fun _ _ _ stored => stored⟩
  intro other bytes different found
  rw [← others other different]
  exact found

/-- A staging file takes the place of a file, and is no staging file any more. -/
theorem replace_inv (replaced : disk.replace who name fault = .ok after) :
    ∃ bytes, disk.staged.entry? who = some bytes ∧
      after = { (disk.unstage who).delete name with
        files := ((disk.unstage who).delete name).files ++ [(name, bytes)] } := by
  have done := orFault_ok replaced
  split at done
  · rename_i bytes found
    exact ⟨bytes, found, (Except.ok.inj done).symm⟩
  · contradiction

theorem content?_replace (replaced : disk.replace who name fault = .ok after) :
    ∃ bytes, disk.staged.entry? who = some bytes ∧ after.staged.entry? who = none ∧
      ∀ other, after.content? other = if other = name then some bytes else disk.content? other := by
  obtain ⟨bytes, found, rfl⟩ := replace_inv replaced
  refine ⟨bytes, found, staged_unstage, ?_⟩
  intro other
  have kept : (((disk.unstage who).delete name).files).lookup other =
      if other = name then none else disk.content? other := content?_delete
  rw [content?, List.lookup_append, kept]
  by_cases same : other = name
  · simp [same]
  · have different : (other == name) = false := by simpa using same
    simp [same, different, List.lookup_cons]

theorem spares_replace (replaced : disk.replace who name fault = .ok after) :
    disk.Spares gone who (· = name) after := by
  obtain ⟨bytes, -, -, contents⟩ := content?_replace replaced
  obtain ⟨_, -, same⟩ := replace_inv replaced
  have staged : after.staged = disk.staged.remove who := by rw [same]; rfl
  have downloads : after.downloads = disk.downloads := by rw [same]; rfl
  have next : after.nextDownload = disk.nextDownload := by rw [same]; rfl
  refine ⟨Nat.le_of_eq next.symm, ?_, ?_, ?_⟩
  · intro number bytes _ found
    rw [← downloads]
    exact found
  · intro other bytes different found
    rw [staged, Roster.entry_remove, if_neg different] at found
    exact found
  · rintro other bytes different (lost | found)
    · exact .inl lost
    · right
      rw [contents, if_neg different]
      exact found

theorem create_inv (created : disk.create name fault = .ok after) :
    after = { disk with files := disk.files ++ [(name, [])] } := by
  have done := orFault_ok created
  split at done
  · contradiction
  · split at done
    · contradiction
    · exact (Except.ok.inj done).symm

theorem content?_create (created : disk.create name fault = .ok after) :
    after.content? other =
      (disk.content? other).or (if other = name then some [] else none) := by
  obtain rfl := create_inv created
  rw [content?, List.lookup_append, List.lookup_cons]
  by_cases same : other = name
  · simp [same, content?]
  · have different : (other == name) = false := by simpa using same
    simp [same, different, content?]

theorem spares_create (created : disk.create name fault = .ok after) :
    disk.Spares gone who (· = name) after ∧ after.downloads = disk.downloads ∧
      after.nextDownload = disk.nextDownload ∧ after.staged = disk.staged := by
  have contents (other : FileName) := @content?_create disk _ name other fault created
  obtain rfl := create_inv created
  refine ⟨⟨Nat.le_refl _, fun _ _ _ found => found, fun _ _ _ found => found, ?_⟩, rfl, rfl, rfl⟩
  rintro other bytes different (lost | found)
  · exact .inl lost
  · right
    rw [contents, found]
    rfl

theorem spares_delete (who : Nat) (disk : Disk) (names : List FileName) :
    disk.Spares gone who (· ∈ names) (names.foldl delete disk) ∧
      (names.foldl delete disk).downloads = disk.downloads ∧
      (names.foldl delete disk).nextDownload = disk.nextDownload ∧
      (names.foldl delete disk).staged = disk.staged := by
  induction names generalizing disk with
  | nil => exact ⟨.refl who _ disk, rfl, rfl, rfl⟩
  | cons name names ih =>
      obtain ⟨spared, downloads, next, staged⟩ := ih (disk.delete name)
      refine ⟨⟨Nat.le_of_eq next.symm, ?_, ?_, ?_⟩, downloads, next, staged⟩
      · intro number bytes _ found
        rw [List.foldl_cons, downloads] at found
        exact found
      · intro other bytes _ found
        rw [List.foldl_cons, staged] at found
        exact found
      · intro other bytes spare stored
        obtain ⟨different, later⟩ := List.ne_and_not_mem_of_not_mem_cons spare
        refine spared.files other bytes later ?_
        obtain lost | found := stored
        · exact .inl lost
        · right
          rw [content?_delete, if_neg different]
          exact found

theorem spares_removeDirectory (who : Nat) (touched : FileName → Prop) (disk : Disk)
    (lost : gone) : disk.Spares gone who touched disk.removeDirectory := by
  refine ⟨Nat.le_refl _, fun _ _ _ found => found, ?_, fun _ _ _ _ => .inl lost⟩
  intro other bytes _ found
  rw [removeDirectory] at found
  simp at found

end PrintConnector.Cache.Disk
