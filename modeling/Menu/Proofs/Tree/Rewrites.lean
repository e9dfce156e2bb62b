import Menu.Proofs.Tree.Changes

/-!
# Files that are written anew

Writing a file takes no other file away: what was a file stays one, with other bytes perhaps.

* `Tree.FilesStay`: every file of a tree is still a file in another.
* `Edit.filesStay_write`: a file that is written, by the program or by others, leaves all files there.
* `Edit.write_of_file` and `Edit.delete_of_straight`: what becomes of a file that is there.
-/

namespace Menu

namespace Tree

variable {t t' t'' : Tree} {place : Place} {path : Path} {content bytes : List UInt8} {stamp : Stamp}

/-- Every file of a tree is one in another tree, which takes the same names. -/
structure FilesStay (t t' : Tree) : Prop where
  files : ∀ place content stamp, t.node? place = some (.file content stamp) →
    ∃ content' stamp', t'.node? place = some (.file content' stamp')
  surrogates : t'.surrogate? = t.surrogate?

theorem FilesStay.refl (t : Tree) : t.FilesStay t :=
  ⟨fun _ content stamp file => ⟨content, stamp, file⟩, rfl⟩

theorem FilesStay.trans (first : t.FilesStay t') (second : t'.FilesStay t'') : t.FilesStay t'' := by
  refine ⟨fun place content stamp file => ?_, second.surrogates.trans first.surrogates⟩
  obtain ⟨content', stamp', file'⟩ := first.files place content stamp file
  exact second.files place content' stamp' file'

/-- A file that is there is a straight path's file in any later tree. -/
theorem FilesStay.read (stay : t.FilesStay t') (founded : t'.Founded) (straight : t.Straight place)
    (file : t.node? place = some (.file content stamp)) :
    ∃ content' stamp', t'.Straight place ∧ t'.node? place = some (.file content' stamp') ∧
      t'.read (Path.ofPlace place) = .ok content' := by
  obtain ⟨content', stamp', file'⟩ := stay.files place content stamp file
  exact ⟨content', stamp', founded.straight stay.surrogates straight file' (by simp), file',
    founded.read stay.surrogates straight file'⟩

theorem filesStay_makeDirectories (founded : t.Founded) (path : Path) : t.FilesStay (t.makeDirectories path).2 :=
  ⟨fun _ content stamp file => ⟨content, stamp, (file_iff_makeDirectories founded path).2 file⟩,
    keeps_makeDirectories (kept_surrogate? t.surrogate?).makeDirectory rfl path⟩

theorem filesStay_write (founded : t.Founded) (h : t.write path bytes = .ok t') : t.FilesStay t' := by
  refine ⟨fun place content stamp file => ?_, surrogate?_of_write h⟩
  obtain ⟨found, -, -, -, here, same⟩ := written founded h
  by_cases e : place = found.place
  · exact ⟨_, _, e ▸ here⟩
  · exact ⟨content, stamp, (same.file_iff e).2 file⟩

theorem filesStay_touch {time : Int} (founded : t.Founded) (h : t.touch path time = .ok t') : t.FilesStay t' := by
  refine ⟨fun place content stamp file => ?_, (kept_surrogate? t.surrogate?).touch _ _ _ _ rfl h⟩
  unfold Tree.touch at h
  split at h
  · cases h
  split at h
  · cases h
  split at h
  · rename_i touched old before found
    cases h
    by_cases e : place = touched
    · rw [e]
      exact ⟨_, _, node?_put_self _ _ _⟩
    · exact ⟨content, stamp, ((sameBut_put t touched _).file_iff e).2 file⟩
  · rename_i touched node noFile found
    cases h
    have elsewhere : place ≠ touched := by
      rintro rfl
      obtain ⟨there, -⟩ := status_spec founded found
      cases file.symm.trans there
      exact noFile _ _ rfl
    exact ⟨content, stamp, ((sameBut_put t touched _).file_iff elsewhere).2 file⟩
  · cases h

end Tree

open Menu.Tree

variable {t t' : Tree} {place : Place} {path : Path} {content bytes : List UInt8} {stamp : Stamp} {time : Int}

theorem Edit.filesStay_write (founded : t.Founded) (h : (write path bytes time).apply t = (.ok (), t')) :
    t.FilesStay t' := by
  obtain ⟨t₂, made, touched⟩ := Attempt.exists_of_andThen h
  obtain ⟨t₁, directories, written⟩ := Attempt.exists_of_andThen made
  have founded₁ : t₁.Founded := founded.makeDirectories directories
  have stay : t.FilesStay t₁ := by simpa [directories] using filesStay_makeDirectories founded path.parent
  exact (stay.trans (Tree.filesStay_write founded₁ written)).trans (filesStay_touch (founded₁.write written) touched)

/-! ## What becomes of a file that is there -/

theorem Tree.write_of_file (straight : t.Straight place) (file : t.node? place = some (.file content stamp))
    (clean : t.takesPath (Path.ofPlace place) = true) (bytes : List UInt8) :
    t.write (Path.ofPlace place) bytes = .ok (t.count.put place (.file bytes t.count.now)) := by
  rw [write, reach, clean, lookUp_of_straight .create straight, file]
  rfl

/-- A file that is there is written anew, and is found with the time that was set. -/
theorem Edit.write_of_file {name : String} (founded : t.Founded) (straight : t.Straight (place ++ [name]))
    (file : t.node? (place ++ [name]) = some (.file content stamp))
    (clean : t.takesPath (Path.ofPlace place) = true) (clean' : t.takesPath (Path.ofPlace (place ++ [name])) = true)
    (bytes : List UInt8) (settable : isTime time = true) :
    (write (Path.ofPlace (place ++ [name])) bytes time).apply t =
      (.ok (), (t.count.put (place ++ [name]) (.file bytes t.count.now)).put (place ++ [name])
        (.file bytes (.set time))) := by
  have above : (Path.ofPlace (place ++ [name])).parent = Path.ofPlace place := by simp [Path.parent, Path.ofPlace]
  have here : t.isDirectoryAt place = true := founded.lies _ _ file place name rfl
  have straight' : t.Straight place := straight.of_prefix (List.prefix_append _ _)
  have made := Tree.write_of_file straight file clean' bytes
  have same : (t.count.put (place ++ [name]) (.file bytes t.count.now)).surrogate? = t.surrogate? := rfl
  have touched := touch_of_status ((congrFun (takesPath_of_surrogate? same) _).trans clean') settable
    (status_of_straight ((founded.write made).straight same straight (node?_put_self _ _ _) (by simp))
      (node?_put_self _ _ _))
  rw [Edit.apply, above, makeDirectories_of_straight straight' here clean]
  simp only [Attempt.andThen, made, touched]

theorem Edit.delete_of_straight {node : Node} (straight : t.Straight place) (there : t.node? place = some node)
    (clean : t.takesPath (Path.ofPlace place) = true) :
    (delete (Path.ofPlace place)).apply t = (.ok (), (t.count.prune place).markDirectory place.dropLast) := by
  have deleted : t.delete (Path.ofPlace place) = .ok ((t.count.prune place).markDirectory place.dropLast) := by
    rw [Tree.delete, reach, clean, lookUp_of_straight .keep straight, there]
    rfl
  rw [Edit.apply, attempt, Attempt.andThen]
  simp only [deleted]

end Menu
