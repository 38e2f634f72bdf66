import Converge.Proofs.Announcements

/-!
# How notes are cut

* `Trims` : a note is the longest beginning of the given one in whole characters that takes at most 1024 bytes; `trims_cutNote`.
* `Landing` : how the search for a boundary goes, backwards from the limit over at most three bytes; `landing_cutNote`: so a note
  that is cut gets its end.
* `cutNote_cutNote`: a note that was cut is not cut again.
* `Event.of_trims`: so it is with the notes of events.
-/

namespace Converge

set_option autoImplicit false

/-- The note is the given one as far as whole characters fit. -/
structure Trims (given note : String) : Prop extends Text.Cut 1024 given note where
  whole : note = given ↔ given.utf8ByteSize ≤ 1024
  /-- Of what is cut off, already the first character does not fit. -/
  full : 1024 < given.utf8ByteSize → ∃ c, note.toList ++ [c] <+: given.toList ∧ 1024 < note.utf8ByteSize + c.utf8Size

/-- The search for a boundary between characters, from the limit backwards, ends at the first one that it tries, after at most three
bytes that are none. -/
structure Landing (limit : Nat) (given : String) (stop : Nat) : Prop where
  found : (Text.boundaryBefore given limit).offset.byteIdx = stop
  boundary : (⟨stop⟩ : String.Pos.Raw).IsValid given
  passed : ∀ m, stop < m → m ≤ limit → ¬ (⟨m⟩ : String.Pos.Raw).IsValid given
  within : stop ≤ limit
  steps : limit - stop ≤ 3

theorem landing {limit : Nat} {given : String} (h : limit ≤ given.utf8ByteSize) :
    Landing limit given (Text.boundaryBefore given limit).offset.byteIdx where
  found := rfl
  boundary := (Text.boundaryBefore given limit).isValid
  passed _ lt le := Text.not_isValid_of_boundaryBefore_lt lt le
  within := Text.boundaryBefore_le given limit
  steps := Nat.sub_le_iff_le_add'.mpr (Text.boundaryBefore_near h)

theorem cutNote_eq_self_iff {note : String} : cutNote note = note ↔ note.utf8ByteSize ≤ 1024 := by
  refine ⟨fun h => ?_, cutNote_of_fits⟩
  have fits := (cut_cutNote note).fits
  rwa [h] at fits

theorem trims_cutNote (given : String) : Trims given (cutNote given) := by
  have cut := cut_cutNote given
  refine ⟨cut, cutNote_eq_self_iff, fun long => ?_⟩
  have short : cutNote given ≠ given := fun h => Nat.not_le_of_lt long (cutNote_eq_self_iff.mp h)
  obtain ⟨rest, hrest⟩ := cut.start
  cases rest with
  | nil => exact absurd (String.toList_inj.mp ((List.append_nil _).symm.trans hrest)) short
  | cons c rest =>
    have next : (cutNote given).toList ++ [c] <+: given.toList := ⟨rest, by rw [← hrest, List.append_assoc]; rfl⟩
    refine ⟨c, next, Nat.not_le.mp fun fits => ?_⟩
    -- the cut is the longest beginning that fits, so it would have this character, too
    have size : (String.ofList ((cutNote given).toList ++ [c])).utf8ByteSize ≤ 1024 := by
      rwa [← Text.byteLength_toList, String.toList_ofList, Text.byteLength_append, Text.byteLength_toList]
    have longer := (cut.longest (String.ofList ((cutNote given).toList ++ [c])) (by rwa [String.toList_ofList]) size).length_le
    rw [String.toList_ofList, List.length_append, List.length_singleton] at longer
    omega

/-- A note that is cut ends where the search does, which is not at the start. -/
theorem landing_cutNote {given : String} (long : maxNoteBytes < given.utf8ByteSize) :
    Landing maxNoteBytes given (cutNote given).utf8ByteSize ∧ 0 < (cutNote given).utf8ByteSize := by
  have cut : (cutNote given).utf8ByteSize = (Text.boundaryBefore given maxNoteBytes).offset.byteIdx := by
    rw [cutNote, if_pos long, ← Text.byteLength_toList, Text.byteLength_sliceTo]
  have lands := landing (Nat.le_of_lt long)
  rw [← cut] at lands
  exact ⟨lands, Nat.pos_of_ne_zero fun zero => absurd (zero ▸ lands.steps) (by decide)⟩

theorem cutNote_cutNote (note : String) : cutNote (cutNote note) = cutNote note :=
  cutNote_of_fits (cut_cutNote note).fits

/-- **Notes are cut to the longest beginning that fits**, at the boundary that a search backwards from byte 1024 finds within three
steps. An event that is made of its own note is the same event. -/
theorem Event.of_trims (type : EventType) (reason action given : String) :
    ∃ note, (Event.of type reason action (some given)).note = some note ∧ Trims given note ∧
      (1024 < given.utf8ByteSize → Landing 1024 given note.utf8ByteSize ∧ 0 < note.utf8ByteSize) ∧
      Event.of type reason action (some note) = Event.of type reason action (some given) :=
  ⟨cutNote given, rfl, trims_cutNote given, landing_cutNote, congrArg (Event.mk type reason action <| some ·) (cutNote_cutNote given)⟩

/-! ## A sample: a limit within a character -/

namespace Sample

/-- After one byte all characters have two, so that no even byte is a boundary. -/
def accented (n : Nat) : String := String.ofList ('x' :: List.replicate n 'é')

theorem utf8ByteSize_accented (n : Nat) : (accented n).utf8ByteSize = 1 + n * 2 := by
  rw [accented, ← Text.byteLength_toList, String.toList_ofList, Text.byteLength_cons, Text.byteLength_replicate]
  rfl

theorem of_trims_accented : 1024 < (accented 1024).utf8ByteSize ∧
    ∃ note, (Event.of .warning "FluxUnhealthy" "Reconcile" (some (accented 1024))).note = some note ∧ Trims (accented 1024) note ∧
      Landing 1024 (accented 1024) note.utf8ByteSize ∧ 0 < note.utf8ByteSize ∧
      Event.of .warning "FluxUnhealthy" "Reconcile" (some note) =
        Event.of .warning "FluxUnhealthy" "Reconcile" (some (accented 1024)) := by
  have long : 1024 < (accented 1024).utf8ByteSize := by
    rw [utf8ByteSize_accented]
    decide
  obtain ⟨note, hnote, trims, lands, again⟩ := Event.of_trims .warning "FluxUnhealthy" "Reconcile" (accented 1024)
  obtain ⟨landing, positive⟩ := lands long
  exact ⟨long, note, hnote, trims, landing, positive, again⟩

end Sample

end Converge
