import ViewGen.Proofs.Nuls
import ViewGen.Proofs.Views

/-!
# Views written up to a fault

Views are written in order, each over whatever file stands at its place.  So the file at a place is in the
end that of the last view written there, or the one that was there before; and a call that fails has written
just the views before the one that it names.
-/

namespace ViewGen

/-! ## One view -/

namespace Disk

variable {disk later : Disk} {current : Location} {now : Moment} {path : Path} {content : ByteArray}

theorem placeFile_embeddedNul
    (h : disk.placeFile current now path content = (later, .error .embeddedNul)) :
    path.hasNul = true := by
  unfold placeFile at h
  split at h
  · rename_i hmake
    cases h
    exact Path.hasNul_of_parent (ensureDirectories_embeddedNul hmake)
  · split at h
    · rename_i hwrite
      cases h
      unfold writeFile at hwrite
      split at hwrite
      · rename_i hlocate
        cases hwrite
        exact (Path.locate_eq_embeddedNul _ _).mp hlocate
      · split at hwrite <;> cases hwrite
    · cases h

end Disk

/-! ## One view after the other -/

section

variable {current place : Location} {now : Moment} {output : Path} {view : RenderedView}
  {rest views written : List RenderedView} {disk later : Disk}

/-- A fault is that of the first view that is not written. -/
theorem writeAll_eq_error {fault : WriteFault}
    (h : writeAll current now output views disk = (later, written, .error fault)) :
    ∃ (view : RenderedView) (rest : List RenderedView) (before : Disk) (cause : DiskFault),
      views = written ++ view :: rest ∧ fault = .of (output.join view.path) cause ∧
        before.placeFile current now (output.join view.path) view.content.toUTF8 =
          (later, .error cause) := by
  induction views generalizing disk written with
  | nil => cases h
  | cons first rest ih =>
    rw [writeAll] at h
    rcases hplace : disk.placeFile current now (output.join first.path) first.content.toUTF8 with
      ⟨middle, cause | u⟩
    · rw [hplace] at h
      cases h
      exact ⟨first, rest, disk, cause, rfl, rfl, hplace⟩
    · rw [hplace] at h
      rcases hrest : writeAll current now output rest middle with ⟨last, others, ended⟩
      simp only [hrest] at h
      cases h
      obtain ⟨view, left, before, cause, rfl, hfault, hview⟩ := ih hrest
      exact ⟨view, left, before, cause, rfl, hfault, hview⟩

end

/-! ## A call -/

/-- How a call ends that has written some views and left others. -/
inductive WriteEnding (output : Path) (written : List RenderedView) :
    List RenderedView → Except WriteFault (List Path) → Prop
  | complete : WriteEnding output written [] (.ok (written.map fun view => output.join view.path))
  | refused {view : RenderedView} {rest : List RenderedView} {cause : Errno} :
    WriteEnding output written (view :: rest) (.error (.cannotWrite (output.join view.path) cause))
  | embeddedNul {view : RenderedView} {rest : List RenderedView} :
    (output.join view.path).hasNul = true →
    WriteEnding output written (view :: rest) (.error .embeddedNul)

theorem writeEnding_writeAll (current : Location) (now : Moment) (output : Path)
    (views : List RenderedView) (disk : Disk) :
    ∃ rest, views = (writeAll current now output views disk).2.1 ++ rest ∧
      WriteEnding output (writeAll current now output views disk).2.1 rest
        ((writeAll current now output views disk).2.2.map fun _ =>
          (writeAll current now output views disk).2.1.map fun view => output.join view.path) := by
  rcases hall : writeAll current now output views disk with ⟨later, written, fault | u⟩
  · obtain ⟨view, rest, before, cause, rfl, rfl, hplace⟩ := writeAll_eq_error hall
    refine ⟨view :: rest, rfl, ?_⟩
    cases cause with
    | system cause => exact .refused
    | embeddedNul => exact .embeddedNul (Disk.placeFile_embeddedNul hplace)
  · have hwritten := (writeAll_initial current now output views disk).2
    rw [hall] at hwritten
    obtain rfl := hwritten rfl
    exact ⟨[], (List.append_nil _).symm, .complete⟩

/-- One view to be written, at the path of the first view of a model. -/
def Reconciliation.single : Reconciliation :=
  { views := [⟨"A", .list, ⟨.relative, ["routes", "a", "list.tsx"]⟩, "", "", .changed⟩]
    manifest := .initial
    written := [] }

end ViewGen
