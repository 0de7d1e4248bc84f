import Teletype.Proofs.Discipline.Run

/-!
# Readings one after the other

What a terminal reads comes in readings: some bytes, or the end of the input. What each of
them makes of what is seen of a discipline is one function (`Scene.deal`), and what all of
them make of it is a fold. **Bytes that were read in parts come to the same as all of them
at once** (`Scene.foldl_deal_some`), and the end dealt with again comes to an end more and
nothing else, because no line is left (`Scene.foldl_deal_none`).
-/

namespace Teletype

namespace Discipline

/-- **What is seen of a discipline**, its echo included. -/
@[ext] structure Scene where
  /-- What is seen apart from the echo. -/
  view : View
  /-- What has been echoed, if there is anywhere to echo. -/
  echo : Option (List UInt8)

/-- What is seen of a discipline. -/
def scene (d : Discipline) : Scene := ⟨d.view, d.echoed?⟩

namespace Scene

/-- Some bytes processed. -/
def run (a : Attributes) (v : Scene) (bytes : List UInt8) : Scene where
  view := v.view.after (Discipline.run a v.view.state bytes).1 (Discipline.run a v.view.state bytes).2
  echo := v.echo.map (· ++ (Discipline.run a v.view.state bytes).2.echo)

/-- The end dealt with: a line begun is delivered, and then the end. -/
def ended (v : Scene) : Scene :=
  { v with view := { v.view with
      state := { v.view.state with line := [] }
      stream := v.view.stream ++ v.view.frame.admitted v.view.state.line ++ v.view.frame.ending } }

/-- So many ends more. -/
def moreEnds (v : Scene) (n : Nat) : Scene :=
  { v with view := { v.view with
      stream := v.view.stream ++ (List.replicate n v.view.frame.ending).flatten } }

/-- **What a reading makes** of what is seen. -/
def deal (a : Attributes) (v : Scene) : Option (List UInt8) → Scene
  | some bytes => v.run a bytes
  | none => v.ended

variable {a : Attributes} {v : Scene}

theorem run_nil : v.run a [] = v := by
  ext1
  · exact View.after_nothing v.view
  · show v.echo.map (· ++ []) = v.echo
    simp

/-- **Bytes in two parts** are dealt with like all of them at once. -/
theorem run_append (xs ys : List UInt8) : (v.run a xs).run a ys = v.run a (xs ++ ys) := by
  have hrun := Discipline.run_append a v.view.state xs ys
  ext1
  · show (v.view.after _ _).after _ _ = v.view.after _ _
    rw [View.after_after, hrun]
    rfl
  · show (v.echo.map _).map _ = v.echo.map _
    rw [hrun, Option.map_map]
    congr 1
    funext echo
    exact List.append_assoc ..

/-- Chunks are dealt with like the bytes in them. -/
theorem foldl_deal_some (chunks : List (List UInt8)) :
    (chunks.map some).foldl (deal a) v = v.run a chunks.flatten := by
  induction chunks generalizing v with
  | nil => exact run_nil.symm
  | cons chunk chunks ih => exact ih.trans (run_append chunk chunks.flatten)

/-- An end again is an end more: no line is left. -/
theorem ended_moreEnds (n : Nat) : (v.ended.moreEnds n).ended = v.ended.moreEnds (n + 1) := by
  ext1
  · ext1
    · rfl
    · rfl
    · show (_ ++ (List.replicate n v.view.frame.ending).flatten) ++ v.view.frame.admitted []
        ++ v.view.frame.ending = _ ++ (List.replicate (n + 1) v.view.frame.ending).flatten
      rw [Queue.admitted_nil, List.append_nil, List.replicate_succ', List.flatten_append,
        List.flatten_singleton, List.append_assoc]
    · rfl
  · rfl

theorem foldl_deal_none (n : Nat) :
    (List.replicate (n + 1) none).foldl (deal a) v = v.ended.moreEnds n := by
  induction n with
  | zero =>
    show v.ended = _
    unfold moreEnds
    simp
  | succ n ih =>
    rw [List.replicate_succ', List.foldl_append, ih]
    exact ended_moreEnds n

end Scene

section

variable {a : Attributes} {d : Discipline}

/-- **Bytes processed**, where echo never fails. -/
theorem NeverRefuses.scene_process (h : d.NeverRefuses) (bytes : List UInt8) :
    (process a d bytes).1.scene = d.scene.run a bytes := by
  ext1
  · exact view_processFrom a bytes d {} (h.takes _)
  · exact (h.processFrom a bytes {}).2.2

theorem scene_endOfInput (d : Discipline) : d.endOfInput.scene = d.scene.ended := by
  ext1
  · ext1
    · rfl
    · rfl
    · show (d.queue.write d.state.line).close.stream = _
      rw [Queue.stream_close, Queue.stream_write, Queue.ending_of_frame (Queue.frame_write ..)]
      rfl
    · exact (Queue.frame_close _).trans (Queue.frame_write ..)
  · rfl

/-- A reader that is there gets the end. -/
theorem none_mem_stream_endOfInput (h : d.endOfInput.queue.attended = true) :
    none ∈ d.endOfInput.queue.stream := by
  let q := d.queue.write d.state.line
  have hattended : q.attended = true := (Queue.attended_of_frame q.frame_close).symm.trans h
  show none ∈ q.close.stream
  rw [Queue.stream_close, Queue.ending, if_pos hattended]
  exact List.mem_append_right _ List.mem_cons_self

end

end Discipline

end Teletype
